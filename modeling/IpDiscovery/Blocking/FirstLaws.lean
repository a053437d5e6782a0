import IpDiscovery.Base.Runs
import IpDiscovery.Blocking.First
import IpDiscovery.Blocking.ThreadLaws

/-! Trying one provider after the other answers only with what one of them returned. -/

namespace IpDiscovery.Blocking.First

open Relation

/-- The providers that are not tried yet. -/
def Phase.todo : Phase → List (BoxedBlockingProvider × Nat)
  | .trying todo => todo
  | .waiting _ todo => todo
  | .receiving _ todo _ => todo
  | .done _ => []

/-- Who takes part in a run, and what its answer says. -/
structure Sound (config : Config) (calls : Calls) (state : First) : Prop where
  -- An answer is accounted for by a message, and messages by the workers.
  threads : state.threads.Sound config calls
  todo : ∀ entry ∈ state.phase.todo, (matchingProviders config)[entry.2]? = some entry.1
  answer : ∀ answer, state.phase = .done answer →
    (∃ result, answer = .ok result ∧ Accounts config calls result) ∨
      ∃ errors, answer = .error (.allProvidersFailed errors)

section Runs

variable {clock : Clock} {config : Config} {calls : Calls}

/-- At the start, nobody takes part yet and nothing is answered. -/
theorem init_sound (config : Config) (calls : Calls) (now : Instant) :
    (init config now).Sound config calls where
  -- The positions are those of the matching providers.
  threads := Threads.idle_sound now
  todo := fun _ member => List.mem_zipIdx_iff_getElem?.mp member
  answer := nofun

/-- Going on with the providers that are left keeps a run sound. -/
theorem Sound.retry {threads : Threads} {errors : List ProviderError}
    {todo : List (BoxedBlockingProvider × Nat)} (sound : threads.Sound config calls)
    (left : ∀ entry ∈ todo, (matchingProviders config)[entry.2]? = some entry.1) :
    (First.mk threads (.trying todo) errors).Sound config calls :=
  -- No answer has been given yet.
  ⟨sound, left, nofun⟩

/-- Every step of the resolver keeps a run sound. -/
theorem Sound.main {state state' : First} (sound : state.Sound config calls)
    (moved : MainStep clock config state state') : state'.Sound config calls := by
  -- The steps move on to the providers that are left, start a worker, or answer.
  have left := sound.todo
  cases moved with
  -- Failing with all errors needs no account.
  | exhausted here =>
    refine ⟨sound.threads, nofun, ?_⟩
    intro answer ended
    cases ended
    exact Or.inr ⟨_, rfl⟩
  | skip here zero =>
    rw [here] at left
    exact Sound.retry sound.threads fun entry member => left entry (List.mem_cons_of_mem _ member)
  -- The new worker stands at the position of its provider.
  | spawn here nonzero =>
    rw [here] at left
    exact ⟨sound.threads.openChannel.spawn (left _ List.mem_cons_self),
      fun entry member => left entry (List.mem_cons_of_mem _ member), nofun⟩
  | spawnFailed here nonzero text =>
    rw [here] at left
    exact Sound.retry sound.threads.openChannel
      fun entry member => left entry (List.mem_cons_of_mem _ member)
  | block here =>
    rw [here] at left
    exact ⟨sound.threads, left, nofun⟩
  -- A success is that of a genuine message.
  | @receive provider todo expires message rest here head =>
    rw [here] at left
    have genuine := sound.threads.queued message (head ▸ List.mem_cons_self)
    unfold receive
    cases outcome : message.outcome config.version with
    | error error => exact Sound.retry (sound.threads.receive head) left
    | ok result =>
      refine ⟨sound.threads.receive head, nofun, ?_⟩
      intro answer ended
      cases ended
      exact Or.inl ⟨result, rfl, genuine.accounts outcome⟩
  | timedOut here empty late =>
    rw [here] at left
    exact Sound.retry sound.threads left
  | disconnected here empty hungUp =>
    rw [here] at left
    exact Sound.retry sound.threads left

/-- Wherever a run is, its messages are genuine and its answer has an account. -/
theorem sound_of_run {now : Instant} {state : First}
    (run : ReflTransGen (Step clock config calls) (init config now) state) :
    state.Sound config calls := by
  -- What happens beside the resolver changes only the threads.
  have kept {before after : First} (sound : before.Sound config calls)
      (moved : Step clock config calls before after) : after.Sound config calls := by
    cases moved with
    | main moved => exact sound.main moved
    | beside moved => exact ⟨sound.threads.step moved, sound.todo, sound.answer⟩
  exact @invariant_of_run _ _ (Sound config calls) kept _ _ (init_sound config calls now) run

end Runs

end IpDiscovery.Blocking.First
