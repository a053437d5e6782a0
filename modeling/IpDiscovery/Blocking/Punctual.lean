import IpDiscovery.Blocking.Accounting

/-! Runs in which all workers start, and every call finishes before its deadline. -/

namespace IpDiscovery.Blocking

open Relation

/-- Every call has finished before its deadline. -/
def Threads.Timely (config : Config) (threads : Threads) : Prop :=
  ∀ worker ∈ threads.workers, worker.startedAt + config.timeout ≤ threads.now →
    worker.sent.isSome = true

namespace Collect

/-- The loop is not at its head with somebody pending and no time left. -/
def Prompt (state : Collect) : Prop :=
  ∀ deadline, state.phase = .looping deadline → state.pending.isEmpty = false →
    remaining deadline state.threads.now ≠ 0

/--
A step of a run whose threads can be started, whose deadline can be represented, and whose calls
finish before their deadlines.
-/
structure Regular (clock : Clock) (config : Config) (orders : Orders) (mode : Mode) (calls : Calls)
    (before after : Collect) : Prop where
  step : Step clock config orders mode calls before after
  timely : before.threads.Timely config
  representable : before.phase = .spawning [] →
    before.threads.now + config.timeout ≤ clock.maxInstant
  started : after.unstarted = []

/-- Nobody is waited for less than the timeout, and in the end everybody has been heard. -/
def PhasePunctual (config : Config) (mode : Mode) (state : Collect) : Prop :=
  match state.phase with
  | .spawning _ => True
  | .looping deadline => ∃ due, deadline = some due ∧
      ∀ worker ∈ state.threads.workers, worker.startedAt + config.timeout ≤ due
  | .waiting deadline remaining => ∃ due, deadline = some due ∧
      (∀ worker ∈ state.threads.workers, worker.startedAt + config.timeout ≤ due) ∧
        due ≤ state.threads.now + remaining
  | .receiving deadline expires => ∃ due, deadline = some due ∧
      (∀ worker ∈ state.threads.workers, worker.startedAt + config.timeout ≤ due) ∧
        ∀ instant, expires = some instant → due ≤ instant
  | .done answer => (mode = .race ∧ ∃ result, answer = .ok result) ∨
      ∀ worker ∈ state.threads.workers, worker.id ∈ state.received.map WorkerMessage.id

/-- How far a regular run has come that never was late. -/
structure Punctual (config : Config) (mode : Mode) (state : Collect) : Prop where
  started : ∀ worker ∈ state.threads.workers, worker.startedAt ≤ state.threads.now
  phase : state.PhasePunctual config mode

section Laws

variable {clock : Clock} {config : Config} {orders : Orders} {mode : Mode} {calls : Calls}
  {state state' : Collect}

/-- Time may pass and workers may answer, and nobody is waited for less. -/
theorem Punctual.beside (punctual : state.Punctual config mode) {threads : Threads}
    (moved : Threads.Step clock calls state.threads threads) :
    ({ state with threads } : Collect).Punctual config mode where
  started := by
    intro worker member
    have before := moved.forall_workers Worker.startedAt (fun _ _ => rfl) (· ≤ state.threads.now)
      punctual.started worker member
    exact Nat.le_trans before moved.now_le
  -- The deadline stays, and the workers have been started when they were.
  phase := by
    have phase := punctual.phase
    have bounded (due : Instant)
        (before : ∀ worker ∈ state.threads.workers, worker.startedAt + config.timeout ≤ due) :=
      moved.forall_workers Worker.startedAt (fun _ _ => rfl) (· + config.timeout ≤ due) before
    unfold PhasePunctual at phase ⊢
    cases here : state.phase with
    | spawning todo => exact trivial
    | looping deadline =>
      rw [here] at phase
      obtain ⟨due, same, before⟩ := phase
      exact ⟨due, same, bounded due before⟩
    | waiting deadline remaining =>
      rw [here] at phase
      obtain ⟨due, same, before, enough⟩ := phase
      exact ⟨due, same, bounded due before,
        Nat.le_trans enough (Nat.add_le_add_right moved.now_le remaining)⟩
    | receiving deadline expires =>
      rw [here] at phase
      obtain ⟨due, same, before, expiry⟩ := phase
      exact ⟨due, same, bounded due before, expiry⟩
    | done answer =>
      rw [here] at phase
      rcases phase with won | heard
      · exact Or.inl won
      · exact Or.inr (moved.forall_workers Worker.id (fun _ _ => rfl)
          (· ∈ state.received.map WorkerMessage.id) heard)

/-- Whoever was awaited until a deadline that all calls meet has sent a message. -/
theorem sent_of_due {threads : Threads} (timely : threads.Timely config) {due : Instant}
    (before : ∀ worker ∈ threads.workers, worker.startedAt + config.timeout ≤ due)
    (late : due ≤ threads.now) : ∀ worker ∈ threads.workers, worker.sent.isSome = true :=
  fun worker member => timely worker member (Nat.le_trans (before worker member) late)

/-- Every step of a resolver that is prompt keeps a regular run punctual. -/
theorem Punctual.main (punctual : state.Punctual config mode)
    (tracked : state.Tracked config calls) (prompt : state.Prompt)
    (regular : Regular clock config orders mode calls state state')
    (moved : MainStep clock config orders mode state state') : state'.Punctual config mode := by
  have phase := punctual.phase
  unfold PhasePunctual at phase
  cases moved with
  -- The new worker is started now.
  | @spawn provider id todo here =>
    refine ⟨?_, trivial⟩
    intro worker member
    rcases List.mem_append.mp member with earlier | new
    · exact punctual.started worker earlier
    · rw [List.mem_singleton.mp new]
      exact Nat.le_refl _
  | spawnFailed here text => exact ⟨punctual.started, trivial⟩
  -- Everybody was started before the deadline was set.
  | enter here =>
    refine ⟨punctual.started, _, if_pos (regular.representable here), ?_⟩
    intro worker member
    exact Nat.add_le_add_right (punctual.started worker member) _
  -- Nobody is pending, so everybody was heard.
  | drained here none_pending =>
    exact ⟨punctual.started, Or.inr (tracked.heard_of_drained none_pending)⟩
  -- A prompt resolver does not come here.
  | expired here some_pending late => exact absurd late (prompt _ here some_pending)
  -- What remains is the time up to the deadline.
  | check here some_pending early =>
    rw [here] at phase
    obtain ⟨due, same, before⟩ := phase
    refine ⟨punctual.started, due, same, before, ?_⟩
    subst same
    unfold remaining checkedDurationSince at early ⊢
    dsimp only [Option.bind_some] at early ⊢
    split at early
    · rename_i ahead
      rw [if_pos ahead, Option.getD_some]
      exact Nat.le_of_eq (Nat.add_sub_cancel' ahead).symm
    · exact absurd rfl early
  -- The receiver gives up at the deadline, or later.
  | block here =>
    rw [here] at phase
    obtain ⟨due, same, before, enough⟩ := phase
    refine ⟨punctual.started, due, same, before, ?_⟩
    intro instant expires
    unfold Clock.checkedAdd at expires
    split at expires
    · cases expires
      exact enough
    · cases expires
  -- The loop goes on with the same deadline, unless the race is won.
  | @receive deadline expires message rest here head =>
    rw [here] at phase
    obtain ⟨due, same, before, _⟩ := phase
    refine ⟨by simpa using punctual.started, ?_⟩
    unfold PhasePunctual
    rcases @receive_phase config mode deadline message rest state with looping | ⟨racing, won⟩
    · rw [looping]
      exact ⟨due, same, by simpa using before⟩
    · obtain ⟨result, won⟩ := won
      rw [won]
      exact Or.inl ⟨racing, result, rfl⟩
  -- When the receiver gives up, everybody's time is over.
  | timedOut here empty late =>
    rw [here] at phase
    obtain ⟨due, same, before, expiry⟩ := phase
    have sent := sent_of_due regular.timely before (Nat.le_trans (expiry _ rfl) late)
    exact ⟨punctual.started, Or.inr (tracked.heard_of_sent empty sent)⟩
  -- All senders are gone only when all messages are sent.
  | disconnected here empty hungUp =>
    have sent : ∀ worker ∈ state.threads.workers, worker.sent.isSome = true :=
      fun worker member => hungUp worker member (tracked.open_tx worker member)
    exact ⟨punctual.started, Or.inr (tracked.heard_of_sent empty sent)⟩

/-- All along a prompt run of regular steps, the resolver is punctual and everybody is started. -/
theorem punctual_of_run {now : Instant}
    (run : ReflTransGen (fun before after => Regular clock config orders mode calls before after ∧
      before.Prompt) (init config now) state) :
    state.Punctual config mode ∧ state.unstarted = [] ∧
      ReflTransGen (Step clock config orders mode calls) (init config now) state := by
  -- The steps are regular one by one, and so is the run.
  induction run with
  | refl =>
    refine ⟨⟨?_, trivial⟩, rfl, .refl⟩
    intro worker member
    exact absurd member List.not_mem_nil
  | tail _ moved ih =>
    obtain ⟨punctual, _, path⟩ := ih
    obtain ⟨regular, prompt⟩ := moved
    refine ⟨?_, regular.started, path.tail regular.step⟩
    have tracked := (laws_of_run path).1
    cases regular.step with
    | main moved => exact punctual.main tracked prompt regular moved
    | beside moved => exact punctual.beside moved

end Laws

end Collect

end IpDiscovery.Blocking
