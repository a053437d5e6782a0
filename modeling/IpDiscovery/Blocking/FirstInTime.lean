import IpDiscovery.Blocking.FirstOrder

/-! When the reply that wins was given, for a resolver that is awake at its deadlines or not. -/

namespace IpDiscovery.Blocking.First

open Relation

/-- A run with its times: since when the resolver waits, and when the reply came that it takes. -/
structure Timed where
  state : First
  began : Option Instant
  arrived : Option Instant

namespace Timed

/-- The resolver before its first provider. -/
def init (config : Config) (now : Instant) : Timed := ⟨.init config now, none, none⟩

/-- The run after a step of the resolver, which begins to wait, or goes on to the next provider. -/
def main (timed : Timed) (state : First) : Timed where
  state
  began :=
    match timed.state.phase with
    | .waiting _ _ => some timed.state.threads.now
    | _ => timed.began
  -- The next provider has a channel of its own, to which nothing has come yet.
  arrived :=
    match timed.state.phase with
    | .trying _ => none
    | _ => timed.arrived

/-- The run after something beside the resolver, by which a reply may have come into the channel. -/
def beside (timed : Timed) (threads : Threads) : Timed where
  state := { timed.state with threads }
  began := timed.began
  -- There is one sender, so what has come first has come alone.
  arrived := timed.arrived.or
    (if threads.queue = timed.state.threads.queue then none else some timed.state.threads.now)

section Steps

variable (clock : Clock) (config : Config) (calls : Calls)

/-- The steps of a run, with their times. -/
inductive Step : Timed → Timed → Prop where
  | main {timed : Timed} {state : First} (moved : MainStep clock config timed.state state) :
      Step timed (timed.main state)
  | beside {timed : Timed} {threads : Threads}
      (moved : Threads.Step clock calls timed.state.threads threads) :
      Step timed (timed.beside threads)

/-- A resolver that waits at an empty channel does not sleep past the end of its wait. -/
def Awake (timed : Timed) : Prop :=
  ∀ provider todo expires, timed.state.phase = .receiving provider todo (some expires) →
    timed.state.threads.queue = [] → timed.state.threads.now ≤ expires

/-- The reply came before the time of its provider was over. -/
def InTime (timed : Timed) : Prop :=
  ∃ began arrived, timed.began = some began ∧ timed.arrived = some arrived ∧
    arrived ≤ began + config.timeout

/-- A state that a run may be in. -/
def Reaches (timed : Timed) : Prop :=
  ∃ now, ReflTransGen (Step clock config calls) (init config now) timed

/-- A state that a run may be in when the resolver was awake before all of its steps. -/
def ReachesAwake (timed : Timed) : Prop :=
  ∃ now, ReflTransGen (fun before after => Step clock config calls before after ∧ before.Awake)
    (init config now) timed

end Steps

section Laws

variable {clock : Clock} {config : Config} {calls : Calls} {timed timed' : Timed}

/-! ## Runs with and without times -/

/-- A step without its times is a step of the resolver. -/
theorem step_erases (moved : Step clock config calls timed timed') :
    First.Step clock config calls timed.state timed'.state := by
  cases moved with
  | main moved => exact .main moved
  | beside moved => exact .beside moved

/-- An awake run is a run. -/
theorem ReachesAwake.reaches (reached : timed.ReachesAwake clock config calls) :
    timed.Reaches clock config calls := by
  obtain ⟨now, run⟩ := reached
  exact ⟨now, run_of_run (fun moved => moved.1) run⟩

/-! ## When replies come -/

/-- Beside the resolver nothing leaves the channel. -/
theorem queue_beside {threads threads' : Threads} (moved : Threads.Step clock calls threads threads')
    (empty : threads'.queue = []) : threads.queue = [] := by
  cases moved with
  | tick => exact empty
  | finish =>
    -- A reply is added behind the others, if it comes into this channel at all.
    unfold Threads.reply Threads.send at empty
    split at empty
    · simp at empty
    · exact empty

/-- Where the resolver stands, by the times of its wait. -/
def PhaseTimed (clock : Clock) (config : Config) (timed : Timed) : Prop :=
  match timed.state.phase with
  | .trying _ => True
  -- The reply is in the channel exactly when it has come.
  | .waiting _ _ => (timed.state.threads.queue = [] ↔ timed.arrived = none) ∧
      ∀ arrived, timed.arrived = some arrived → arrived ≤ timed.state.threads.now
  | .receiving _ _ expires => (timed.state.threads.queue = [] ↔ timed.arrived = none) ∧
      ∃ began, timed.began = some began ∧ expires = clock.checkedAdd began config.timeout ∧
        timed.state.threads.now ≤ max began clock.maxInstant
  | .done _ => True

/-- After a step beside the resolver the reply is in the channel exactly when it has come. -/
theorem arrived_beside {threads : Threads}
    (moved : Threads.Step clock calls timed.state.threads threads)
    (heard : timed.state.threads.queue = [] ↔ timed.arrived = none) :
    threads.queue = [] ↔ (timed.beside threads).arrived = none := by
  unfold beside
  by_cases same : threads.queue = timed.state.threads.queue
  · rw [if_pos same, Option.or_none, same, heard]
  · -- Something has come, and nothing has been taken out.
    have grown : threads.queue ≠ [] := fun empty => same (empty.trans (queue_beside moved empty).symm)
    simp [same, grown]

/-- Whatever has come has come by now. -/
theorem arrived_le {threads : Threads} (moved : Threads.Step clock calls timed.state.threads threads)
    (before : ∀ arrived, timed.arrived = some arrived → arrived ≤ timed.state.threads.now)
    {arrived : Instant} (came : (timed.beside threads).arrived = some arrived) :
    arrived ≤ threads.now := by
  have forward := moved.now_le
  rcases Option.or_eq_some_iff.mp came with earlier | ⟨_, just⟩
  · exact (before arrived earlier).trans forward
  · split at just
    · cases just
    · cases just
      exact forward

/-- Every step of a run keeps its times. -/
theorem PhaseTimed.step (phase : timed.PhaseTimed clock config)
    (moved : Step clock config calls timed timed') : timed'.PhaseTimed clock config := by
  unfold PhaseTimed at phase
  cases moved with
  | main moved =>
    cases moved with
    | exhausted here => exact trivial
    | skip here zero => exact trivial
    | spawnFailed here nonzero text => exact trivial
    | timedOut here empty late => exact trivial
    | disconnected here empty hungUp => exact trivial
    -- The channel is new, and so is the wait.
    | spawn here nonzero =>
      simp [PhaseTimed, Timed.main, here, Threads.spawn, Threads.openChannel]
    | block here =>
      rw [here] at phase
      simpa [PhaseTimed, Timed.main, here] using phase.1
    | receive here head =>
      unfold PhaseTimed Timed.main First.receive
      cases WorkerMessage.outcome config.version _ with
      | ok result => exact trivial
      | error error => exact trivial
  | @beside threads moved =>
    unfold PhaseTimed
    cases here : timed.state.phase with
    | trying todo => simp [Timed.beside, here]
    | done answer => simp [Timed.beside, here]
    | waiting provider todo =>
      rw [here] at phase
      simp only [show (timed.beside threads).state.phase = .waiting provider todo from here]
      exact ⟨arrived_beside moved phase.1, fun _ came => arrived_le moved phase.2 came⟩
    | receiving provider todo expires =>
      rw [here] at phase
      obtain ⟨heard, began, since, expiry, bounded⟩ := phase
      simp only [show (timed.beside threads).state.phase = .receiving provider todo expires from here]
      refine ⟨arrived_beside moved heard, began, since, expiry, ?_⟩
      -- The clock has been set to an instant of its own, or stands where it stood.
      cases moved with
      | tick forward inside => exact inside.trans (Nat.le_max_right _ _)
      | finish =>
        unfold Timed.beside Threads.reply Threads.send
        split <;> exact bounded

/-- An awake resolver that still waits has not waited for longer than the timeout. -/
theorem now_le_of_awake (phase : timed.PhaseTimed clock config) (awake : timed.Awake)
    {provider : BoxedBlockingProvider} {todo : List (BoxedBlockingProvider × Nat)}
    {expires : Option Instant} (here : timed.state.phase = .receiving provider todo expires)
    (empty : timed.state.threads.queue = []) {began : Instant} (since : timed.began = some began) :
    timed.state.threads.now ≤ began + config.timeout := by
  unfold PhaseTimed at phase
  rw [here] at phase
  obtain ⟨_, other, same, expiry, bounded⟩ := phase
  cases since.symm.trans same
  unfold Clock.checkedAdd at expiry
  split at expiry
  · subst expiry
    exact awake _ _ _ here empty
  · -- The clock never comes to a deadline that it cannot represent.
    rename_i beyond
    exact bounded.trans (max_le (Nat.le_add_right _ _) (Nat.le_of_not_le beyond))

/-- What has come so far has come in time, and so has what was answered with. -/
structure Punctual (config : Config) (timed : Timed) : Prop where
  waits : ∀ provider todo expires, timed.state.phase = .receiving provider todo expires →
    ∀ began arrived, timed.began = some began → timed.arrived = some arrived →
      arrived ≤ began + config.timeout
  won : ∀ result, timed.state.phase = .done (.ok result) → timed.InTime config

/-- Every step of an awake resolver keeps its replies in time. -/
theorem Punctual.main (punctual : timed.Punctual config) (phase : timed.PhaseTimed clock config)
    {state : First} (moved : MainStep clock config timed.state state) :
    (timed.main state).Punctual config := by
  unfold PhaseTimed at phase
  cases moved with
  | exhausted here | skip here zero | spawn here nonzero | spawnFailed here nonzero text
  | timedOut here empty late | disconnected here empty hungUp =>
    constructor <;> simp [Timed.main, First.fail]
  -- What has come before the wait began is in time.
  | block here =>
    rw [here] at phase
    refine ⟨?_, by simp [Timed.main]⟩
    intro provider todo expires _ began arrived since came
    simp only [Timed.main, here, Option.some.injEq] at since came
    exact (phase.2 arrived came).trans (since ▸ Nat.le_add_right _ _)
  -- What is received is what has come.
  | receive here head =>
    rw [here] at phase
    obtain ⟨heard, began, since, _⟩ := phase
    obtain ⟨arrived, came⟩ : ∃ arrived, timed.arrived = some arrived := by
      rw [← Option.isSome_iff_exists, Option.isSome_iff_ne_none, ne_eq, ← heard, head]
      exact List.cons_ne_nil _ _
    have inTime := punctual.waits _ _ _ here began arrived since came
    unfold First.receive
    cases WorkerMessage.outcome config.version _ with
    | error error => constructor <;> simp [Timed.main, First.fail]
    | ok result =>
      refine ⟨by simp [Timed.main], fun _ _ => ⟨began, arrived, ?_, ?_, inTime⟩⟩
      · simpa [Timed.main, here] using since
      · simpa [Timed.main, here] using came

/-- A reply that comes while an awake resolver waits for it is in time. -/
theorem Punctual.beside (punctual : timed.Punctual config) (phase : timed.PhaseTimed clock config)
    (awake : timed.Awake) {threads : Threads} : (timed.beside threads).Punctual config where
  waits := by
    intro provider todo expires here began arrived since came
    rcases Option.or_eq_some_iff.mp came with earlier | ⟨unheard, just⟩
    · exact punctual.waits _ _ _ here began arrived since earlier
    · split at just
      · cases just
      · cases just
        -- Nothing had come, so the channel was empty.
        have empty : timed.state.threads.queue = [] := by
          unfold PhaseTimed at phase
          rw [show timed.state.phase = .receiving provider todo expires from here] at phase
          exact phase.1.mpr unheard
        exact now_le_of_awake phase awake here empty since
  won := by
    intro result ended
    obtain ⟨began, arrived, since, came, inTime⟩ := punctual.won result ended
    exact ⟨began, arrived, since, by simp [Timed.beside, came], inTime⟩

end Laws

end Timed

end IpDiscovery.Blocking.First
