import IpDiscovery.Blocking.CollectLaws

/-! Runs of race and consensus in which nobody is delayed: time passes only while all wait. -/

namespace IpDiscovery.Blocking

open Relation

/-- What the providers of a run do: whether they can be started, what they return, and when. -/
structure Script where
  spawnError : Nat → Option String
  calls : Calls
  delay : Nat → Option Duration

/-- When a worker is going to reply, if it ever does. -/
def Script.repliesAt (script : Script) (worker : Worker) : Option Instant :=
  (script.delay worker.id).map fun delay => worker.startedAt + delay

/-- Exactly those workers have been started that the script lets start. -/
structure Script.Starts (script : Script) (state : Collect) : Prop where
  workers : ∀ worker ∈ state.threads.workers, script.spawnError worker.id = none
  unstarted : ∀ entry ∈ state.unstarted, script.spawnError entry.1 = some entry.2.error

namespace Undelayed

section Steps

variable (clock : Clock) (config : Config) (orders : Orders) (mode : Mode) (script : Script)

/-- A step of the resolver, a reply that is due, or a nanosecond in which nothing is to be done. -/
inductive Step : Collect → Collect → Prop where
  | main {state state' : Collect} (moved : Collect.MainStep clock config orders mode state state')
      (scripted : script.Starts state') : Step state state'
  | reply {state : Collect} {before after : List Worker} {worker : Worker}
      (running : state.threads.workers = before ++ worker :: after) (silent : worker.sent = none)
      (due : script.repliesAt worker = some state.threads.now) :
      Step state { state with
        threads := state.threads.reply before worker after
          (worker.message script.calls (state.threads.now - worker.startedAt)) }
  | tick {state : Collect}
      (settled : ∀ state', ¬ Collect.MainStep clock config orders mode state state')
      (undue : ∀ worker ∈ state.threads.workers, worker.sent = none →
        script.repliesAt worker ≠ some state.threads.now)
      (inside : state.threads.now + 1 ≤ clock.maxInstant) :
      Step state { state with threads := { state.threads with now := state.threads.now + 1 } }

/-- A state that an undelayed run may be in, when it has started at some instant. -/
def Reaches (now : Instant) (state : Collect) : Prop :=
  ReflTransGen (Step clock config orders mode script) (Collect.init config now) state

end Steps

/-! ## Times -/

/-- Where the resolver stands, by the time it has started at and the time it may take. -/
def PhaseOnTime (clock : Clock) (start : Instant) (timeout : Duration) (now : Instant) :
    Collect.Phase → Prop
  | .spawning _ => now = start
  | .looping deadline => deadline = clock.checkedAdd start timeout ∧ now ≤ start + timeout
  -- A run that waits has a deadline that can be represented.
  | .waiting deadline remaining => start + timeout ≤ clock.maxInstant ∧
      deadline = some (start + timeout) ∧ now + remaining = start + timeout
  -- The receiver gives up at the deadline of the whole loop.
  | .receiving deadline expires => start + timeout ≤ clock.maxInstant ∧
      deadline = some (start + timeout) ∧ expires = some (start + timeout) ∧
      now ≤ start + timeout
  | .done _ => True

/-- Everybody who replies in less than the timeout has been heard. -/
def AllHeard (script : Script) (timeout : Duration) (state : Collect) : Prop :=
  ∀ worker ∈ state.threads.workers, worker.id ∈ state.received.map WorkerMessage.id ∨
    ∀ delay, script.delay worker.id = some delay → timeout ≤ delay

/-- How far an undelayed run has come, and who has been heard in it. -/
structure OnTime (clock : Clock) (config : Config) (mode : Mode) (script : Script)
    (start : Instant) (state : Collect) : Prop where
  starts : script.Starts state
  started : ∀ worker ∈ state.threads.workers, worker.startedAt = start
  phase : PhaseOnTime clock start config.timeout state.threads.now state.phase
  silent : ∀ worker ∈ state.threads.workers, worker.sent = none → ∀ delay,
    script.delay worker.id = some delay → state.threads.now ≤ start + delay
  queued : (∀ answer, state.phase ≠ .done answer) → ∀ message ∈ state.threads.queue,
    ∃ delay, script.delay message.id = some delay ∧ start + delay = state.threads.now
  received : ∀ message ∈ state.received, start + config.timeout ≤ clock.maxInstant ∧
    ∃ delay, script.delay message.id = some delay ∧ delay ≤ config.timeout
  stopped : start + config.timeout ≤ clock.maxInstant → ∀ answer, state.phase = .done answer →
    (mode = .race ∧ ∃ result, answer = .ok result) ∨ AllHeard script config.timeout state

section Laws

variable {clock : Clock} {config : Config} {orders : Orders} {mode : Mode} {script : Script}

/-- An undelayed run is one of the runs of the resolver. -/
theorem step_of_step {state state' : Collect}
    (moved : Step clock config orders mode script state state') :
    Collect.Step clock config orders mode script.calls state state' := by
  -- A reply ends a worker, and a tick lets a nanosecond pass.
  cases moved with
  | main moved scripted => exact .main moved
  | reply running silent due => exact .beside (.finish running silent _)
  | tick settled undue inside => exact .beside (.tick (Nat.le_succ _) inside)

/-- Undelayed runs obey the laws of all runs. -/
theorem Reaches.laws {now : Instant} {state : Collect}
    (reached : Reaches clock config orders mode script now state) :
    state.Tracked config script.calls ∧ state.Recorded config orders mode :=
  -- So everything that holds of all runs holds of the undelayed ones.
  Collect.laws_of_run (run_of_run step_of_step reached)

/-- At the start, nobody is late. -/
theorem init_onTime (start : Instant) :
    OnTime clock config mode script start (Collect.init config start) where
  -- No time has passed, and nobody has been started.
  starts := ⟨nofun, nofun⟩
  started := nofun
  phase := rfl
  silent := nofun
  queued := nofun
  received := nofun
  stopped := nofun

section Keeping

variable {start : Instant} {state : Collect}

/-- When the time is up, all who reply in less have been heard. -/
theorem OnTime.allHeard (onTime : OnTime clock config mode script start state)
    (tracked : state.Tracked config script.calls) (running : ∀ answer, state.phase ≠ .done answer)
    (up : state.threads.now = start + config.timeout) :
    AllHeard script config.timeout state := by
  -- A worker is silent, or has sent a message.
  intro worker member
  cases reported : worker.sent with
  | none =>
    -- A silent worker is not due before now.
    right
    intro delay known
    have waits := onTime.silent worker member reported delay known
    rw [up] at waits
    exact Nat.le_of_add_le_add_left waits
  | some message =>
    -- The message is received, or has been sent only now.
    obtain ⟨named, sent⟩ := tracked.message member reported
    rcases List.mem_append.mp sent with received | queued
    · exact Or.inl (List.mem_map.mpr ⟨message, received, named⟩)
    · right
      intro delay known
      obtain ⟨delay', known', fresh⟩ := onTime.queued running message queued
      rw [named, known] at known'
      cases known'
      exact (Nat.add_left_cancel (up.symm.trans fresh.symm)).le

/-- A change of phase within the loop takes no time. -/
theorem OnTime.rephase (onTime : OnTime clock config mode script start state)
    {phase : Collect.Phase} (running : ∀ answer, state.phase ≠ .done answer)
    (still : ∀ answer, phase ≠ .done answer)
    (placed : PhaseOnTime clock start config.timeout state.threads.now phase) :
    OnTime clock config mode script start { state with phase } where
  -- Neither the threads nor the history have changed.
  starts := ⟨onTime.starts.workers, onTime.starts.unstarted⟩
  started := onTime.started
  phase := placed
  silent := onTime.silent
  queued := fun _ => onTime.queued running
  received := onTime.received
  stopped := fun _ answer ended => absurd ended (still answer)

/-- A resolver that leaves the loop has heard all who reply in less than the timeout. -/
theorem OnTime.stop (onTime : OnTime clock config mode script start state)
    (heard : start + config.timeout ≤ clock.maxInstant → AllHeard script config.timeout state) :
    OnTime clock config mode script start (state.stop mode orders) where
  -- The history is as it was, so what has been heard has been heard.
  starts := ⟨onTime.starts.workers, onTime.starts.unstarted⟩
  started := onTime.started
  phase := trivial
  silent := onTime.silent
  queued := fun running => absurd rfl (running _)
  received := onTime.received
  stopped := fun inside _ _ => Or.inr (heard inside)

/-- A worker is started at the start. -/
theorem OnTime.spawn (onTime : OnTime clock config mode script start state)
    {provider : BoxedBlockingProvider} {id : Nat} {todo : List (BoxedBlockingProvider × Nat)}
    (here : state.phase = .spawning ((provider, id) :: todo)) {state' : Collect}
    (shape : state' = { state with
      threads := state.threads.spawn id provider
      phase := .spawning todo
      pending := state.pending.insert id provider.name })
    (scripted : script.Starts state') : OnTime clock config mode script start state' := by
  -- While workers are started, no time passes.
  subst shape
  have now := onTime.phase
  rw [here] at now
  refine ⟨scripted, ?_, now, ?_, ?_, onTime.received, nofun⟩
  · intro worker member
    rcases List.mem_append.mp member with earlier | new
    · exact onTime.started worker earlier
    · rw [List.mem_singleton.mp new]
      exact now
  · -- The new worker cannot be overdue.
    intro worker member quiet delay known
    rcases List.mem_append.mp member with earlier | new
    · exact onTime.silent worker earlier quiet delay known
    · exact (show state.threads.now = start from now).le.trans (Nat.le_add_right start delay)
  · -- Messages of earlier workers may be on their way.
    intro _
    exact onTime.queued (by rw [here]; nofun)

/-- A received message belongs to a provider that has replied within the timeout. -/
theorem OnTime.receive (onTime : OnTime clock config mode script start state)
    {deadline expires : Option Instant} {message : WorkerMessage} {rest : List WorkerMessage}
    (here : state.phase = .receiving deadline expires)
    (head : state.threads.queue = message :: rest)
    (scripted : script.Starts (state.receive mode config deadline message rest)) :
    OnTime clock config mode script start (state.receive mode config deadline message rest) := by
  -- The deadline can be represented, because the resolver is waiting.
  have placed := onTime.phase
  rw [here] at placed
  obtain ⟨inside, due, _, early⟩ := placed
  have running : ∀ answer, state.phase ≠ .done answer := by rw [here]; nofun
  have queued := onTime.queued running
  rw [head] at queued
  refine ⟨scripted, ?_, ?_, ?_, ?_, ?_, ?_⟩
  · rw [Collect.receive_threads]
    exact onTime.started
  · -- The loop goes on with the deadline it had.
    rw [Collect.receive_threads]
    have representable : deadline = clock.checkedAdd start config.timeout := by
      rw [due, Clock.checkedAdd, if_pos inside]
    rcases @Collect.receive_phase config mode deadline message rest state with looping | ended
    · rw [looping]
      exact ⟨representable, early⟩
    · obtain ⟨_, result, ended⟩ := ended
      rw [ended]
      trivial
  · rw [Collect.receive_threads]
    exact onTime.silent
  · intro _ other member
    rw [Collect.receive_threads] at member ⊢
    exact queued other (List.mem_cons_of_mem _ member)
  · -- What is received now was due now, and now is no later than the deadline.
    intro other member
    rw [Collect.receive_received] at member
    rcases List.mem_append.mp member with earlier | new
    · exact onTime.received other earlier
    · rw [List.mem_singleton.mp new]
      obtain ⟨delay, known, fresh⟩ := queued message List.mem_cons_self
      exact ⟨inside, delay, known, Nat.le_of_add_le_add_left (fresh.trans_le early)⟩
  · -- Only a race can have ended here, with its answer.
    intro _ answer ended
    left
    rcases @Collect.receive_phase config mode deadline message rest state with looping | won
    · rw [looping] at ended
      cases ended
    · obtain ⟨racing, result, stopped⟩ := won
      rw [stopped] at ended
      cases ended
      exact ⟨racing, result, rfl⟩

/-- Where nobody is awaited, every worker has been heard. -/
theorem heard_of_drained (tracked : state.Tracked config script.calls)
    (none_pending : state.pending.isEmpty = true) (timeout : Duration) :
    AllHeard script timeout state :=
  fun worker member => Or.inl (tracked.heard_of_drained none_pending worker member)

/-- Where all have hung up and nothing is on its way, every worker has been heard. -/
theorem heard_of_disconnected (tracked : state.Tracked config script.calls)
    (empty : state.threads.queue = []) (hungUp : state.threads.Disconnected) (timeout : Duration) :
    AllHeard script timeout state := by
  -- All of them hold the sender of the channel.
  intro worker member
  left
  exact tracked.heard_of_sent empty
    (fun other among => hungUp other among (tracked.open_tx other among)) worker member

/-- A deadline that is still ahead is that of the timeout. -/
theorem remaining_of_onTime {deadline : Option Instant} {now : Instant} {timeout : Duration}
    (placed : deadline = clock.checkedAdd start timeout ∧ now ≤ start + timeout) :
    if start + timeout ≤ clock.maxInstant then
      deadline = some (start + timeout) ∧ now + Collect.remaining deadline now = start + timeout
    else Collect.remaining deadline now = 0 := by
  -- The two partial operations succeed together, or both default to zero.
  obtain ⟨due, early⟩ := placed
  split
  · rename_i inside
    have due : deadline = some (start + timeout) := by rw [due, Clock.checkedAdd, if_pos inside]
    refine ⟨due, ?_⟩
    rw [due, Collect.remaining, Option.bind_some, checkedDurationSince, if_pos early,
      Option.getD_some]
    exact Nat.add_sub_cancel' early
  · rename_i outside
    rw [due, Clock.checkedAdd, if_neg outside]
    rfl

/-- Every step of the resolver keeps an undelayed run on time. -/
theorem OnTime.main (onTime : OnTime clock config mode script start state)
    (tracked : state.Tracked config script.calls) {state' : Collect}
    (moved : Collect.MainStep clock config orders mode state state')
    (scripted : script.Starts state') : OnTime clock config mode script start state' := by
  -- Each step is placed by the times of the phase it starts from.
  have placed := onTime.phase
  cases moved with
  | spawn here => exact onTime.spawn here rfl scripted
  | spawnFailed here text =>
    rw [here] at placed
    exact ⟨scripted, onTime.started, placed, onTime.silent,
      fun _ => onTime.queued (by rw [here]; nofun), onTime.received, nofun⟩
  -- The deadline is computed at the start, as no time has passed.
  | enter here =>
    rw [here] at placed
    have now : state.threads.now = start := placed
    refine onTime.rephase (by rw [here]; nofun) nofun ⟨by rw [now], ?_⟩
    rw [now]
    exact Nat.le_add_right start config.timeout
  | drained here none_pending =>
    exact onTime.stop fun _ => heard_of_drained tracked none_pending config.timeout
  -- No time is left, so it is the deadline.
  | expired here some_pending late =>
    rw [here] at placed
    refine onTime.stop fun inside => onTime.allHeard tracked (by rw [here]; nofun) ?_
    have left := remaining_of_onTime placed
    rw [if_pos inside, late] at left
    exact left.2
  -- There is time left only where the deadline can be represented.
  | check here some_pending early =>
    rw [here] at placed
    have left := remaining_of_onTime placed
    refine onTime.rephase (by rw [here]; nofun) nofun ?_
    split at left
    · rename_i inside
      exact ⟨inside, left⟩
    · exact absurd left early
  -- The receiver's deadline is the one of the loop.
  | block here =>
    rw [here] at placed
    obtain ⟨inside, due, left⟩ := placed
    refine onTime.rephase (by rw [here]; nofun) nofun ⟨inside, due, ?_, ?_⟩
    · rw [Clock.checkedAdd, left, if_pos inside]
    · exact (Nat.le_add_right _ _).trans left.le
  | receive here head => exact onTime.receive here head scripted
  -- The receiver gives up exactly at the deadline.
  | timedOut here empty late =>
    rw [here] at placed
    obtain ⟨_, _, expires, early⟩ := placed
    cases expires
    exact onTime.stop fun _ =>
      onTime.allHeard tracked (by rw [here]; nofun) (Nat.le_antisymm early late)
  | disconnected here empty hungUp =>
    exact onTime.stop fun _ => heard_of_disconnected tracked empty hungUp config.timeout

/-- A reply is sent when it is due. -/
theorem OnTime.reply (onTime : OnTime clock config mode script start state)
    (tracked : state.Tracked config script.calls) {before after : List Worker} {worker : Worker}
    (running : state.threads.workers = before ++ worker :: after)
    (due : script.repliesAt worker = some state.threads.now) (latency : Duration) :
    OnTime clock config mode script start { state with
      threads := state.threads.reply before worker after
        (worker.message script.calls latency) } := by
  -- Apart from its message, the worker is as it was.
  have member : worker ∈ state.threads.workers := by simp [running]
  have opened := tracked.open_tx worker member
  -- Whoever is there now was there before.
  have others (other : Worker)
      (inside : other ∈ before ++ { worker with
        sent := some (worker.message script.calls latency) } :: after) :
      (∃ old ∈ state.threads.workers, old.id = other.id ∧ old.startedAt = other.startedAt) ∧
        (other.sent = none → other ∈ state.threads.workers) := by
    rcases List.perm_middle.mem_iff.mp inside with _ | ⟨_, rest⟩
    · exact ⟨⟨worker, member, rfl, rfl⟩, nofun⟩
    · have kept : other ∈ state.threads.workers := by
        rw [running]
        exact List.perm_middle.mem_iff.mpr (List.mem_cons_of_mem _ rest)
      exact ⟨⟨other, kept, rfl, rfl⟩, fun _ => kept⟩
  simp only [Threads.reply, Threads.send, if_pos opened]
  refine ⟨⟨?_, onTime.starts.unstarted⟩, ?_, onTime.phase, ?_, ?_, onTime.received, ?_⟩
  · intro other inside
    obtain ⟨⟨old, known, same, _⟩, _⟩ := others other inside
    rw [← same]
    exact onTime.starts.workers old known
  · intro other inside
    obtain ⟨⟨old, known, _, same⟩, _⟩ := others other inside
    rw [← same]
    exact onTime.started old known
  · intro other inside quiet
    exact onTime.silent other ((others other inside).2 quiet) quiet
  · -- The new message is due now.
    intro going message inside
    rcases List.mem_append.mp inside with earlier | new
    · exact onTime.queued going message earlier
    · rw [List.mem_singleton.mp new]
      obtain ⟨delay, known, now⟩ := Option.map_eq_some_iff.mp due
      exact ⟨delay, known, by rw [← onTime.started worker member]; exact now⟩
  · -- Nobody becomes unheard.
    intro inside answer ended
    refine (onTime.stopped inside answer ended).imp_right ?_
    intro heard other among
    obtain ⟨⟨old, known, same, _⟩, _⟩ := others other among
    rw [← same]
    exact heard old known

/-- A resolver that has nothing to do waits for a message, with time left. -/
theorem OnTime.waits (onTime : OnTime clock config mode script start state)
    (running : ∀ answer, state.phase ≠ .done answer)
    (settled : ∀ state', ¬ Collect.MainStep clock config orders mode state state') :
    (∃ deadline expires, state.phase = .receiving deadline expires) ∧
      state.threads.queue = [] ∧ state.threads.now < start + config.timeout := by
  -- In every other phase there is a step to take.
  have placed := onTime.phase
  cases here : state.phase with
  | spawning todo =>
    cases todo with
    | nil => exact absurd (.enter here) (settled _)
    | cons entry todo => exact absurd (.spawn here) (settled _)
  | looping deadline =>
    cases drained : state.pending.isEmpty with
    | true => exact absurd (.drained here drained) (settled _)
    | false =>
      by_cases late : Collect.remaining deadline state.threads.now = 0
      · exact absurd (.expired here drained late) (settled _)
      · exact absurd (.check here drained late) (settled _)
  | waiting deadline remaining => exact absurd (.block here) (settled _)
  | receiving deadline expires =>
    rw [here] at placed
    obtain ⟨_, _, expires, _⟩ := placed
    cases expires
    cases empty : state.threads.queue with
    | cons message rest => exact absurd (.receive here empty) (settled _)
    | nil =>
      refine ⟨⟨_, _, rfl⟩, rfl, ?_⟩
      -- At the deadline the receiver would give up.
      by_contra late
      exact settled _ (.timedOut here empty (Nat.le_of_not_lt late))
  | done answer => exact absurd here (running answer)

/-- A nanosecond passes only while no reply is due. -/
theorem OnTime.tick (onTime : OnTime clock config mode script start state)
    (settled : ∀ state', ¬ Collect.MainStep clock config orders mode state state')
    (undue : ∀ worker ∈ state.threads.workers, worker.sent = none →
      script.repliesAt worker ≠ some state.threads.now) :
    OnTime clock config mode script start
      { state with threads := { state.threads with now := state.threads.now + 1 } } where
  starts := ⟨onTime.starts.workers, onTime.starts.unstarted⟩
  started := onTime.started
  phase := by
    -- Before the end, time passes only while the resolver waits.
    by_cases running : ∀ answer, state.phase ≠ .done answer
    · obtain ⟨⟨deadline, expires, here⟩, _, early⟩ := onTime.waits running settled
      have placed := onTime.phase
      rw [here] at placed ⊢
      exact ⟨placed.1, placed.2.1, placed.2.2.1, early⟩
    · push Not at running
      obtain ⟨answer, ended⟩ := running
      rw [ended]
      trivial
  silent := by
    intro worker member quiet delay known
    -- A reply that is due now forbids the tick.
    refine Nat.lt_of_le_of_ne (onTime.silent worker member quiet delay known) ?_
    intro now
    apply undue worker member quiet
    rw [Script.repliesAt, known, now, onTime.started worker member]
    rfl
  queued := by
    intro running message inside
    rw [(onTime.waits running settled).2.1] at inside
    cases inside
  received := onTime.received
  stopped := onTime.stopped

end Keeping

/-- Undelayed steps keep track of everybody. -/
theorem tracked_of_step {state state' : Collect} (tracked : state.Tracked config script.calls)
    (moved : Step clock config orders mode script state state') :
    state'.Tracked config script.calls := by
  -- Undelayed steps are steps of the resolver.
  have embedded := step_of_step moved
  cases embedded with
  | main step => exact tracked.main step
  | beside step => exact tracked.beside step

/-- Every step keeps an undelayed run on time. -/
theorem OnTime.step {start : Instant} {state state' : Collect}
    (onTime : OnTime clock config mode script start state)
    (tracked : state.Tracked config script.calls)
    (moved : Step clock config orders mode script state state') :
    OnTime clock config mode script start state' := by
  -- There is a lemma for each kind of step.
  cases moved with
  | main moved scripted => exact onTime.main tracked moved scripted
  | reply running silent due => exact onTime.reply tracked running due _
  | tick settled undue inside => exact onTime.tick settled undue

/-- Wherever an undelayed run is, it is on time. -/
theorem Reaches.onTime {start : Instant} {state : Collect}
    (reached : Reaches clock config orders mode script start state) :
    OnTime clock config mode script start state := by
  -- Being on time relies on being tracked, so both are carried along.
  have kept {before after : Collect}
      (laws : before.Tracked config script.calls ∧ OnTime clock config mode script start before)
      (moved : Step clock config orders mode script before after) :
      after.Tracked config script.calls ∧ OnTime clock config mode script start after :=
    ⟨tracked_of_step laws.1 moved, laws.2.step laws.1 moved⟩
  exact (@invariant_of_run _ _ (fun state => state.Tracked config script.calls ∧
    OnTime clock config mode script start state) kept _ _
    ⟨Collect.init_tracked config script.calls start, init_onTime start⟩ reached).2

end Laws

end Undelayed

end IpDiscovery.Blocking
