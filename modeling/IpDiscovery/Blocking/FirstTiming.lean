import IpDiscovery.Blocking.FirstOrder
import IpDiscovery.Blocking.Timing

/-! When an undelayed First ends, and how the times of the three strategies compare. -/

namespace IpDiscovery.Blocking

open Relation

/-- When the turn of a provider comes: all those before it have been waited for. -/
def Script.turn (config : Config) (script : Script) (start : Instant) (position : Nat) : Instant :=
  start + ∑ earlier ∈ Finset.range position, script.wait config earlier

section Turns

variable {config : Config} {script : Script} {start : Instant} {position : Nat}

/-- The first provider has its turn at the start. -/
theorem turn_zero : script.turn config start 0 = start := rfl

/-- The next turn comes when the provider has been waited for. -/
theorem turn_succ : script.turn config start (position + 1) =
    script.turn config start position + script.wait config position := by
  simp [Script.turn, Finset.sum_range_succ, Nat.add_assoc]

/-- Nobody is waited for beyond the timeout. -/
theorem wait_le : script.wait config position ≤ config.timeout := by
  unfold Script.wait
  split
  · exact Nat.min_le_left _ _
  · -- Who cannot be started is not waited for.
    exact Nat.zero_le _

/-- A turn comes after one timeout for each provider before it at the latest. -/
theorem turn_le : script.turn config start position ≤ start + position * config.timeout := by
  -- Each turn adds the wait for one provider, which ends with the timeout at the latest.
  induction position with
  | zero => simp [turn_zero]
  | succ position ih =>
    rw [turn_succ, Nat.succ_mul, ← Nat.add_assoc]
    exact Nat.add_le_add ih wait_le

/-- A timeout that begins with a turn ends before one timeout for each provider has passed. -/
theorem turn_timeout_le (inside : position < (matchingProviders config).length) :
    script.turn config start position + config.timeout ≤
      start + (matchingProviders config).length * config.timeout := by
  have turns := Nat.mul_le_mul_right config.timeout (Nat.succ_le_of_lt inside)
  rw [Nat.succ_mul] at turns
  calc script.turn config start position + config.timeout
      ≤ start + position * config.timeout + config.timeout := Nat.add_le_add_right turn_le _
    _ = start + (position * config.timeout + config.timeout) := Nat.add_assoc _ _ _
    _ ≤ start + (matchingProviders config).length * config.timeout := Nat.add_le_add_left turns _

end Turns

/--
Each deadline that is set can be represented by the clock.

A deadline is set for a provider that can be started, where all those before it have failed.
-/
def Script.Fits (clock : Clock) (config : Config) (script : Script) (start : Instant) : Prop :=
  ∀ position < (matchingProviders config).length, script.spawnError position = none →
    (∀ earlier < position, ∃ error, Settles config script (earlier, .error error)) →
      script.turn config start position + config.timeout ≤ clock.maxInstant

/-- A clock that goes on for one timeout a provider represents them all. -/
theorem fits_of_le {clock : Clock} {config : Config} {script : Script} {start : Instant}
    (enough : start + (matchingProviders config).length * config.timeout ≤ clock.maxInstant) :
    script.Fits clock config start :=
  -- No turn comes later than after a timeout for each provider before it.
  fun _ inside _ _ => (turn_timeout_le inside).trans enough

namespace First

/-! ## Undelayed runs -/

section Steps

variable (clock : Clock) (config : Config) (script : Script)

/-- The resolver after it has tried to start a thread, which the script lets it do or not. -/
def attempt (provider : BoxedBlockingProvider) (id : Nat)
    (todo : List (BoxedBlockingProvider × Nat)) (state : First) : First :=
  match script.spawnError id with
  | none => { state with
      threads := state.threads.openChannel.spawn id provider
      phase := .waiting provider todo }
  | some text =>
    ({ state with threads := state.threads.openChannel } : First).fail todo ⟨provider.name, text⟩

/-- A step of the resolver, a reply that is due, or a nanosecond in which nothing is to be done. -/
inductive UndelayedStep : First → First → Prop where
  | main {state state' : First} (moved : MainStep clock config state state')
      (scripted : ∀ provider id todo, state.phase = .trying ((provider, id) :: todo) →
        state' = state.attempt script provider id todo) : UndelayedStep state state'
  | reply {state : First} {before after : List Worker} {worker : Worker}
      (running : state.threads.workers = before ++ worker :: after) (silent : worker.sent = none)
      (due : script.repliesAt worker = some state.threads.now) :
      UndelayedStep state { state with
        threads := state.threads.reply before worker after
          (worker.message script.calls (state.threads.now - worker.startedAt)) }
  | tick {state : First} (settled : ∀ state', ¬ MainStep clock config state state')
      (undue : ∀ worker ∈ state.threads.workers, worker.sent = none →
        script.repliesAt worker ≠ some state.threads.now)
      (inside : state.threads.now + 1 ≤ clock.maxInstant) :
      UndelayedStep state { state with
        threads := { state.threads with now := state.threads.now + 1 } }

/-- A state that an undelayed run of First may be in, when it has started at some instant. -/
def UndelayedReaches (start : Instant) (state : First) : Prop :=
  ReflTransGen (UndelayedStep clock config script) (init config start) state

end Steps

/-- The worker that is waited for was started when its turn came, and is not overdue. -/
structure Current (config : Config) (script : Script) (start : Instant) (position : Nat)
    (now : Instant) (worker : Worker) : Prop where
  id : worker.id = position
  started : worker.startedAt = script.turn config start position
  starts : script.spawnError position = none
  sent : ∀ message, worker.sent = some message → script.delay position = some message.latency ∧
    now = script.turn config start position + message.latency
  silent : worker.sent = none → ∀ delay, script.delay position = some delay →
    now ≤ script.turn config start position + delay

/-- Whoever holds the channel of the resolver is on time. -/
def AllCurrent (config : Config) (script : Script) (start : Instant) (position : Nat)
    (threads : Threads) : Prop :=
  ∀ worker ∈ threads.workers, worker.tx = threads.rx →
    Current config script start position threads.now worker

/-- Where the resolver stands, by the turn of the provider it has come to. -/
def PhaseOnTime (clock : Clock) (config : Config) (script : Script) (start : Instant)
    (state : First) : Prop :=
  let turn := script.turn config start state.errors.length
  match state.phase with
  | .trying _ => state.threads.now = turn
  | .waiting _ _ => state.threads.now = turn ∧
      AllCurrent config script start state.errors.length state.threads
  | .receiving _ _ expires => expires = clock.checkedAdd turn config.timeout ∧
      state.threads.now ≤ turn + config.timeout ∧
      AllCurrent config script start state.errors.length state.threads
  | .done _ => True

/-- The errors so far are those the scripts foretell, and no time was lost on them. -/
structure OnTime (clock : Clock) (config : Config) (script : Script) (start : Instant)
    (state : First) : Prop where
  errors : ∀ position error, state.errors[position]? = some error →
    Settles config script (position, .error error)
  phase : PhaseOnTime clock config script start state

section Laws

variable {clock : Clock} {config : Config} {script : Script} {start : Instant}
  {state state' : First}

/-- An undelayed step is one of the steps of the resolver. -/
theorem step_of_undelayedStep (moved : UndelayedStep clock config script state state') :
    Step clock config script.calls state state' := by
  cases moved with
  | main moved scripted => exact .main moved
  | reply running silent due => exact .beside (.finish running silent _)
  | tick settled undue inside => exact .beside (.tick (Nat.le_succ _) inside)

/-- So everything that holds of all runs holds of the undelayed ones. -/
theorem UndelayedReaches.laws (reached : UndelayedReaches clock config script start state) :
    state.Ordered config ∧ state.Sound config script.calls :=
  ⟨ordered_of_run (run_of_run step_of_undelayedStep reached),
    sound_of_run (run_of_run step_of_undelayedStep reached)⟩

/-- At the start, it is the turn of the first provider. -/
theorem init_onTime : (init config start).OnTime clock config script start where
  errors := by simp [init]
  phase := turn_zero.symm

/-- A provider that has failed on time hands over to the next one on time. -/
theorem OnTime.fail (onTime : state.OnTime clock config script start) {threads : Threads}
    {todo : List (BoxedBlockingProvider × Nat)} {error : ProviderError}
    (settles : Settles config script (state.errors.length, .error error))
    (waited : threads.now = script.turn config start state.errors.length +
      script.wait config state.errors.length) :
    (({ state with threads } : First).fail todo error).OnTime clock config script start where
  errors := by
    intro position other recorded
    rcases Nat.lt_or_ge position state.errors.length with earlier | last
    · -- The errors before it stay as they are.
      rw [First.fail, List.getElem?_append_left earlier] at recorded
      exact onTime.errors position other recorded
    · -- The new error is the last one.
      rw [First.fail, List.getElem?_append_right last, List.getElem?_singleton] at recorded
      split at recorded
      · rename_i here
        cases recorded
        rw [show position = state.errors.length by omega]
        exact settles
      · cases recorded
  phase := by
    simp only [PhaseOnTime, First.fail, List.length_append, List.length_singleton]
    rw [waited, turn_succ]

/-- A provider whose reply is heard within the timeout has been waited for as long as it took. -/
theorem wait_of_heard {position : Nat} (starts : script.spawnError position = none)
    {delay : Duration} (known : script.delay position = some delay)
    (early : delay ≤ config.timeout) : script.wait config position = delay := by
  rw [Script.wait, if_pos starts, known, Option.getD_some, Nat.min_eq_right early]

/-- A provider that does not reply within the timeout has been waited for until then. -/
theorem wait_of_late {position : Nat} (starts : script.spawnError position = none)
    (late : ∀ delay, script.delay position = some delay → config.timeout ≤ delay) :
    script.wait config position = config.timeout := by
  rw [Script.wait, if_pos starts]
  cases known : script.delay position with
  | none => exact Nat.min_self _
  | some delay => exact Nat.min_eq_left (late delay known)

/-- Whoever is received from holds the channel, is on time, and has its message there. -/
theorem OnTime.current (onTime : state.OnTime clock config script start)
    (ordered : state.Ordered config) (sound : state.Sound config script.calls)
    {provider : BoxedBlockingProvider} {todo : List (BoxedBlockingProvider × Nat)}
    {expires : Option Instant} (here : state.phase = .receiving provider todo expires) :
    (matchingProviders config)[state.errors.length]? = some provider ∧
      ∃ current ∈ state.threads.workers, current.provider = provider ∧
        current.tx = state.threads.rx ∧
        (∀ worker ∈ state.threads.workers, worker.tx = state.threads.rx → worker = current) ∧
        state.threads.queue = current.sent.toList ∧
        Current config script start state.errors.length state.threads.now current := by
  have placed := ordered.placed
  have phase := onTime.phase
  simp only [Placed, PhaseOnTime, here] at placed phase
  obtain ⟨earlier, current, awaiting, _⟩ := placed
  obtain ⟨located, member, same⟩ := awaiting.located sound
  refine ⟨located, current, member, same, awaiting.opened, ?_, awaiting.queue,
    phase.2.2 current member awaiting.opened⟩
  -- Workers of earlier providers hold channels that were closed.
  intro worker among opened
  rw [awaiting.workers] at among
  rcases List.mem_append.mp among with before | last
  · exact absurd opened (awaiting.closed worker before)
  · exact List.mem_singleton.mp last

/-- A message that is received is what the script foretells, and comes without any delay. -/
theorem OnTime.heard (onTime : state.OnTime clock config script start)
    (ordered : state.Ordered config) (sound : state.Sound config script.calls)
    {provider : BoxedBlockingProvider} {todo : List (BoxedBlockingProvider × Nat)}
    {expires : Option Instant} (here : state.phase = .receiving provider todo expires)
    {message : WorkerMessage} {rest : List WorkerMessage}
    (head : state.threads.queue = message :: rest) :
    Settles config script (state.errors.length, message.outcome config.version) ∧
      script.wait config state.errors.length = message.latency ∧
      state.threads.now = script.turn config start state.errors.length + message.latency := by
  obtain ⟨located, current, member, same, _, _, queue, current_on_time⟩ :=
    onTime.current ordered sound here
  have phase := onTime.phase
  simp only [PhaseOnTime, here] at phase
  -- The channel holds nothing but what the current worker has sent.
  cases sent : current.sent with
  | none => simp [head, sent] at queue
  | some own =>
    have own_eq : message = own := by
      simp only [head, sent, Option.toList_some, List.cons.injEq] at queue
      exact queue.1
    subst own_eq
    obtain ⟨known, now⟩ := current_on_time.sent message sent
    obtain ⟨latency, shape⟩ := sound.threads.sent current member message sent
    -- The receiver has not waited for longer than the timeout.
    have early : message.latency ≤ config.timeout :=
      Nat.le_of_add_le_add_left (now.symm.trans_le phase.2.1)
    have settles := Settles.heard located current_on_time.starts known early
    rw [show (⟨state.errors.length, provider.name, provider.protocol,
      (script.calls state.errors.length).caught provider.name, message.latency⟩ : WorkerMessage) =
        message by rw [shape, Worker.message, current_on_time.id, same]] at settles
    exact ⟨settles, wait_of_heard current_on_time.starts known early, now⟩

/-- A new worker has its turn now. -/
theorem OnTime.spawn (onTime : state.OnTime clock config script start)
    (ordered : state.Ordered config) {provider : BoxedBlockingProvider} {id : Nat}
    {todo : List (BoxedBlockingProvider × Nat)}
    (here : state.phase = .trying ((provider, id) :: todo))
    (starts : script.spawnError id = none) :
    ({ state with
      threads := state.threads.openChannel.spawn id provider
      phase := .waiting provider todo } : First).OnTime clock config script start where
  errors := onTime.errors
  phase := by
    have placed := ordered.placed
    have phase := onTime.phase
    simp only [Placed, PhaseOnTime, here] at placed phase
    have position := (triedFrom_eq_cons placed.1.symm).1
    refine ⟨phase, ?_⟩
    intro worker member opened
    rcases List.mem_append.mp member with earlier | new
    · -- Earlier workers hold earlier channels.
      have older := ordered.txs worker earlier
      rw [opened] at older
      exact absurd older (Nat.not_succ_le_self _)
    · -- The new worker starts with the turn.
      rw [List.mem_singleton.mp new]
      exact ⟨position, phase, position ▸ starts, nofun,
        fun _ delay _ => phase.le.trans (Nat.le_add_right _ _)⟩

/-- Every step of the resolver keeps an undelayed run on time. -/
theorem OnTime.main (onTime : state.OnTime clock config script start)
    (nonzero : config.timeout ≠ 0) (ordered : state.Ordered config)
    (sound : state.Sound config script.calls) (moved : MainStep clock config state state')
    (scripted : ∀ provider id todo, state.phase = .trying ((provider, id) :: todo) →
      state' = state.attempt script provider id todo) :
    state'.OnTime clock config script start := by
  have placed := ordered.placed
  have phase := onTime.phase
  cases moved with
  | exhausted here => exact ⟨onTime.errors, trivial⟩
  | skip here zero => exact absurd zero nonzero
  | @spawn provider id todo here nonzero =>
    have same := scripted provider id todo here
    unfold attempt at same
    split at same
    · rename_i starts
      exact onTime.spawn ordered here starts
    · -- The script would have let the attempt fail.
      exact absurd (congrArg First.phase same) nofun
  | @spawnFailed provider id todo here nonzero text =>
    simp only [Placed, PhaseOnTime, here] at placed phase
    obtain ⟨position, located, _⟩ := triedFrom_eq_cons placed.1.symm
    have same := scripted provider id todo here
    unfold attempt at same
    split at same
    · -- The script would have let the thread start.
      exact absurd (congrArg First.phase same) nofun
    · rename_i text' failed
      rw [same]
      simp only at position located
      rw [position] at failed
      -- A provider that cannot be started takes no time.
      refine onTime.fail (.unstarted located failed) ?_
      rw [Script.wait, failed]
      exact phase
  | block here =>
    simp only [PhaseOnTime, here] at phase
    refine ⟨onTime.errors, ?_⟩
    -- The timeout begins with the turn.
    simp only [PhaseOnTime]
    exact ⟨by rw [phase.1], phase.1.le.trans (Nat.le_add_right _ _), phase.2⟩
  | @receive provider todo expires message rest here head =>
    obtain ⟨settles, waited, now⟩ := onTime.heard ordered sound here head
    unfold receive
    cases outcome : message.outcome config.version with
    | ok result => exact ⟨onTime.errors, trivial⟩
    | error error =>
      rw [outcome] at settles
      exact onTime.fail settles (now.trans (by rw [waited]))
  | @timedOut provider todo expires here empty late =>
    obtain ⟨located, current, _, _, _, _, queue, current_on_time⟩ :=
      onTime.current ordered sound here
    simp only [PhaseOnTime, here] at phase
    obtain ⟨due, early, _⟩ := phase
    -- The receiver gives up exactly when the timeout has passed since the turn.
    have now : state.threads.now =
        script.turn config start state.errors.length + config.timeout := by
      unfold Clock.checkedAdd at due
      split at due
      · cases due
        exact Nat.le_antisymm early late
      · cases due
    -- Nothing has come, so the worker is silent, and no reply of it was due earlier.
    have silent : current.sent = none := by
      simpa [empty] using queue.symm
    have overdue : ∀ delay, script.delay state.errors.length = some delay →
        config.timeout ≤ delay := by
      intro delay known
      have waits := current_on_time.silent silent delay known
      rw [now] at waits
      exact Nat.le_of_add_le_add_left waits
    refine onTime.fail (.late located current_on_time.starts overdue) ?_
    rw [wait_of_late current_on_time.starts overdue]
    exact now
  | @disconnected provider todo expires here empty hungUp =>
    -- The sender of the channel is silent, and so it has not hung up.
    obtain ⟨_, current, member, _, opened, _, queue, _⟩ := onTime.current ordered sound here
    have sent := hungUp current member opened
    rw [empty] at queue
    rw [Option.toList_eq_nil_iff.mp queue.symm] at sent
    cases sent

/-- A reply changes the threads in nothing but a message, and the channel perhaps. -/
theorem reply_threads (threads : Threads) (before : List Worker) (worker : Worker)
    (after : List Worker) (message : WorkerMessage) :
    (threads.reply before worker after message).now = threads.now ∧
      (threads.reply before worker after message).rx = threads.rx ∧
      (threads.reply before worker after message).workers =
        before ++ { worker with sent := some message } :: after := by
  unfold Threads.reply Threads.send
  split <;> simp

/-- Whoever holds the channel sends its message when it is due. -/
theorem AllCurrent.reply {position : Nat} {threads : Threads}
    (current : AllCurrent config script start position threads) {before after : List Worker}
    {worker : Worker} (running : threads.workers = before ++ worker :: after)
    (due : script.repliesAt worker = some threads.now) :
    AllCurrent config script start position (threads.reply before worker after
      (worker.message script.calls (threads.now - worker.startedAt))) := by
  obtain ⟨now, rx, workers⟩ := reply_threads threads before worker after
    (worker.message script.calls (threads.now - worker.startedAt))
  unfold AllCurrent
  rw [now, rx, workers]
  intro other member opened
  rcases List.perm_middle.mem_iff.mp member with _ | ⟨_, rest⟩
  · have old := current worker (by simp [running]) opened
    obtain ⟨delay, known, replies⟩ := Option.map_eq_some_iff.mp due
    refine ⟨old.id, old.started, old.starts, ?_, nofun⟩
    intro message sent
    cases sent
    -- The latency is the time since the turn, which is the delay.
    rw [old.id] at known
    rw [old.started] at replies
    simp only [Worker.message, known, old.started, ← replies, Nat.add_sub_cancel_left, and_self]
  · -- Nobody else has changed.
    apply current other _ opened
    rw [running]
    exact List.perm_middle.mem_iff.mpr (List.mem_cons_of_mem _ rest)

/-- A reply that is due keeps an undelayed run on time. -/
theorem OnTime.reply (onTime : state.OnTime clock config script start)
    {before after : List Worker} {worker : Worker}
    (running : state.threads.workers = before ++ worker :: after)
    (due : script.repliesAt worker = some state.threads.now) :
    ({ state with
      threads := state.threads.reply before worker after
        (worker.message script.calls (state.threads.now - worker.startedAt)) } :
      First).OnTime clock config script start where
  errors := onTime.errors
  phase := by
    have phase := onTime.phase
    obtain ⟨now, _⟩ := reply_threads state.threads before worker after
      (worker.message script.calls (state.threads.now - worker.startedAt))
    -- A reply lets no time pass, and it is at most the reply of the current provider.
    cases here : state.phase with
    | trying todo =>
      simp only [PhaseOnTime, here, now] at phase ⊢
      exact phase
    | waiting provider todo =>
      simp only [PhaseOnTime, here, now] at phase ⊢
      exact ⟨phase.1, phase.2.reply running due⟩
    | receiving provider todo expires =>
      simp only [PhaseOnTime, here, now] at phase ⊢
      exact ⟨phase.1, phase.2.1, phase.2.2.reply running due⟩
    | done answer => simp only [PhaseOnTime]

/-- A resolver with nothing to do waits for a reply, before the end of the timeout. -/
theorem OnTime.waits (onTime : state.OnTime clock config script start)
    (ordered : state.Ordered config) (sound : state.Sound config script.calls)
    (fits : script.Fits clock config start) (nonzero : config.timeout ≠ 0)
    (running : ∀ answer, state.phase ≠ .done answer)
    (settled : ∀ state', ¬ MainStep clock config state state') :
    ∃ provider todo expires, state.phase = .receiving provider todo expires ∧
      state.threads.queue = [] ∧
      state.threads.now < script.turn config start state.errors.length + config.timeout ∧
      state.errors.length < (matchingProviders config).length ∧
      script.turn config start state.errors.length + config.timeout ≤ clock.maxInstant := by
  have phase := onTime.phase
  cases here : state.phase with
  | trying todo =>
    cases todo with
    | nil => exact absurd (.exhausted here) (settled _)
    | cons entry todo => exact absurd (.spawn here nonzero) (settled _)
  | waiting provider todo => exact absurd (.block here) (settled _)
  | receiving provider todo expires =>
    obtain ⟨located, _, _, _, _, _, _, current⟩ := onTime.current ordered sound here
    have inside := (List.getElem?_eq_some_iff.mp located).1
    -- Its provider was started after all those before it had failed.
    have latest : script.turn config start state.errors.length + config.timeout ≤
        clock.maxInstant := by
      refine fits _ inside current.starts fun earlier before => ?_
      exact ⟨_, onTime.errors earlier _ (List.getElem?_eq_getElem before)⟩
    simp only [PhaseOnTime, here] at phase
    refine ⟨provider, todo, expires, rfl, ?_, ?_, inside, latest⟩
    · -- A message in the channel would be received.
      cases empty : state.threads.queue with
      | nil => rfl
      | cons message rest => exact absurd (.receive here empty) (settled _)
    · by_contra late
      -- The deadline can be represented, so the receiver would give up.
      rw [Clock.checkedAdd, if_pos latest] at phase
      obtain ⟨rfl, _, _⟩ := phase
      cases empty : state.threads.queue with
      | nil => exact settled _ (.timedOut here empty (Nat.le_of_not_lt late))
      | cons message rest => exact settled _ (.receive here empty)
  | done answer => exact absurd here (running answer)

/-- A nanosecond in which nothing is to be done keeps an undelayed run on time. -/
theorem OnTime.tick (onTime : state.OnTime clock config script start)
    (ordered : state.Ordered config) (sound : state.Sound config script.calls)
    (fits : script.Fits clock config start) (nonzero : config.timeout ≠ 0)
    (settled : ∀ state', ¬ MainStep clock config state state')
    (undue : ∀ worker ∈ state.threads.workers, worker.sent = none →
      script.repliesAt worker ≠ some state.threads.now) :
    ({ state with threads := { state.threads with now := state.threads.now + 1 } } :
      First).OnTime clock config script start where
  errors := onTime.errors
  phase := by
    by_cases running : ∀ answer, state.phase ≠ .done answer
    · obtain ⟨provider, todo, expires, here, empty, early, _⟩ :=
        onTime.waits ordered sound fits nonzero running settled
      obtain ⟨_, current, _, _, _, alone, queue, _⟩ := onTime.current ordered sound here
      have phase := onTime.phase
      simp only [PhaseOnTime, here] at phase ⊢
      refine ⟨phase.1, early, ?_⟩
      intro worker among opened
      have old := phase.2.2 worker among opened
      refine ⟨old.id, old.started, old.starts, ?_, ?_⟩
      · -- A message would stand in the channel.
        intro message sent
        rw [alone worker among opened] at sent
        simp [empty, sent] at queue
      · -- A reply that is due now would be sent.
        intro silent delay known
        refine Nat.lt_of_le_of_ne (old.silent silent delay known) ?_
        intro now
        apply undue worker among silent
        rw [Script.repliesAt, old.id, known, old.started, Option.map_some, now]
    · -- After the end nothing is asked of the clock.
      push Not at running
      obtain ⟨answer, ended⟩ := running
      simp only [PhaseOnTime, ended]

section Runs

variable (fits : script.Fits clock config start) (nonzero : config.timeout ≠ 0)

include fits nonzero

/-- Every step keeps an undelayed run on time. -/
theorem OnTime.step (onTime : state.OnTime clock config script start)
    (laws : state.Ordered config ∧ state.Sound config script.calls)
    (moved : UndelayedStep clock config script state state') :
    state'.OnTime clock config script start := by
  cases moved with
  | main moved scripted => exact onTime.main nonzero laws.1 laws.2 moved scripted
  | reply running silent due => exact onTime.reply running due
  | tick settled undue inside => exact onTime.tick laws.1 laws.2 fits nonzero settled undue

/-- All along an undelayed run, everybody is tried on time. -/
theorem UndelayedReaches.onTime (reached : UndelayedReaches clock config script start state) :
    state.OnTime clock config script start := by
  induction reached with
  | refl => exact init_onTime
  | tail earlier moved ih => exact ih.step fits nonzero (UndelayedReaches.laws earlier) moved

/-! ## Every undelayed run comes to an end -/

/-- What is left to do in a run: its steps, its replies and its time. -/
def workLeft (config : Config) (start : Instant) (state : First) : Nat :=
  2 * state.stepsLeft + Undelayed.unsent state.threads.workers +
    (start + (matchingProviders config).length * config.timeout - state.threads.now)

omit fits nonzero in
/-- A step from the receiver leads on to the next provider, or to the end. -/
theorem receiving_main {provider : BoxedBlockingProvider}
    {todo : List (BoxedBlockingProvider × Nat)} {expires : Option Instant}
    (here : state.phase = .receiving provider todo expires)
    (moved : MainStep clock config state state') :
    state'.stepsLeft < state.stepsLeft ∧ state'.threads.workers = state.threads.workers ∧
      state'.threads.now = state.threads.now := by
  -- A receiver takes a message, gives up or finds nobody there, and nothing else.
  cases moved with
  | receive other head =>
    rw [here] at other
    cases other
    unfold receive
    cases WorkerMessage.outcome config.version _ with
    | ok result => simp [stepsLeft, here, head]
    | error error => simp [stepsLeft, here, fail, head]
  | timedOut other empty late =>
    rw [here] at other
    cases other
    simp [stepsLeft, here, fail, empty]
  | disconnected other empty hungUp =>
    rw [here] at other
    cases other
    simp [stepsLeft, here, fail, empty]
  | exhausted other | skip other | spawn other | spawnFailed other | block other =>
    rw [here] at other
    cases other

/-- An undelayed run that has not come to its end can go on, with less to do. -/
theorem undelayed_progress (reached : UndelayedReaches clock config script start state)
    (running : ∀ answer, state.phase ≠ .done answer) :
    ∃ state', UndelayedStep clock config script state state' ∧
      workLeft config start state' < workLeft config start state := by
  obtain ⟨ordered, sound⟩ := reached.laws
  have onTime := reached.onTime fits nonzero
  cases here : state.phase with
  | trying todo =>
    cases todo with
    | nil =>
      refine ⟨_, .main (.exhausted here) ?_, by simp [workLeft, stepsLeft, here]⟩
      intro provider id todo other
      rw [here] at other
      cases other
    | cons entry todo =>
      obtain ⟨provider, id⟩ := entry
      -- The script decides whether the thread can be started.
      cases failure : script.spawnError id with
      | none =>
        refine ⟨_, .main (.spawn here nonzero) ?_, ?_⟩
        · intro provider' id' todo' other
          rw [here] at other
          cases other
          simp [attempt, failure]
        · simp [workLeft, stepsLeft, here, Threads.spawn, Threads.openChannel, Undelayed.unsent]
          omega
      | some text =>
        refine ⟨_, .main (.spawnFailed here nonzero text) ?_, ?_⟩
        · intro provider' id' todo' other
          rw [here] at other
          cases other
          simp [attempt, failure]
        · simp [workLeft, stepsLeft, here, fail, Threads.openChannel]
  | waiting provider todo =>
    refine ⟨_, .main (.block here) ?_, ?_⟩
    · intro provider' id' todo' other
      rw [here] at other
      cases other
    · simp only [workLeft, stepsLeft, here]
      split <;> omega
  | receiving provider todo expires =>
    by_cases settled : ∀ state', ¬ MainStep clock config state state'
    · -- The resolver waits: a reply is due, or the time goes on.
      obtain ⟨_, _, _, _, empty, early, inside, latest⟩ :=
        onTime.waits ordered sound fits nonzero running settled
      by_cases due : ∃ worker ∈ state.threads.workers, worker.sent = none ∧
          script.repliesAt worker = some state.threads.now
      · obtain ⟨worker, member, quiet, now⟩ := due
        obtain ⟨before, after, split⟩ := List.append_of_mem member
        refine ⟨_, .reply split quiet now, ?_⟩
        obtain ⟨now, _, workers⟩ := reply_threads state.threads before worker after
          (worker.message script.calls (state.threads.now - worker.startedAt))
        simp only [workLeft, stepsLeft, here, now, workers, empty, Undelayed.unsent]
        simp [split, quiet, List.countP_append]
        split_ifs <;> omega
      · push Not at due
        have until_end := early.trans_le (turn_timeout_le inside)
        refine ⟨_, .tick settled due (early.trans_le latest), ?_⟩
        simp only [workLeft, stepsLeft, here]
        exact Nat.add_lt_add_left (Nat.sub_lt_sub_left until_end (Nat.lt_succ_self _)) _
    · -- The resolver has something to do, and then less than before.
      push Not at settled
      obtain ⟨state', moved⟩ := settled
      obtain ⟨fewer, workers, now⟩ := receiving_main here moved
      refine ⟨state', .main moved ?_, ?_⟩
      · intro provider' id' todo' other
        rw [here] at other
        cases other
      · simp only [workLeft, workers, now]
        omega
  | done answer => exact absurd here (running answer)

end Runs

end Laws

/-! ## How runs end -/

/-- A run comes to its end at some instant, with an answer. -/
def EndsAt (clock : Clock) (config : Config) (script : Script) (start now : Instant)
    (answer : Except Error ProviderResult) : Prop :=
  ∃ state state', UndelayedReaches clock config script start state ∧
    MainStep clock config state state' ∧ state'.phase = .done answer ∧ state.threads.now = now

/-- The providers at the first positions have failed as their scripts foretell. -/
def FailedBy (config : Config) (script : Script) (errors : List ProviderError) : Prop :=
  ∀ position error, errors[position]? = some error → Settles config script (position, .error error)

/-- How First may end, and when. -/
def Verdict (config : Config) (script : Script) (start now : Instant) :
    Except Error ProviderResult → Prop
  -- All those before the winner have failed, and all have been waited for in turn.
  | .ok result => ∃ errors, FailedBy config script errors ∧
      Settles config script (errors.length, .ok result) ∧
      now = script.turn config start (errors.length + 1)
  | .error error => ∃ errors, FailedBy config script errors ∧
      errors.length = (matchingProviders config).length ∧ error = .allProvidersFailed errors ∧
      now = script.turn config start errors.length

section Laws

variable {clock : Clock} {config : Config} {script : Script} {start : Instant}
  (fits : script.Fits clock config start) (nonzero : config.timeout ≠ 0)

include fits nonzero

/-- The work that is left decreases until a run crosses to an answer. -/
theorem exists_endsAt : ∃ now answer, EndsAt clock config script start now answer := by
  obtain ⟨state, run, final⟩ := @run_ends _ (UndelayedStep clock config script)
    (UndelayedReaches clock config script start)
    (fun state => ∃ answer, state.phase = .done answer) (workLeft config start)
    (fun reached moved => reached.tail moved)
    (fun reached running => undelayed_progress fits nonzero reached
      fun answer ended => running ⟨answer, ended⟩) (init config start) .refl
  -- The run crosses from a state without an answer to one with an answer.
  obtain ⟨last, next, reached, running, moved, answer, arrived⟩ :=
    @run_crosses _ _ (fun state => ∃ answer, state.phase = .done answer) _ _
      (by intro ⟨_, never⟩; cases never) final run
  cases moved with
  | main moved scripted => exact ⟨_, answer, last, next, reached, moved, arrived, rfl⟩
  | reply running' silent due => exact absurd ⟨answer, arrived⟩ running
  | tick settled undue inside => exact absurd ⟨answer, arrived⟩ running

/-- Every end of a run is one of the two that are foretold. -/
theorem verdict_of_endsAt {now : Instant} {answer : Except Error ProviderResult}
    (ends : EndsAt clock config script start now answer) :
    Verdict config script start now answer := by
  obtain ⟨state, state', reached, moved, ended, same⟩ := ends
  subst same
  obtain ⟨ordered, sound⟩ := reached.laws
  have onTime := reached.onTime fits nonzero
  have phase := onTime.phase
  have placed := ordered.placed
  cases moved with
  | exhausted here =>
    -- All providers have been tried.
    cases ended
    simp only [Placed, PhaseOnTime, here] at placed phase
    exact ⟨state.errors, onTime.errors,
      Nat.le_antisymm placed.2.1 (triedFrom_eq_nil placed.1.symm), rfl, phase⟩
  | @receive provider todo expires message rest here head =>
    obtain ⟨settles, waited, now⟩ := onTime.heard ordered sound here head
    unfold receive at ended
    cases outcome : message.outcome config.version with
    | error error => simp [outcome, fail] at ended
    | ok result =>
      simp only [outcome, Phase.done.injEq] at ended
      subst ended
      -- The wait for the winner is the last one.
      rw [outcome] at settles
      exact ⟨state.errors, onTime.errors, settles, now.trans (by rw [turn_succ, waited])⟩
  | skip | spawn | spawnFailed | block | timedOut | disconnected => cases ended

end Laws

section Ends

variable (clock : Clock) (config : Config) (script : Script) (start : Instant)

/--
An undelayed First waits for each provider in its turn, and for nobody else.

It takes exactly as long as all providers up to the winner together, each no longer than the
timeout. Those before the winner have failed as their scripts foretell.
-/
theorem first_waits_in_turn (fits : script.Fits clock config start)
    (nonzero : config.timeout ≠ 0) :
    (∃ now answer, EndsAt clock config script start now answer) ∧
      ∀ now answer, EndsAt clock config script start now answer →
        Verdict config script start now answer :=
  ⟨exists_endsAt fits nonzero, fun _ _ => verdict_of_endsAt fits nonzero⟩

/-- Three providers with ten nanoseconds each are waited for in turn. -/
theorem first_waits_in_turn_paced :
    (∃ now answer, EndsAt ⟨100⟩ paceConfig paceScript 0 now answer) ∧
      ∀ now answer, EndsAt ⟨100⟩ paceConfig paceScript 0 now answer →
        Verdict paceConfig paceScript 0 now answer :=
  first_waits_in_turn ⟨100⟩ paceConfig paceScript 0 (fits_of_le (by decide)) (by decide)

end Ends

end First

/-! ## The strategies compared -/

section Comparison

variable {config : Config} {script : Script} {start : Instant}

/-- Where a provider succeeds in time, it contends with what it has been given. -/
theorem contends_of_settles {position : Nat} {result : ProviderResult}
    (settles : Settles config script (position, .ok result)) :
    Contends config script position result ∧ script.wait config position = result.latency := by
  generalize same : (position, (.ok result : Outcome)) = entry at settles
  -- Of the three ways to be settled, only one is a success.
  cases settles with
  | unstarted located failed => exact absurd (Prod.mk.inj same).2 nofun
  | late located starts late => exact absurd (Prod.mk.inj same).2 nofun
  | @heard other provider delay located starts timed early =>
    obtain ⟨here, validated⟩ := Prod.mk.inj same
    subst here
    obtain ⟨ip, told, family, rfl⟩ := WorkerMessage.outcome_eq_ok_iff.mp validated.symm
    refine ⟨⟨starts, ⟨provider, located, rfl, rfl⟩, ?_, family, timed⟩,
      First.wait_of_heard starts timed early⟩
    -- A panic would have been an error.
    cases called : script.calls position with
    | panicked => simp [called, CallResult.caught] at told
    | returned result =>
      simp only [called, CallResult.caught] at told
      rw [told]

/-- Each provider's wait is a part of any later turn. -/
theorem wait_le_turn {position count : Nat} (before : position < count) :
    start + script.wait config position ≤ script.turn config start count := by
  unfold Script.turn
  apply Nat.add_le_add_left
  exact Finset.single_le_sum (fun _ _ => Nat.zero_le _) (Finset.mem_range.mpr before)

/-- All providers together take no less than the slowest of them. -/
theorem longestWait_le_turn : start + script.longestWait config ≤
    script.turn config start (matchingProviders config).length := by
  unfold Script.turn
  apply Nat.add_le_add_left
  apply Finset.sup_le
  intro position inside
  exact Finset.single_le_sum (fun _ _ => Nat.zero_le _) inside

/-- A race is over before First is, and with an answer where First has one in time. -/
theorem race_before_first {raced tried : Instant} {answer answer' : Except Error ProviderResult}
    (race : Undelayed.Verdict config script start raced answer)
    (first : First.Verdict config script start tried answer') : raced ≤ tried := by
  cases answer with
  | ok result =>
    obtain ⟨rfl, early, ⟨position, contends⟩, fastest⟩ := race
    -- The winner of First has been waited for, and is not faster than that of the race.
    cases answer' with
    | ok other =>
      obtain ⟨errors, _, settles, rfl⟩ := first
      obtain ⟨rival, waited⟩ := contends_of_settles settles
      have faster := fastest _ other rival
      rw [← waited] at faster
      exact (Nat.add_le_add_left faster start).trans (wait_le_turn (Nat.lt_succ_self _))
    | error error =>
      -- First has waited for everybody, so for the winner of the race too.
      obtain ⟨errors, _, all, _, rfl⟩ := first
      have waited := @wait_le_turn config script start _ _ (all ▸ contends.inside)
      rwa [First.wait_of_heard contends.starts contends.timed early] at waited
  | error error =>
    obtain ⟨rfl, _, overdue⟩ := race
    cases answer' with
    | ok other =>
      -- The winner of First replied when its timeout was up.
      obtain ⟨errors, _, settles, rfl⟩ := first
      obtain ⟨rival, waited⟩ := contends_of_settles settles
      have late := overdue _ other rival
      rw [← waited] at late
      exact (Nat.add_le_add_left (longestWait_le.trans late) start).trans
        (wait_le_turn (Nat.lt_succ_self _))
    | error error =>
      -- First has waited for everybody in turn.
      obtain ⟨errors, _, all, _, rfl⟩ := first
      rw [all]
      exact longestWait_le_turn

/-- A race is over before a consensus is, which waits for everybody. -/
theorem race_before_consensus {raced : Instant} {answer : Except Error ProviderResult}
    (race : Undelayed.Verdict config script start raced answer) :
    raced ≤ start + script.longestWait config := by
  cases answer with
  | ok result =>
    -- The winner is one of those whom a consensus waits for.
    obtain ⟨rfl, early, ⟨position, contends⟩, _⟩ := race
    have waited := @le_longestWait _ script _ contends.inside
    rw [First.wait_of_heard contends.starts contends.timed early] at waited
    exact Nat.add_le_add_left waited start
  | error error =>
    obtain ⟨rfl, _⟩ := race
    exact le_rfl

end Comparison

/--
Of the three strategies, an undelayed race is over first.

Whatever the providers do and however long they take, a race returns no later than a consensus, and
no later than First. Where First finds an answer before a timeout is up, the race has one too.
-/
theorem race_never_slower (clock : Clock) (config : Config) (script : Script) (start : Instant)
    (nonzero : config.timeout ≠ 0) (single : start + config.timeout ≤ clock.maxInstant)
    (fits : script.Fits clock config start) (orders : Orders) (raced : Instant)
    (answer : Except Error ProviderResult)
    (race : Undelayed.EndsAt clock config orders .race script start raced answer) :
    (∀ orders' minAgree counted answer',
      Undelayed.EndsAt clock config orders' (.consensus minAgree) script start counted answer' →
        raced ≤ counted) ∧
    ∀ tried answer', First.EndsAt clock config script start tried answer' →
      raced ≤ tried ∧ ∀ result, answer' = .ok result → result.latency < config.timeout →
        ∃ winner, answer = .ok winner ∧ winner.latency ≤ result.latency := by
  -- A race has ended by the time any contender could have won it.
  have verdict := Undelayed.race_verdict single race
  constructor
  · intro orders' minAgree counted answer' counts
    rw [(Undelayed.consensus_settled single counts).1]
    exact race_before_consensus verdict
  · intro tried answer' tries
    have first := First.verdict_of_endsAt fits nonzero tries
    refine ⟨race_before_first verdict first, ?_⟩
    -- The result of First contends in the race as well.
    intro result answered early
    subst answered
    obtain ⟨errors, _, settles, _⟩ := first
    obtain ⟨rival, _⟩ := contends_of_settles settles
    cases answer with
    | ok winner => exact ⟨winner, rfl, verdict.2.2.2 _ result rival⟩
    | error error => exact absurd early (Nat.not_lt_of_le (verdict.2.2 _ result rival))

/-- The race of three providers is over before their First is. -/
theorem race_never_slower_paced : ∃ raced answer tried answer',
    Undelayed.EndsAt ⟨100⟩ paceConfig ⟨.inserted, .inserted⟩ .race paceScript 0 raced answer ∧
      First.EndsAt ⟨100⟩ paceConfig paceScript 0 tried answer' ∧ raced ≤ tried := by
  obtain ⟨raced, answer, race⟩ :=
    Undelayed.exists_endsAt ⟨100⟩ paceConfig ⟨.inserted, .inserted⟩ .race paceScript 0
  obtain ⟨tried, answer', first⟩ :=
    @First.exists_endsAt ⟨100⟩ paceConfig paceScript 0 (fits_of_le (by decide)) (by decide)
  have faster := race_never_slower ⟨100⟩ paceConfig paceScript 0 (by decide) (by decide)
    (fits_of_le (by decide)) ⟨.inserted, .inserted⟩ raced answer race
  exact ⟨raced, answer, tried, answer', race, first, (faster.2 tried answer' first).1⟩

end IpDiscovery.Blocking
