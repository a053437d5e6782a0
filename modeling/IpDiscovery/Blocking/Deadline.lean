import IpDiscovery.Blocking.Undelayed
import IpDiscovery.Blocking.Answers
import IpDiscovery.Supporters

/-! Whether a longer timeout keeps the answers of race and consensus. -/

namespace IpDiscovery.Blocking.Undelayed

open Relation

/-! ## Every undelayed run comes to an end -/

/-- How far a phase is from the end of its round, with a round for each worker to be started. -/
def phaseWeight : Collect.Phase → Nat
  | .spawning todo => 4 + 5 * todo.length
  | .looping _ => 3
  | .waiting _ _ => 2
  | .receiving _ _ => 1
  | .done _ => 0

/-- How many workers have not replied. -/
def unsent (workers : List Worker) : Nat := workers.countP fun worker => worker.sent.isNone

/-- What is left to do in a run: its phases, its replies, its messages and its time. -/
def workLeft (config : Config) (start : Instant) (state : Collect) : Nat :=
  phaseWeight state.phase + 4 * unsent state.threads.workers + 3 * state.threads.queue.length +
    -- Time is counted only up to the deadline.
    (start + config.timeout - state.threads.now)

section Ending

variable {clock : Clock} {config : Config} {orders : Orders} {mode : Mode} {script : Script}
  {start : Instant} {state : Collect}

/-- After a message the resolver is at the head of its loop, or has ended. -/
theorem receive_weight (deadline : Option Instant) (message : WorkerMessage)
    (rest : List WorkerMessage) :
    phaseWeight (state.receive mode config deadline message rest).phase ≤ 3 := by
  -- The loop goes on at its head, or has ended.
  rcases @Collect.receive_phase config mode deadline message rest state with looping | won
  · rw [looping]
    exact Nat.le_refl 3
  · obtain ⟨_, result, ended⟩ := won
    rw [ended]
    exact Nat.zero_le 3

/-- A resolver that is starting workers can go on as the script says. -/
theorem spawning_progress (onTime : OnTime clock config mode script start state)
    {provider : BoxedBlockingProvider} {id : Nat} {todo : List (BoxedBlockingProvider × Nat)}
    (here : state.phase = .spawning ((provider, id) :: todo)) :
    ∃ state', Step clock config orders mode script state state' ∧
      workLeft config start state' < workLeft config start state := by
  -- Starting a worker replaces a whole round by one reply.
  cases failure : script.spawnError id with
  -- The script lets the worker start.
  | none =>
    refine ⟨_, .main (.spawn here) ⟨?_, onTime.starts.unstarted⟩, ?_⟩
    · intro worker member
      rcases List.mem_append.mp member with earlier | new
      · exact onTime.starts.workers worker earlier
      · rw [List.mem_singleton.mp new]
        exact failure
    · simp [workLeft, here, phaseWeight, Threads.spawn, unsent]
      omega
  -- The script has an error for it.
  | some text =>
    refine ⟨_, .main (.spawnFailed here text) ⟨onTime.starts.workers, ?_⟩, ?_⟩
    · intro entry member
      rcases List.mem_append.mp member with earlier | new
      · exact onTime.starts.unstarted entry earlier
      · rw [List.mem_singleton.mp new]
        exact failure
    · simp [workLeft, here, phaseWeight]

/-- A step that changes only the phase to one nearer the end can be taken. -/
theorem phase_progress (onTime : OnTime clock config mode script start state)
    {phase : Collect.Phase}
    (moved : Collect.MainStep clock config orders mode state { state with phase })
    (nearer : phaseWeight phase < phaseWeight state.phase) :
    ∃ state', Step clock config orders mode script state state' ∧
      workLeft config start state' < workLeft config start state := by
  -- Nothing but the phase counts for the difference.
  refine ⟨_, .main moved ⟨onTime.starts.workers, onTime.starts.unstarted⟩, ?_⟩
  simp only [workLeft]
  omega

/-- With no message, with time left and with senders left, the resolver has nothing to do. -/
theorem receiving_settled {deadline : Option Instant} {expires : Instant}
    (here : state.phase = .receiving deadline (some expires)) (empty : state.threads.queue = [])
    (early : state.threads.now < expires) (connected : ¬ state.threads.Disconnected)
    (state' : Collect) : ¬ Collect.MainStep clock config orders mode state state' := by
  -- Each of the three steps from here lacks its condition, and the others are elsewhere.
  intro moved
  cases moved with
  | receive _ head =>
    rw [empty] at head
    cases head
  | timedOut other _ late =>
    rw [here] at other
    cases other
    exact Nat.not_le_of_lt early late
  | disconnected _ _ hungUp => exact connected hungUp
  | spawn other => rw [here] at other; cases other
  | spawnFailed other text => rw [here] at other; cases other
  | enter other => rw [here] at other; cases other
  | drained other _ => rw [here] at other; cases other
  | expired other _ _ => rw [here] at other; cases other
  | check other _ _ => rw [here] at other; cases other
  | block other => rw [here] at other; cases other

/-- A resolver that waits for a message gets it, or gives up, or time passes. -/
theorem receiving_progress (onTime : OnTime clock config mode script start state)
    (tracked : state.Tracked config script.calls) {deadline expires : Option Instant}
    (here : state.phase = .receiving deadline expires) :
    ∃ state', Step clock config orders mode script state state' ∧
      workLeft config start state' < workLeft config start state := by
  -- The cases are tried in the order of their urgency.
  have placed := onTime.phase
  rw [here] at placed
  obtain ⟨inside, _, expires, _⟩ := placed
  cases expires
  cases head : state.threads.queue with
  -- A message that has arrived is received.
  | cons message rest =>
    refine ⟨_, .main (.receive here head) ⟨?_, ?_⟩, ?_⟩
    · rw [Collect.receive_threads]
      exact onTime.starts.workers
    · rw [Collect.receive_unstarted]
      exact onTime.starts.unstarted
    · have light := @receive_weight config mode state deadline message rest
      have weight : phaseWeight state.phase = 1 := by rw [here]; rfl
      simp only [workLeft, Collect.receive_threads, head, weight, List.length_cons]
      omega
  | nil =>
    -- Otherwise the deadline may have come.
    by_cases late : start + config.timeout ≤ state.threads.now
    · exact phase_progress onTime (.timedOut here head late) (by simp [here, phaseWeight])
    -- All workers may have replied.
    by_cases hungUp : state.threads.Disconnected
    · exact phase_progress onTime (.disconnected here head hungUp) (by simp [here, phaseWeight])
    -- A reply may be due now.
    by_cases due : ∃ worker ∈ state.threads.workers, worker.sent = none ∧
        script.repliesAt worker = some state.threads.now
    · obtain ⟨worker, member, quiet, now⟩ := due
      obtain ⟨before, after, running⟩ := List.append_of_mem member
      refine ⟨_, .reply running quiet now, ?_⟩
      have opened := tracked.open_tx worker member
      simp only [workLeft, Threads.reply, Threads.send, if_pos opened, running, unsent,
        List.countP_append, List.countP_cons, quiet, List.length_append, List.length_singleton]
      simp
      omega
    · -- Nothing is due, so a nanosecond passes.
      push Not at due
      have early := Nat.lt_of_not_le late
      refine ⟨_, .tick (receiving_settled here head early hungUp) due (early.trans_le inside), ?_⟩
      simp only [workLeft]
      omega

/-- An undelayed run that has not come to its end can go on, with less to do. -/
theorem progress (onTime : OnTime clock config mode script start state)
    (tracked : state.Tracked config script.calls) (running : ∀ answer, state.phase ≠ .done answer) :
    ∃ state', Step clock config orders mode script state state' ∧
      workLeft config start state' < workLeft config start state := by
  -- Outside the receiver, each phase has its next step.
  cases here : state.phase with
  | spawning todo =>
    cases todo with
    | nil => exact phase_progress onTime (.enter here) (by simp [here, phaseWeight])
    | cons entry todo => exact spawning_progress onTime here
  | looping deadline =>
    cases drained : state.pending.isEmpty with
    | true => exact phase_progress onTime (.drained here drained) (by simp [here, phaseWeight])
    | false =>
      by_cases late : Collect.remaining deadline state.threads.now = 0
      · exact phase_progress onTime (.expired here drained late) (by simp [here, phaseWeight])
      · exact phase_progress onTime (.check here drained late) (by simp [here, phaseWeight])
  | waiting deadline remaining =>
    exact phase_progress onTime (.block here) (by simp [here, phaseWeight])
  | receiving deadline expires => exact receiving_progress onTime tracked here
  | done answer => exact absurd here (running answer)

end Ending

/-- From the start there is an undelayed run to the end. -/
theorem exists_end (clock : Clock) (config : Config) (orders : Orders) (mode : Mode)
    (script : Script) (start : Instant) :
    ∃ state answer, Reaches clock config orders mode script start state ∧
      state.phase = .done answer := by
  -- The work that is left decreases, so the run comes to its end.
  have kept {before after : Collect}
      (laws : before.Tracked config script.calls ∧ OnTime clock config mode script start before)
      (moved : Step clock config orders mode script before after) :
      after.Tracked config script.calls ∧ OnTime clock config mode script start after :=
    ⟨tracked_of_step laws.1 moved, laws.2.step laws.1 moved⟩
  obtain ⟨state, run, answer, ended⟩ := @run_ends _ (Step clock config orders mode script)
    (fun state => state.Tracked config script.calls ∧ OnTime clock config mode script start state)
    (fun state => ∃ answer, state.phase = .done answer) (workLeft config start) kept
    (fun laws running => progress laws.2 laws.1 fun answer ended => running ⟨answer, ended⟩)
    (Collect.init config start) ⟨Collect.init_tracked config script.calls start, init_onTime start⟩
  exact ⟨state, answer, run, ended⟩

/-! ## Who wins -/

/--
Enough providers agree within some delays.

One success is enough for a race. A consensus needs as many as were asked for, with one address.
-/
def Winning (config : Config) (mode : Mode) (script : Script) (prompt : Duration → Prop) : Prop :=
  ∃ (ip : IpAddr) (positions : Finset Nat), positions.Nonempty ∧
    (∀ minAgree, mode = .consensus minAgree → minAgree ≤ positions.card) ∧
    config.version.matches ip = true ∧
    ∀ position ∈ positions, position < (matchingProviders config).length ∧
      script.spawnError position = none ∧ script.calls position = .returned (.ok ip) ∧
      ∃ delay, script.delay position = some delay ∧ prompt delay

/-- Who wins within some delays also wins within weaker ones. -/
theorem Winning.imp {config : Config} {mode : Mode} {script : Script}
    {prompt prompt' : Duration → Prop} (winning : Winning config mode script prompt)
    (weaker : ∀ delay, prompt delay → prompt' delay) : Winning config mode script prompt' := by
  -- Only the delays are read differently.
  obtain ⟨ip, positions, some_agree, enough, family, agree⟩ := winning
  refine ⟨ip, positions, some_agree, enough, family, ?_⟩
  intro position member
  obtain ⟨inside, starts, returned, delay, known, early⟩ := agree position member
  exact ⟨inside, starts, returned, delay, known, weaker delay early⟩

section Winners

variable {clock : Clock} {config : Config} {orders : Orders} {mode : Mode} {script : Script}
  {start : Instant} {state : Collect}

/-- A provider that replies early enough is heard before the resolver stops. -/
theorem heard_of_prompt (reached : Reaches clock config orders mode script start state)
    (started : state.phase.todo = []) (heard : AllHeard script config.timeout state)
    {position : Nat} (inside : position < (matchingProviders config).length)
    (starts : script.spawnError position = none) {delay : Duration}
    (known : script.delay position = some delay) (early : delay < config.timeout) :
    ∃ message ∈ state.received, message.id = position := by
  -- Its worker was started, because the script lets it start.
  have ids := reached.laws.1.started_ids started
  rcases List.mem_append.mp (ids.mem_iff.mpr (List.mem_range.mpr inside)) with running | unstarted
  · obtain ⟨worker, member, rfl⟩ := List.mem_map.mp running
    rcases heard worker member with received | late
    · obtain ⟨message, inside, same⟩ := List.mem_map.mp received
      exact ⟨message, inside, same⟩
    · exact absurd early (Nat.not_lt_of_le (late delay known))
  -- A provider that could not be started contradicts the script.
  · obtain ⟨entry, member, rfl⟩ := List.mem_map.mp unstarted
    have failed := reached.onTime.starts.unstarted entry member
    rw [starts] at failed
    cases failed

/-- A received success is that of a provider that has replied within a timeout that can end. -/
theorem prompt_of_heard (reached : Reaches clock config orders mode script start state)
    {message : WorkerMessage} (member : message ∈ state.received) {result : ProviderResult}
    (validated : message.outcome config.version = .ok result) :
    message.id < (matchingProviders config).length ∧ script.spawnError message.id = none ∧
      script.calls message.id = .returned (.ok result.ip) ∧
      ∃ delay, script.delay message.id = some delay ∧ delay ≤ config.timeout := by
  -- The message is its provider's own, and was received on time.
  obtain ⟨tracked, _⟩ := reached.laws
  obtain ⟨worker, inside, _, same⟩ := tracked.sender (List.mem_append_left _ member)
  obtain ⟨reported, _⟩ := WorkerMessage.outcome_eq_ok validated
  obtain ⟨provider, located, _, _, returned⟩ := (tracked.genuine member).returned reported
  refine ⟨(List.getElem?_eq_some_iff.mp located).1, ?_, returned,
    (reached.onTime.received message member).2⟩
  rw [same]
  exact reached.onTime.starts.workers worker inside

/-- Enough providers that reply in less than the timeout make every run answer. -/
theorem answers_of_winning (inside : start + config.timeout ≤ clock.maxInstant)
    (winning : Winning config mode script fun delay => delay < config.timeout)
    (reached : Reaches clock config orders mode script start state)
    {answer : Except Error ProviderResult} (ended : state.phase = .done answer) :
    ∃ result, answer = .ok result := by
  -- The run has stopped with a race won, or with all prompt providers heard.
  obtain ⟨tracked, recorded⟩ := reached.laws
  rcases reached.onTime.stopped inside answer ended with ⟨_, success⟩ | heard
  · exact success
  · -- All winners were heard, and their successes are recorded.
    obtain ⟨ip, positions, ⟨first, among⟩, enough, family, agree⟩ := winning
    have voted : ∀ position ∈ positions, ∃ result,
        (position, .ok result) ∈ state.settled config orders ∧ result.ip = ip := by
      intro position member
      obtain ⟨placed, starts, returned, delay, known, early⟩ := agree position member
      obtain ⟨message, received, same⟩ :=
        heard_of_prompt reached (by rw [ended]; rfl) heard placed starts known early
      obtain ⟨result, validated, named⟩ := (tracked.genuine received).validates
        (by rw [same]; exact returned) family
      exact ⟨result, Collect.mem_settled_ok.mpr ⟨message, received, same, validated⟩, named⟩
    cases mode with
    -- One of these successes would have ended the race.
    | race =>
      obtain ⟨result, settled, _⟩ := voted first among
      obtain ⟨message, received, _, validated⟩ := Collect.mem_settled_ok.mp settled
      rcases recorded.race rfl with none_succeeded | ⟨winner, stopped, _⟩
      · have member : result ∈ successes (state.outcomesReceived config) :=
          mem_successes.mpr (List.mem_map.mpr ⟨message, received, validated⟩)
        rw [none_succeeded] at member
        cases member
      · rw [ended] at stopped
        cases stopped
        exact ⟨winner, rfl⟩
    -- They are enough support for their address.
    | consensus minAgree =>
      have supported := card_le_support voted
      have positive := Finset.card_pos.mpr ⟨first, among⟩
      have wanted := enough minAgree rfl
      rw [recorded.consensus_answer ended]
      exact consensusOf_answers orders.ipResults minAgree (state.outcomes config orders)
        (show 0 < support ((state.settled config orders).map Prod.snd) ip by omega)
        (show minAgree ≤ support ((state.settled config orders).map Prod.snd) ip by omega)

/-- A run that answers has a deadline, and enough providers that reply within the timeout. -/
theorem winning_of_answer (reached : Reaches clock config orders mode script start state)
    {result : ProviderResult} (ended : state.phase = .done (.ok result)) :
    start + config.timeout ≤ clock.maxInstant ∧
      Winning config mode script fun delay => delay ≤ config.timeout := by
  -- The winners are those who have been heard with the address of the answer.
  obtain ⟨tracked, recorded⟩ := reached.laws
  have inside := fun message member => (reached.onTime.received message member).1
  cases mode with
  -- A race is won by the sender of its last message.
  | race =>
    rcases recorded.answer _ ended with failure | success
    · cases failure
    · obtain ⟨_, winner, same, member⟩ := success
      cases same
      obtain ⟨message, received, validated⟩ := List.mem_map.mp member
      obtain ⟨_, family, _⟩ := WorkerMessage.outcome_eq_ok validated
      refine ⟨inside message received, result.ip, {message.id}, Finset.singleton_nonempty _, nofun,
        family, ?_⟩
      intro position chosen
      rw [Finset.mem_singleton.mp chosen]
      exact prompt_of_heard reached received validated
  -- A consensus is won by the supporters of the answer.
  | consensus minAgree =>
    have selected := recorded.consensus_answer ended
    obtain ⟨enough, member, _⟩ := consensusOf_eq_ok orders.ipResults minAgree _ selected.symm
    have ids := tracked.settled_ids (by rw [ended]; rfl) orders
    have once : (supporters (state.settled config orders) result.ip).Nodup :=
      (ids.nodup_iff.mpr List.nodup_range).sublist (List.filter_sublist.map Prod.fst)
    obtain ⟨⟨position, outcome⟩, settled, same⟩ := List.mem_map.mp member
    cases same
    obtain ⟨message, received, _, validated⟩ := Collect.mem_settled_ok.mp settled
    obtain ⟨_, family, _⟩ := WorkerMessage.outcome_eq_ok validated
    refine ⟨inside message received, result.ip,
      (supporters (state.settled config orders) result.ip).toFinset,
      ⟨position, List.mem_toFinset.mpr (mem_supporters.mpr ⟨result, settled, rfl⟩)⟩, ?_, family, ?_⟩
    · intro asked same
      cases same
      rw [List.toFinset_card_of_nodup once, supporters_length]
      exact enough
    · intro other chosen
      obtain ⟨success, inside, named⟩ := mem_supporters.mp (List.mem_toFinset.mp chosen)
      obtain ⟨message, received, placed, validated⟩ := Collect.mem_settled_ok.mp inside
      rw [← placed, ← named]
      exact prompt_of_heard reached received validated

/-- Where the deadline cannot be represented, nobody is heard. -/
theorem unheard_of_unrepresentable (outside : clock.maxInstant < start + config.timeout)
    (reached : Reaches clock config orders mode script start state) : state.received = [] := by
  -- Every received message has a deadline behind it.
  apply List.eq_nil_iff_forall_not_mem.mpr
  intro message member
  exact absurd outside (Nat.not_lt_of_le (reached.onTime.received message member).1)

end Winners

/-! ## Longer timeouts -/

section Timeouts

variable (clock : Clock) (config : Config) (mode : Mode) (script : Script) (start : Instant)

/-- An undelayed run of race or consensus that starts at some instant may give this answer. -/
def Answers (orders : Orders) (answer : Except Error ProviderResult) : Prop :=
  Blocking.start config = .collect mode ∧ ∃ state,
    Reaches clock config orders mode script start state ∧ state.phase = .done answer

/-- Some undelayed run returns a result. -/
def MayAnswer : Prop := ∃ orders result, Answers clock config mode script start orders (.ok result)

/-- Every undelayed run returns a result. -/
def MustAnswer : Prop := ∀ orders answer, Answers clock config mode script start orders answer →
  ∃ result, answer = .ok result

/-- The resolver answers with the second timeout where it answers with the first. -/
def Keeps (timeout timeout' : Duration) : Prop :=
  (MayAnswer clock { config with timeout } mode script start →
    MayAnswer clock { config with timeout := timeout' } mode script start) ∧
  (MustAnswer clock { config with timeout } mode script start →
    MustAnswer clock { config with timeout := timeout' } mode script start)

/-- An error that is returned reports this provider as timed out. -/
def TimedOut (state : Collect) (id : Nat) : Prop :=
  ∃ e, state.phase = .done (.error e) ∧ id ∈ state.pending.entries.map Prod.fst

/-- A provider that replies within the timeout is not reported as timed out. -/
def Hears (timeout : Duration) : Prop :=
  ∀ orders state id delay, Blocking.start { config with timeout } = .collect mode →
    Reaches clock { config with timeout } orders mode script start state →
    script.spawnError id = none → script.delay id = some delay → delay < timeout →
    ¬ TimedOut state id

end Timeouts

section Longer

variable {clock : Clock} {config : Config} {mode : Mode} {script : Script} {start : Instant}
  {timeout timeout' : Duration}

/-- A positive timeout does not decide whether the loop is entered. -/
theorem start_timeout (started : Blocking.start { config with timeout } = .collect mode)
    (positive : 0 < timeout') :
    Blocking.start { config with timeout := timeout' } = .collect mode := by
  -- The other two conditions do not mention the timeout.
  obtain ⟨some_match, _, strategy⟩ := start_eq_collect.mp started
  exact start_eq_collect.mpr ⟨some_match, Nat.pos_iff_ne_zero.mp positive, strategy⟩

/-- What may be answered within some timeout must be answered within a longer one. -/
theorem must_of_may (longer : timeout < timeout') (inside : start + timeout' ≤ clock.maxInstant)
    (may : MayAnswer clock { config with timeout } mode script start) :
    MustAnswer clock { config with timeout := timeout' } mode script start := by
  -- Who wins within the one timeout replies in less than the other.
  obtain ⟨_, result, _, state, reached, ended⟩ := may
  obtain ⟨_, winning⟩ := winning_of_answer reached ended
  have wins : Winning { config with timeout } mode script fun delay => delay < timeout' :=
    winning.imp fun delay within => Nat.lt_of_le_of_lt within longer
  intro orders answer answers
  obtain ⟨_, state', reached', ended'⟩ := answers
  exact answers_of_winning inside wins reached' ended'

/-- Where every run must answer, some run may, since some run ends. -/
theorem may_of_must (orders : Orders) (positive : 0 < timeout)
    (started : Blocking.start { config with timeout := timeout' } = .collect mode)
    (must : MustAnswer clock { config with timeout } mode script start) :
    MayAnswer clock { config with timeout } mode script start := by
  obtain ⟨state, answer, reached, ended⟩ :=
    exists_end clock { config with timeout } orders mode script start
  have answers : Answers clock { config with timeout } mode script start orders answer :=
    ⟨start_timeout started positive, state, reached, ended⟩
  obtain ⟨result, rfl⟩ := must orders answer answers
  exact ⟨orders, result, answers⟩

/-- A timeout whose deadline can be represented keeps the answers of every shorter one. -/
theorem keeps_of_representable (positive : 0 < timeout) (longer : timeout ≤ timeout')
    (inside : start + timeout' ≤ clock.maxInstant) :
    Keeps clock config mode script start timeout timeout' := by
  -- Equal timeouts keep everything, and for unequal ones there is a run to the end.
  rcases Nat.eq_or_lt_of_le longer with same | longer
  · rw [same]
    exact ⟨id, id⟩
  refine ⟨?_, ?_⟩
  · -- Some run with the longer timeout ends, and it must answer.
    intro may
    obtain ⟨orders, _, started, _⟩ := id may
    obtain ⟨state, answer, reached, ended⟩ :=
      exists_end clock { config with timeout := timeout' } orders mode script start
    have answers : Answers clock { config with timeout := timeout' } mode script start orders
        answer :=
      ⟨start_timeout started (Nat.lt_trans positive longer), state, reached, ended⟩
    obtain ⟨result, rfl⟩ := must_of_may longer inside may orders answer answers
    exact ⟨orders, result, answers⟩
  · -- Some run with the shorter timeout ends, and it has answered.
    intro must orders answer answers
    have may := may_of_must orders positive answers.1 must
    exact must_of_may longer inside may orders answer answers

/-- A timeout whose deadline cannot be represented has no answers to lose. -/
theorem not_mayAnswer (outside : clock.maxInstant < start + timeout) :
    ¬ MayAnswer clock { config with timeout } mode script start := by
  -- An answer would have had a deadline.
  intro may
  obtain ⟨orders, result, _, state, reached, ended⟩ := may
  exact absurd outside (Nat.not_lt_of_le (winning_of_answer reached ended).1)

/-- A timeout whose deadline cannot be represented loses nothing against any other. -/
theorem keeps_of_unrepresentable (positive : 0 < timeout)
    (outside : clock.maxInstant < start + timeout) :
    Keeps clock config mode script start timeout timeout' := by
  -- No run with the first timeout answers, although some run ends.
  refine ⟨fun may => absurd may (not_mayAnswer outside), ?_⟩
  intro must orders answer answers
  exact absurd (may_of_must orders positive answers.1 must) (not_mayAnswer outside)

/-- A provider that replies before a representable deadline is heard. -/
theorem hears_of_representable (inside : start + timeout ≤ clock.maxInstant) :
    Hears clock config mode script start timeout := by
  -- A pending provider has not been heard, so it is not prompt.
  intro orders state id delay _ reached starts known early late
  obtain ⟨e, ended, waiting⟩ := late
  rcases reached.onTime.stopped inside _ ended with ⟨_, _, impossible⟩ | heard
  · cases impossible
  · rw [reached.laws.1.pending, List.map_map] at waiting
    obtain ⟨worker, awaits, same⟩ := List.mem_map.mp waiting
    obtain ⟨member, unheard⟩ := List.mem_filter.mp awaits
    rcases heard worker member with received | slow
    · exact absurd received (of_decide_eq_true unheard)
    · have same : worker.id = id := same
      exact absurd early (Nat.not_lt_of_le (slow delay (by rw [same]; exact known)))

/-! ## The unrepresentable deadline -/

/-- As many providers as a mode needs to answer. -/
def promptCount : Mode → Nat
  | .race => 1
  | .consensus minAgree => max minAgree 1

/-- A configuration of alike providers, as many as its mode needs to answer. -/
def promptConfig (mode : Mode) : Config where
  blockingProviders := List.replicate (promptCount mode) ⟨"Custom", .http, fun _ => true⟩
  providers := []
  timeout := 0
  version := .any
  strategy := mode.strategy

/-- A script in which every provider replies at once, with one address. -/
def promptScript : Script where
  spawnError := fun _ => none
  calls := fun _ => .returned (.ok (ipv4 203 0 113 7))
  delay := fun _ => some 0

/-- Every mode needs at least one provider to answer. -/
theorem promptCount_pos (mode : Mode) : 0 < promptCount mode := by
  cases mode with
  | race => exact Nat.one_pos
  | consensus minAgree => exact Nat.lt_of_lt_of_le Nat.one_pos (Nat.le_max_right minAgree 1)

/-- All providers of the configuration match. -/
theorem promptConfig_length (mode : Mode) (timeout : Duration) :
    (matchingProviders { promptConfig mode with timeout }).length = promptCount mode := by
  simp [matchingProviders, promptConfig]

/-- With a positive timeout, the configuration starts its collection. -/
theorem promptConfig_starts (positive : 0 < timeout) :
    Blocking.start { promptConfig mode with timeout } = .collect mode := by
  -- At least one provider matches.
  refine start_eq_collect.mpr ⟨?_, Nat.pos_iff_ne_zero.mp positive, rfl⟩
  apply List.ne_nil_of_length_pos
  rw [promptConfig_length]
  exact promptCount_pos mode

/-- Providers that reply at once win within every positive timeout. -/
theorem promptConfig_winning (positive : 0 < timeout) :
    Winning { promptConfig mode with timeout } mode promptScript fun delay => delay < timeout := by
  -- All of them return the same address, without delay.
  refine ⟨ipv4 203 0 113 7, Finset.range (promptCount mode),
    ⟨0, Finset.mem_range.mpr (promptCount_pos mode)⟩, ?_, rfl, ?_⟩
  · intro minAgree same
    rw [same, Finset.card_range]
    exact Nat.le_max_left minAgree 1
  · intro position member
    refine ⟨?_, rfl, rfl, 0, rfl, positive⟩
    rw [promptConfig_length]
    exact Finset.mem_range.mp member

/-- They are answered while the deadline can be represented. -/
theorem promptConfig_mayAnswer (positive : 0 < timeout)
    (inside : start + timeout ≤ clock.maxInstant) :
    MayAnswer clock { promptConfig mode with timeout } mode promptScript start := by
  -- Some run ends, and it answers as they win.
  obtain ⟨state, answer, reached, ended⟩ := exists_end clock { promptConfig mode with timeout }
    ⟨.inserted, .inserted⟩ mode promptScript start
  obtain ⟨result, rfl⟩ := answers_of_winning inside (promptConfig_winning positive) reached ended
  exact ⟨_, result, promptConfig_starts positive, state, reached, ended⟩

/-- Otherwise the first of them is reported as timed out, although it has replied at once. -/
theorem promptConfig_not_hears (positive : 0 < timeout)
    (outside : clock.maxInstant < start + timeout) :
    ¬ Hears clock (promptConfig mode) mode promptScript start timeout := by
  -- Some run ends, and nobody was heard in it.
  intro hears
  obtain ⟨state, answer, reached, ended⟩ := exists_end clock { promptConfig mode with timeout }
    ⟨.inserted, .inserted⟩ mode promptScript start
  apply hears _ state 0 0 (promptConfig_starts positive) reached rfl rfl positive
  cases answer with
  | ok result => exact absurd outside (Nat.not_lt_of_le (winning_of_answer reached ended).1)
  | error e =>
    refine ⟨e, ended, ?_⟩
    -- Its worker was started, and nobody was heard.
    have ids := reached.laws.1.started_ids (by rw [ended]; rfl)
    have first : 0 ∈ List.range (promptCount mode) := List.mem_range.mpr (promptCount_pos mode)
    rw [← promptConfig_length mode timeout, ← ids.mem_iff] at first
    rcases List.mem_append.mp first with running | unstarted
    · obtain ⟨worker, member, same⟩ := List.mem_map.mp running
      rw [reached.laws.1.pending, List.map_map]
      refine List.mem_map.mpr ⟨worker, List.mem_filter.mpr ⟨member, ?_⟩, same⟩
      rw [unheard_of_unrepresentable outside reached]
      rfl
    · obtain ⟨entry, member, _⟩ := List.mem_map.mp unstarted
      cases reached.onTime.starts.unstarted entry member

/--
A longer timeout keeps every answer exactly when its deadline can be represented, or when the
deadline of the shorter one cannot. Nobody who replies in time is reported as timed out exactly
when the deadline can be represented.
-/
theorem longer_timeout_iff (positive : 0 < timeout) (longer : timeout ≤ timeout') :
    ((∀ config script, Keeps clock config mode script start timeout timeout') ↔
      start + timeout' ≤ clock.maxInstant ∨ clock.maxInstant < start + timeout) ∧
    ((∀ config script, Hears clock config mode script start timeout') ↔
      start + timeout' ≤ clock.maxInstant) := by
  -- The prompt providers decide both conditions.
  have positive' : 0 < timeout' := Nat.lt_of_lt_of_le positive longer
  refine ⟨⟨?_, ?_⟩, ⟨?_, ?_⟩⟩
  · -- They are answered with the first timeout, and not with the second.
    intro keeps
    by_contra fails
    obtain ⟨outside, inside⟩ := not_or.mp fails
    have answered := @promptConfig_mayAnswer clock mode start timeout positive
      (Nat.le_of_not_lt inside)
    exact not_mayAnswer (Nat.lt_of_not_le outside)
      ((keeps (promptConfig mode) promptScript).1 answered)
  · intro condition config script
    rcases condition with inside | outside
    · exact keeps_of_representable positive longer inside
    · exact keeps_of_unrepresentable positive outside
  · -- They are not heard without a deadline.
    intro hears
    by_contra outside
    exact promptConfig_not_hears positive' (Nat.lt_of_not_le outside) (hears _ _)
  · intro inside config script
    exact hears_of_representable inside

/-- A clock whose instants count signed 64-bit seconds. -/
def unixClock : Clock := ⟨2 ^ 63 * 10 ^ 9 - 1⟩

/-- Ten seconds lose no answer that one second finds. -/
theorem longer_timeout_seconds :
    Keeps unixClock (promptConfig .race) .race promptScript 0 (10 ^ 9) (10 * 10 ^ 9) :=
  (longer_timeout_iff (by decide) (by decide)).1.mpr (Or.inl (by decide)) _ _

/-- The longest timeout loses the answer of a provider that replies at once. -/
theorem longest_timeout_loses :
    ¬ ∀ clock config mode script start timeout timeout', 0 < timeout → timeout ≤ timeout' →
      timeout' ≤ Duration.max → Keeps clock config mode script start timeout timeout' := by
  intro keeps
  have kept := keeps unixClock (promptConfig .race) .race promptScript 0 (10 ^ 9) Duration.max
    (by decide) (by decide) (Nat.le_refl _)
  exact not_mayAnswer (by decide) (kept.1 (promptConfig_mayAnswer (by decide) (by decide)))

end Longer

end IpDiscovery.Blocking.Undelayed
