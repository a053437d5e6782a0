import IpDiscovery.Blocking.Answers

/-! Race and consensus account for every provider once, and a race returns its first success. -/

namespace IpDiscovery.Blocking

open Relation

namespace Collect

/-- The phases between the deadline's being set and the answer. -/
def Phase.InLoop : Phase → Prop
  | .looping _ => True
  | .waiting _ _ => True
  | .receiving _ _ => True
  | _ => False

/-- The successes the resolver has recorded, all groups together. -/
def votes (state : Collect) : Nat := state.ipResults.total

/-- `pending.into_values().map(timeout_error)`. -/
def timeouts (orders : Orders) (state : Collect) : List ProviderError :=
  (orders.pending.values state.pending).map timeoutError

/-- What a race knows: all messages so far have lost, but for the last one of a race that is won. -/
structure Raced (config : Config) (state : Collect) : Prop where
  ipResults : state.ipResults = .empty
  lost : (∀ result, state.phase ≠ .done (.ok result)) →
    ∀ message ∈ state.received, message.Loses config.version
  won : ∀ result, state.phase = .done (.ok result) →
    ∃ before message, state.received = before ++ [message] ∧
      message.outcome config.version = .ok result ∧
      ∀ earlier ∈ before, earlier.Loses config.version

section Laws

variable {clock : Clock} {config : Config} {calls : Calls} {orders : Orders} {mode : Mode}
  {state state' : Collect}

/-! ## The race -/

/-- At the start, nothing has been received, so nothing has lost. -/
theorem init_raced (config : Config) (now : Instant) : (init config now).Raced config where
  ipResults := rfl
  lost := fun _ message member => absurd member List.not_mem_nil
  won := by
    intro result ended
    cases ended

/-- A step that receives nothing and does not win leaves the race where it is. -/
theorem Raced.keep (raced : state.Raced config) (running : ∀ answer, state.phase ≠ .done answer)
    (received : state'.received = state.received) (ipResults : state'.ipResults = state.ipResults)
    (unwon : ∀ result, state'.phase ≠ .done (.ok result)) : state'.Raced config where
  ipResults := ipResults.trans raced.ipResults
  lost := by
    intro _ message member
    rw [received] at member
    exact raced.lost (fun result => running _) message member
  won := fun result ended => absurd ended (unwon result)

/-- A received message loses, or wins behind messages that all have lost. -/
theorem Raced.receive (raced : state.Raced config) (running : ∀ answer, state.phase ≠ .done answer)
    (deadline : Option Instant) (message : WorkerMessage) (rest : List WorkerMessage) :
    (state.receive .race config deadline message rest).Raced config := by
  have before := raced.lost fun result => running _
  cases outcome : message.outcome config.version with
  | error error =>
    rw [receive_failure deadline message rest state outcome]
    -- One more message has lost.
    refine ⟨raced.ipResults, ?_, by simp⟩
    intro _ other member
    rcases List.mem_append.mp member with earlier | last
    · exact before other earlier
    · rw [List.mem_singleton.mp last]
      exact WorkerMessage.loses_iff.mpr ⟨error, outcome⟩
  | ok result =>
    rw [receive_race deadline message rest state outcome]
    -- The message wins, and all before it have lost.
    refine ⟨raced.ipResults, ?_, ?_⟩
    · intro unwon
      exact absurd rfl (unwon result)
    · intro result' ended
      cases ended
      exact ⟨state.received, message, rfl, outcome, before⟩

/-- Every step of the resolver keeps the race. -/
theorem Raced.main (raced : state.Raced config)
    (moved : MainStep clock config orders .race state state') : state'.Raced config := by
  -- Only receiving adds a message, and only receiving wins.
  cases moved with
  | receive here head => exact raced.receive (by simp [here]) _ _ _
  | spawn here => exact raced.keep (by simp [here]) rfl rfl (by simp)
  | spawnFailed here text => exact raced.keep (by simp [here]) rfl rfl (by simp)
  | enter here => exact raced.keep (by simp [here]) rfl rfl (by simp)
  | check here some_pending early => exact raced.keep (by simp [here]) rfl rfl (by simp)
  | block here => exact raced.keep (by simp [here]) rfl rfl (by simp)
  | drained here none_pending =>
    exact raced.keep (by simp [here]) rfl rfl (by simp [stop, finish])
  | expired here some_pending late =>
    exact raced.keep (by simp [here]) rfl rfl (by simp [stop, finish])
  | timedOut here empty late => exact raced.keep (by simp [here]) rfl rfl (by simp [stop, finish])
  | disconnected here empty hungUp =>
    exact raced.keep (by simp [here]) rfl rfl (by simp [stop, finish])

/-- All along a run, a race knows of everything it has received. -/
theorem raced_of_run {now : Instant}
    (run : ReflTransGen (Step clock config orders .race calls) (init config now) state) :
    state.Raced config := by
  have kept {before after : Collect} (raced : before.Raced config)
      (moved : Step clock config orders .race calls before after) : after.Raced config := by
    cases moved with
    | main moved => exact raced.main moved
    -- Threads have no part in what was received.
    | beside moved => exact ⟨raced.ipResults, raced.lost, raced.won⟩
  exact @invariant_of_run _ _ (Raced config) kept _ _ (init_raced config now) run

/-! ## Counting -/

/-- The ids in the pending map are those of the started workers that have not been heard. -/
theorem Tracked.mem_pending (tracked : state.Tracked config calls) {id : Nat} :
    id ∈ state.pending.entries.map Prod.fst ↔
      id ∈ state.threads.workers.map Worker.id ∧ id ∉ state.received.map WorkerMessage.id := by
  -- The entries of the map are the awaited workers.
  rw [tracked.pending, List.map_map]
  constructor
  · intro waiting
    obtain ⟨worker, member, same⟩ := List.mem_map.mp waiting
    obtain ⟨started, silent⟩ := List.mem_filter.mp member
    dsimp only [Function.comp_apply] at same
    subst same
    exact ⟨List.mem_map.mpr ⟨worker, started, rfl⟩, of_decide_eq_true silent⟩
  · intro known
    obtain ⟨worker, started, same⟩ := List.mem_map.mp known.1
    subst same
    exact List.mem_map.mpr ⟨worker, List.mem_filter.mpr ⟨started, decide_eq_true known.2⟩, rfl⟩

/-- The successes and failures among some outcomes are all of them. -/
theorem successes_add_failures (outcomes : List Outcome) :
    (successes outcomes).length + (failures outcomes).length = outcomes.length := by
  induction outcomes with
  | nil => rfl
  | cons outcome rest ih =>
    -- Every outcome is counted on exactly one of the two sides.
    cases outcome with
    | error e =>
      simp only [successes, failures, List.filterMap_cons, Except.toOption, List.length_cons]
        at ih ⊢
      omega
    | ok result =>
      simp only [successes, failures, List.filterMap_cons, Except.toOption, List.length_cons]
        at ih ⊢
      omega

/-- What is recorded and what is pending add up to the providers, once all have been started. -/
theorem Tracked.count (tracked : state.Tracked config calls)
    (recorded : state.Recorded config orders mode) (started : state.phase.todo = []) :
    state.errors.length + (successes (state.outcomesReceived config)).length +
      state.pending.entries.length = (matchingProviders config).length := by
  -- Every provider has a worker or none, and every worker is heard or awaited.
  have participants := (tracked.started_ids started).length_eq
  have workers := tracked.heard.length_eq
  have heard := successes_add_failures (state.outcomesReceived config)
  have errors := congrArg List.length recorded.errors
  have pending := congrArg List.length tracked.pending
  simp only [outcomesReceived, List.length_append, List.length_map, List.length_range] at *
  omega

/-- The timeouts added at the end are one for each awaited worker, under its provider's name. -/
theorem Tracked.timeouts_perm (tracked : state.Tracked config calls) (orders : Orders) :
    (state.timeouts orders).Perm
      (state.awaited.map fun worker => timeoutError worker.provider.name) := by
  -- The map is visited in some order.
  have visited := (orders.pending.perm state.pending).map fun entry => timeoutError entry.2
  rw [tracked.pending, List.map_map] at visited
  rw [timeouts, HashOrder.values, List.map_map]
  exact visited

/-- A consensus has recorded all successes it has received. -/
theorem Recorded.votes_eq {minAgree : Nat}
    (recorded : state.Recorded config orders (.consensus minAgree)) :
    state.votes = (successes (state.outcomesReceived config)).length := by
  rw [votes, recorded.consensus minAgree rfl, groupVotes_total]

/-- A race that is not won has recorded no success, and received none. -/
theorem Raced.votes_eq (raced : state.Raced config)
    (unwon : ∀ result, state.phase ≠ .done (.ok result)) :
    state.votes = 0 ∧ successes (state.outcomesReceived config) = [] := by
  refine ⟨by rw [votes, raced.ipResults]; rfl, ?_⟩
  rw [successes, List.filterMap_eq_nil_iff]
  intro outcome member
  obtain ⟨message, received, same⟩ := List.mem_map.mp member
  obtain ⟨error, lost⟩ := WorkerMessage.loses_iff.mp (raced.lost unwon message received)
  rw [← same, lost]
  rfl

/-- Recorded errors, recorded successes and pending providers add up, wherever nothing is won. -/
theorem count_of_run {now : Instant}
    (run : ReflTransGen (Step clock config orders mode calls) (init config now) state)
    (started : state.phase.todo = [])
    (unwon : mode = .race → ∀ result, state.phase ≠ .done (.ok result)) :
    state.errors.length + state.votes + state.pending.entries.length =
      (matchingProviders config).length := by
  obtain ⟨tracked, recorded⟩ := laws_of_run run
  have total := tracked.count recorded started
  -- A race records no success, and a consensus records all of them.
  cases mode with
  | race =>
    obtain ⟨none_voted, none_succeeded⟩ := (raced_of_run run).votes_eq (unwon rfl)
    rw [none_voted]
    rwa [none_succeeded] at total
  | consensus minAgree =>
    rw [recorded.votes_eq]
    exact total

/-- The errors at the end are those recorded, and a timeout for each pending provider. -/
theorem finalErrors_length (orders : Orders) (state : Collect) :
    (state.finalErrors orders).length = state.errors.length + state.pending.entries.length := by
  rw [finalErrors, List.length_append, List.length_map, HashOrder.values, List.length_map,
    (orders.pending.perm state.pending).length_eq]

/-! ## The channel -/

/-- All messages that were put into the channel, in order. -/
def channel (state : Collect) : List WorkerMessage := state.received ++ state.threads.queue

/-- A step adds to the end of the channel at most. -/
theorem channel_step (moved : Step clock config orders mode calls state state') :
    state.channel <+: state'.channel := by
  unfold channel
  cases moved with
  | main moved =>
    cases moved with
    -- The head of the queue changes lists.
    | receive here head =>
      rw [receive_received, receive_threads, head, List.append_assoc]
      exact List.prefix_rfl
    | _ => exact List.prefix_rfl
  | beside moved =>
    cases moved with
    | tick forward inside => exact List.prefix_rfl
    -- A message goes to the end of the open channel, or to nobody.
    | finish running silent latency =>
      simp only [Threads.reply, Threads.send]
      split
      · rw [← List.append_assoc]
        exact List.prefix_append _ _
      · exact List.prefix_rfl

/-- Whatever follows a state, the channel only grows at its end. -/
theorem channel_prefix (run : ReflTransGen (Step clock config orders mode calls) state state') :
    state.channel <+: state'.channel := by
  induction run with
  | refl => exact List.prefix_rfl
  | tail _ moved ih => exact ih.trans (channel_step moved)

/-- The received messages open the channel, which only grows. -/
theorem received_opens (run : ReflTransGen (Step clock config orders mode calls) state state') :
    state.received <+: state'.channel :=
  (List.prefix_append _ _).trans <| channel_prefix run

end Laws

end Collect

/-! ## Results -/

/-- The workers stand for different providers, those not heard are pending, and all add up. -/
structure Balanced (config : Config) (state : Collect) : Prop where
  workers : (state.threads.workers.map Worker.id).Nodup ∧ ∀ worker ∈ state.threads.workers,
    (matchingProviders config)[worker.id]? = some worker.provider
  pending : ∀ id, id ∈ state.pending.entries.map Prod.fst ↔
    id ∈ state.threads.workers.map Worker.id ∧ id ∉ state.received.map WorkerMessage.id
  count : state.errors.length + state.votes + state.pending.entries.length =
    (matchingProviders config).length

/-- The reported errors are those recorded, and a timeout for each worker that was not heard. -/
structure Reported (orders : Orders) (state : Collect) (errors : List ProviderError) : Prop where
  shape : errors = state.errors ++ state.timeouts orders
  timeouts : (state.timeouts orders).Perm
    ((state.threads.workers.filter fun worker =>
      worker.id ∉ state.received.map WorkerMessage.id).map
        fun worker => timeoutError worker.provider.name)

/--
Race and consensus account for every provider exactly once.

What is received is what the workers have sent, in the order of the channel. In the loop the pending
map holds the started workers that were not heard. A race that fails reports as many errors as
there are providers, and in a consensus the errors and the votes are as many. Without any time all
providers are reported as timed out.
-/
theorem every_provider_accounted (clock : Clock) (config : Config) (calls : Calls)
    (orders : Orders) :
    (∀ mode state, CollectReaches clock config calls orders mode state →
      state.channel.Perm (state.threads.workers.filterMap Worker.sent) ∧
      ∀ state', ReflTransGen (Collect.Step clock config orders mode calls) state state' →
        state.received <+: state'.channel ∧ state.channel <+: state'.channel) ∧
    (∀ mode state, CollectReaches clock config calls orders mode state → state.phase.InLoop →
      Balanced config state) ∧
    (∀ state e, CollectReaches clock config calls orders .race state →
      state.phase = .done (.error e) →
      ∃ errors, e = .allProvidersFailed errors ∧ Reported orders state errors ∧
        errors.length = (matchingProviders config).length) ∧
    (∀ minAgree state answer,
      CollectReaches clock config calls orders (.consensus minAgree) state →
      state.phase = .done answer →
      ∃ errors, (∀ e, answer = .error e → ∃ got, e = .consensusNotReached minAgree got errors) ∧
        Reported orders state errors ∧
        errors.length + state.votes = (matchingProviders config).length) ∧
    (matchingProviders config ≠ [] → config.timeout = 0 →
      ∃ errors, errors.length = (matchingProviders config).length ∧
        errors = (matchingProviders config).map (fun provider => timeoutError provider.name) ∧
        startRace config = .answered (.error (.allProvidersFailed errors)) ∧
        ∀ minAgree, startConsensus config minAgree =
          .answered (.error (.consensusNotReached minAgree 0 errors))) := by
  refine ⟨?_, ?_, ?_, ?_, ?_⟩
  · intro mode state reached
    obtain ⟨now, run⟩ := reached
    refine ⟨(Collect.laws_of_run run).1.channel, fun state' later => ?_⟩
    exact ⟨Collect.received_opens later, Collect.channel_prefix later⟩
  · -- In the loop nothing is left to be started, and nothing is won.
    intro mode state reached inside
    obtain ⟨now, run⟩ := reached
    have tracked := (Collect.laws_of_run run).1
    refine ⟨⟨tracked.workers_nodup, tracked.sound.located⟩, fun id => tracked.mem_pending,
      Collect.count_of_run run ?_ ?_⟩
    · cases here : state.phase with
      | spawning todo =>
        rw [here] at inside
        exact absurd inside id
      | _ => rfl
    · intro _ result ended
      rw [ended] at inside
      exact inside
  · -- A race that fails has stopped with what it had recorded.
    intro state e reached ended
    obtain ⟨now, run⟩ := reached
    obtain ⟨tracked, recorded⟩ := Collect.laws_of_run run
    have total := Collect.count_of_run run (by rw [ended]; rfl) fun _ result won => by
      rw [ended] at won
      cases won
    have none_voted := ((Collect.raced_of_run run).votes_eq (by simp [ended])).1
    rcases recorded.answer _ ended with failed | ⟨_, result, impossible, _⟩
    · cases failed
      refine ⟨state.finalErrors orders, rfl, ⟨rfl, tracked.timeouts_perm orders⟩, ?_⟩
      rw [Collect.finalErrors_length]
      omega
    · cases impossible
  · -- A consensus has recorded all it has received.
    intro minAgree state answer reached ended
    obtain ⟨now, run⟩ := reached
    obtain ⟨tracked, recorded⟩ := Collect.laws_of_run run
    have total := Collect.count_of_run run (by rw [ended]; rfl) fun racing => by cases racing
    refine ⟨state.finalErrors orders, ?_, ⟨rfl, tracked.timeouts_perm orders⟩, ?_⟩
    · intro e refused
      rw [refused] at ended
      have selected := recorded.consensus_answer ended
      obtain ⟨got, shape⟩ := consensusOf_eq_error orders.ipResults minAgree _ selected.symm
      exact ⟨got, by rw [shape, recorded.failures_outcomes]⟩
    · rw [Collect.finalErrors_length]
      omega
  · -- Nothing is started without any time.
    intro some_match zero
    exact ⟨_, List.length_map _, rfl, by simp [startRace, some_match, zero],
      fun minAgree => by simp [startConsensus, some_match, zero]⟩

/--
A race returns the earliest valid success.

It is built from the first message in the channel that carries an address of the version asked
for. A race fails only if no message it has received was such a success.
-/
theorem race_earliest (clock : Clock) (config : Config) (calls : Calls) (orders : Orders)
    (state : Collect) (reached : CollectReaches clock config calls orders .race state) :
    (∀ result, state.phase = .done (.ok result) →
      ∃ before message ip, state.received = before ++ [message] ∧
        message.result = .ok ip ∧ config.version.matches ip = true ∧
        result = ⟨ip, message.name, message.protocol, message.latency⟩ ∧
        ∀ earlier ∈ before, earlier.Loses config.version) ∧
    (∀ errors, state.phase = .done (.error (.allProvidersFailed errors)) →
      ∀ message ∈ state.received, message.Loses config.version) ∧
    ∀ state', ReflTransGen (Collect.Step clock config orders .race calls) state state' →
      state.received <+: state'.channel ∧ state.channel <+: state'.channel := by
  obtain ⟨now, run⟩ := reached
  have raced := Collect.raced_of_run run
  refine ⟨?_, ?_, ?_⟩
  · -- A race that is won knows the messages in front of the winner's.
    intro result ended
    obtain ⟨before, message, received, won, lost⟩ := raced.won result ended
    obtain ⟨ip, returned, family, same⟩ := WorkerMessage.outcome_eq_ok_iff.mp won
    exact ⟨before, message, ip, received, returned, family, same, lost⟩
  · intro errors ended
    exact raced.lost (by simp [ended])
  · intro state' later
    exact ⟨Collect.received_opens later, Collect.channel_prefix later⟩

/-- Two providers race, and the first to answer has an address of another version. -/
def pairConfig : Config where
  blockingProviders := [⟨"A", .dns, fun _ => true⟩, ⟨"B", .stun, fun _ => true⟩]
  providers := []
  timeout := 1
  version := .v4
  strategy := .race

/-- The first returns an address over IPv6, and the others one over IPv4. -/
def pairCalls (position : Nat) : CallResult :=
  .returned (.ok (if position = 0 then .v6 ⟨List.replicate 15 0 ++ [1], rfl⟩ else ipv4 203 0 113 7))

/-- Both messages are received in turn, and the second one wins. -/
theorem pair_run : ∃ state,
    CollectReaches ⟨1⟩ pairConfig pairCalls ⟨.inserted, .inserted⟩ .race state ∧
      state.phase = .done (.ok ⟨ipv4 203 0 113 7, "B", .stun, 0⟩) :=
  ⟨_, ⟨0,
    -- Both workers are started, and the loop is entered.
    .head (.main (.spawn rfl)) <| .head (.main (.spawn rfl)) <| .head (.main (.enter rfl)) <|
    -- The first worker answers.
    .head (.main (.check rfl rfl (by decide))) <| .head (.main (.block rfl)) <|
    .head (.beside (.finish (show _ = [] ++ _ :: [_] from rfl) rfl 0)) <|
    .head (.main (.receive rfl rfl)) <|
    -- The second worker answers.
    .head (.main (.check rfl rfl (by decide))) <| .head (.main (.block rfl)) <|
    .head (.beside (.finish (show _ = [_] ++ _ :: [] from rfl) rfl 0)) <|
    .head (.main (.receive rfl rfl)) .refl⟩, rfl⟩

/-- The message of the first provider is passed over. -/
theorem race_earliest_pair : ∃ state result before message ip,
    CollectReaches ⟨1⟩ pairConfig pairCalls ⟨.inserted, .inserted⟩ .race state ∧
      state.phase = .done (.ok result) ∧ state.received = before ++ [message] ∧
      message.result = .ok ip ∧ pairConfig.version.matches ip = true ∧
      result = ⟨ip, message.name, message.protocol, message.latency⟩ ∧
      ∀ earlier ∈ before, earlier.Loses pairConfig.version := by
  obtain ⟨state, reached, ended⟩ := pair_run
  obtain ⟨before, message, ip, won⟩ := (race_earliest _ _ _ _ state reached).1 _ ended
  exact ⟨state, _, before, message, ip, reached, ended, won⟩

end IpDiscovery.Blocking
