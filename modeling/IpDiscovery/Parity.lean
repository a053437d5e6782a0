import IpDiscovery.Async.FirstOrder
import IpDiscovery.Async.Race
import IpDiscovery.Blocking.Punctual
import IpDiscovery.Blocking.FirstOrder
import IpDiscovery.FirstSuccess
import IpDiscovery.Gist

/-! The two resolvers beside each other, over the same providers and the same calls. -/

namespace IpDiscovery

open Relation

/-- The same providers in both forms, whose calls all return, and return the same. -/
structure Twins (config : Config) (calls : Async.Calls) (threadCalls : Blocking.Calls) : Prop where
  providers : config.providers = config.blockingProviders
  calls : ∀ position, ∃ result, (calls position).result = .returned result ∧
    threadCalls position = .returned result

section Outcomes

variable {config : Config} {calls : Async.Calls} {threadCalls : Blocking.Calls}

/-- Both resolvers ask the same providers. -/
theorem Twins.matching (twins : Twins config calls threadCalls) :
    Async.matchingProviders config = Blocking.matchingProviders config := by
  rw [Async.matchingProviders, Blocking.matchingProviders, twins.providers]

/-- The asynchronous outcome at a position. -/
theorem Twins.outcomes_get (twins : Twins config calls threadCalls) {position : Nat}
    {provider : Provider}
    (located : (Blocking.matchingProviders config)[position]? = some provider) :
    (Async.outcomes config calls)[position]? =
      some (Async.outcomeOf config calls provider position) := by
  rw [Async.outcomes, List.getElem?_map, List.getElem?_zipIdx, twins.matching, located]
  simp

/-- A worker's message says what the future of the same provider says. -/
theorem Twins.gist_message (twins : Twins config calls threadCalls) (nonzero : config.timeout ≠ 0)
    (provider : Provider) (position : Nat) (latency : Duration) :
    gist (Blocking.WorkerMessage.outcome config.version ⟨position, provider.name,
      provider.protocol, (threadCalls position).caught provider.name, latency⟩) =
        gist (Async.outcomeOf config calls provider position) := by
  obtain ⟨result, returned, sent⟩ := twins.calls position
  rw [Async.outcomeOf, if_neg nonzero]
  -- Both validate the family, and word the refusal in the same way.
  cases result with
  | error e =>
    simp only [Blocking.WorkerMessage.outcome, sent, Blocking.CallResult.caught,
      Async.callOutcome, returned]
  | ok ip =>
    cases family : config.version.matches ip with
    | true =>
      simp only [Blocking.WorkerMessage.outcome, sent, Blocking.CallResult.caught,
        Async.callOutcome, returned, Blocking.validateIp, family, if_true, Bool.not_true,
        Bool.false_eq_true, if_false, gist_ok]
    | false =>
      simp only [Blocking.WorkerMessage.outcome, sent, Blocking.CallResult.caught,
        Async.callOutcome, returned, Blocking.validateIp, family, if_true, Bool.not_false,
        Bool.false_eq_true, if_false, gist_error]

/-- Whoever returns a fitting address to a worker delivers it to the asynchronous resolver. -/
theorem Twins.delivers (twins : Twins config calls threadCalls) (nonzero : config.timeout ≠ 0)
    {position : Nat} {ip : IpAddr} (returned : threadCalls position = .returned (.ok ip))
    (family : config.version.matches ip = true) : Async.Delivers config calls position ip := by
  obtain ⟨result, agreed, sent⟩ := twins.calls position
  rw [returned, Blocking.CallResult.returned.injEq] at sent
  exact ⟨nonzero, by rw [agreed, ← sent], family⟩

end Outcomes

/-! ## First -/

namespace Blocking.First

/-- Every provider that was tried has a worker, unless there is no time at all. -/
def AllStarted (config : Config) (state : First) : Prop :=
  config.timeout ≠ 0 → ∀ position < state.errors.length,
    position ∈ state.threads.workers.map Worker.id

/-- A step of a run whose threads can be started, and whose calls finish before their deadlines. -/
def Regular (clock : Clock) (config : Config) (calls : Calls) (before after : First) : Prop :=
  Step clock config calls before after ∧ before.threads.Timely config ∧ after.AllStarted config

section Laws

variable {clock : Clock} {config : Config} {calls : Async.Calls} {threadCalls : Calls}

/-- The errors so far are the first outcomes of the futures. -/
def Follows (config : Config) (calls : Async.Calls) (state : First) : Prop :=
  state.errors.map .error = (Async.outcomes config calls).take state.errors.length

/-- A provider fails with the error of its future. -/
theorem Fails.agrees {before after : First} (twins : Twins config calls threadCalls)
    (ordered : before.Ordered config) (timely : before.threads.Timely config)
    (started : after.AllStarted config) {provider : BoxedBlockingProvider} {ending : Ending}
    {error : ProviderError} (grown : after.errors = before.errors ++ [error])
    (same : after.threads.workers = before.threads.workers)
    (fails : before.Fails config threadCalls provider ending error) :
    Async.outcomeOf config calls provider before.errors.length = .error error := by
  cases fails with
  -- Without any time the future fails in the same way.
  | skipped here zero =>
    rw [Async.outcomeOf, if_pos zero]
    rfl
  | unstarted here nonzero text =>
    -- The provider would have a worker by now.
    have placed := ordered.placed
    unfold Placed at placed
    rw [here] at placed
    have known := started nonzero before.errors.length (by rw [grown]; simp)
    rw [same] at known
    obtain ⟨worker, member, id⟩ := List.mem_map.mp known
    exact absurd (placed.2.2 worker member) (by omega)
  -- The message is that of the provider, and says what its future says.
  | heard hears failed =>
    have nonzero := hears.nonzero ordered.zero
    obtain ⟨latency, shape⟩ := hears.own
    have said := twins.gist_message nonzero provider before.errors.length latency
    rw [← shape, failed, gist_error] at said
    cases outcome : Async.outcomeOf config calls provider before.errors.length with
    | ok result =>
      rw [outcome] at said
      cases said
    | error e =>
      rw [outcome] at said
      cases said
      rfl
  | timedOut givesUp =>
    -- The worker would have sent its message by now.
    obtain ⟨worker, member, _, _, silent, late⟩ := givesUp.worker
    have sent := timely worker member late
    rw [silent] at sent
    cases sent

/-- A step on time keeps the errors those of the futures. -/
theorem Follows.step {before after : First} (twins : Twins config calls threadCalls)
    (follows : before.Follows config calls) (ordered : before.Ordered config)
    (sound : before.Sound config threadCalls)
    (moved : Regular clock config threadCalls before after) : after.Follows config calls := by
  obtain ⟨step, timely, started⟩ := moved
  cases step with
  | beside moved => exact follows
  | main moved =>
    unfold Follows at follows ⊢
    rcases main_errors ordered sound moved with
      same | ⟨provider, ending, error, place, grown, workers, fails⟩
    · -- Nobody was passed over.
      rw [same]
      exact follows
    · -- One more error is one more outcome.
      have agrees := fails.agrees twins ordered timely started grown workers
      have located := twins.outcomes_get place
      rw [agrees] at located
      rw [grown, List.map_append, List.length_append, List.length_singleton, follows,
        List.take_add_one, located]
      rfl

/-- All along a run on time, the errors are those of the futures. -/
theorem follows_of_run (twins : Twins config calls threadCalls) {now : Instant} {state : First}
    (run : ReflTransGen (Regular clock config threadCalls) (init config now) state) :
    state.Follows config calls ∧
      ReflTransGen (Step clock config threadCalls) (init config now) state := by
  induction run with
  | refl => exact ⟨rfl, .refl⟩
  | tail _ moved ih =>
    obtain ⟨follows, path⟩ := ih
    exact ⟨follows.step twins (ordered_of_run path) (sound_of_run path) moved,
      path.tail moved.1⟩

/-- Whoever was passed over has not delivered to the asynchronous resolver either. -/
theorem Follows.undelivered {state : First} (follows : state.Follows config calls)
    (twins : Twins config calls threadCalls) {position : Nat} {provider : Provider}
    (located : (matchingProviders config)[position]? = some provider)
    (passed : position < state.errors.length) (ip : IpAddr) :
    ¬ Async.Delivers config calls position ip := by
  intro delivers
  have here : (state.errors.map Except.error)[position]? =
      ((Async.outcomes config calls).take state.errors.length)[position]? := by
    rw [follows]
  rw [List.getElem?_take_of_lt passed, twins.outcomes_get located,
    Async.outcomeOf_eq_ok_iff.mpr ⟨ip, delivers, rfl⟩, List.getElem?_map] at here
  -- An error is not a success.
  obtain ⟨error, _, impossible⟩ := Option.map_eq_some_iff.mp here
  cases impossible

end Laws

end Blocking.First

/-- The same result apart from its latency, or the same failure. -/
def SameFirst (answer : Except Error ProviderResult)
    (asyncAnswer : Except (Fault Error) ProviderResult) : Prop :=
  match answer with
  | .ok result => ∃ other, asyncAnswer = .ok other ∧ gist (.ok other) = gist (.ok result)
  | .error e => asyncAnswer = .error (.err e) ∧ ∃ errors, e = .allProvidersFailed errors

/-- What First answers on time is what the asynchronous loop answers. -/
theorem first_agrees {clock : Blocking.Clock} {config : Config} {calls : Async.Calls}
    {threadCalls : Blocking.Calls} (twins : Twins config calls threadCalls) {now : Instant}
    {state : Blocking.First}
    (run : ReflTransGen (Blocking.First.Regular clock config threadCalls)
      (.init config now) state) {answer : Except Error ProviderResult}
    (ended : state.phase = .done answer) : SameFirst answer (Async.resolveFirst config calls) := by
  obtain ⟨follows, path⟩ := Blocking.First.follows_of_run twins run
  have inOrder := Blocking.First.inOrder_of_reached ⟨now, path⟩
  obtain ⟨logged, spec⟩ := Async.resolveFirst_inOrder config calls
  rw [← logged]
  cases answer with
  | error e =>
    -- The blocking resolver has an error for everybody.
    obtain ⟨same, all⟩ := inOrder.failed e ended
    refine ⟨?_, state.errors, same⟩
    rcases spec with ⟨position, ip, first⟩ | nobody
    · -- All have been passed over.
      obtain ⟨provider, located, _⟩ := first.answer
      rw [twins.matching] at located
      have inside := (List.getElem?_eq_some_iff.mp located).1
      exact absurd first.delivers (follows.undelivered twins located (all ▸ inside) ip)
    · -- Both report the errors of the futures, in order.
      obtain ⟨errors, outcomes, _, answered⟩ := nobody.answer
      unfold Blocking.First.Follows at follows
      rw [all, ← twins.matching, ← Async.outcomes_length config calls, List.take_length,
        outcomes] at follows
      have equal := List.map_injective_iff.mpr (fun _ _ => Except.error.inj) follows
      rw [answered, same, equal]
  | ok result =>
    obtain ⟨earlier, provider, message, ip, reached, _, same, located, hears, returned, family,
      shape⟩ := inOrder.chosen result ended
    -- The provider that was heard delivers to the asynchronous resolver.
    have delivers := twins.delivers
      (hears.nonzero (Blocking.First.inOrder_of_reached reached).zero) returned family
    rcases spec with ⟨position, other, first⟩ | nobody
    · obtain ⟨chosen, place, answered⟩ := first.answer
      rw [twins.matching] at place
      -- Neither resolver has passed over the other's provider.
      have equal : position = state.errors.length := by
        rcases Nat.lt_trichotomy position state.errors.length with less | equal | more
        · exact absurd first.delivers (follows.undelivered twins place less other)
        · exact equal
        · exact absurd delivers (first.earlier _ more ip)
      subst equal
      rw [located, Option.some.injEq] at place
      subst place
      have address : other = ip := by
        have both := first.delivers.2.1
        rw [delivers.2.1] at both
        cases both
        rfl
      refine ⟨_, answered, ?_⟩
      rw [shape, address, gist_ok, gist_ok]
    · -- Somebody has delivered to the blocking resolver.
      have inside := (List.getElem?_eq_some_iff.mp located).1
      rw [← twins.matching] at inside
      exact absurd delivers (nobody.silent _ inside ip)

/-! ## Race and consensus -/

section Collecting

variable {clock : Blocking.Clock} {config : Config} {orders : Blocking.Orders}
  {mode : Blocking.Mode} {calls : Async.Calls} {threadCalls : Blocking.Calls}
  {state : Blocking.Collect}

/-- Where everybody was heard, nobody is waited for, and every position has its message. -/
theorem heard_positions (tracked : state.Tracked config threadCalls)
    (started : state.phase.todo = []) (unstarted : state.unstarted = [])
    (heard : ∀ worker ∈ state.threads.workers,
      worker.id ∈ state.received.map Blocking.WorkerMessage.id) :
    orders.pending.visit state.pending = [] ∧
      (state.received.map Blocking.WorkerMessage.id).Perm
        (List.range (Blocking.matchingProviders config).length) := by
  have awaited : state.awaited = [] := by
    apply List.filter_eq_nil_iff.mpr
    intro worker member
    simpa using heard worker member
  constructor
  · -- The pending map holds the workers that are awaited.
    have visited := orders.pending.perm state.pending
    rw [tracked.pending, awaited, List.map_nil] at visited
    exact List.Perm.eq_nil visited
  · -- Started workers and failed starts are all positions, and no start has failed.
    have ids := tracked.heard
    rw [awaited, List.map_nil, List.nil_append] at ids
    have everybody := tracked.started_ids started
    rw [unstarted, List.map_nil, List.append_nil] at everybody
    exact ids.trans everybody

/-- A message says what the future at its position says. -/
theorem Twins.said (twins : Twins config calls threadCalls) (nonzero : config.timeout ≠ 0)
    (tracked : state.Tracked config threadCalls) {message : Blocking.WorkerMessage}
    (received : message ∈ state.received) :
    ((Async.outcomes config calls).map gist)[message.id]? =
      some (gist (message.outcome config.version)) := by
  obtain ⟨provider, latency, located, shape⟩ := tracked.genuine received
  rw [List.getElem?_map, twins.outcomes_get located, Option.map_some,
    ← twins.gist_message nonzero provider message.id latency, ← shape]

/-- A run in which everybody was heard ends with outcomes that say what the futures say. -/
theorem Twins.sameGist (twins : Twins config calls threadCalls) (nonzero : config.timeout ≠ 0)
    (tracked : state.Tracked config threadCalls) (started : state.phase.todo = [])
    (unstarted : state.unstarted = [])
    (heard : ∀ worker ∈ state.threads.workers,
      worker.id ∈ state.received.map Blocking.WorkerMessage.id) :
    SameGist (state.outcomes config orders) (Async.outcomes config calls) := by
  obtain ⟨pending, positions⟩ := heard_positions tracked started unstarted heard
  -- What is looked up by the ids of the messages is what is said at all positions.
  have looked := positions.map fun position => ((Async.outcomes config calls).map gist)[position]?
  rw [List.map_map] at looked
  have received : state.received.map
        ((fun position => ((Async.outcomes config calls).map gist)[position]?) ∘
          Blocking.WorkerMessage.id) =
      ((state.outcomesReceived config).map gist).map some := by
    rw [Blocking.Collect.outcomesReceived, List.map_map, List.map_map]
    apply List.map_congr_left
    intro message member
    exact twins.said nonzero tracked member
  have all : (List.range (Blocking.matchingProviders config).length).map
        (fun position => ((Async.outcomes config calls).map gist)[position]?) =
      ((Async.outcomes config calls).map gist).map some := by
    rw [← twins.matching, ← Async.outcomes_length config calls]
    apply List.ext_getElem
    · simp
    · intro position inside _
      simp at inside
      simp [inside]
  rw [received, all] at looked
  have same := (List.map_perm_map_iff (Option.some_injective _)).mp looked
  rw [SameGist, Blocking.Collect.outcomes_eq, unstarted, HashOrder.values, pending]
  simpa using same

/-- A success on both sides, or errors that are a permutation of each other. -/
def SameRace (answer : Except Error ProviderResult)
    (asyncAnswer : Except (Fault Error) ProviderResult) : Prop :=
  ((∃ result, answer = .ok result) ↔ ∃ result, asyncAnswer = .ok result) ∧
    ∀ e, answer = .error e → ∃ errors asyncErrors, e = .allProvidersFailed errors ∧
      asyncAnswer = .error (.err (.allProvidersFailed asyncErrors)) ∧ errors.Perm asyncErrors

/-- The same address where one is ahead, and the same refusal where no group is large enough. -/
def SameConsensus (minAgree : Nat) (outcomes : List Outcome)
    (answer : Except Error ProviderResult)
    (asyncAnswer : Except (Fault Error) ProviderResult) : Prop :=
  (∀ ip, 0 < support outcomes ip → minAgree ≤ support outcomes ip →
    (∀ other, other ≠ ip → support outcomes other < support outcomes ip) →
      ∃ result asyncResult, answer = .ok result ∧ asyncAnswer = .ok asyncResult ∧
        result.ip = ip ∧ asyncResult.ip = ip) ∧
  ((∀ ip, 0 < support outcomes ip → support outcomes ip < minAgree) →
    ∃ got errors asyncErrors, answer = .error (.consensusNotReached minAgree got errors) ∧
      asyncAnswer = .error (.err (.consensusNotReached minAgree got asyncErrors)) ∧
      errors.Perm asyncErrors)

/-- The runs of the two strategies that are regular and never late. -/
def PromptRun (clock : Blocking.Clock) (config : Config) (orders : Blocking.Orders)
    (mode : Blocking.Mode) (threadCalls : Blocking.Calls) (state : Blocking.Collect) : Prop :=
  ∃ now, ReflTransGen
    (fun before after =>
      Blocking.Collect.Regular clock config orders mode threadCalls before after ∧ before.Prompt)
    (.init config now) state

/-- At the end of such a run, unless a race is won, the outcomes say what the futures say. -/
theorem sameGist_of_run (twins : Twins config calls threadCalls) (nonzero : config.timeout ≠ 0)
    (run : PromptRun clock config orders mode threadCalls state)
    {answer : Except Error ProviderResult} (ended : state.phase = .done answer)
    (unwon : mode = .race → ∀ result, answer ≠ .ok result) :
    SameGist (state.outcomes config orders) (Async.outcomes config calls) := by
  obtain ⟨now, run⟩ := run
  obtain ⟨punctual, unstarted, path⟩ := Blocking.Collect.punctual_of_run run
  have tracked := (Blocking.Collect.laws_of_run path).1
  -- A prompt run ends when all are heard, unless a race is won.
  have phase := punctual.phase
  unfold Blocking.Collect.PhasePunctual at phase
  rw [ended] at phase
  rcases phase with ⟨racing, result, won⟩ | heard
  · exact absurd won (unwon racing result)
  · exact twins.sameGist nonzero tracked (by rw [ended]; rfl) unstarted heard

/-- A race on time succeeds exactly if the asynchronous one does, and otherwise fails alike. -/
theorem race_agrees (twins : Twins config calls threadCalls) (nonzero : config.timeout ≠ 0)
    (some_match : Async.matchingProviders config ≠ [])
    (run : PromptRun clock config orders .race threadCalls state)
    {answer : Except Error ProviderResult} (ended : state.phase = .done answer) :
    SameRace answer (Async.resolveRace config calls) := by
  have raced := Async.resolveRace_answer calls some_match
  have sameGist := sameGist_of_run twins nonzero run ended
  obtain ⟨now, run⟩ := run
  obtain ⟨_, _, path⟩ := Blocking.Collect.punctual_of_run run
  obtain ⟨tracked, recorded⟩ := Blocking.Collect.laws_of_run path
  rcases recorded.answer answer ended with failed | ⟨_, result, won, member⟩
  · -- All have failed, and they say the same.
    have unwon : ∀ result, answer ≠ .ok result := by
      intro result won
      rw [failed] at won
      cases won
    have same := sameGist fun _ => unwon
    have none_succeeded : ∀ result, .ok result ∉ Async.outcomes config calls := by
      intro result member
      obtain ⟨other, among, _⟩ := SameGist.exists_ok (List.Perm.symm same) member
      rw [← mem_successes, Blocking.Collect.successes_outcomes] at among
      rcases recorded.race rfl with none | ⟨winner, won, _⟩
      · rw [none] at among
        exact absurd among List.not_mem_nil
      · rw [ended, Blocking.Collect.Phase.done.injEq] at won
        exact unwon winner won
    -- A race without a success reports the errors of all futures.
    obtain ⟨asyncErrors, asyncFailed, _, errors⟩ := raced.failed fun result won =>
      none_succeeded result (raced.own result won)
    refine ⟨⟨fun won => absurd won (not_exists.mpr unwon), ?_⟩, ?_⟩
    · intro won
      obtain ⟨result, won⟩ := won
      exact absurd (raced.own result won) (none_succeeded result)
    · intro e refused
      rw [failed] at refused
      cases refused
      refine ⟨_, asyncErrors, rfl, asyncFailed, ?_⟩
      rw [← recorded.failures_outcomes, ← failures_map_error asyncErrors]
      exact same.failures_perm.trans (List.Perm.filterMap _ errors).symm
  · -- The winner's future succeeds as well.
    obtain ⟨message, received, outcome⟩ := List.mem_map.mp member
    have said := List.mem_of_getElem? (twins.said nonzero tracked received)
    rw [outcome] at said
    refine ⟨⟨fun _ => raced.answered.mpr ?_, fun _ => ⟨result, won⟩⟩, ?_⟩
    · obtain ⟨future, among, same⟩ := List.mem_map.mp said
      cases future with
      | error e => cases same
      | ok other => exact ⟨other, among⟩
    · intro e refused
      rw [won] at refused
      cases refused

/-- A consensus on time agrees with the asynchronous one wherever the outcomes decide it. -/
theorem consensus_agrees {minAgree : Nat} (order : HashOrder IpAddr (List ProviderResult))
    (twins : Twins config calls threadCalls) (nonzero : config.timeout ≠ 0)
    (some_match : Async.matchingProviders config ≠ [])
    (run : PromptRun clock config orders (.consensus minAgree) threadCalls state)
    {answer : Except Error ProviderResult} (ended : state.phase = .done answer) :
    SameConsensus minAgree (Async.outcomes config calls) answer
      (Async.resolveConsensus order config calls minAgree) := by
  have same := sameGist_of_run twins nonzero run ended fun racing => by cases racing
  obtain ⟨now, run⟩ := run
  obtain ⟨_, _, path⟩ := Blocking.Collect.punctual_of_run run
  have selected := (Blocking.Collect.laws_of_run path).2.consensus_answer ended
  rw [Async.resolveConsensus_eq order minAgree some_match, selected]
  refine ⟨?_, ?_⟩
  · -- The support of each address is the same on both sides.
    intro ip supported enough ahead
    simp only [← same.support_eq] at supported enough ahead
    obtain ⟨result, asyncResult, here, there, chosen, asyncChosen⟩ :=
      same.answered orders.ipResults order supported enough ahead
    exact ⟨result, asyncResult, here, by rw [there]; rfl, chosen, asyncChosen⟩
  · intro unsupported
    simp only [← same.support_eq] at unsupported
    obtain ⟨got, errors, asyncErrors, here, there, permuted⟩ :=
      same.refused orders.ipResults order unsupported
    exact ⟨got, errors, asyncErrors, here, by rw [there]; rfl, permuted⟩

end Collecting

/-! ## Without any time -/

/-- The failure of a strategy that has called nobody. -/
def unheard (strategy : Strategy) (errors : List ProviderError) : Error :=
  match strategy with
  | .first => .allProvidersFailed errors
  | .race => .allProvidersFailed errors
  | .consensus minAgree => .consensusNotReached minAgree 0 errors

/-- One timeout for each matching provider, in configured order. -/
def timeouts (config : Config) : List ProviderError :=
  (Blocking.matchingProviders config).map fun provider => Blocking.timeoutError provider.name

section Zero

variable {clock : Blocking.Clock} {config : Config} {orders : Blocking.Orders}
  {calls : Async.Calls} {threadCalls : Blocking.Calls}

/-- Without any time, every provider is skipped. -/
theorem first_zero {state : Blocking.First} (zero : config.timeout = 0)
    (reached : Blocking.FirstReaches clock config threadCalls state)
    {answer : Except Error ProviderResult} (ended : state.phase = .done answer) :
    answer = .error (.allProvidersFailed (timeouts config)) := by
  have inOrder := Blocking.First.inOrder_of_reached reached
  cases answer with
  | ok result =>
    obtain ⟨earlier, _, _, _, before, _, _, _, hears, _⟩ := inOrder.chosen result ended
    exact absurd zero (hears.nonzero (Blocking.First.inOrder_of_reached before).zero)
  | error e =>
    obtain ⟨same, all⟩ := inOrder.failed e ended
    rw [same, timeouts]
    congr 2
    apply List.ext_getElem
    · rw [List.length_map, all]
    · intro position inside _
      obtain ⟨earlier, provider, ending, before, _, _, located, fails, _⟩ :=
        inOrder.passedOver position _ (List.getElem?_eq_getElem inside)
      obtain ⟨_, here⟩ := List.getElem?_eq_some_iff.mp located
      rw [List.getElem_map, here]
      generalize state.errors[position] = error at fails ⊢
      cases fails with
      | skipped => rfl
      | unstarted _ nonzero => exact absurd zero nonzero
      | heard hears =>
        -- Nobody was started, so nobody was heard.
        exact absurd zero (hears.nonzero (Blocking.First.inOrder_of_reached before).zero)
      | timedOut => rfl

/-- Without any time, all futures are timed out. -/
theorem outcomes_zero (twins : Twins config calls threadCalls) (zero : config.timeout = 0) :
    Async.outcomes config calls = (timeouts config).map .error := by
  rw [Async.outcomes, timeouts, twins.matching, List.map_map]
  apply List.ext_getElem
  · simp
  · intro position _ _
    simp [Async.outcomeOf, zero, Blocking.timeoutError]

/-- Without any time, no future calls its provider. -/
theorem makeProviderFuture_zero (zero : config.timeout = 0) (provider : BoxedProvider)
    (left right : Async.Call) :
    Async.makeProviderFuture config provider left =
      Async.makeProviderFuture config provider right := by
  rw [Async.makeProviderFuture, Async.makeProviderFuture, if_pos zero, if_pos zero]

/-- Without any time, the loop over the futures does not depend on the calls. -/
theorem firstLoop_zero (zero : config.timeout = 0) (left right : Async.Calls)
    (entries : List (BoxedProvider × Nat)) : ∀ errors,
    Async.firstLoop config left entries errors = Async.firstLoop config right entries errors := by
  induction entries with
  | nil =>
    intro errors
    rfl
  | cons entry rest ih =>
    intro errors
    obtain ⟨provider, position⟩ := entry
    -- No future looks at its call, so the loops take the same way.
    simp only [Async.firstLoop, ih, makeProviderFuture_zero zero provider (left position)
      (right position)]

/-- Without any time, the answer does not depend on the calls. -/
theorem resolve_zero (order : HashOrder IpAddr (List ProviderResult)) (zero : config.timeout = 0)
    (left right : Async.Calls) :
    Async.resolve order config left = Async.resolve order config right := by
  have futures : Async.providerFutures config left = Async.providerFutures config right := by
    unfold Async.providerFutures
    apply List.map_congr_left
    intro entry _
    exact makeProviderFuture_zero zero entry.1 _ _
  simp only [Async.resolve, Async.resolveFirst, Async.resolveRace, Async.resolveConsensus, futures,
    firstLoop_zero zero left right]

/-- The asynchronous resolver reports all timeouts, in some order. -/
theorem resolve_unheard (order : HashOrder IpAddr (List ProviderResult))
    (twins : Twins config calls threadCalls) (zero : config.timeout = 0)
    (some_match : Async.matchingProviders config ≠ []) :
    ∃ errors, errors.Perm (timeouts config) ∧
      Async.resolve order config calls = .error (.err (unheard config.strategy errors)) := by
  have outcomes := outcomes_zero twins zero
  have failed (result : ProviderResult) : .ok result ∉ Async.outcomes config calls := by
    intro member
    rw [outcomes] at member
    obtain ⟨_, _, impossible⟩ := List.mem_map.mp member
    cases impossible
  rw [Async.resolve, if_neg some_match]
  -- No strategy can find a success among timeouts.
  cases config.strategy with
  | first =>
    obtain ⟨logged, spec⟩ := Async.resolveFirst_inOrder config calls
    dsimp only
    rw [← logged]
    rcases spec with ⟨position, ip, first⟩ | nobody
    · exact absurd zero first.delivers.1
    · obtain ⟨errors, same, _, answered⟩ := nobody.answer
      rw [outcomes] at same
      have equal := List.map_injective_iff.mpr (fun _ _ => Except.error.inj) same
      exact ⟨errors, equal ▸ List.Perm.refl _, answered⟩
  | race =>
    have raced := Async.resolveRace_answer calls some_match
    obtain ⟨errors, answered, _, same⟩ := raced.failed fun result won =>
      failed result (raced.own result won)
    refine ⟨errors, ?_, answered⟩
    rw [outcomes] at same
    have permuted : (failures _).Perm (failures _) := List.Perm.filterMap _ same
    simpa only [failures_map_error] using permuted
  | consensus minAgree =>
    have none_supported (ip : IpAddr) : support (Async.outcomes config calls) ip = 0 := by
      rw [support, List.length_eq_zero_iff, agreeing, List.filter_eq_nil_iff]
      intro result member
      exact absurd (mem_successes.mp member) (failed result)
    obtain ⟨got, answered, _, ip, attained⟩ :=
      @consensusOf_unsupported order minAgree (Async.outcomes config calls)
        fun ip supported => absurd (none_supported ip) (Nat.ne_of_gt supported)
    rw [none_supported] at attained
    subst attained
    dsimp only
    rw [Async.resolveConsensus_eq order minAgree some_match, answered, outcomes,
      failures_map_error]
    exact ⟨_, .refl _, rfl⟩

end Zero

/-! ## Agreement -/

/-- What both resolvers make of a timeout of zero: nobody is called, and all are timed out. -/
structure SameZero (clock : Blocking.Clock) (config : Config) (orders : Blocking.Orders)
    (order : HashOrder IpAddr (List ProviderResult)) (threadCalls : Blocking.Calls) : Prop where
  blocking : ∀ answer, Blocking.Returns clock config threadCalls orders answer →
    answer = .error (unheard config.strategy (timeouts config))
  workers : ∀ state, Blocking.FirstReaches clock config threadCalls state →
    state.threads.workers = []
  uncollected : ∀ mode, Blocking.start config ≠ .collect mode
  async : ∃ errors, errors.Perm (timeouts config) ∧ ∀ calls,
    Async.resolve order config calls = .error (.err (unheard config.strategy errors))

/-- Without any time, nobody is called by either resolver, and all are timed out. -/
theorem zero_agrees (clock : Blocking.Clock) {config : Config} (orders : Blocking.Orders)
    (order : HashOrder IpAddr (List ProviderResult)) {calls : Async.Calls}
    {threadCalls : Blocking.Calls} (twins : Twins config calls threadCalls)
    (zero : config.timeout = 0) (some_match : Blocking.matchingProviders config ≠ []) :
    SameZero clock config orders order threadCalls where
  blocking := by
    intro answer returned
    unfold Blocking.Returns Blocking.start at returned
    rw [if_neg some_match] at returned
    -- First runs through all providers, and the other two return before anybody is started.
    cases strategy : config.strategy with
    | first =>
      rw [strategy] at returned
      obtain ⟨state, reached, ended⟩ := returned
      exact first_zero zero reached ended
    | race =>
      simp only [strategy, Blocking.startRace, if_neg some_match, if_pos zero] at returned
      exact returned
    | consensus minAgree =>
      simp only [strategy, Blocking.startConsensus, if_neg some_match, if_pos zero] at returned
      exact returned
  workers := fun state reached => (Blocking.First.inOrder_of_reached reached).zero zero
  uncollected := fun mode started => (Blocking.start_eq_collect.mp started).2.1 zero
  async := by
    rw [← twins.matching] at some_match
    obtain ⟨errors, permuted, answered⟩ := resolve_unheard order twins zero some_match
    exact ⟨errors, permuted, fun others => (resolve_zero order zero others calls).trans answered⟩

/--
The two resolvers agree on the same providers and calls.

All threads can be started, the deadline can be represented, and every call finishes before it.
Race and consensus agree in runs in which the loop is never at its head with somebody pending and
no time left.
-/
theorem resolvers_agree (clock : Blocking.Clock) (config : Config) (orders : Blocking.Orders)
    (order : HashOrder IpAddr (List ProviderResult)) (calls : Async.Calls)
    (threadCalls : Blocking.Calls) (twins : Twins config calls threadCalls) :
    (Blocking.start config = .first → ∀ now state answer,
      ReflTransGen (Blocking.First.Regular clock config threadCalls) (.init config now) state →
      state.phase = .done answer → SameFirst answer (Async.resolve order config calls)) ∧
    (Blocking.start config = .collect .race → ∀ state answer,
      PromptRun clock config orders .race threadCalls state → state.phase = .done answer →
      SameRace answer (Async.resolve order config calls)) ∧
    (∀ minAgree, Blocking.start config = .collect (.consensus minAgree) → ∀ state answer,
      PromptRun clock config orders (.consensus minAgree) threadCalls state →
      state.phase = .done answer →
      SameConsensus minAgree (Async.outcomes config calls) answer
        (Async.resolve order config calls)) ∧
    (config.timeout = 0 → Blocking.matchingProviders config ≠ [] →
      SameZero clock config orders order threadCalls) ∧
    (Blocking.matchingProviders config = [] →
      (∀ answer, Blocking.Returns clock config threadCalls orders answer →
        answer = .error .noProvidersForVersion) ∧
      Async.resolve order config calls = .error (.err .noProvidersForVersion)) := by
  refine ⟨?_, ?_, ?_, fun zero some_match => zero_agrees clock orders order twins zero some_match,
    ?_⟩
  · -- The start of the thread resolver fixes what the other one dispatches on.
    intro started now state answer run ended
    obtain ⟨some_match, strategy⟩ := Blocking.start_eq_first.mp started
    rw [← twins.matching] at some_match
    rw [Async.resolve, if_neg some_match, strategy]
    exact first_agrees twins run ended
  · intro started state answer run ended
    obtain ⟨some_match, nonzero, strategy⟩ := Blocking.start_eq_collect.mp started
    rw [← twins.matching] at some_match
    rw [Async.resolve, if_neg some_match, strategy]
    exact race_agrees twins nonzero some_match run ended
  · intro minAgree started state answer run ended
    obtain ⟨some_match, nonzero, strategy⟩ := Blocking.start_eq_collect.mp started
    rw [← twins.matching] at some_match
    rw [Async.resolve, if_neg some_match, strategy]
    exact consensus_agrees order twins nonzero some_match run ended
  · intro none_match
    refine ⟨fun answer => (Blocking.returns_iff_of_none none_match).mp, ?_⟩
    rw [← twins.matching] at none_match
    rw [Async.resolve, if_pos none_match]

/-- One provider in both forms, which answers at once. -/
def twinConfig (strategy : Strategy) : Config where
  blockingProviders := [⟨"A", .dns, fun _ => true⟩]
  providers := [⟨"A", .dns, fun _ => true⟩]
  timeout := 1
  version := .v4
  strategy

/-- Its future answers at once. -/
def twinCalls (_ : Nat) : Async.Call := ⟨0, .returned (.ok (ipv4 203 0 113 7)), 0⟩

/-- And so does its thread. -/
def twinThreads (_ : Nat) : Blocking.CallResult := .returned (.ok (ipv4 203 0 113 7))

/-- The provider is a twin of itself. -/
theorem twinConfig_twins (strategy : Strategy) :
    Twins (twinConfig strategy) twinCalls twinThreads :=
  ⟨rfl, fun _ => ⟨_, rfl, rfl⟩⟩

/-- Before its first nanosecond is over, nobody has to have answered. -/
theorem timely_twin {strategy : Strategy} {threads : Blocking.Threads} (early : threads.now = 0) :
    threads.Timely (twinConfig strategy) := by
  intro worker _ late
  rw [early] at late
  exact absurd late (Nat.not_succ_le_zero _)

/-- Before the first failure nobody has to have a worker. -/
theorem started_twin {config : Config} {threads : Blocking.Threads} {phase : Blocking.First.Phase} :
    (Blocking.First.mk threads phase []).AllStarted config :=
  fun _ _ inside => absurd inside (Nat.not_lt_zero _)

/-- Two providers in both forms, two of which have to agree. -/
def duoConfig : Config where
  blockingProviders := [⟨"A", .dns, fun _ => true⟩, ⟨"B", .stun, fun _ => true⟩]
  providers := [⟨"A", .dns, fun _ => true⟩, ⟨"B", .stun, fun _ => true⟩]
  timeout := 1
  version := .v4
  strategy := .consensus 2

/-- Before its first nanosecond is over, the loop has time left. -/
theorem prompt_duo {state : Blocking.Collect} (early : state.threads.now = 0)
    (entered : ∀ deadline, state.phase = .looping deadline → deadline = some 1) : state.Prompt := by
  intro deadline here _
  rw [entered deadline here, early]
  decide

/-- A step within the first nanosecond of the two is regular and prompt. -/
theorem regular_duo {before after : Blocking.Collect}
    (step : Blocking.Collect.Step ⟨1⟩ duoConfig ⟨.inserted, .inserted⟩ (.consensus 2) twinThreads
      before after) (early : before.threads.now = 0) (started : after.unstarted = [])
    (entered : ∀ deadline, before.phase = .looping deadline → deadline = some 1) :
    Blocking.Collect.Regular ⟨1⟩ duoConfig ⟨.inserted, .inserted⟩ (.consensus 2) twinThreads
      before after ∧ before.Prompt := by
  refine ⟨⟨step, ?_, ?_, started⟩, prompt_duo early entered⟩
  · intro worker _ late
    rw [early] at late
    exact absurd late (Nat.not_succ_le_zero _)
  · intro _
    rw [early]
    exact le_rfl

/-- Two workers are started and heard in turn, and both resolvers find the two agreeing. -/
theorem duo_run : ∃ state,
    PromptRun ⟨1⟩ duoConfig ⟨.inserted, .inserted⟩ (.consensus 2) twinThreads state ∧
      state.phase = .done (.ok ⟨ipv4 203 0 113 7, "A", .dns, 0⟩) :=
  ⟨_, ⟨0,
    .head (regular_duo (.main (.spawn rfl)) rfl rfl (by intro _ here; cases here)) <|
    .head (regular_duo (.main (.spawn rfl)) rfl rfl (by intro _ here; cases here)) <|
    .head (regular_duo (.main (.enter rfl)) rfl rfl (by intro _ here; cases here)) <|
    -- Both reply before the loop looks at its channel.
    .head (regular_duo (.beside (.finish (show _ = [] ++ _ :: [_] from rfl) rfl 0)) rfl rfl
      (by intro _ here; cases here; rfl)) <|
    .head (regular_duo (.beside (.finish (show _ = [_] ++ _ :: [] from rfl) rfl 0)) rfl rfl
      (by intro _ here; cases here; rfl)) <|
    .head (regular_duo (.main (.check rfl rfl (by decide))) rfl rfl
      (by intro _ here; cases here; rfl)) <|
    .head (regular_duo (.main (.block rfl)) rfl rfl (by intro _ here; cases here)) <|
    .head (regular_duo (.main (.receive rfl rfl)) rfl rfl (by intro _ here; cases here)) <|
    .head (regular_duo (.main (.check rfl rfl (by decide))) rfl rfl
      (by intro _ here; cases here; rfl)) <|
    .head (regular_duo (.main (.block rfl)) rfl rfl (by intro _ here; cases here)) <|
    .head (regular_duo (.main (.receive rfl rfl)) rfl rfl (by intro _ here; cases here)) <|
    .head (regular_duo (.main (.drained rfl rfl)) rfl rfl
      (by intro _ here; cases here; rfl)) .refl⟩, rfl⟩

/-- One provider is tried and answered with, and two others come to a consensus. -/
theorem resolvers_agree_twin :
    SameFirst (.ok ⟨ipv4 203 0 113 7, "A", .dns, 0⟩)
      (Async.resolve .inserted (twinConfig .first) twinCalls) ∧
    SameConsensus 2 (Async.outcomes duoConfig twinCalls)
      (.ok ⟨ipv4 203 0 113 7, "A", .dns, 0⟩) (Async.resolve .inserted duoConfig twinCalls) := by
  -- The run is spawn, block, finish and receive, and all of it is on time.
  have run : ReflTransGen
      (Blocking.First.Regular ⟨1⟩ (twinConfig .first) twinThreads)
      (.init (twinConfig .first) 0) _ :=
    .head ⟨.main (.spawn rfl Nat.one_ne_zero), timely_twin rfl, started_twin⟩ <|
    .head ⟨.main (.block rfl), timely_twin rfl, started_twin⟩ <|
    .head ⟨.beside (.finish (show _ = [] ++ _ :: [] from rfl) rfl 0), timely_twin rfl,
      started_twin⟩ <|
    .head ⟨.main (.receive rfl rfl), timely_twin rfl, started_twin⟩ .refl
  obtain ⟨state, collected, ended⟩ := duo_run
  exact ⟨(resolvers_agree ⟨1⟩ (twinConfig .first) ⟨.inserted, .inserted⟩ .inserted twinCalls
      twinThreads (twinConfig_twins .first)).1 rfl 0 _ _ run rfl,
    (resolvers_agree ⟨1⟩ duoConfig ⟨.inserted, .inserted⟩ .inserted twinCalls twinThreads
      ⟨rfl, fun _ => ⟨_, rfl, rfl⟩⟩).2.2.1 2 rfl state _ collected ended⟩

/-- The only provider has answered in time, and the blocking race looks for its answer too late. -/
theorem late_race_disagrees : ∃ state,
    Twins (twinConfig .race) twinCalls twinThreads ∧
    ReflTransGen (Blocking.Collect.Regular ⟨1⟩ (twinConfig .race) ⟨.inserted, .inserted⟩ .race
      twinThreads) (.init (twinConfig .race) 0) state ∧
    state.phase = .done (.error (.allProvidersFailed [Blocking.timeoutError "A"])) ∧
    ¬ SameRace (.error (.allProvidersFailed [Blocking.timeoutError "A"]))
      (Async.resolve .inserted (twinConfig .race) twinCalls) := by
  refine ⟨_, twinConfig_twins .race,
    -- The worker answers at once, and then the time passes.
    .head ⟨.main (.spawn rfl), timely_twin rfl, (by intro here; cases here), rfl⟩ <|
    .head ⟨.main (.enter rfl), timely_twin rfl, fun _ => Nat.le_refl 1, rfl⟩ <|
    .head ⟨.beside (.finish (show _ = [] ++ _ :: [] from rfl) rfl 0), timely_twin rfl,
      (by intro here; cases here), rfl⟩ <|
    .head ⟨.beside (.tick (Nat.zero_le 1) (Nat.le_refl 1)), timely_twin rfl,
      (by intro here; cases here), rfl⟩ <|
    .head ⟨.main (.expired rfl rfl rfl), ?_, (by intro here; cases here), rfl⟩ .refl, rfl, ?_⟩
  · intro worker member _
    rw [List.mem_singleton.mp member]
    rfl
  · intro same
    have some_match : Async.matchingProviders (twinConfig .race) ≠ [] := by
      simp [Async.matchingProviders, twinConfig]
    have answered : ∃ result,
        Async.resolve .inserted (twinConfig .race) twinCalls = .ok result := by
      apply (Async.resolveRace_answer twinCalls some_match).answered.mpr
      exact ⟨⟨ipv4 203 0 113 7, "A", .dns, 0⟩, List.mem_singleton.mpr rfl⟩
    obtain ⟨result, impossible⟩ := same.1.mpr answered
    cases impossible

end IpDiscovery
