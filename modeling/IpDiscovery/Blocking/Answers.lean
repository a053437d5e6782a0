import IpDiscovery.Blocking.CollectLaws
import IpDiscovery.Blocking.FirstLaws
import IpDiscovery.Blocking.Resolver

/-! What the blocking resolver may answer, over all interleavings. -/

namespace IpDiscovery.Blocking

/-- No provider matches exactly where none of them supports the version asked for. -/
theorem matchingProviders_eq_nil {config : Config} :
    matchingProviders config = [] ↔
      ∀ provider ∈ config.blockingProviders, provider.supportsVersion config.version = false := by
  -- A filter is empty where every test fails.
  simp [matchingProviders, List.filter_eq_nil_iff]

/-- The strategy that a mode collects for. -/
def Mode.strategy : Mode → Strategy
  | .race => .race
  | .consensus minAgree => .consensus minAgree

/-- The loop is entered exactly for its own strategies, with some provider and some time. -/
theorem start_eq_collect {config : Config} {mode : Mode} :
    start config = .collect mode ↔ matchingProviders config ≠ [] ∧ config.timeout ≠ 0 ∧
      config.strategy = mode.strategy := by
  -- The three tests of the start are made one after the other.
  by_cases none_match : matchingProviders config = []
  · simp [start, none_match]
  by_cases zero : config.timeout = 0
  · cases strategy : config.strategy <;> simp [start, startRace, startConsensus, none_match, zero,
      strategy]
  cases strategy : config.strategy <;> cases mode <;>
    simp [start, startRace, startConsensus, none_match, zero, strategy, Mode.strategy]

/-- The providers are tried one after the other exactly for the strategy that does so. -/
theorem start_eq_first {config : Config} :
    start config = .first ↔ matchingProviders config ≠ [] ∧ config.strategy = .first := by
  by_cases none_match : matchingProviders config = []
  · simp [start, none_match]
  by_cases zero : config.timeout = 0
  · cases strategy : config.strategy <;> simp [start, startRace, startConsensus, none_match, zero,
      strategy]
  cases strategy : config.strategy <;>
    simp [start, startRace, startConsensus, none_match, zero, strategy]

section Answers

variable {clock : Clock} {config : Config} {calls : Calls} {orders : Orders}

/-- A success among the received messages is accounted for by its sender. -/
theorem Collect.Tracked.accounts {state : Collect} (tracked : state.Tracked config calls)
    {result : ProviderResult} (member : .ok result ∈ state.outcomesReceived config) :
    Accounts config calls result := by
  -- A success among the outcomes comes from a message.
  obtain ⟨message, received, validated⟩ := List.mem_map.mp member
  exact (tracked.genuine received).accounts validated

/-- What First answers is accounted for by one of its workers. -/
theorem first_answered {state : First} (reached : FirstReaches clock config calls state)
    {answer : Except Error ProviderResult} (ended : state.phase = .done answer) :
    Answered (Accounts config calls) answer := by
  -- The invariant of a run says what its answer may be.
  obtain ⟨now, run⟩ := reached
  rcases (First.sound_of_run run).answer answer ended with success | failure
  · obtain ⟨result, same, accounted⟩ := success
    rw [same]
    exact .result accounted
  · obtain ⟨errors, same⟩ := failure
    rw [same]
    exact .allFailed errors

/-- What the collecting resolver answers is accounted for by one of its workers. -/
theorem collect_answered {mode : Mode} {state : Collect}
    (reached : CollectReaches clock config calls orders mode state)
    {answer : Except Error ProviderResult} (ended : state.phase = .done answer) :
    Answered (Accounts config calls) answer := by
  -- What the engine recorded says what its answer may be.
  obtain ⟨now, run⟩ := reached
  obtain ⟨tracked, recorded⟩ := Collect.laws_of_run run
  cases mode with
  -- A race ends with its first success, or with errors.
  | race =>
    rcases recorded.answer answer ended with failure | success
    · rw [failure]
      exact .allFailed _
    · obtain ⟨_, result, same, member⟩ := success
      rw [same]
      exact .result (tracked.accounts member)
  -- A consensus ends with one of the successes, or with a refusal.
  | consensus minAgree =>
    have selected := recorded.consensus_answer ended
    cases answer with
    | ok result =>
      have member := (consensusOf_eq_ok orders.ipResults minAgree _ selected.symm).2.1
      rw [← mem_successes, Collect.successes_outcomes, mem_successes] at member
      exact .result (tracked.accounts member)
    | error e =>
      obtain ⟨got, same⟩ := consensusOf_eq_error orders.ipResults minAgree _ selected.symm
      rw [same]
      exact .notReached _ _ _

/-- Every strategy answers with an accounted result, or with a failure of its own. -/
theorem returns_answered (some_match : matchingProviders config ≠ [])
    {answer : Except Error ProviderResult}
    (returned : Returns clock config calls orders answer) :
    Answered (Accounts config calls) answer := by
  -- The two engines are left, and two answers without a worker.
  unfold Returns at returned
  rw [start, if_neg some_match] at returned
  cases strategy : config.strategy with
  | first =>
    rw [strategy] at returned
    obtain ⟨state, reached, ended⟩ := returned
    exact first_answered reached ended
  | race =>
    rw [strategy] at returned
    simp only [startRace, if_neg some_match] at returned
    split at returned
    · rename_i immediate
      split at immediate
      · cases immediate
        rw [returned]
        exact .allFailed _
      · cases immediate
    · rename_i immediate
      split at immediate <;> cases immediate
    · obtain ⟨state, reached, ended⟩ := returned
      exact collect_answered reached ended
  | consensus minAgree =>
    rw [strategy] at returned
    simp only [startConsensus, if_neg some_match] at returned
    split at returned
    · rename_i immediate
      split at immediate
      · cases immediate
        rw [returned]
        exact .notReached _ _ _
      · cases immediate
    · rename_i immediate
      split at immediate <;> cases immediate
    · obtain ⟨state, reached, ended⟩ := returned
      exact collect_answered reached ended

/-- The answer to a timeout of zero is the selection over as many timeouts as providers. -/
theorem startConsensus_plurality {minAgree : Nat} (positive : 1 ≤ minAgree)
    (some_match : matchingProviders config ≠ []) {answer : Except Error ProviderResult}
    (immediate : startConsensus config minAgree = .answered answer) :
    Plurality minAgree
      ((matchingProviders config).map fun provider => .error (timeoutError provider.name))
      answer := by
  simp only [startConsensus, if_neg some_match] at immediate
  split at immediate
  -- With a timeout of zero the answer is immediate.
  · cases immediate
    generalize (matchingProviders config) = providers
    -- Nobody has answered anything.
    have silent : successes (providers.map fun provider =>
        (.error (timeoutError provider.name) : Outcome)) = [] := by
      simp [successes, Except.toOption]
    have unsupported (ip : IpAddr) : support (providers.map fun provider =>
        (.error (timeoutError provider.name) : Outcome)) ip = 0 := by
      simp [support, agreeing, silent]
    refine ⟨⟨by simp, ?_⟩, by simp, ?_⟩
    · intro enough
      obtain ⟨ip, reaches⟩ := enough
      rw [unsupported] at reaches
      omega
    · intro _
      refine ⟨0, ?_, by omega, fun ip => (unsupported ip).le, ipv4 0 0 0 0, unsupported _⟩
      simp [failures, List.filterMap_map, List.filterMap_eq_map']
  · cases immediate

/-- Where no provider matches, that is the only answer. -/
theorem returns_iff_of_none (none_match : matchingProviders config = [])
    {answer : Except Error ProviderResult} :
    Returns clock config calls orders answer ↔ answer = .error .noProvidersForVersion := by
  -- The first test of the start decides.
  simp only [Returns, start, if_pos none_match]

/-- A result is accounted for. -/
theorem accounts_of_returns {result : ProviderResult}
    (returned : Returns clock config calls orders (.ok result)) : Accounts config calls result := by
  -- Without a matching provider there is no result.
  by_cases none_match : matchingProviders config = []
  · cases (returns_iff_of_none none_match).mp returned
  · cases returns_answered none_match returned with
    | result here => exact here

/-- The absence of a matching provider is reported exactly where there is none. -/
theorem returns_noProviders_iff {answer : Except Error ProviderResult}
    (returned : Returns clock config calls orders answer) :
    answer = .error .noProvidersForVersion ↔
      ∀ provider ∈ config.blockingProviders, provider.supportsVersion config.version = false := by
  -- Once some provider matches, every answer is a result or another failure.
  rw [← matchingProviders_eq_nil]
  constructor
  · intro reported
    by_contra some_match
    have shape := returns_answered some_match returned
    rw [reported] at shape
    cases shape
  · intro none_match
    exact (returns_iff_of_none none_match).mp returned

end Answers

end IpDiscovery.Blocking
