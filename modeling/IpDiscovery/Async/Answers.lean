import IpDiscovery.Async.Resolver

/-! What the asynchronous resolver may answer. -/

namespace IpDiscovery.Async

/-- Some asynchronous provider of a configuration accounts for a result. -/
def Accounts (config : Config) (calls : Calls) (result : ProviderResult) : Prop :=
  Attributed config.version config.providers (matchingProviders config)
    (fun position ip => (calls position).result = .returned (.ok ip)) result

/-- No provider matches exactly where none of them supports the version asked for. -/
theorem matchingProviders_eq_nil {config : Config} :
    matchingProviders config = [] ↔
      ∀ provider ∈ config.providers, provider.supportsVersion config.version = false := by
  -- A filter is empty where every test fails.
  simp [matchingProviders, List.filter_eq_nil_iff]

section Answers

variable {order : HashOrder IpAddr (List ProviderResult)} {config : Config} {calls : Calls}

/-- A successful outcome is accounted for by the provider at its position. -/
theorem accounts_of_outcome {provider : BoxedProvider} {position : Nat} {result : ProviderResult}
    (located : (matchingProviders config)[position]? = some provider)
    (succeeded : outcomeOf config calls provider position = .ok result) :
    Accounts config calls result := by
  -- The outcome repeats the name and the protocol of its provider.
  obtain ⟨configured, supports⟩ := List.mem_filter.mp (List.mem_of_getElem? located)
  obtain ⟨_, returned, family, named, spoken⟩ := outcomeOf_eq_ok succeeded
  exact ⟨family, provider, configured, supports, named, spoken, position, located, returned⟩

/-- So is every success among the outcomes of a run. -/
theorem accounts_of_mem {result : ProviderResult} (member : .ok result ∈ outcomes config calls) :
    Accounts config calls result := by
  -- Each outcome belongs to a position.
  obtain ⟨position, provider, located, same⟩ := mem_outcomes.mp member
  exact accounts_of_outcome located same.symm

/-- First answers with a result that is accounted for, or fails with the errors of all. -/
theorem resolveFirst_answered : ∃ answer, resolveFirst config calls = answer.mapError Fault.err ∧
    Answered (Accounts config calls) answer := by
  -- The loop answers with an outcome, or with the errors of all.
  unfold resolveFirst
  rcases @firstLoop_spec config calls (matchingProviders config).zipIdx [] with success | failure
  · obtain ⟨entry, member, result, succeeded, answered⟩ := success
    exact ⟨.ok result, answered,
      .result (accounts_of_outcome (List.mem_zipIdx_iff_getElem?.mp member) succeeded)⟩
  · obtain ⟨more, answered⟩ := failure
    exact ⟨.error (.allProvidersFailed more), answered, .allFailed more⟩

/-- So does a race, where there is somebody to ask. -/
theorem resolveRace_answered (some_match : matchingProviders config ≠ []) :
    ∃ answer, resolveRace config calls = answer.mapError Fault.err ∧
      Answered (Accounts config calls) answer := by
  -- The race answers with an outcome, or with the errors of all.
  rw [resolveRace, if_neg fun empty => some_match (providerFutures_eq_nil.mp empty)]
  rcases raceLoop_spec (providerFutures config calls) []
    (providerFutures_awaits config calls) with success | failure
  · obtain ⟨result, member, answered⟩ := success
    exact ⟨.ok result, answered, .result (accounts_of_mem member)⟩
  · obtain ⟨more, answered, _⟩ := failure
    exact ⟨.error (.allProvidersFailed more), answered, .allFailed more⟩

/-- So does a consensus, where there is somebody to ask. -/
theorem resolveConsensus_answered (minAgree : Nat) (some_match : matchingProviders config ≠ []) :
    ∃ answer, resolveConsensus order config calls minAgree = answer.mapError Fault.err ∧
      Answered (Accounts config calls) answer := by
  -- The selection answers with an outcome, or refuses.
  refine ⟨_, resolveConsensus_eq order minAgree some_match, ?_⟩
  cases selected : consensusOf order minAgree (outcomes config calls) with
  | ok result =>
    exact .result (accounts_of_mem (consensusOf_eq_ok order minAgree _ selected).2.1)
  | error e =>
    obtain ⟨got, same⟩ := consensusOf_eq_error order minAgree _ selected
    rw [same]
    exact .notReached _ _ _

/-- Every strategy answers with an accounted result, or with a failure of its own. -/
theorem resolve_answered (some_match : matchingProviders config ≠ []) :
    ∃ answer, resolve order config calls = answer.mapError Fault.err ∧
      Answered (Accounts config calls) answer := by
  -- Each strategy has been looked at on its own.
  rw [resolve, if_neg some_match]
  cases config.strategy with
  | first => exact resolveFirst_answered
  | race => exact resolveRace_answered some_match
  | consensus minAgree => exact resolveConsensus_answered minAgree some_match

/-- A result is accounted for. -/
theorem accounts_of_resolve {result : ProviderResult}
    (answered : resolve order config calls = .ok result) : Accounts config calls result := by
  -- Without a matching provider there is no result.
  by_cases none_match : matchingProviders config = []
  · rw [resolve, if_pos none_match] at answered
    cases answered
  · obtain ⟨answer, same, shape⟩ := @resolve_answered order config calls none_match
    rw [answered] at same
    cases shape with
    | result here => cases same; exact here
    | allFailed errors => cases same
    | notReached required got errors => cases same

/-- The absence of a matching provider is reported exactly where there is none. -/
theorem resolve_noProviders_iff :
    resolve order config calls = .error (.err .noProvidersForVersion) ↔
      ∀ provider ∈ config.providers, provider.supportsVersion config.version = false := by
  -- Once some provider matches, every answer is a result or another failure.
  rw [← matchingProviders_eq_nil]
  constructor
  · intro reported
    by_contra some_match
    obtain ⟨answer, same, shape⟩ := @resolve_answered order config calls some_match
    rw [reported] at same
    cases shape <;> cases same
  · intro none_match
    rw [resolve, if_pos none_match]

end Answers

end IpDiscovery.Async
