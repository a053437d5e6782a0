import IpDiscovery.Async.FutureLaws
import IpDiscovery.Config
import IpDiscovery.Consensus

/-! The asynchronous resolver, and the outcome each of its futures is going to have. -/

namespace IpDiscovery.Async

/-! ## The code -/

/-- How a provider's call ends: by returning, or by outlasting its timeout. -/
inductive CallResult where
  | returned (result : Except ProviderError IpAddr)
  | elapsed
deriving DecidableEq

/-- What the environment makes of one provider's call. -/
structure Call where
  polls : Nat
  result : CallResult
  latency : Duration
deriving DecidableEq

/-- The calls of a run, by position among the matching providers. -/
abbrev Calls := Nat → Call

/-- `Resolver::matching_providers`. -/
def matchingProviders (config : Config) : List BoxedProvider :=
  config.providers.filter fun p => p.supportsVersion config.version

/-- What a started provider future returns. -/
def callOutcome (config : Config) (provider : BoxedProvider) (call : Call) : Outcome :=
  match call.result with
  -- An address of the wrong version is an error of the provider.
  | .returned (.ok ip) =>
    if !config.version.matches ip then
      .error (.message provider.name "provider returned unexpected IP version")
    else
      .ok { ip, provider := provider.name, protocol := provider.protocol, latency := call.latency }
  | .returned (.error e) => .error e
  -- `timeout` has given up on the call.
  | .elapsed => .error (.message provider.name "timeout")

/-- `Resolver::make_provider_future`, which calls no provider where the timeout is zero. -/
def makeProviderFuture (config : Config) (provider : BoxedProvider) (call : Call) :
    Future Outcome :=
  if config.timeout = 0 then .waiting 0 (.error (.message provider.name "timeout"))
  else .waiting call.polls (callOutcome config provider call)

/-- The futures of all matching providers. -/
def providerFutures (config : Config) (calls : Calls) : List (Future Outcome) :=
  (matchingProviders config).zipIdx.map fun (provider, position) =>
    makeProviderFuture config provider (calls position)

/-- `for provider in self.matching_providers()`, awaiting one future after the other. -/
def firstLoop (config : Config) (calls : Calls) :
    List (BoxedProvider × Nat) → (errors : List ProviderError) →
      Except (Fault Error) ProviderResult
  | [], errors => .error (.err (.allProvidersFailed errors))
  | (provider, position) :: rest, errors => do
    -- Each future is awaited before the next one is made.
    match ← (makeProviderFuture config provider (calls position)).await with
    | .ok result => return result
    | .error e => firstLoop config calls rest (errors ++ [e])

/-- `Resolver::resolve_first`. -/
def resolveFirst (config : Config) (calls : Calls) : Except (Fault Error) ProviderResult :=
  firstLoop config calls (matchingProviders config).zipIdx []

/-- `while !futures.is_empty()`, taking the first future to be ready. -/
def raceLoop (futures : List (Future Outcome)) (errors : List ProviderError) :
    Except (Fault Error) ProviderResult :=
  if futures = [] then .error (.err (.allProvidersFailed errors))
  else
    match _chosen : selectFirst futures with
    | .error fault => .error fault
    | .ok (.ok result, _, _) => .ok result
    -- A failure leaves the others in the race.
    | .ok (.error e, _, remaining) => raceLoop remaining (errors ++ [e])
termination_by futures.length
decreasing_by exact selectFirst_length _chosen

/-- `Resolver::resolve_race`. -/
def resolveRace (config : Config) (calls : Calls) : Except (Fault Error) ProviderResult :=
  let futures := providerFutures config calls
  if futures = [] then .error (.err .noProvidersForVersion) else raceLoop futures []

/-- `Resolver::resolve_consensus`. -/
def resolveConsensus (order : HashOrder IpAddr (List ProviderResult)) (config : Config)
    (calls : Calls) (minAgree : Nat) : Except (Fault Error) ProviderResult := do
  let futures := providerFutures config calls
  if futures = [] then .error (.err .noProvidersForVersion)
  else
    -- All futures are awaited, whatever they return.
    let allResults ← joinAllVec futures
    let (ipResults, errors) := tally allResults
    (selectConsensus order minAgree ipResults errors).mapError Fault.err

/-- `Resolver::resolve`. -/
def resolve (order : HashOrder IpAddr (List ProviderResult)) (config : Config) (calls : Calls) :
    Except (Fault Error) ProviderResult :=
  if matchingProviders config = [] then .error (.err .noProvidersForVersion)
  else
    match config.strategy with
    | .first => resolveFirst config calls
    | .race => resolveRace config calls
    | .consensus minAgree => resolveConsensus order config calls minAgree

/-! ## Outcomes -/

/-- What one matching provider contributes to a run. -/
def outcomeOf (config : Config) (calls : Calls) (provider : BoxedProvider) (position : Nat) :
    Outcome :=
  if config.timeout = 0 then .error (.message provider.name "timeout")
  else callOutcome config provider (calls position)

/-- What the matching providers contribute to a run, in configured order. -/
def outcomes (config : Config) (calls : Calls) : List Outcome :=
  (matchingProviders config).zipIdx.map fun (provider, position) =>
    outcomeOf config calls provider position

/-- A provider's future is live, and is going to have that provider's outcome. -/
theorem makeProviderFuture_waiting (config : Config) (calls : Calls) (provider : BoxedProvider)
    (position : Nat) :
    ∃ polls, makeProviderFuture config provider (calls position) =
      .waiting polls (outcomeOf config calls provider position) := by
  -- A future is made live, with or without a call.
  unfold makeProviderFuture outcomeOf
  split
  · exact ⟨0, rfl⟩
  · exact ⟨_, rfl⟩

/-- The futures are going to return the outcomes, one each. -/
theorem providerFutures_awaits (config : Config) (calls : Calls) :
    Awaits (providerFutures config calls) (outcomes config calls) := by
  -- Each position has its own future and its own outcome.
  rw [Awaits, providerFutures, outcomes, List.forall₂_map_left_iff, List.forall₂_map_right_iff,
    List.forall₂_same]
  intro entry _
  exact makeProviderFuture_waiting config calls entry.1 entry.2

/-- A success is what the provider's own call returned, under the provider's own name. -/
theorem outcomeOf_eq_ok {config : Config} {calls : Calls} {provider : BoxedProvider}
    {position : Nat} {result : ProviderResult}
    (succeeded : outcomeOf config calls provider position = .ok result) :
    config.timeout ≠ 0 ∧ (calls position).result = .returned (.ok result.ip) ∧
      config.version.matches result.ip = true ∧ result.provider = provider.name ∧
      result.protocol = provider.protocol := by
  -- Every other branch is an error.
  unfold outcomeOf at succeeded
  split at succeeded
  · cases succeeded
  · rename_i started
    unfold callOutcome at succeeded
    split at succeeded
    · rename_i ip returned
      split at succeeded
      · cases succeeded
      · rename_i family
        cases succeeded
        exact ⟨started, returned, by simpa using family, rfl, rfl⟩
    · cases succeeded
    · cases succeeded

/-- An address of the version asked for makes its provider's outcome a success. -/
theorem outcomeOf_returned {config : Config} {calls : Calls} {position : Nat} {ip : IpAddr}
    (started : config.timeout ≠ 0) (returned : (calls position).result = .returned (.ok ip))
    (family : config.version.matches ip = true) (provider : BoxedProvider) :
    outcomeOf config calls provider position =
      .ok ⟨ip, provider.name, provider.protocol, (calls position).latency⟩ := by
  -- All three checks of the future pass.
  simp [outcomeOf, if_neg started, callOutcome, returned, family]

/-- An outcome of a run belongs to one of the matching providers. -/
theorem mem_outcomes {config : Config} {calls : Calls} {outcome : Outcome} :
    outcome ∈ outcomes config calls ↔
      ∃ position provider, (matchingProviders config)[position]? = some provider ∧
        outcome = outcomeOf config calls provider position := by
  -- The outcomes are those of the matching providers with their positions.
  rw [outcomes, List.mem_map]
  constructor
  · intro found
    obtain ⟨⟨provider, position⟩, member, same⟩ := found
    exact ⟨position, provider, List.mem_zipIdx_iff_getElem?.mp member, same.symm⟩
  · intro found
    obtain ⟨position, provider, located, same⟩ := found
    exact ⟨(provider, position), List.mem_zipIdx_iff_getElem?.mpr located, same.symm⟩

/-- There is one outcome for each matching provider. -/
theorem outcomes_length (config : Config) (calls : Calls) :
    (outcomes config calls).length = (matchingProviders config).length := by
  -- Each matching provider has one outcome.
  simp [outcomes]

/-! ## Strategies -/

/-- The loop over single futures answers with one of their outcomes, or fails. -/
theorem firstLoop_spec {config : Config} {calls : Calls} (entries : List (BoxedProvider × Nat)) :
    ∀ errors : List ProviderError,
      (∃ entry ∈ entries, ∃ result, outcomeOf config calls entry.1 entry.2 = .ok result ∧
        firstLoop config calls entries errors = .ok result) ∨
      ∃ more, firstLoop config calls entries errors =
        .error (.err (.allProvidersFailed (errors ++ more))) := by
  -- The induction awaits one future at a time.
  induction entries with
  | nil =>
    intro errors
    exact Or.inr ⟨[], by simp [firstLoop]⟩
  | cons entry rest ih =>
    intro errors
    obtain ⟨provider, position⟩ := entry
    obtain ⟨polls, waiting⟩ := makeProviderFuture_waiting config calls provider position
    rw [firstLoop, waiting, await_waiting, ok_bind]
    cases outcome : outcomeOf config calls provider position with
    -- A success is returned at once.
    | ok result =>
      exact Or.inl ⟨(provider, position), List.mem_cons_self, result, outcome, rfl⟩
    -- A failure is remembered, and the next provider is tried.
    | error e =>
      dsimp only
      rcases ih (errors ++ [e]) with success | failure
      · obtain ⟨later, member, found⟩ := success
        exact Or.inl ⟨later, List.mem_cons_of_mem _ member, found⟩
      · obtain ⟨more, failed⟩ := failure
        exact Or.inr ⟨e :: more, by simpa using failed⟩

/-- One choice of the race, and the choices after it. -/
theorem raceLoop_eq (futures : List (Future Outcome)) (errors : List ProviderError) :
    raceLoop futures errors =
      if futures = [] then .error (.err (.allProvidersFailed errors))
      else
        match selectFirst futures with
        | .error fault => .error fault
        | .ok (.ok result, _, _) => .ok result
        | .ok (.error e, _, remaining) => raceLoop remaining (errors ++ [e]) := by
  -- The recursive call is the only difference to the definition.
  rw [raceLoop]
  split
  · rfl
  · split <;> rename_i chosen <;> rw [chosen]

/-- The race answers with the output of one of its futures, or with the errors of all of them. -/
theorem raceLoop_spec (futures : List (Future Outcome)) (errors : List ProviderError) :
    ∀ {outputs : List Outcome}, Awaits futures outputs →
      (∃ result, .ok result ∈ outputs ∧ raceLoop futures errors = .ok result) ∨
      ∃ more, raceLoop futures errors = .error (.err (.allProvidersFailed (errors ++ more))) ∧
        outputs.Perm (more.map .error) := by
  -- The induction follows the race, which drops one failed future at a time.
  induction futures, errors using raceLoop.induct with
  | case1 errors =>
    intro outputs live
    cases live
    exact Or.inr ⟨[], by rw [raceLoop_eq, if_pos rfl, List.append_nil], .nil⟩
  | case2 futures errors nonempty fault failed =>
    intro outputs live
    obtain ⟨_, _, _, _, chosen, _⟩ := @selectFirst_spec Error _ _ _ live nonempty
    rw [chosen] at failed
    cases failed
  -- The first success wins.
  | case3 futures errors nonempty result index remaining ready =>
    intro outputs live
    obtain ⟨_, _, _, _, chosen, _, same⟩ := @selectFirst_spec Error _ _ _ live nonempty
    rw [chosen] at ready
    cases ready
    refine Or.inl ⟨result, same.subset List.mem_cons_self, ?_⟩
    rw [raceLoop_eq, if_neg nonempty, chosen]
  -- A failure joins the errors, and the race goes on without it.
  | case4 futures errors nonempty e index remaining ready ih =>
    intro outputs live
    obtain ⟨_, _, _, others, chosen, left, same⟩ := @selectFirst_spec Error _ _ _ live nonempty
    rw [chosen] at ready
    cases ready
    have shape : raceLoop futures errors = raceLoop remaining (errors ++ [e]) := by
      rw [raceLoop_eq, if_neg nonempty, chosen]
    rw [shape]
    rcases ih left with success | failure
    · obtain ⟨result, member, found⟩ := success
      exact Or.inl ⟨result, same.subset (List.mem_cons_of_mem _ member), found⟩
    · obtain ⟨more, failed, rest⟩ := failure
      exact Or.inr ⟨e :: more, by simpa using failed, same.symm.trans (rest.cons _)⟩

/-- The futures of a run are none exactly where no provider matches. -/
theorem providerFutures_eq_nil {config : Config} {calls : Calls} :
    providerFutures config calls = [] ↔ matchingProviders config = [] := by
  -- There is one future for each matching provider.
  simp [providerFutures]

/-- Consensus is the selection over the outcomes of all matching providers. -/
theorem resolveConsensus_eq (order : HashOrder IpAddr (List ProviderResult)) {config : Config}
    {calls : Calls} (minAgree : Nat) (some_match : matchingProviders config ≠ []) :
    resolveConsensus order config calls minAgree =
      (consensusOf order minAgree (outcomes config calls)).mapError Fault.err := by
  -- Joining the futures gives the outcomes, and the rest is the selection.
  have some_futures : ¬ providerFutures config calls = [] :=
    fun empty => some_match (providerFutures_eq_nil.mp empty)
  simp only [resolveConsensus, if_neg some_futures,
    joinAllVec_spec (providerFutures_awaits config calls), ok_bind]
  rfl

end IpDiscovery.Async
