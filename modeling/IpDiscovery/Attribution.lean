import IpDiscovery.Agreement
import IpDiscovery.Async.FirstOrder
import IpDiscovery.Async.Race
import IpDiscovery.Blocking.Attribution
import IpDiscovery.Gist

/-! Failed resolutions report every provider once, under its own name. -/

namespace IpDiscovery

/-- The errors of a failed resolution are those of different providers, and of all who failed. -/
def Reports (names : List String) : Except Error ProviderResult → Prop
  | .ok _ => True
  | .error .noProvidersForVersion => names = []
  -- Without an answer all providers have failed.
  | .error (.allProvidersFailed errors) => (errors.map ProviderError.provider).Perm names
  -- Without enough agreement some may have succeeded.
  | .error (.consensusNotReached _ _ errors) =>
    (errors.map ProviderError.provider).Subperm names

namespace Async

/-- The names of the matching providers, in configured order. -/
def matchingNames (config : Config) : List String :=
  (matchingProviders config).map Provider.name

/-- Providers that fail do so under their own names. -/
def OwnErrors (config : Config) (calls : Calls) : Prop :=
  ∀ position provider error, (matchingProviders config)[position]? = some provider →
    (calls position).result = .returned (.error error) → error.provider = provider.name

section Names

variable {config : Config} {calls : Calls}

/-- An outcome that is a failure is under the name of its provider. -/
theorem outcome_name (own : OwnErrors config calls) {position : Nat} {provider : BoxedProvider}
    (located : (matchingProviders config)[position]? = some provider) {error : ProviderError}
    (failed : outcomeOf config calls provider position = .error error) :
    error.provider = provider.name := by
  unfold outcomeOf at failed
  split at failed
  · -- There was no time for a call.
    cases failed
    rfl
  · unfold callOutcome at failed
    cases called : (calls position).result with
    | elapsed =>
      -- The call has outlasted its timeout.
      simp only [called, Except.error.injEq] at failed
      rw [← failed, ProviderError.message]
    | returned result =>
      cases result with
      | error error' =>
        simp only [called, Except.error.injEq] at failed
        rw [← failed]
        exact own position provider error' located called
      | ok ip =>
        -- Only the family of a returned address can be wrong.
        simp only [called] at failed
        split at failed
        · cases failed
          rfl
        · cases failed

/-- Whatever a run has settled as failed is under the name of its provider. -/
theorem settled_named (own : OwnErrors config calls) :
    NamedBy (matchingNames config) (settled config calls) := by
  intro entry member error failed
  obtain ⟨provider, located, same⟩ := mem_settled.mp (show (entry.1, entry.2) ∈ _ from member)
  rw [failed] at same
  simp [matchingNames, located, outcome_name own located same.symm]

/-- In a run, everybody among the matching providers is settled. -/
theorem settled_everyone : ((settled config calls).map Prod.fst).Perm
    (List.range (matchingNames config).length) := by
  rw [settled_ids, matchingNames, List.length_map]

/-- A run without a success reports all names. -/
theorem reports_of_failed (own : OwnErrors config calls) {errors : List ProviderError}
    (failed : (errors.map .error).Perm (outcomes config calls)) :
    Reports (matchingNames config) (.error (.allProvidersFailed errors)) := by
  have named := settled_named own
  rw [← settled_outcomes] at failed
  -- No outcome is a success, so the failures are all of them.
  have none_succeeded : successes ((settled config calls).map Prod.snd) = [] := by
    rw [List.eq_nil_iff_forall_not_mem]
    intro result member
    obtain ⟨error, _, same⟩ := List.mem_map.mp (failed.mem_iff.mpr (mem_successes.mp member))
    cases same
  have same : (failures (errors.map .error)).Perm
      (failures ((settled config calls).map Prod.snd)) := failed.filterMap _
  rw [failures_map_error] at same
  exact (same.map _).trans (named.perm settled_everyone none_succeeded)

/-- First fails with the errors of all providers, in configured order. -/
theorem first_fails_in_order (own : OwnErrors config calls) {error : Error}
    (failed : resolveFirst config calls = .error (.err error)) :
    ∃ errors, error = .allProvidersFailed errors ∧
      errors.map ProviderError.provider = matchingNames config := by
  obtain ⟨same, delivered | nobody⟩ := resolveFirst_inOrder config calls
  · -- Somebody has delivered an address.
    obtain ⟨position, ip, first⟩ := delivered
    obtain ⟨provider, _, won⟩ := first.answer
    rw [← same, won] at failed
    cases failed
  · -- Nobody has, so every outcome is an error.
    obtain ⟨errors, all, count, lost⟩ := nobody.answer
    rw [← same, lost] at failed
    cases failed
    refine ⟨errors, rfl, List.ext_getElem? fun position => ?_⟩
    rw [List.getElem?_map, matchingNames, List.getElem?_map]
    cases located : (matchingProviders config)[position]? with
    | none =>
      -- Behind the last provider there is no error.
      rw [List.getElem?_eq_none_iff, ← count] at located
      rw [List.getElem?_eq_none_iff.mpr located]
      rfl
    | some provider =>
      -- The outcome at the position is the error recorded there.
      have outcome : (outcomes config calls)[position]? =
          some (outcomeOf config calls provider position) := by
        simp [outcomes, List.getElem?_zipIdx, located]
      rw [all, List.getElem?_map, Option.map_eq_some_iff] at outcome
      obtain ⟨error, recorded, same⟩ := outcome
      rw [recorded]
      exact congrArg some (outcome_name own located same.symm)

/-- Every failure of the asynchronous resolver is reported by name. -/
theorem reports_of_resolve (own : OwnErrors config calls)
    {order : HashOrder IpAddr (List ProviderResult)} {answer : Except Error ProviderResult}
    (answered : resolve order config calls = answer.mapError Fault.err) :
    Reports (matchingNames config) answer := by
  cases answer with
  | ok result => trivial
  | error error =>
    by_cases none_match : matchingProviders config = []
    · rw [resolve, if_pos none_match] at answered
      cases answered
      simp [Reports, matchingNames, none_match]
    · rw [resolve, if_neg none_match] at answered
      cases strategy : config.strategy with
      | first =>
        simp only [strategy] at answered
        obtain ⟨errors, rfl, all⟩ := first_fails_in_order own answered
        exact .of_eq all
      | race =>
        simp only [strategy] at answered
        -- A race that fails has no result.
        have lost (result : ProviderResult) : resolveRace config calls ≠ .ok result := by
          rw [answered]
          intro same
          cases same
        obtain ⟨errors, failed, _, all⟩ := (resolveRace_answer calls none_match).failed lost
        rw [failed] at answered
        cases answered
        exact reports_of_failed own all
      | consensus minAgree =>
        simp only [strategy] at answered
        rw [resolveConsensus_eq order minAgree none_match] at answered
        cases selected : consensusOf order minAgree (outcomes config calls) with
        | ok result =>
          rw [selected] at answered
          cases answered
        | error error' =>
          -- The errors are the failures among all outcomes.
          obtain ⟨got, rfl⟩ := consensusOf_eq_error order minAgree _ selected
          rw [selected] at answered
          cases answered
          have reported := (settled_named own).subperm settled_everyone
          rwa [settled_outcomes] at reported

end Names

end Async

namespace Blocking

section Names

variable {clock : Clock} {config : Config} {calls : Calls} {orders : Orders}

/-- First fails with the errors of all providers, in configured order. -/
theorem First.fails_in_order {state : First} (reached : FirstReaches clock config calls state)
    (own : OwnErrors config calls) {error : Error} (ended : state.phase = .done (.error error)) :
    ∃ errors, error = .allProvidersFailed errors ∧
      errors.map ProviderError.provider = matchingNames config := by
  obtain ⟨now, run⟩ := reached
  have placed := (First.ordered_of_run run).placed
  simp only [First.Placed, ended] at placed
  obtain ⟨rfl, all, _⟩ := placed
  refine ⟨_, rfl, List.ext_getElem? fun position => ?_⟩
  rw [List.getElem?_map]
  cases recorded : state.errors[position]? with
  | some error => simp [First.errors_named run own recorded]
  | none =>
    -- Behind the last error there is no provider.
    rw [List.getElem?_eq_none_iff, all] at recorded
    rw [Option.map_none, eq_comm, List.getElem?_eq_none_iff, matchingNames_length]
    exact recorded

/-- The answer of First reports all names in order, if everybody has failed. -/
theorem First.reports {state : First} (reached : FirstReaches clock config calls state)
    (own : OwnErrors config calls) {answer : Except Error ProviderResult}
    (ended : state.phase = .done answer) : Reports (matchingNames config) answer := by
  cases answer with
  | ok result => trivial
  | error error =>
    obtain ⟨errors, rfl, all⟩ := First.fails_in_order reached own ended
    exact .of_eq all

/-- What a race or a consensus reports are different names, and all where it is a race. -/
theorem Collect.reports {mode : Mode} {state : Collect}
    (reached : CollectReaches clock config calls orders mode state)
    (own : OwnErrors config calls) {answer : Except Error ProviderResult}
    (ended : state.phase = .done answer) : Reports (matchingNames config) answer := by
  obtain ⟨now, run⟩ := reached
  obtain ⟨tracked, recorded⟩ := Collect.laws_of_run run
  have named := @settled_named _ _ _ orders _ _ _ run own
  have everyone := tracked.settled_ids (by rw [ended]; rfl) orders
  rw [← matchingNames_length] at everyone
  cases answer with
  | ok result => trivial
  | error error =>
    cases mode with
    | race =>
      rcases recorded.answer _ ended with failed | ⟨_, _, won, _⟩
      · cases failed
        -- A success would have been the answer.
        have none_succeeded : successes (state.outcomes config orders) = [] := by
          rw [Collect.successes_outcomes]
          rcases recorded.race rfl with none_succeeded | ⟨result, won, _⟩
          · exact none_succeeded
          · rw [won] at ended
            cases ended
        have reported := named.perm everyone none_succeeded
        rwa [← Collect.outcomes, recorded.failures_outcomes] at reported
      · cases won
    | consensus minAgree =>
      obtain ⟨got, rfl⟩ := consensusOf_eq_error orders.ipResults minAgree _
        (recorded.consensus_answer ended).symm
      exact named.subperm everyone

/-- Every failure of the blocking resolver is reported by name. -/
theorem reports_of_returns (own : OwnErrors config calls) {answer : Except Error ProviderResult}
    (returned : Returns clock config calls orders answer) :
    Reports (matchingNames config) answer := by
  unfold Returns at returned
  split at returned
  · -- Some answers need no worker.
    rename_i immediate started
    subst returned
    have timed_out : ((matchingProviders config).map fun p => timeoutError p.name).map
        ProviderError.provider = matchingNames config := by
      simp [matchingNames, timeoutError, ProviderError.message, Function.comp_def]
    by_cases none_match : matchingProviders config = []
    · rw [start, if_pos none_match] at started
      cases started
      simp [Reports, matchingNames, none_match]
    · rw [start, if_neg none_match] at started
      cases strategy : config.strategy with
      | first =>
        simp only [strategy] at started
        cases started
      | race =>
        simp only [strategy, startRace, if_neg none_match] at started
        -- Without any time, all are reported as timed out.
        split at started <;> cases started
        exact .of_eq timed_out
      | consensus minAgree =>
        simp only [strategy, startConsensus, if_neg none_match] at started
        split at started <;> cases started
        exact (List.Perm.of_eq timed_out).subperm
  · obtain ⟨state, reached, ended⟩ := returned
    exact First.reports reached own ended
  · obtain ⟨state, reached, ended⟩ := returned
    exact Collect.reports reached own ended

end Names

end Blocking

/--
A failed resolution reports every provider that failed once, under its own name.

Where no answer was found these are all matching providers, and where too few agreed they are
different ones. The resolvers add nothing to what providers say of themselves, in any order of
events, as long as the errors that providers return carry their own names.
-/
theorem errors_attributed :
    (∀ clock config calls orders answer, Blocking.OwnErrors config calls →
      Blocking.Returns clock config calls orders answer →
        Reports (Blocking.matchingNames config) answer) ∧
    ∀ order config calls answer, Async.OwnErrors config calls →
      Async.resolve order config calls = answer.mapError Fault.err →
        Reports (Async.matchingNames config) answer :=
  ⟨fun _ _ _ _ _ own => Blocking.reports_of_returns own,
    fun _ _ _ _ own => Async.reports_of_resolve own⟩

/-- Two providers in a race, both of which refuse. -/
def refusedConfig : Config where
  blockingProviders := [⟨"A", .dns, fun _ => true⟩, ⟨"B", .stun, fun _ => true⟩]
  providers := []
  timeout := 1
  version := .any
  strategy := .race

/-- Each refuses under its own name. -/
def refusedCalls (position : Nat) : Blocking.CallResult :=
  .returned (.error (.message (if position = 0 then "A" else "B") "refused"))

/-- Both providers of this run fail under their own name. -/
theorem refusedCalls_own : Blocking.OwnErrors refusedConfig refusedCalls := by
  intro position provider error located failed
  cases failed
  -- There is nobody behind the second position.
  match position, located with
  | 0, located | 1, located => cases located; rfl
  | _ + 2, located => cases located

/-- The second provider refuses first, and both are reported by name. -/
theorem errors_attributed_refused : ∃ errors,
    Blocking.Returns ⟨1⟩ refusedConfig refusedCalls ⟨.inserted, .inserted⟩
      (.error (.allProvidersFailed errors)) ∧
    errors = [.message "B" "refused", .message "A" "refused"] ∧
    (errors.map ProviderError.provider).Perm (Blocking.matchingNames refusedConfig) := by
  have returned : Blocking.Returns ⟨1⟩ refusedConfig refusedCalls ⟨.inserted, .inserted⟩
      (.error (.allProvidersFailed [.message "B" "refused", .message "A" "refused"])) :=
    ⟨_, ⟨0,
      .head (.main (.spawn rfl)) <| .head (.main (.spawn rfl)) <| .head (.main (.enter rfl)) <|
      -- The second worker answers, and then the first one.
      .head (.main (.check rfl rfl (by decide))) <| .head (.main (.block rfl)) <|
      .head (.beside (.finish (show _ = [_] ++ _ :: [] from rfl) rfl 0)) <|
      .head (.main (.receive rfl rfl)) <|
      .head (.main (.check rfl rfl (by decide))) <| .head (.main (.block rfl)) <|
      .head (.beside (.finish (show _ = [] ++ _ :: [_] from rfl) rfl 0)) <|
      .head (.main (.receive rfl rfl)) <| .head (.main (.drained rfl rfl)) .refl⟩, rfl⟩
  exact ⟨_, returned, rfl, errors_attributed.1 _ _ _ _ _ refusedCalls_own returned⟩

end IpDiscovery
