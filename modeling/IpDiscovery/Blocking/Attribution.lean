import IpDiscovery.Blocking.Answers
import IpDiscovery.Blocking.FirstOrder

/-! The errors of a blocking resolution, each under the name of its own provider. -/

namespace IpDiscovery

open Relation

/-! ## Names of settled providers -/

/-- The failures of some providers, known by position, are under their names. -/
def NamedBy (names : List String) (settled : List (Nat × Outcome)) : Prop :=
  ∀ entry ∈ settled, ∀ error, entry.2 = .error error →
    names[entry.1]? = some error.provider

section Named

variable {names : List String} {settled : List (Nat × Outcome)}

/-- Named failures are some of the names at the settled positions. -/
theorem NamedBy.sublist (named : NamedBy names settled) :
    ((failures (settled.map Prod.snd)).map ProviderError.provider).Sublist
      (settled.filterMap fun entry => names[entry.1]?) := by
  induction settled with
  | nil => exact .slnil
  | cons entry settled ih =>
    have rest := ih fun other member => named other (List.mem_cons_of_mem _ member)
    obtain ⟨position, outcome⟩ := entry
    cases outcome with
    | error error =>
      -- A failure takes the name at its position.
      have here := named _ List.mem_cons_self error rfl
      simp only at here
      simpa [failures, here] using rest
    | ok result =>
      -- A success leaves a name out, if there is one.
      cases here : names[position]? with
      | none => simpa [failures, here] using rest
      | some name =>
        simp only [List.map_cons, List.filterMap_cons, here]
        exact .cons _ (by simpa [failures] using rest)

/-- Looking up every position of a list gives the list. -/
theorem filterMap_range (names : List String) :
    (List.range names.length).filterMap (fun position => names[position]?) = names := by
  -- Behind the first name the positions are those of the other names, plus one.
  induction names with
  | nil => rfl
  | cons name names ih =>
    rw [List.length_cons, List.range_succ_eq_map, List.filterMap_cons, List.filterMap_map]
    simpa [Function.comp_def] using ih

/-- The names at all positions are all names. -/
theorem filterMap_names (everyone : (settled.map Prod.fst).Perm (List.range names.length)) :
    (settled.filterMap fun entry => names[entry.1]?).Perm names := by
  have positions := everyone.filterMap fun position => names[position]?
  rw [List.filterMap_map, filterMap_range] at positions
  exact positions

/-- Outcomes without a success are their errors. -/
theorem eq_map_failures {outcomes : List Outcome} (none_succeeded : successes outcomes = []) :
    outcomes = (failures outcomes).map .error := by
  induction outcomes with
  | nil => rfl
  | cons outcome outcomes ih =>
    -- A success at the front would be among the successes, of which there are none.
    cases outcome with
    | ok result => simp [successes, Except.toOption] at none_succeeded
    | error error =>
      have rest := ih (by simpa [successes, Except.toOption] using none_succeeded)
      simpa [failures] using rest

/-- The failures among all providers are under different ones of their names. -/
theorem NamedBy.subperm (named : NamedBy names settled)
    (everyone : (settled.map Prod.fst).Perm (List.range names.length)) :
    ((failures (settled.map Prod.snd)).map ProviderError.provider).Subperm names :=
  named.sublist.subperm.trans (filterMap_names everyone).subperm

/-- Where nobody succeeds, all names are reported. -/
theorem NamedBy.perm (named : NamedBy names settled)
    (everyone : (settled.map Prod.fst).Perm (List.range names.length))
    (none_succeeded : successes (settled.map Prod.snd) = []) :
    ((failures (settled.map Prod.snd)).map ProviderError.provider).Perm names := by
  apply (named.subperm everyone).perm_of_length_le
  -- Without a success there are as many failures as names.
  have all := congrArg List.length (eq_map_failures none_succeeded)
  have count := everyone.length_eq
  simp only [List.length_map, List.length_range] at all count ⊢
  omega

end Named

namespace Blocking

/-- The names of the matching providers, in configured order. -/
def matchingNames (config : Config) : List String :=
  (matchingProviders config).map Provider.name

/-- Providers that fail do so under their own names. -/
def OwnErrors (config : Config) (calls : Calls) : Prop :=
  ∀ position provider error, (matchingProviders config)[position]? = some provider →
    calls position = .returned (.error error) → error.provider = provider.name

section Names

variable {clock : Clock} {config : Config} {calls : Calls} {orders : Orders} {mode : Mode}

/-- Every matching provider has one name. -/
theorem matchingNames_length : (matchingNames config).length = (matchingProviders config).length :=
  List.length_map _

/-- The name at a position is that of the provider at the position. -/
theorem matchingNames_of_located {position : Nat} {provider : BoxedBlockingProvider}
    (located : (matchingProviders config)[position]? = some provider) :
    (matchingNames config)[position]? = some provider.name := by
  simp [matchingNames, located]

/-- A message that fails is an error under the name of its sender. -/
theorem Genuine.failure_name {message : WorkerMessage} (genuine : Genuine config calls message)
    (own : OwnErrors config calls) {error : ProviderError}
    (failed : message.outcome config.version = .error error) :
    (matchingNames config)[message.id]? = some error.provider := by
  obtain ⟨provider, latency, located, shape⟩ := genuine
  rw [matchingNames_of_located located]
  have same : error.provider = provider.name := by
    rw [shape] at failed
    unfold WorkerMessage.outcome at failed
    cases called : calls message.id with
    | panicked =>
      -- A worker reports a panic under the name of its provider.
      simp only [called, CallResult.caught, Except.error.injEq] at failed
      rw [← failed, ProviderError.message]
    | returned result =>
      cases result with
      | error error' =>
        simp only [called, CallResult.caught, Except.error.injEq] at failed
        rw [← failed]
        exact own message.id provider error' located called
      | ok ip =>
        -- Only the family of a returned address can be wrong.
        simp only [called, CallResult.caught, validateIp] at failed
        split at failed
        · cases failed
        · rename_i refused
          split at refused
          · cases refused
          · cases refused
            cases failed
            rfl
  rw [same]

/-! ## Race and consensus -/

/-- A provider that could not be started is reported under its name. -/
theorem unstarted_named {now : Instant} {state : Collect}
    (run : ReflTransGen (Collect.Step clock config orders mode calls) (.init config now) state) :
    ∀ entry ∈ state.unstarted,
      (matchingNames config)[entry.1]? = some entry.2.provider := by
  -- Only a thread that cannot be started adds an entry.
  induction run with
  | refl => intro entry member; cases member
  | tail earlier moved ih =>
    cases moved with
    | beside moved => exact ih
    | main moved =>
      cases moved with
      | spawnFailed here text =>
        intro entry member
        rcases List.mem_append.mp member with known | new
        · exact ih entry known
        · rw [List.mem_singleton.mp new]
          obtain ⟨tracked, _⟩ := Collect.laws_of_run earlier
          exact matchingNames_of_located (tracked.todo _ (by rw [here]; exact List.mem_cons_self))
      | receive here head => rw [Collect.receive_unstarted]; exact ih
      | spawn | enter | drained | expired | check | block | timedOut | disconnected => exact ih

/-- Whatever a run has settled as failed is under the name of its provider. -/
theorem settled_named {now : Instant} {state : Collect}
    (run : ReflTransGen (Collect.Step clock config orders mode calls) (.init config now) state)
    (own : OwnErrors config calls) :
    NamedBy (matchingNames config) (state.settled config orders) := by
  obtain ⟨tracked, _⟩ := Collect.laws_of_run run
  intro entry member error failed
  rcases List.mem_append.mp member with early | pending
  · rcases List.mem_append.mp early with unstarted | received
    · -- The provider could not be started.
      obtain ⟨⟨id, error'⟩, among, rfl⟩ := List.mem_map.mp unstarted
      cases failed
      exact unstarted_named run _ among
    · -- The provider has been heard.
      obtain ⟨message, among, rfl⟩ := List.mem_map.mp received
      exact (tracked.genuine among).failure_name own failed
  · -- The provider was still pending at the end.
    obtain ⟨⟨id, name⟩, among, rfl⟩ := List.mem_map.mp pending
    cases failed
    rw [orders.pending.mem_visit, tracked.pending] at among
    obtain ⟨worker, awaits, same⟩ := List.mem_map.mp among
    cases same
    exact matchingNames_of_located (tracked.sound.located worker (List.mem_filter.mp awaits).1)

/-! ## First -/

/-- Whatever First has recorded is under the name of the provider at its position. -/
theorem First.errors_named {now : Instant} {state : First}
    (run : ReflTransGen (First.Step clock config calls) (.init config now) state)
    (own : OwnErrors config calls) {position : Nat} {error : ProviderError}
    (recorded : state.errors[position]? = some error) :
    (matchingNames config)[position]? = some error.provider := by
  obtain ⟨earlier, provider, ending, ⟨_, reached⟩, _, rfl, located, fails, _⟩ :=
    (First.history_of_run run).1 position error recorded
  -- All but one of the ways to fail are worded by the resolver.
  cases fails with
  | skipped | unstarted | timedOut => exact matchingNames_of_located located
  | heard hears failed =>
    obtain ⟨latency, shape⟩ := hears.own
    subst shape
    exact Genuine.failure_name ⟨provider, latency, located, rfl⟩ own failed

end Names

end Blocking

end IpDiscovery
