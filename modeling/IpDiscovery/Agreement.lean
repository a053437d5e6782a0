import IpDiscovery.Async.Answers
import IpDiscovery.Blocking.Answers
import IpDiscovery.Supporters

/-! How many different built-in providers stand behind a consensus. -/

namespace IpDiscovery

/-! ## Builder calls -/

/-- A call of the builder that adds no custom provider. -/
inductive BuilderCall where
  | protocols (protocols : List Protocol)
  | providers (providers : List BuiltinProvider)
  | timeout (timeout : Duration)
  | version (version : IpVersion)
  | strategy (strategy : Strategy)
deriving DecidableEq

/-- The builder after one more call. -/
def BuilderCall.apply (builder : ConfigBuilder) : BuilderCall → ConfigBuilder
  | .protocols chosen => builder.protocols chosen
  | .providers chosen => builder.providers chosen
  | .timeout chosen => builder.withTimeout chosen
  | .version chosen => builder.withVersion chosen
  | .strategy chosen => builder.withStrategy chosen

/-- The builder after a sequence of calls. -/
def builderOf (calls : List BuilderCall) : ConfigBuilder := calls.foldl BuilderCall.apply .new

/-- The configuration that a sequence of calls builds. -/
def configOf (calls : List BuilderCall) : Config := (builderOf calls).build

/-- The strategy that a sequence of calls selects, which is the last one it sets. -/
def lastStrategy (calls : List BuilderCall) : Option Strategy :=
  -- Only the calls of `strategy` count.
  (calls.filterMap fun call =>
    match call with
    | .strategy strategy => some strategy
    | _ => none).getLast?

/-- The built-in providers that a filter selects where there are no custom ones. -/
def selectedBuiltins : Option ProviderFilter → List BuiltinProvider
  | some (.protocols protocols) => BuiltinProvider.all.filter fun p => protocols.contains p.protocol
  | some (.select selected) => selected
  | none => BuiltinProvider.all

/-- The built-in providers that take part in a run of the configuration. -/
def contributors (calls : List BuilderCall) : List BuiltinProvider :=
  (selectedBuiltins (builderOf calls).providerFilter).filter fun p =>
    p.toBoxed.supportsVersion (builderOf calls).version

/-- Both traits are implemented by the same built-in providers. -/
theorem BuiltinProvider.toBoxed_eq (p : BuiltinProvider) : p.toBoxed = p.toBoxedBlocking := by
  -- The two conversions have the same arms.
  cases p <;> rfl

/-- The last call is made on the builder of the calls before it. -/
theorem builderOf_concat (calls : List BuilderCall) (call : BuilderCall) :
    builderOf (calls ++ [call]) = call.apply (builderOf calls) := by
  -- The calls are made from left to right.
  simp [builderOf]

/-- No call of the sequence adds a custom provider. -/
theorem builderOf_custom (calls : List BuilderCall) :
    (builderOf calls).customProviders = [] ∧ (builderOf calls).customBlockingProviders = [] := by
  -- The induction makes the calls from the last one backwards.
  induction calls using List.reverseRecOn with
  | nil => exact ⟨rfl, rfl⟩
  | append_singleton calls call ih =>
    rw [builderOf_concat]
    -- None of the calls touches the custom providers.
    cases call <;> exact ih

/-- The number of agreeing providers that is asked for is at least two. -/
theorem builderOf_strategy {calls : List BuilderCall} {minAgree : Nat}
    (selects : lastStrategy calls = some (.consensus minAgree)) :
    (builderOf calls).strategy = .consensus (max minAgree 2) := by
  -- The induction makes the calls from the last one backwards.
  induction calls using List.reverseRecOn with
  | nil => cases selects
  | append_singleton calls call ih =>
    rw [builderOf_concat]
    rw [lastStrategy, List.filterMap_append] at selects
    cases call with
    -- A call of `strategy` is the last one, and clamps its argument.
    | strategy strategy =>
      simp only [List.filterMap_cons, List.filterMap_nil, List.getLast?_concat,
        Option.some.injEq] at selects
      rw [selects]
      rfl
    | protocols _ => exact ih (by simpa [lastStrategy] using selects)
    | providers _ => exact ih (by simpa [lastStrategy] using selects)
    | timeout _ => exact ih (by simpa [lastStrategy] using selects)
    | version _ => exact ih (by simpa [lastStrategy] using selects)

/-- The matching asynchronous providers are those of the built-ins that take part. -/
theorem async_matchingProviders (calls : List BuilderCall) :
    Async.matchingProviders (configOf calls) =
      (contributors calls).map BuiltinProvider.toBoxed := by
  -- Without custom providers, the list is the selection.
  obtain ⟨noCustom, noBlocking⟩ := builderOf_custom calls
  have providers : (configOf calls).providers =
      (selectedBuiltins (builderOf calls).providerFilter).map BuiltinProvider.toBoxed := by
    unfold configOf ConfigBuilder.build
    rw [noCustom, noBlocking]
    -- Each filter selects as the builder does.
    cases (builderOf calls).providerFilter with
    | none => simp [selectedBuiltins]
    | some filter => cases filter <;> simp [selectedBuiltins]
  rw [Async.matchingProviders, providers, contributors, List.filter_map]
  rfl

/-- The matching blocking providers are those of the same built-ins. -/
theorem blocking_matchingProviders (calls : List BuilderCall) :
    Blocking.matchingProviders (configOf calls) =
      (contributors calls).map BuiltinProvider.toBoxed := by
  -- The blocking list is built from the same selection.
  obtain ⟨noCustom, noBlocking⟩ := builderOf_custom calls
  have same : BuiltinProvider.toBoxedBlocking = BuiltinProvider.toBoxed :=
    funext fun p => p.toBoxed_eq.symm
  have providers : (configOf calls).blockingProviders =
      (selectedBuiltins (builderOf calls).providerFilter).map BuiltinProvider.toBoxed := by
    unfold configOf ConfigBuilder.build
    rw [noCustom, noBlocking, same]
    cases (builderOf calls).providerFilter with
    | none => simp [selectedBuiltins]
    | some filter => cases filter <;> simp [selectedBuiltins]
  rw [Blocking.matchingProviders, providers, contributors, List.filter_map]
  rfl

/-! ## Positions and votes -/

/-- So many different built-in providers have returned an address. -/
def Agreed (contributors : List BuiltinProvider) (returned : Nat → IpAddr → Prop) (count : Nat)
    (ip : IpAddr) : Prop :=
  ∃ distinct : List BuiltinProvider, distinct.Nodup ∧ count ≤ distinct.length ∧
    ∀ p ∈ distinct, ∃ position, contributors[position]? = some p ∧ returned position ip

/-- Different positions of a list without repetition are different providers. -/
theorem agreed_of_positions {contributors : List BuiltinProvider} (distinct : contributors.Nodup)
    {returned : Nat → IpAddr → Prop} {ip : IpAddr} {positions : List Nat} (once : positions.Nodup)
    (voted : ∀ position ∈ positions, position < contributors.length ∧ returned position ip)
    {count : Nat} (enough : count ≤ positions.length) : Agreed contributors returned count ip := by
  -- The providers at these positions are the witnesses.
  refine ⟨positions.filterMap fun position => contributors[position]?, ?_, ?_, ?_⟩
  · -- A provider that occurs once has one position.
    refine List.Nodup.filterMap ?_ once
    intro left right p first second
    have first : contributors[left]? = some p := first
    have second : contributors[right]? = some p := second
    have inside := (List.getElem?_eq_some_iff.mp first).1
    exact (List.getElem?_inj inside distinct).mp (first.trans second.symm)
  · -- Every position has a provider, so none is lost.
    refine enough.trans (Nat.le_of_eq (List.filterMap_length_eq_length.mpr ?_).symm)
    intro position member
    simpa using (voted position member).1
  · intro p member
    obtain ⟨position, among, located⟩ := List.mem_filterMap.mp member
    exact ⟨position, located, (voted position among).2⟩

/-- Where one provider has two of the positions, there are fewer providers than positions. -/
theorem agreed_lt_of_repeated {contributors : List BuiltinProvider}
    {returned : Nat → IpAddr → Prop} {ip : IpAddr} {positions : Finset Nat}
    (voted : ∀ position, returned position ip → position ∈ positions) {left right : Nat}
    (first : left ∈ positions) (second : right ∈ positions) (apart : left ≠ right)
    (same : contributors[left]? = contributors[right]?) {count : Nat}
    (agreed : Agreed contributors returned count ip) : count < positions.card := by
  -- The provider of the one position is that of the other, which can be left out.
  obtain ⟨distinct, once, enough, located⟩ := agreed
  have covered : (distinct.map some).toFinset ⊆
      (positions.erase left).image fun position => contributors[position]? := by
    intro found member
    obtain ⟨p, inside, rfl⟩ := List.mem_map.mp (List.mem_toFinset.mp member)
    obtain ⟨position, here, votes⟩ := located p inside
    by_cases removed : position = left
    · refine Finset.mem_image.mpr ⟨right, Finset.mem_erase.mpr ⟨apart.symm, second⟩, ?_⟩
      rw [← same, ← removed, here]
    · exact Finset.mem_image.mpr
        ⟨position, Finset.mem_erase.mpr ⟨removed, voted position votes⟩, here⟩
  have counted : (distinct.map some).toFinset.card = distinct.length := by
    rw [List.toFinset_card_of_nodup (once.map (Option.some_injective _)), List.length_map]
  have fewer := (Finset.card_le_card covered).trans Finset.card_image_le
  have removed := Finset.card_erase_lt_of_mem first
  omega

/-- Settled outcomes that name an address come from different providers. -/
theorem agreed_of_settled {contributors : List BuiltinProvider} (distinct : contributors.Nodup)
    {settled : List (Nat × Outcome)} (once : (settled.map Prod.fst).Nodup)
    {returned : Nat → IpAddr → Prop}
    (voted : ∀ position result, (position, .ok result) ∈ settled →
      position < contributors.length ∧ returned position result.ip) {count : Nat} {ip : IpAddr}
    (enough : count ≤ support (settled.map Prod.snd) ip) :
    Agreed contributors returned count ip := by
  -- The supporters are positions without repetition.
  rw [← supporters_length] at enough
  refine agreed_of_positions distinct (once.sublist (List.filter_sublist.map Prod.fst)) ?_ enough
  intro position member
  obtain ⟨result, inside, same⟩ := mem_supporters.mp member
  rw [← same]
  exact voted position result inside

/-! ## Runs of a built configuration -/

/-- What each matching provider has contributed to an asynchronous run, by its position. -/
def Async.settled (config : Config) (calls : Async.Calls) : List (Nat × Outcome) :=
  (Async.matchingProviders config).zipIdx.map fun (provider, position) =>
    (position, Async.outcomeOf config calls provider position)

/-- The settled entries hold the outcomes, in configured order. -/
theorem Async.settled_outcomes (config : Config) (calls : Async.Calls) :
    (Async.settled config calls).map Prod.snd = Async.outcomes config calls := by
  -- Dropping the positions leaves the outcomes.
  simp [Async.settled, Async.outcomes, Function.comp_def]

/-- There is one settled entry for each position, in configured order. -/
theorem Async.settled_ids (config : Config) (calls : Async.Calls) :
    (Async.settled config calls).map Prod.fst =
      List.range (Async.matchingProviders config).length := by
  -- The positions are the indices of the list.
  simp only [Async.settled, List.map_map, List.range_eq_range', ← List.zipIdx_map_snd 0]
  rfl

/-- An entry is settled with the outcome of the provider at its position. -/
theorem Async.mem_settled {config : Config} {calls : Async.Calls} {position : Nat}
    {outcome : Outcome} : (position, outcome) ∈ Async.settled config calls ↔
      ∃ provider, (Async.matchingProviders config)[position]? = some provider ∧
        outcome = Async.outcomeOf config calls provider position := by
  -- An entry pairs a position with the outcome of its provider.
  simp only [Async.settled, List.mem_map, Prod.exists, Prod.mk.injEq]
  constructor
  · intro found
    obtain ⟨provider, position, member, rfl, rfl⟩ := found
    exact ⟨provider, List.mem_zipIdx_iff_getElem?.mp member, rfl⟩
  · intro found
    obtain ⟨provider, located, rfl⟩ := found
    exact ⟨provider, position, List.mem_zipIdx_iff_getElem?.mpr located, rfl, rfl⟩

/-- Whatever the providers do, a consensus has enough different built-in providers behind it. -/
def ConsensusDistinct (calls : List BuilderCall) (minAgree : Nat) : Prop :=
  (∀ order run result, Async.resolve order (configOf calls) run = .ok result →
    Agreed (contributors calls) (fun position ip => (run position).result = .returned (.ok ip))
      (max 2 minAgree) result.ip) ∧
  (∀ clock orders run mode state result, Blocking.start (configOf calls) = .collect mode →
    Blocking.CollectReaches clock (configOf calls) run orders mode state →
    state.phase = .done (.ok result) →
      Agreed (contributors calls)
        (fun position ip => run position = .returned (.ok ip) ∧
          ∃ message ∈ state.received, message.id = position)
        (max 2 minAgree) result.ip)

section Builtin

variable {calls : List BuilderCall} {minAgree : Nat}

/-- A consensus of the asynchronous resolver has the support that was asked for. -/
theorem async_support (selects : lastStrategy calls = some (.consensus minAgree))
    {order : HashOrder IpAddr (List ProviderResult)} {run : Async.Calls} {result : ProviderResult}
    (answered : Async.resolve order (configOf calls) run = .ok result) :
    max 2 minAgree ≤ support (Async.outcomes (configOf calls) run) result.ip ∧
      .ok result ∈ Async.outcomes (configOf calls) run := by
  -- The strategy of the configuration is a consensus with the clamped threshold.
  have strategy : (configOf calls).strategy = .consensus (max minAgree 2) :=
    builderOf_strategy selects
  by_cases none_match : Async.matchingProviders (configOf calls) = []
  · rw [Async.resolve, if_pos none_match] at answered
    cases answered
  · rw [Async.resolve, if_neg none_match, strategy] at answered
    dsimp only at answered
    rw [Async.resolveConsensus_eq order _ none_match] at answered
    cases selected : consensusOf order (max minAgree 2) (Async.outcomes (configOf calls) run) with
    | error e =>
      rw [selected] at answered
      cases answered
    | ok winner =>
      rw [selected] at answered
      cases answered
      obtain ⟨reaches, member, _⟩ := consensusOf_eq_ok order _ _ selected
      exact ⟨by omega, member⟩

/-- A settled success of an asynchronous run is what the provider at its position returned. -/
theorem async_voted {run : Async.Calls} {position : Nat} {result : ProviderResult}
    (member : (position, .ok result) ∈ Async.settled (configOf calls) run) :
    position < (contributors calls).length ∧
      (run position).result = .returned (.ok result.ip) := by
  -- A success is what the call at its position returned.
  obtain ⟨provider, located, same⟩ := Async.mem_settled.mp member
  obtain ⟨_, returned, _⟩ := Async.outcomeOf_eq_ok same.symm
  refine ⟨?_, returned⟩
  have inside := (List.getElem?_eq_some_iff.mp located).1
  simpa [async_matchingProviders] using inside

/-- The blocking resolver is asked for the same support, within a timeout. -/
theorem blocking_mode (selects : lastStrategy calls = some (.consensus minAgree))
    {mode : Blocking.Mode} (started : Blocking.start (configOf calls) = .collect mode) :
    mode = .consensus (max minAgree 2) ∧ (configOf calls).timeout ≠ 0 := by
  -- The only mode that this strategy starts is its own.
  have strategy : (configOf calls).strategy = .consensus (max minAgree 2) :=
    builderOf_strategy selects
  rw [Blocking.start, strategy] at started
  split at started
  · cases started
  · rename_i some_match
    simp only [Blocking.startConsensus, if_neg some_match] at started
    split at started
    · cases started
    · rename_i nonzero
      cases started
      exact ⟨rfl, nonzero⟩

/-- A settled success of a blocking run is what the provider at its position returned. -/
theorem blocking_voted {run : Blocking.Calls} {orders : Blocking.Orders} {state : Blocking.Collect}
    (tracked : state.Tracked (configOf calls) run) {position : Nat} {result : ProviderResult}
    (member : (position, .ok result) ∈ state.settled (configOf calls) orders) :
    position < (contributors calls).length ∧ run position = .returned (.ok result.ip) ∧
      ∃ message ∈ state.received, message.id = position := by
  -- Only a received message settles a success.
  obtain ⟨message, inside, rfl, validated⟩ := Blocking.Collect.mem_settled_ok.mp member
  obtain ⟨reported, _⟩ := Blocking.WorkerMessage.outcome_eq_ok validated
  obtain ⟨provider, located, _, _, returned⟩ := (tracked.genuine inside).returned reported
  have here := (List.getElem?_eq_some_iff.mp located).1
  exact ⟨by simpa [blocking_matchingProviders] using here, returned, message, inside, rfl⟩

/-- An address of a version. -/
def addressOf : IpVersion → IpAddr
  | .v6 => .v6 ⟨List.replicate 16 0, rfl⟩
  | _ => ipv4 203 0 113 7

/-- The sample address of a version is of its family. -/
theorem matches_addressOf (version : IpVersion) : version.matches (addressOf version) = true := by
  -- Each version has its own example.
  cases version <;> rfl

/-- A run in which the providers at some positions return one address, and the others time out. -/
def unanimous (ip : IpAddr) (positions : Finset Nat) : Async.Calls := fun position =>
  ⟨0, if position ∈ positions then .returned (.ok ip) else .elapsed, 0⟩

/-- Only the chosen positions return an address, and they return that one. -/
theorem unanimous_returned {ip other : IpAddr} {positions : Finset Nat} {position : Nat} :
    (unanimous ip positions position).result = .returned (.ok other) ↔
      position ∈ positions ∧ other = ip := by
  -- Outside the chosen positions nobody returns.
  by_cases chosen : position ∈ positions
  · simp [unanimous, chosen, eq_comm]
  · simp [unanimous, chosen]

/-- A provider that is selected twice makes a consensus with one provider too few. -/
theorem consensus_repeated (selects : lastStrategy calls = some (.consensus minAgree))
    (nonzero : (configOf calls).timeout ≠ 0) (repeated : ¬ (contributors calls).Nodup)
    (many : max 2 minAgree ≤ (contributors calls).length) :
    ∃ run result, Async.resolve .inserted (configOf calls) run = .ok result ∧
      ¬ Agreed (contributors calls)
        (fun position ip => (run position).result = .returned (.ok ip))
        (max 2 minAgree) result.ip := by
  -- As many positions as are asked for return one address, and two of them are one provider's.
  rw [List.nodup_iff_getElem?_ne_getElem?] at repeated
  push Not at repeated
  obtain ⟨left, right, before, inside, same⟩ := repeated
  have pair : ({left, right} : Finset Nat) ⊆ Finset.range (contributors calls).length := by
    intro position member
    rcases Finset.mem_insert.mp member with first | second
    · rw [first, Finset.mem_range]
      omega
    · rw [Finset.mem_singleton.mp second, Finset.mem_range]
      exact inside
  -- The pair can be extended to as many positions as are asked for.
  obtain ⟨positions, both, bounded, counted⟩ := Finset.exists_subsuperset_card_eq pair
    (Finset.card_le_two.trans (Nat.le_max_left 2 minAgree)) (by simpa using many)
  let ip := addressOf (configOf calls).version
  let run := unanimous ip positions
  -- Each chosen position succeeds with the address.
  have voted : ∀ position ∈ positions, ∃ result,
      (position, .ok result) ∈ Async.settled (configOf calls) run ∧ result.ip = ip := by
    intro position member
    have small : position < (Async.matchingProviders (configOf calls)).length := by
      rw [async_matchingProviders, List.length_map]
      exact Finset.mem_range.mp (bounded member)
    have located := List.getElem?_eq_getElem small
    have returned : (run position).result = .returned (.ok ip) :=
      unanimous_returned.mpr ⟨member, rfl⟩
    have outcome := Async.outcomeOf_returned nonzero returned (matches_addressOf _)
      (Async.matchingProviders (configOf calls))[position]
    exact ⟨_, Async.mem_settled.mpr ⟨_, located, outcome.symm⟩, rfl⟩
  have supported := card_le_support voted
  rw [Async.settled_outcomes, counted] at supported
  have some_match : Async.matchingProviders (configOf calls) ≠ [] := by
    intro none_match
    have lengths := Async.outcomes_length (configOf calls) run
    have bound := support_le_length (Async.settled (configOf calls) run) ip
    rw [← List.length_map Prod.snd, Async.settled_outcomes, lengths, none_match,
      List.length_nil] at bound
    omega
  have strategy : (configOf calls).strategy = .consensus (max minAgree 2) :=
    builderOf_strategy selects
  -- So the address has enough support.
  obtain ⟨result, selected⟩ := (consensusOf_plurality .inserted (max minAgree 2)
    (Async.outcomes (configOf calls) run) (by omega)).answered.mpr ⟨ip, by omega⟩
  refine ⟨run, result, ?_, ?_⟩
  · rw [Async.resolve, if_neg some_match, strategy]
    dsimp only
    rw [Async.resolveConsensus_eq .inserted _ some_match, selected]
    rfl
  · -- The pair is one provider, so there is one too few.
    intro agreed
    have fewer := agreed_lt_of_repeated (fun position returned =>
      (unanimous_returned.mp returned).1) (both (Finset.mem_insert_self left _))
      (both (Finset.mem_insert_of_mem (Finset.mem_singleton_self right))) (by omega) same agreed
    omega

/--
A consensus has enough different providers behind it exactly when no provider is selected twice,
or too few take part for any consensus, or nobody is asked.
-/
theorem consensusDistinct_iff (selects : lastStrategy calls = some (.consensus minAgree)) :
    ConsensusDistinct calls minAgree ↔ (contributors calls).Nodup ∨
      (contributors calls).length < max 2 minAgree ∨ (configOf calls).timeout = 0 := by
  -- The two directions are the repeated provider and the count of positions.
  constructor
  · intro distinct
    by_contra fails
    push Not at fails
    obtain ⟨repeated, many, nonzero⟩ := fails
    obtain ⟨run, result, answered, short⟩ := consensus_repeated selects nonzero repeated many
    exact short (distinct.1 .inserted run result answered)
  · intro condition
    refine ⟨?_, ?_⟩
    · -- In an asynchronous run everybody who was asked is settled.
      intro order run result answered
      obtain ⟨supported, member⟩ := async_support selects answered
      rw [← Async.settled_outcomes] at supported member
      obtain ⟨⟨position, outcome⟩, inside, same⟩ := List.mem_map.mp member
      rcases condition with distinct | few | zero
      · refine agreed_of_settled distinct ?_ (fun _ _ => async_voted) supported
        rw [Async.settled_ids]
        exact List.nodup_range
      · -- The support exceeds the number of providers.
        have bound := support_le_length (Async.settled (configOf calls) run) result.ip
        have lengths := congrArg List.length (Async.settled_ids (configOf calls) run)
        rw [List.length_map, List.length_range, async_matchingProviders,
          List.length_map] at lengths
        omega
      · -- Without a timeout nobody succeeds.
        cases same
        obtain ⟨provider, _, outcome⟩ := Async.mem_settled.mp inside
        exact absurd zero (Async.outcomeOf_eq_ok outcome.symm).1
    · -- In a blocking run everybody is settled when it ends.
      intro clock orders run mode state result started reached ended
      obtain ⟨rfl, nonzero⟩ := blocking_mode selects started
      obtain ⟨now, execution⟩ := reached
      obtain ⟨tracked, recorded⟩ := Blocking.Collect.laws_of_run execution
      have ids := tracked.settled_ids (by rw [ended]; rfl) orders
      have selected := recorded.consensus_answer ended
      obtain ⟨supported, _⟩ := consensusOf_eq_ok orders.ipResults _ _ selected.symm
      rw [Nat.max_comm] at supported
      rcases condition with distinct | few | zero
      · exact agreed_of_settled distinct (ids.nodup_iff.mpr List.nodup_range)
          (fun _ _ => blocking_voted tracked) supported
      · -- The support exceeds the number of providers.
        have bound := support_le_length (state.settled (configOf calls) orders) result.ip
        have lengths := ids.length_eq
        rw [List.length_map, List.length_range, blocking_matchingProviders,
          List.length_map] at lengths
        rw [Blocking.Collect.outcomes] at supported
        omega
      · exact absurd zero nonzero

/-- Two different providers are behind a consensus of two. -/
theorem consensusDistinct_pair :
    ConsensusDistinct [.providers [.cloudflareDns, .googleStun], .strategy (.consensus 2)] 2 := by
  refine (consensusDistinct_iff (by decide)).mpr (Or.inl ?_)
  decide

/-- One provider that is selected twice makes a consensus of two with itself. -/
theorem consensus_alone :
    ¬ ConsensusDistinct [.providers [.cloudflareDns, .cloudflareDns], .strategy (.consensus 2)]
      2 := by
  -- All conditions of the general statement can be computed.
  intro distinct
  obtain ⟨run, result, answered, short⟩ := @consensus_repeated
    [.providers [.cloudflareDns, .cloudflareDns], .strategy (.consensus 2)] 2
    (by decide) (by decide) (by decide) (by decide)
  exact short (distinct.1 .inserted run result answered)

end Builtin

end IpDiscovery
