import IpDiscovery.Agreement

/-! What every sequence of builder calls builds: which built-ins, which customs, in which order. -/

namespace IpDiscovery

/-! ## Folds over settings -/

section Folds

variable {σ α β : Type} {step : σ → α → σ}

/-- A field that some steps overwrite and the others keep holds what was written last. -/
theorem foldl_last_write (read : σ → Option β) (write : α → Option β)
    (written : ∀ s a, read (step s a) = (write a).or (read s)) (items : List α) (s : σ) :
    read (items.foldl step s) = (items.filterMap write).getLast?.or (read s) := by
  -- The induction takes the steps from the last one backwards.
  induction items using List.reverseRecOn with
  | nil => rfl
  | append_singleton items item ih =>
    rw [List.foldl_append, List.foldl_cons, List.foldl_nil, written, List.filterMap_append]
    cases wrote : write item with
    | none => simp [wrote, ih]
    | some value => simp [wrote]

/-- A list that some steps append to and the others keep holds everything appended, in order. -/
theorem foldl_appended (read : σ → List β) (added : α → Option β)
    (appended : ∀ s a, read (step s a) = read s ++ (added a).toList) (items : List α) (s : σ) :
    read (items.foldl step s) = read s ++ items.filterMap added := by
  induction items generalizing s with
  | nil => simp
  | cons item items ih =>
    rw [List.foldl_cons, ih, appended, List.filterMap_cons, List.append_assoc]
    cases added item <;> rfl

/-- Two steps that commute may be made in either order in the middle of any others. -/
theorem foldl_swap {former latter : α}
    (commute : ∀ s, step (step s former) latter = step (step s latter) former)
    (front back : List α) (s : σ) :
    (front ++ former :: latter :: back).foldl step s =
      (front ++ latter :: former :: back).foldl step s := by
  simp only [List.foldl_append, List.foldl_cons, commute]

end Folds

/-! ## Calls -/

/-- A call of the builder. -/
inductive ConfigCall where
  | set (call : BuilderCall)
  | addProvider (provider : BoxedProvider)
  | addBlockingProvider (provider : BoxedBlockingProvider)

/-- The builder after one more call. -/
def ConfigCall.apply (builder : ConfigBuilder) : ConfigCall → ConfigBuilder
  | .set call => call.apply builder
  | .addProvider provider => builder.addProvider provider
  | .addBlockingProvider provider => builder.addBlockingProvider provider

/-- The configuration that a sequence of calls builds. -/
def builtConfig (calls : List ConfigCall) : Config := (calls.foldl ConfigCall.apply .new).build

/-- The fields of the builder. -/
inductive BuilderField where
  | customProviders
  | customBlockingProviders
  | timeout
  | version
  | strategy
  | providerFilter
deriving DecidableEq

/-- The field that a call sets. -/
def ConfigCall.field : ConfigCall → BuilderField
  | .set (.protocols _) => .providerFilter
  | .set (.providers _) => .providerFilter
  | .set (.timeout _) => .timeout
  | .set (.version _) => .version
  | .set (.strategy _) => .strategy
  | .addProvider _ => .customProviders
  | .addBlockingProvider _ => .customBlockingProviders

/-- The filter that a call sets. -/
def ConfigCall.filterSet : ConfigCall → Option ProviderFilter
  | .set (.protocols protocols) => some (.protocols protocols)
  | .set (.providers selected) => some (.select selected)
  | _ => none

/-- The async provider that a call adds. -/
def ConfigCall.asyncAdded : ConfigCall → Option BoxedProvider
  | .addProvider provider => some provider
  | _ => none

/-- The blocking provider that a call adds. -/
def ConfigCall.blockingAdded : ConfigCall → Option BoxedBlockingProvider
  | .addBlockingProvider provider => some provider
  | _ => none

/-- The filter that was set last. -/
def lastFilter (calls : List ConfigCall) : Option ProviderFilter :=
  (calls.filterMap ConfigCall.filterSet).getLast?

/-- The custom async providers, in the order in which they were added. -/
def asyncAdded (calls : List ConfigCall) : List BoxedProvider :=
  calls.filterMap ConfigCall.asyncAdded

/-- The custom blocking providers, in the order in which they were added. -/
def blockingAdded (calls : List ConfigCall) : List BoxedBlockingProvider :=
  calls.filterMap ConfigCall.blockingAdded

/-- The built-in providers of a configuration: the chosen ones, or all where nothing is chosen. -/
def builtins (calls : List ConfigCall) : List BuiltinProvider :=
  match lastFilter calls with
  | some filter => selectedBuiltins (some filter)
  | none =>
    if blockingAdded calls = [] ∧ asyncAdded calls = [] then BuiltinProvider.all else []

/-! ## Fields of the builder -/

/-- The filter of the builder is the one that was set last. -/
theorem builder_filter (calls : List ConfigCall) :
    (calls.foldl ConfigCall.apply .new).providerFilter = lastFilter calls := by
  -- Both filters are written to the same field, and the later one stays.
  refine (foldl_last_write ConfigBuilder.providerFilter ConfigCall.filterSet ?_ calls .new).trans
    Option.or_none
  rintro builder (call | provider | provider)
  · cases call <;> rfl
  · rfl
  · rfl

/-- The builder keeps all asynchronous providers that were added, in order. -/
theorem builder_async (calls : List ConfigCall) :
    (calls.foldl ConfigCall.apply .new).customProviders = asyncAdded calls := by
  -- Only one kind of call touches the list, and it appends.
  refine (foldl_appended ConfigBuilder.customProviders ConfigCall.asyncAdded ?_ calls .new).trans
    (List.nil_append _)
  rintro builder (call | provider | provider)
  · cases call <;> exact (List.append_nil _).symm
  · rfl
  · exact (List.append_nil _).symm

/-- The builder keeps all blocking providers that were added, in order. -/
theorem builder_blocking (calls : List ConfigCall) :
    (calls.foldl ConfigCall.apply .new).customBlockingProviders = blockingAdded calls := by
  refine (foldl_appended ConfigBuilder.customBlockingProviders ConfigCall.blockingAdded ?_ calls
    .new).trans (List.nil_append _)
  rintro builder (call | provider | provider)
  · cases call <;> exact (List.append_nil _).symm
  · exact (List.append_nil _).symm
  · rfl

/-- The stored strategy never asks for fewer than two agreeing providers. -/
theorem builder_strategy (calls : List ConfigCall) {minAgree : Nat}
    (asked : (calls.foldl ConfigCall.apply .new).strategy = .consensus minAgree) :
    2 ≤ minAgree := by
  -- The induction makes the calls from the last one backwards.
  induction calls using List.reverseRecOn with
  | nil => cases asked
  | append_singleton calls call ih =>
    rw [List.foldl_append] at asked
    rcases call with call | provider | provider
    · cases call with
      -- The clamp is the only place where the number is stored.
      | strategy strategy =>
        cases strategy with
        | consensus chosen =>
          cases asked
          exact Nat.le_max_right chosen 2
        | first => cases asked
        | race => cases asked
      | protocols _ => exact ih asked
      | providers _ => exact ih asked
      | timeout _ => exact ih asked
      | version _ => exact ih asked
    · exact ih asked
    · exact ih asked

/-- Calls that set different fields commute, whatever the builder holds. -/
theorem ConfigCall.apply_comm {former latter : ConfigCall} (apart : former.field ≠ latter.field)
    (builder : ConfigBuilder) :
    latter.apply (former.apply builder) = former.apply (latter.apply builder) := by
  -- Each call rewrites one field and leaves the others as they are.
  rcases former with former | provider | provider <;> rcases latter with latter | other | other
  · cases former <;> cases latter <;> first | rfl | exact absurd rfl apart
  · cases former <;> rfl
  · cases former <;> rfl
  · cases latter <;> rfl
  · exact absurd rfl apart
  · rfl
  · cases latter <;> rfl
  · rfl
  · exact absurd rfl apart

/-! ## Built configurations -/

/-- Both provider lists start with the same built-ins, and the customs of their kind follow. -/
theorem builtConfig_lists (calls : List ConfigCall) :
    (builtConfig calls).blockingProviders =
        (builtins calls).map BuiltinProvider.toBoxedBlocking ++ blockingAdded calls ∧
      (builtConfig calls).providers =
        (builtins calls).map BuiltinProvider.toBoxed ++ asyncAdded calls := by
  unfold builtConfig ConfigBuilder.build builtins
  rw [builder_filter, builder_async, builder_blocking]
  cases lastFilter calls with
  -- Without a filter both lists ask the same question about the customs of both kinds.
  | none =>
    by_cases custom : blockingAdded calls = [] ∧ asyncAdded calls = []
    · simp [custom.1, custom.2]
    · have some : (!(blockingAdded calls).isEmpty || !(asyncAdded calls).isEmpty) = true := by
        rcases not_and_or.mp custom with blocking | async
        · simp [blocking]
        · simp [async]
      simp [custom, some]
  | some filter => cases filter <;> exact ⟨rfl, rfl⟩

/-- No filter was set exactly when no call sets the field of the filter. -/
theorem lastFilter_eq_none {calls : List ConfigCall} :
    lastFilter calls = none ↔ ∀ call ∈ calls, call.field ≠ .providerFilter := by
  have unset (call : ConfigCall) : call.filterSet = none ↔ call.field ≠ .providerFilter := by
    rcases call with call | provider | provider
    · cases call <;> simp [ConfigCall.filterSet, ConfigCall.field]
    · simp [ConfigCall.filterSet, ConfigCall.field]
    · simp [ConfigCall.filterSet, ConfigCall.field]
  simp only [lastFilter, List.getLast?_eq_none_iff, List.filterMap_eq_nil_iff, unset]

/--
The two provider lists of a configuration denote the same built-ins.

This holds after every sequence of calls, together with what the sequence says about customs,
about calls of different fields, and about the number of providers a consensus asks for.
-/
theorem builtConfig_denotes (calls : List ConfigCall) :
    (∃ B : List BuiltinProvider,
      (builtConfig calls).blockingProviders =
        B.map BuiltinProvider.toBoxedBlocking ++ blockingAdded calls ∧
      (builtConfig calls).providers = B.map BuiltinProvider.toBoxed ++ asyncAdded calls ∧
      ((∀ call ∈ calls, call.field ≠ .providerFilter) →
        (blockingAdded calls = [] ∧ asyncAdded calls = [] → B = BuiltinProvider.all) ∧
        (¬ (blockingAdded calls = [] ∧ asyncAdded calls = []) → B = []))) ∧
    (∀ front former latter back, calls = front ++ former :: latter :: back →
      former.field ≠ latter.field →
        builtConfig (front ++ latter :: former :: back) = builtConfig calls) ∧
    ∀ minAgree, (builtConfig calls).strategy = .consensus minAgree → 2 ≤ minAgree := by
  -- The lists are those of the built configuration, where an unset filter chooses by the customs.
  refine ⟨⟨builtins calls, ?_⟩, ?_, ?_⟩
  · obtain ⟨blocking, async⟩ := builtConfig_lists calls
    refine ⟨blocking, async, ?_⟩
    intro unfiltered
    rw [builtins, lastFilter_eq_none.mpr unfiltered]
    exact ⟨fun none => if_pos none, fun some => if_neg some⟩
  · rintro front former latter back rfl apart
    unfold builtConfig
    rw [foldl_swap (ConfigCall.apply_comm apart)]
  · intro minAgree asked
    exact builder_strategy calls asked

/-- A custom blocking provider without a filter leaves both lists without built-ins. -/
theorem builtConfig_denotes_custom :
    ∃ B : List BuiltinProvider,
      (builtConfig [.addBlockingProvider Stun.google.toProvider]).blockingProviders =
        B.map BuiltinProvider.toBoxedBlocking ++ [Stun.google.toProvider] ∧
      (builtConfig [.addBlockingProvider Stun.google.toProvider]).providers =
        B.map BuiltinProvider.toBoxed ++ [] ∧ B = [] := by
  obtain ⟨⟨B, blocking, async, chosen⟩, _, _⟩ :=
    builtConfig_denotes [.addBlockingProvider Stun.google.toProvider]
  refine ⟨B, blocking, async, (chosen ?_).2 ?_⟩
  · simp [ConfigCall.field]
  · simp [blockingAdded, ConfigCall.blockingAdded]

/-! ## The last filter -/

/-- No built-in provider is missing from the list. -/
theorem BuiltinProvider.mem_all (p : BuiltinProvider) : p ∈ BuiltinProvider.all := by
  cases p <;> decide

/-- Different built-ins are different providers, since their names differ. -/
theorem BuiltinProvider.toBoxed_injective : Function.Injective BuiltinProvider.toBoxed := by
  -- The names of the nine built-ins are listed once.
  have distinct : (BuiltinProvider.all.map fun p => p.toBoxed.name).Nodup := by decide
  intro p q same
  exact List.inj_on_of_nodup_map distinct p.mem_all q.mem_all (congrArg Provider.name same)

/-- A builder with another filter. -/
def ConfigBuilder.withFilter (builder : ConfigBuilder) (filter : ProviderFilter) :
    ConfigBuilder :=
  { builder with providerFilter := some filter }

/-- Calls that set no filter pass over the one that is set. -/
theorem foldl_withFilter {calls : List ConfigCall}
    (unset : ∀ call ∈ calls, call.field ≠ .providerFilter) (filter : ProviderFilter)
    (builder : ConfigBuilder) :
    calls.foldl ConfigCall.apply (builder.withFilter filter) =
      (calls.foldl ConfigCall.apply builder).withFilter filter := by
  induction calls generalizing builder with
  | nil => rfl
  | cons call calls ih =>
    rw [List.forall_mem_cons] at unset
    -- A call that sets no filter does not look at it either.
    have passed :
        call.apply (builder.withFilter filter) = (call.apply builder).withFilter filter := by
      rcases call with call | provider | provider
      · cases call <;> first | rfl | exact absurd rfl unset.1
      · rfl
      · rfl
    rw [List.foldl_cons, List.foldl_cons, passed, ih unset.2]

/-- The two filters build the same configuration exactly where they select the same list. -/
theorem build_filters_iff (builder : ConfigBuilder) (ps : List Protocol)
    (sel : List BuiltinProvider) :
    (builder.withFilter (.select sel)).build = (builder.withFilter (.protocols ps)).build ↔
      sel = BuiltinProvider.all.filter fun p => ps.contains p.protocol := by
  constructor
  · intro same
    -- The built-ins can be read off the async list, in front of the same customs.
    have lists : sel.map BuiltinProvider.toBoxed ++ builder.customProviders =
        (BuiltinProvider.all.filter fun p => ps.contains p.protocol).map BuiltinProvider.toBoxed ++
          builder.customProviders := congrArg Config.providers same
    exact BuiltinProvider.toBoxed_injective.list_map (List.append_cancel_right lists)
  · rintro rfl
    rfl

/--
The filter that was set last decides alone which built-ins are used.

The other one holds too only where it would change nothing, and the two calls commute only where
both select the same list.
-/
theorem last_filter_decides (ps : List Protocol) (sel : List BuiltinProvider) :
    (∀ calls : List ConfigCall,
      (builtConfig calls).blockingProviders =
          (builtins calls).map BuiltinProvider.toBoxedBlocking ++ blockingAdded calls ∧
        (builtConfig calls).providers =
          (builtins calls).map BuiltinProvider.toBoxed ++ asyncAdded calls ∧
        (lastFilter calls = some (.protocols ps) →
          builtins calls = BuiltinProvider.all.filter (fun p => ps.contains p.protocol) ∧
          ((∀ p ∈ builtins calls, p ∈ sel ∧ p.protocol ∈ ps) ↔
            ∀ p : BuiltinProvider, p.protocol ∈ ps → p ∈ sel)) ∧
        (lastFilter calls = some (.select sel) →
          builtins calls = sel ∧
          ((∀ p ∈ builtins calls, p ∈ sel ∧ p.protocol ∈ ps) ↔ ∀ p ∈ sel, p.protocol ∈ ps))) ∧
    ∀ front middle back : List ConfigCall,
      (∀ call ∈ middle ++ back, call.field ≠ .providerFilter) →
        (builtConfig (front ++ .set (.protocols ps) :: (middle ++ .set (.providers sel) :: back)) =
            builtConfig
              (front ++ .set (.providers sel) :: (middle ++ .set (.protocols ps) :: back)) ↔
          sel = BuiltinProvider.all.filter (fun p => ps.contains p.protocol)) := by
  constructor
  · intro calls
    obtain ⟨blocking, async⟩ := builtConfig_lists calls
    refine ⟨blocking, async, ?_, ?_⟩
    · intro last
      have chosen : builtins calls =
          BuiltinProvider.all.filter fun p => ps.contains p.protocol := by
        rw [builtins, last]
        rfl
      refine ⟨chosen, ?_⟩
      rw [chosen]
      simp only [List.mem_filter, BuiltinProvider.mem_all, true_and, List.contains_iff_mem]
      exact ⟨fun both p allowed => (both p allowed).1,
        fun covered p allowed => ⟨covered p allowed, allowed⟩⟩
    · intro last
      have chosen : builtins calls = sel := by
        rw [builtins, last]
        rfl
      refine ⟨chosen, ?_⟩
      rw [chosen]
      exact ⟨fun both p selected => (both p selected).2,
        fun allowed p selected => ⟨selected, allowed p selected⟩⟩
  · intro front middle back unset
    rw [List.forall_mem_append] at unset
    -- In both orders the other calls leave one builder, with the last of the two filters.
    have ordered (former latter : ConfigCall) {first last : ProviderFilter}
        (sets : ∀ builder, former.apply builder = builder.withFilter first)
        (resets : ∀ builder, latter.apply builder = builder.withFilter last) :
        (front ++ former :: (middle ++ latter :: back)).foldl ConfigCall.apply .new =
          (back.foldl ConfigCall.apply (middle.foldl ConfigCall.apply
            (front.foldl ConfigCall.apply .new))).withFilter last := by
      rw [List.foldl_append, List.foldl_cons, sets, List.foldl_append,
        foldl_withFilter unset.1, List.foldl_cons, resets, foldl_withFilter unset.2,
        foldl_withFilter unset.2]
      rfl
    unfold builtConfig
    rw [ordered _ _ (fun _ => rfl) (fun _ => rfl), ordered _ _ (fun _ => rfl) (fun _ => rfl)]
    exact build_filters_iff _ ps sel

/-- Selecting a STUN provider behind a DNS filter, and the DNS filter behind the selection. -/
theorem last_filter_decides_stun :
    ((∀ p ∈ builtins [.set (.protocols [.dns]), .set (.providers [.googleStun])],
        p ∈ [BuiltinProvider.googleStun] ∧ p.protocol ∈ [Protocol.dns]) ↔
      ∀ p ∈ [BuiltinProvider.googleStun], p.protocol ∈ [Protocol.dns]) ∧
    (builtConfig ([] ++ .set (.protocols [.dns]) :: ([] ++ .set (.providers [.googleStun]) :: [])) =
        builtConfig
          ([] ++ .set (.providers [.googleStun]) :: ([] ++ .set (.protocols [.dns]) :: [])) ↔
      [BuiltinProvider.googleStun] =
        BuiltinProvider.all.filter (fun p => [Protocol.dns].contains p.protocol)) := by
  obtain ⟨lists, commute⟩ := last_filter_decides [.dns] [.googleStun]
  exact ⟨((lists _).2.2.2 rfl).2, commute [] [] [] (by simp)⟩

/-- A selected STUN provider stays in a configuration whose protocols were limited to DNS. -/
theorem protocols_filter_dropped :
    (builtConfig [.set (.protocols [.dns]), .set (.providers [.googleStun])]).providers =
        [BuiltinProvider.googleStun.toBoxed] ∧
      (builtConfig [.set (.protocols [.dns]), .set (.providers [.googleStun])]).blockingProviders =
        [BuiltinProvider.googleStun.toBoxedBlocking] ∧
      BuiltinProvider.googleStun.protocol ∉ [Protocol.dns] ∧
      (builtConfig [.set (.providers [.googleStun]), .set (.protocols [.dns])]).providers.length =
        3 := by
  refine ⟨rfl, rfl, by decide, rfl⟩

end IpDiscovery
