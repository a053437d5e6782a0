import IpDiscovery.Builtins

/-! The entry points that take no configuration: which providers they try, and how they fail. -/

namespace IpDiscovery

/-- The settings of `get_ip`, `get_ipv4` and `get_ipv6`. -/
def entrySettings : IpVersion → List ConfigCall
  | .any => []
  | version => [.set (.version version)]

/-- The name that a built-in provider reports under. -/
def BuiltinProvider.title (features : Features) (p : BuiltinProvider) : String :=
  if features.enables p.protocol then p.display else p.debug

/-- A boxed provider goes by its title, whether its feature is enabled or not. -/
theorem BuiltinProvider.boxed_name (features : Features) (p : BuiltinProvider) :
    (p.boxed features).name = p.title features := by
  unfold BuiltinProvider.title
  -- A stub reports under its debug name.
  split
  · rename_i enabled
    exact (BuiltinProvider.boxed_enabled enabled).1
  · rename_i disabled
    have stub := BuiltinProvider.implementation_disabled (Bool.not_eq_true _ ▸ disabled)
    rw [BuiltinProvider.boxed, stub]
    rfl

section Settings

variable {features : Features} {version : IpVersion}

/-- An entry point asks for its own version. -/
theorem entry_version : (featuredConfig features (entrySettings version)).version = version := by
  cases version <;> rfl

/-- All entry points try their providers in order. -/
theorem entry_strategy : (featuredConfig features (entrySettings version)).strategy = .first := by
  cases version <;> rfl

/-- The entry points add no provider of their own. -/
theorem entry_customs : blockingAdded (entrySettings version) = [] ∧
    asyncAdded (entrySettings version) = [] := by
  cases version <;> exact ⟨rfl, rfl⟩

/-- All built-ins take part, in their usual order, but for those that do not reach IPv6. -/
theorem entry_matchingBuiltins : matchingBuiltins features (entrySettings version) =
    BuiltinProvider.all.filter fun p =>
      version ≠ .v6 ∨ (features.enables p.protocol = true ∧ p.reachesV6 = true) := by
  have chosen : builtins (entrySettings version) = BuiltinProvider.all := by
    cases version <;> rfl
  rw [matchingBuiltins, chosen, entry_version]
  congr 1
  funext p
  rw [Bool.eq_iff_iff, BuiltinProvider.boxed_supports, decide_eq_true_iff, imp_iff_not_or]

/-- Nobody is left to be asked exactly where IPv6 is asked for, without STUN and DNS. -/
theorem entry_matchingBuiltins_eq_nil : matchingBuiltins features (entrySettings version) = [] ↔
    version = .v6 ∧ features.stun = false ∧ features.dns = false := by
  rw [entry_matchingBuiltins]
  obtain ⟨dns, http, stun⟩ := features
  cases version <;> cases dns <;> cases http <;> cases stun <;> decide

end Settings

/-- An entry point answers with what an enabled built-in returned, or fails as documented. -/
structure Entry (features : Features) (version : IpVersion)
    (returned : Nat → BuiltinProvider → ProviderRun IpAddr)
    (answer : Except Error ProviderResult) : Prop where
  answered : ∀ result, answer = .ok result →
    version.matches result.ip = true ∧ FromBuiltin features (entrySettings version) returned result
  unsupported : answer = .error .noProvidersForVersion ↔
    version = .v6 ∧ features.stun = false ∧ features.dns = false
  -- All providers have failed then, in the order in which they were tried.
  failed : ∀ error, answer = .error error → error ≠ .noProvidersForVersion →
    ∃ errors, error = .allProvidersFailed errors ∧ errors.map ProviderError.provider =
      (BuiltinProvider.all.filter fun p =>
        version ≠ .v6 ∨ (features.enables p.protocol = true ∧ p.reachesV6 = true)).map
          (·.title features)

section Entries

variable {features : Features} {version : IpVersion}

/-- The matching providers of an entry point are its built-ins, for both resolvers. -/
theorem entry_matchingProviders :
    Blocking.matchingProviders (featuredConfig features (entrySettings version)) =
        (matchingBuiltins features (entrySettings version)).map (·.boxed features) ∧
      Async.matchingProviders (featuredConfig features (entrySettings version)) =
        (matchingBuiltins features (entrySettings version)).map (·.boxed features) := by
  obtain ⟨blocking, async⟩ := featured_matchingProviders features (entrySettings version)
  obtain ⟨noBlocking, noAsync⟩ := @entry_customs version
  rw [noBlocking] at blocking
  rw [noAsync] at async
  exact ⟨blocking.trans (List.append_nil _), async.trans (List.append_nil _)⟩

/-- The names of the matching providers: those of all built-ins, but over IPv6 only of some. -/
theorem entry_names :
    (matchingBuiltins features (entrySettings version)).map (fun p => (p.boxed features).name) =
      (BuiltinProvider.all.filter fun p =>
        version ≠ .v6 ∨ (features.enables p.protocol = true ∧ p.reachesV6 = true)).map
          (·.title features) := by
  rw [entry_matchingBuiltins]
  exact List.map_congr_left fun p _ => p.boxed_name features

end Entries

/--
The entry points without a configuration try the built-in providers in their documented order.

They lack a provider for the version exactly where IPv6 is asked for, and neither STUN nor DNS is
enabled. Otherwise they fail with one error of each provider that takes part, stubs included, in
the order in which they were tried.
-/
theorem entry_points (features : Features) (target : Target) (version : IpVersion)
    (outside : Nat → Outside) :
    (∀ clock orders custom answer,
      Blocking.Returns clock (featuredConfig features (entrySettings version))
        (blockingCalls features target (entrySettings version) outside custom) orders answer →
      Entry features version (answerBlocking features target (entrySettings version) outside)
        answer) ∧
    ∀ order pace custom answer,
      Async.resolve order (featuredConfig features (entrySettings version))
        (asyncCalls features target (entrySettings version) outside pace custom) =
          answer.mapError Fault.err →
      Entry features version (answerAsync features target (entrySettings version) outside)
        answer := by
  obtain ⟨noBlocking, noAsync⟩ := @entry_customs version
  obtain ⟨blocking, async⟩ := @entry_matchingProviders features version
  constructor
  · intro clock orders custom answer returned
    -- Without customs there is nobody who could fail under another name.
    have own := @blocking_ownErrors features target (entrySettings version) outside custom (by
      intro position provider error located
      rw [noBlocking] at located
      cases located)
    refine ⟨?_, ?_, ?_⟩
    · intro result answered
      rw [answered] at returned
      have accounted := Blocking.accounts_of_returns returned
      have source := blocking_provenance accounted
      -- So whatever was answered has come from a built-in.
      rw [noBlocking] at source
      have family := accounted.family
      rw [entry_version] at family
      exact ⟨family, source.resolve_right not_fromCustom⟩
    · rw [Blocking.returns_noProviders_iff returned, ← Blocking.matchingProviders_eq_nil, blocking,
        List.map_eq_nil_iff, entry_matchingBuiltins_eq_nil]
    · intro error failed other
      by_cases none_match :
          Blocking.matchingProviders (featuredConfig features (entrySettings version)) = []
      · -- With nobody to ask, the error is the one that is excluded.
        rw [Blocking.returns_iff_of_none none_match, failed] at returned
        cases returned
        exact absurd rfl other
      · -- The configuration asks for First.
        rw [Blocking.Returns,
          Blocking.start_eq_first.mpr ⟨none_match, entry_strategy⟩] at returned
        obtain ⟨state, reached, ended⟩ := returned
        obtain ⟨errors, same, names⟩ :=
          Blocking.First.fails_in_order reached own (ended.trans (congrArg _ failed))
        refine ⟨errors, same, names.trans ?_⟩
        -- What was tried is the list of built-ins, in their order.
        rw [Blocking.matchingNames, blocking, List.map_map]
        exact entry_names
  · intro order pace custom answer resolved
    have own := @async_ownErrors features target (entrySettings version) outside pace custom (by
      intro position provider error located
      rw [noAsync] at located
      cases located)
    refine ⟨?_, ?_, ?_⟩
    · intro result answered
      rw [answered] at resolved
      have accounted := Async.accounts_of_resolve resolved
      have source := async_provenance accounted
      rw [noAsync] at source
      have family := accounted.family
      rw [entry_version] at family
      exact ⟨family, source.resolve_right not_fromCustom⟩
    · rw [← entry_matchingBuiltins_eq_nil, ← @List.map_eq_nil_iff _ _ (·.boxed features), ← async,
        Async.matchingProviders_eq_nil, ← Async.resolve_noProviders_iff, resolved]
      constructor
      · intro same
        rw [same]
        rfl
      · intro same
        cases answer with
        | ok result => cases same
        | error error => cases same; rfl
    · intro error failed other
      subst failed
      by_cases none_match :
          Async.matchingProviders (featuredConfig features (entrySettings version)) = []
      · -- With nobody to ask, the error is the one that is excluded.
        rw [Async.resolve, if_pos none_match] at resolved
        cases resolved
        exact absurd rfl other
      · rw [Async.resolve, if_neg none_match, entry_strategy] at resolved
        -- All have failed, in the order of the list.
        obtain ⟨errors, same, names⟩ := Async.first_fails_in_order own resolved
        refine ⟨errors, same, names.trans ?_⟩
        rw [Async.matchingNames, async, List.map_map]
        exact entry_names

/-- Without any feature, `get_ip` fails under the names of all stubs. -/
theorem entry_points_stubs : ∃ errors,
    Async.resolve .inserted (featuredConfig ⟨false, false, false⟩ [])
      (asyncCalls ⟨false, false, false⟩ .x64 [] (fun _ => answeringNetwork)
        (fun _ => ⟨0, false, 0⟩) fun _ => ⟨0, .elapsed, 0⟩) =
        .error (.err (.allProvidersFailed errors)) ∧
    errors.map ProviderError.provider = ["CloudflareStun", "CloudflareDns", "GoogleStun",
      "GoogleStun1", "GoogleStun2", "GoogleDns", "OpenDns", "CloudflareHttp", "Aws"] := by
  obtain ⟨answer, resolved, _⟩ := @Async.resolve_answered .inserted
    (featuredConfig ⟨false, false, false⟩ []) (asyncCalls ⟨false, false, false⟩ .x64 []
      (fun _ => answeringNetwork) (fun _ => ⟨0, false, 0⟩) fun _ => ⟨0, .elapsed, 0⟩) (by nofun)
  have entry := (entry_points ⟨false, false, false⟩ .x64 .any fun _ => answeringNetwork).2
    .inserted (fun _ => ⟨0, false, 0⟩) (fun _ => ⟨0, .elapsed, 0⟩) answer resolved
  cases answer with
  | ok result =>
    obtain ⟨_, _, p, _, enabled, _⟩ := entry.answered result rfl
    -- No protocol is enabled, so nobody can have answered.
    cases p <;> cases enabled
  | error error =>
    obtain ⟨errors, rfl, names⟩ := entry.failed error rfl (by
      rintro rfl
      cases (entry.unsupported.mp rfl).1)
    exact ⟨errors, resolved, names⟩

end IpDiscovery
