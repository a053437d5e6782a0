import IpDiscovery.Async.Resolver

/-! Awaiting one future after the other, with a log of the providers that are called. -/

namespace IpDiscovery.Async

section Logged

variable (config : Config) (calls : Calls)

/-- The providers whose `get_ip` is called when one future is awaited. -/
def invoked (position : Nat) : List Nat :=
  if config.timeout = 0 then [] else [position]

/-- The loop of `resolve_first`, which also logs whom it calls. -/
def firstLogged : List (BoxedProvider × Nat) → (errors : List ProviderError) → (log : List Nat) →
    Except (Fault Error) ProviderResult × List Nat
  | [], errors, log => (.error (.err (.allProvidersFailed errors)), log)
  | (provider, position) :: rest, errors, log =>
    match (makeProviderFuture config provider (calls position)).await with
    | .error fault => (.error fault, log ++ invoked config position)
    | .ok (.ok result) => (.ok result, log ++ invoked config position)
    | .ok (.error e) => firstLogged rest (errors ++ [e]) (log ++ invoked config position)

/-- `Resolver::resolve_first`, with the log of the providers it has called. -/
def resolveFirstLogged : Except (Fault Error) ProviderResult × List Nat :=
  firstLogged config calls (matchingProviders config).zipIdx [] []

/-- A provider's own call has returned an address of the version asked for, within its timeout. -/
def Delivers (position : Nat) (ip : IpAddr) : Prop :=
  config.timeout ≠ 0 ∧ (calls position).result = .returned (.ok ip) ∧
    config.version.matches ip = true

end Logged

section Laws

variable {config : Config} {calls : Calls}

/-- The log has no part in the answer. -/
theorem firstLogged_fst (entries : List (BoxedProvider × Nat)) :
    ∀ errors log, (firstLogged config calls entries errors log).1 =
      firstLoop config calls entries errors := by
  induction entries with
  | nil =>
    intro errors log
    rfl
  | cons entry rest ih =>
    intro errors log
    obtain ⟨provider, position⟩ := entry
    obtain ⟨polls, waiting⟩ := makeProviderFuture_waiting config calls provider position
    rw [firstLogged, firstLoop, waiting, await_waiting, ok_bind]
    -- A success ends both loops, and a failure is passed over by both.
    cases outcomeOf config calls provider position with
    | ok result => rfl
    | error e => exact ih _ _

/-- The outcome of a provider is a success exactly where its call delivers. -/
theorem outcomeOf_eq_ok_iff {provider : BoxedProvider} {position : Nat} {result : ProviderResult} :
    outcomeOf config calls provider position = .ok result ↔ ∃ ip,
      Delivers config calls position ip ∧
        result = ⟨ip, provider.name, provider.protocol, (calls position).latency⟩ := by
  constructor
  · intro succeeded
    -- A success tells its address, and the address determines the whole result.
    obtain ⟨nonzero, returned, family, _⟩ := outcomeOf_eq_ok succeeded
    refine ⟨result.ip, ⟨nonzero, returned, family⟩, ?_⟩
    rw [outcomeOf_returned nonzero returned family, Except.ok.injEq] at succeeded
    exact succeeded.symm
  · intro delivered
    obtain ⟨ip, ⟨nonzero, returned, family⟩, same⟩ := delivered
    rw [same]
    exact outcomeOf_returned nonzero returned family provider

/-- The loop calls one provider after the other, up to the first one that succeeds. -/
theorem firstLogged_spec (entries : List (BoxedProvider × Nat)) : ∀ errors log,
    (∃ before entry after result, entries = before ++ entry :: after ∧
      (∀ other ∈ before, ∃ e, outcomeOf config calls other.1 other.2 = .error e) ∧
      outcomeOf config calls entry.1 entry.2 = .ok result ∧
      firstLogged config calls entries errors log =
        (.ok result, log ++ (before ++ [entry]).flatMap fun other => invoked config other.2)) ∨
    ∃ more, (entries.map fun entry => outcomeOf config calls entry.1 entry.2) = more.map .error ∧
      firstLogged config calls entries errors log =
        (.error (.err (.allProvidersFailed (errors ++ more))),
          log ++ entries.flatMap fun other => invoked config other.2) := by
  -- The induction awaits one future at a time.
  induction entries with
  | nil =>
    intro errors log
    exact Or.inr ⟨[], rfl, by simp [firstLogged]⟩
  | cons entry rest ih =>
    intro errors log
    obtain ⟨provider, position⟩ := entry
    obtain ⟨polls, waiting⟩ := makeProviderFuture_waiting config calls provider position
    rw [firstLogged, waiting, await_waiting]
    cases outcome : outcomeOf config calls provider position with
    -- A success ends the loop.
    | ok result =>
      refine Or.inl ⟨[], (provider, position), rest, result, rfl, ?_, outcome, by simp⟩
      intro other member
      exact absurd member List.not_mem_nil
    -- A failure goes on with the next provider.
    | error e =>
      dsimp only
      rcases ih (errors ++ [e]) (log ++ invoked config position) with
        ⟨before, chosen, after, result, shape, failed, succeeded, logged⟩ | ⟨more, failed, logged⟩
      · refine Or.inl ⟨(provider, position) :: before, chosen, after, result, by simp [shape], ?_,
          succeeded, by simp [logged]⟩
        intro other member
        rcases List.mem_cons.mp member with here | later
        · exact ⟨e, by rw [here]; exact outcome⟩
        · exact failed other later
      · exact Or.inr ⟨e :: more, by simp [outcome, failed], by simp [logged]⟩

/-- All providers are called, one after the other, unless there is no time. -/
theorem invoked_all (entries : List (BoxedProvider × Nat)) :
    (entries.flatMap fun entry => invoked config entry.2) =
      if config.timeout = 0 then [] else entries.map Prod.snd := by
  unfold invoked
  split
  · simp
  · induction entries with
    | nil => rfl
    | cons entry rest ih => simp [ih]

/-- A provider that stands behind some others has their number as its position. -/
theorem zipIdx_split {providers : List BoxedProvider} {before after : List (BoxedProvider × Nat)}
    {entry : BoxedProvider × Nat} (shape : providers.zipIdx = before ++ entry :: after) :
    providers[before.length]? = some entry.1 ∧
      (before ++ [entry]).map Prod.snd = List.range (before.length + 1) ∧
      ∀ position < before.length, ∀ provider, providers[position]? = some provider →
        (provider, position) ∈ before := by
  -- The pair at a position holds the provider there.
  have at_position (position : Nat) :
      (before ++ entry :: after)[position]? =
        (providers[position]?).map fun provider => (provider, position) := by
    rw [← shape, List.getElem?_zipIdx]
    simp
  have here := at_position before.length
  rw [List.getElem?_append_right (Nat.le_refl _), Nat.sub_self, List.getElem?_cons_zero] at here
  obtain ⟨provider, found, same⟩ := Option.map_eq_some_iff.mp here.symm
  refine ⟨by rw [found, ← same], ?_, ?_⟩
  · -- The positions up to this one open the range of all positions.
    have ids : (before ++ [entry]).map Prod.snd ++ after.map Prod.snd =
        List.range providers.length := by
      rw [List.range_eq_range', ← List.zipIdx_map_snd 0 providers, shape]
      simp
    have front := congrArg (List.take (before.length + 1)) ids
    rw [List.take_range, List.take_left' (by simp)] at front
    have inside := (List.getElem?_eq_some_iff.mp found).1
    rw [front, Nat.min_eq_left inside]
  · -- A provider at an earlier position is among those before.
    intro position earlier other located
    have entry_at := at_position position
    rw [List.getElem?_append_left earlier, located] at entry_at
    exact List.mem_of_getElem? entry_at

/-- What trying one provider after the other comes to. -/
structure FirstInOrder (config : Config) (calls : Calls)
    (run : Except (Fault Error) ProviderResult × List Nat) (position : Nat) (ip : IpAddr) :
    Prop where
  delivers : Delivers config calls position ip
  earlier : ∀ other < position, ∀ ip', ¬ Delivers config calls other ip'
  answer : ∃ provider, (matchingProviders config)[position]? = some provider ∧
    run.1 = .ok ⟨ip, provider.name, provider.protocol, (calls position).latency⟩
  log : run.2 = List.range (position + 1)

/-- Nobody has delivered, and everybody is reported in order. -/
structure NobodyDelivers (config : Config) (calls : Calls)
    (run : Except (Fault Error) ProviderResult × List Nat) : Prop where
  silent : ∀ position < (matchingProviders config).length, ∀ ip,
    ¬ Delivers config calls position ip
  answer : ∃ errors, outcomes config calls = errors.map .error ∧
    errors.length = (matchingProviders config).length ∧
    run.1 = .error (.err (.allProvidersFailed errors))
  log : run.2 = if config.timeout = 0 then [] else List.range (matchingProviders config).length

/-- The first provider to deliver is answered with, or nobody delivers. -/
theorem resolveFirst_inOrder (config : Config) (calls : Calls) :
    (resolveFirstLogged config calls).1 = resolveFirst config calls ∧
    ((∃ position ip, FirstInOrder config calls (resolveFirstLogged config calls) position ip) ∨
      NobodyDelivers config calls (resolveFirstLogged config calls)) := by
  refine ⟨firstLogged_fst _ _ _, ?_⟩
  rcases @firstLogged_spec config calls (matchingProviders config).zipIdx [] [] with
    ⟨before, entry, after, result, shape, failed, succeeded, logged⟩ | ⟨more, failed, logged⟩
  · left
    obtain ⟨place, ids, covers⟩ := zipIdx_split shape
    -- The entry has the number of those before it as its position.
    have position : entry.2 = before.length := by
      rw [List.map_append, List.range_succ] at ids
      simpa using (List.append_inj' ids rfl).2
    rw [position] at succeeded
    obtain ⟨ip, delivers, same⟩ := outcomeOf_eq_ok_iff.mp succeeded
    have nonzero := delivers.1
    refine ⟨before.length, ip, delivers, ?_, ⟨entry.1, place, ?_⟩, ?_⟩
    · -- Whoever stands before has failed.
      intro other earlier ip' delivered
      have inside : other < (matchingProviders config).length :=
        Nat.lt_trans earlier (List.getElem?_eq_some_iff.mp place).1
      obtain ⟨e, error⟩ := failed _
        (covers other earlier _ (List.getElem?_eq_getElem inside))
      rw [outcomeOf_eq_ok_iff.mpr ⟨ip', delivered, rfl⟩] at error
      cases error
    · rw [resolveFirstLogged, logged, same]
    · rw [resolveFirstLogged, logged, invoked_all, if_neg nonzero, ids, List.nil_append]
  · right
    refine ⟨?_, ⟨more, failed, ?_, ?_⟩, ?_⟩
    · -- A delivery would be among the outcomes, and these are all errors.
      intro position inside ip delivered
      have member := mem_outcomes.mpr ⟨position, _, List.getElem?_eq_getElem inside,
        (outcomeOf_eq_ok_iff.mpr ⟨ip, delivered, rfl⟩).symm⟩
      have all : outcomes config calls = more.map .error := failed
      rw [all] at member
      obtain ⟨e, _, same⟩ := List.mem_map.mp member
      cases same
    · have lengths := congrArg List.length failed
      simpa using lengths.symm
    · rw [resolveFirstLogged, logged, List.nil_append]
    · rw [resolveFirstLogged, logged, invoked_all, List.zipIdx_map_snd, List.range_eq_range']
      rfl

end Laws

end IpDiscovery.Async
