import IpDiscovery.Consensus

/-! Outcomes without their latencies, and what a consensus over them depends on. -/

namespace IpDiscovery

/-- What an outcome says, apart from how long it took. -/
def gist (outcome : Outcome) : Except ProviderError (IpAddr × String × Protocol) :=
  outcome.map fun result => (result.ip, result.provider, result.protocol)

/-- Two lists of outcomes that say the same, in some order. -/
def SameGist (left right : List Outcome) : Prop := (left.map gist).Perm (right.map gist)

/-- Of a result, the latency is dropped. -/
@[simp] theorem gist_ok (result : ProviderResult) :
    gist (.ok result) = .ok (result.ip, result.provider, result.protocol) := rfl

/-- An error says what it is. -/
@[simp] theorem gist_error (e : ProviderError) : gist (.error e) = .error e := rfl

/-- The addresses among some outcomes decide the support. -/
theorem support_eq_countP (outcomes : List Outcome) (ip : IpAddr) :
    support outcomes ip = (outcomes.map gist).countP fun said =>
      match said with
      | .ok (other, _) => other = ip
      | .error _ => false := by
  -- Both sides count one outcome after the other.
  induction outcomes with
  | nil => rfl
  | cons outcome rest ih =>
    rw [support, agreeing] at ih ⊢
    cases outcome with
    | error e =>
      rw [List.map_cons, gist_error, List.countP_cons, ← ih]
      simp [successes, Except.toOption]
    | ok result =>
      rw [List.map_cons, gist_ok, List.countP_cons, ← ih]
      by_cases same : result.ip = ip
      · simp [successes, Except.toOption, same]
      · simp [successes, Except.toOption, same]

/-- The errors among some outcomes are kept as they are. -/
theorem failures_eq_filterMap (outcomes : List Outcome) :
    failures outcomes = (outcomes.map gist).filterMap fun said =>
      match said with
      | .ok _ => none
      | .error e => some e := by
  induction outcomes with
  | nil => rfl
  | cons outcome rest ih =>
    rw [failures] at ih ⊢
    cases outcome with
    | error e => simp [ih]
    | ok result => simp [ih]

/-- A list of errors is its own list of failures. -/
@[simp] theorem failures_map_error (errors : List ProviderError) :
    failures (errors.map .error) = errors := by
  simp [failures, List.filterMap_map]

section SameGist

variable {left right : List Outcome}

/-- Outcomes that say the same support every address alike. -/
theorem SameGist.support_eq (same : SameGist left right) (ip : IpAddr) :
    support left ip = support right ip := by
  rw [support_eq_countP, support_eq_countP]
  exact List.Perm.countP_eq _ same

/-- Outcomes that say the same fail alike, in some order. -/
theorem SameGist.failures_perm (same : SameGist left right) :
    (failures left).Perm (failures right) := by
  rw [failures_eq_filterMap, failures_eq_filterMap]
  exact List.Perm.filterMap _ same

/-- A success on one side is one on the other, but for its latency. -/
theorem SameGist.exists_ok (same : SameGist left right) {result : ProviderResult}
    (member : .ok result ∈ left) :
    ∃ other, .ok other ∈ right ∧ gist (.ok other) = gist (.ok result) := by
  have said := same.subset (List.mem_map.mpr ⟨_, member, rfl⟩)
  obtain ⟨outcome, among, equal⟩ := List.mem_map.mp said
  cases outcome with
  | error e => cases equal
  | ok other => exact ⟨other, among, equal⟩

/-! ## Consensus -/

/-- An address that is ahead of all others, with enough support, is the answer. -/
theorem consensusOf_unique (order : HashOrder IpAddr (List ProviderResult)) {minAgree : Nat}
    {outcomes : List Outcome} {ip : IpAddr} (supported : 0 < support outcomes ip)
    (enough : minAgree ≤ support outcomes ip)
    (ahead : ∀ other, other ≠ ip → support outcomes other < support outcomes ip) :
    ∃ result, consensusOf order minAgree outcomes = .ok result ∧ result.ip = ip := by
  obtain ⟨result, answered⟩ := consensusOf_answers order minAgree outcomes supported enough
  refine ⟨result, answered, ?_⟩
  by_contra different
  -- The answer has the largest support.
  have most := (consensusOf_eq_ok order minAgree outcomes answered).2.2.1 ip
  have less := ahead result.ip different
  omega

/-- Without a large enough group, the answer is the largest support and the failures. -/
theorem consensusOf_unsupported (order : HashOrder IpAddr (List ProviderResult)) {minAgree : Nat}
    {outcomes : List Outcome}
    (unsupported : ∀ ip, 0 < support outcomes ip → support outcomes ip < minAgree) :
    ∃ got, consensusOf order minAgree outcomes =
        .error (.consensusNotReached minAgree got (failures outcomes)) ∧
      (∀ ip, support outcomes ip ≤ got) ∧ ∃ ip, support outcomes ip = got := by
  apply consensusOf_unanswered
  cases best : bestLoop minAgree (visited order outcomes) with
  | none => rfl
  | some leader =>
    -- A winner would be a result with enough support.
    obtain ⟨fastest, _, answered, _⟩ := winner_has_fastest order minAgree outcomes best
    obtain ⟨enough, member, _⟩ := consensusOf_eq_ok order minAgree outcomes answered
    have supported : 0 < support outcomes fastest.ip := by
      apply List.length_pos_of_mem (a := fastest)
      exact List.mem_filter.mpr ⟨mem_successes.mpr member, by simp⟩
    have few := unsupported fastest.ip supported
    omega

/-- Outcomes that say the same are refused with the same count and the same errors. -/
theorem SameGist.refused (same : SameGist left right)
    (leftOrder rightOrder : HashOrder IpAddr (List ProviderResult)) {minAgree : Nat}
    (unsupported : ∀ ip, 0 < support left ip → support left ip < minAgree) :
    ∃ got leftErrors rightErrors,
      consensusOf leftOrder minAgree left =
        .error (.consensusNotReached minAgree got leftErrors) ∧
      consensusOf rightOrder minAgree right =
        .error (.consensusNotReached minAgree got rightErrors) ∧
      leftErrors.Perm rightErrors := by
  -- Neither side has a group that is large enough.
  obtain ⟨got, answer, supported, ip, attained⟩ := consensusOf_unsupported leftOrder unsupported
  have unsupported' : ∀ ip, 0 < support right ip → support right ip < minAgree := by
    intro other
    rw [← same.support_eq]
    exact unsupported other
  obtain ⟨got', answer', supported', ip', attained'⟩ :=
    consensusOf_unsupported rightOrder unsupported'
  -- Both counts are the largest support.
  have below := supported' ip
  have above := supported ip'
  rw [← same.support_eq, attained] at below
  rw [same.support_eq, attained'] at above
  have equal : got' = got := by omega
  subst equal
  exact ⟨got', _, _, answer, answer', same.failures_perm⟩

/-- Outcomes that say the same have the same winner, if there is only one. -/
theorem SameGist.answered (same : SameGist left right)
    (leftOrder rightOrder : HashOrder IpAddr (List ProviderResult)) {minAgree : Nat} {ip : IpAddr}
    (supported : 0 < support left ip) (enough : minAgree ≤ support left ip)
    (ahead : ∀ other, other ≠ ip → support left other < support left ip) :
    ∃ leftResult rightResult, consensusOf leftOrder minAgree left = .ok leftResult ∧
      consensusOf rightOrder minAgree right = .ok rightResult ∧
      leftResult.ip = ip ∧ rightResult.ip = ip := by
  obtain ⟨leftResult, answer, here⟩ := consensusOf_unique leftOrder supported enough ahead
  simp only [same.support_eq] at supported enough ahead
  obtain ⟨rightResult, answer', here'⟩ := consensusOf_unique rightOrder supported enough ahead
  exact ⟨leftResult, rightResult, answer, answer', here, here'⟩

end SameGist

end IpDiscovery
