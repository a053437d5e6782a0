import Mathlib

/-! Plurality with a threshold among voters of whom some may lie. -/

namespace IpDiscovery.Quorum

variable {Voter Choice : Type} [DecidableEq Choice]

/-- The voters who vote for a choice. -/
def backers (voters : Finset Voter) (vote : Voter → Option Choice) (choice : Choice) :
    Finset Voter :=
  voters.filter fun voter => vote voter = some choice

/-- A choice that may win: it has enough backers, and no choice has more. -/
structure Elected (voters : Finset Voter) (threshold : Nat) (vote : Voter → Option Choice)
    (choice : Choice) : Prop where
  enough : threshold ≤ (backers voters vote choice).card
  most : ∀ other, (backers voters vote other).card ≤ (backers voters vote choice).card

/-- Whoever does not lie votes for the truth, or for nothing. -/
def Truthful (voters liars : Finset Voter) (truth : Choice) (vote : Voter → Option Choice) : Prop :=
  ∀ voter ∈ voters, voter ∉ liars → ∀ choice, vote voter = some choice → choice = truth

/-- Whoever does not lie votes for the truth. -/
def Outspoken (voters liars : Finset Voter) (truth : Choice) (vote : Voter → Option Choice) :
    Prop :=
  ∀ voter ∈ voters, voter ∉ liars → vote voter = some truth

omit [DecidableEq Choice] in
/-- Who says the truth does not say anything else. -/
theorem Outspoken.truthful {voters liars : Finset Voter} {truth : Choice}
    {vote : Voter → Option Choice} (outspoken : Outspoken voters liars truth vote) :
    Truthful voters liars truth vote := by
  intro voter among honest choice voted
  exact Option.some.inj (voted.symm.trans (outspoken voter among honest))

variable {voters liars : Finset Voter} {threshold : Nat} {truth : Choice}
  {vote : Voter → Option Choice}

/-- A voter backs a choice by voting for it. -/
@[simp] theorem mem_backers {choice : Choice} {voter : Voter} :
    voter ∈ backers voters vote choice ↔ voter ∈ voters ∧ vote voter = some choice := by
  simp [backers]

/-- Votes that agree on the voters elect the same. -/
theorem Elected.congr {vote' : Voter → Option Choice} {choice : Choice}
    (elected : Elected voters threshold vote choice)
    (same : ∀ voter ∈ voters, vote voter = vote' voter) :
    Elected voters threshold vote' choice := by
  have backed (other : Choice) : backers voters vote other = backers voters vote' other :=
    Finset.filter_congr fun voter among => by rw [same voter among]
  refine ⟨?_, fun other => ?_⟩
  · rw [← backed]
    exact elected.enough
  · rw [← backed, ← backed]
    exact elected.most other

/-- Only liars back anything but the truth. -/
theorem Truthful.backers_subset (truthful : Truthful voters liars truth vote) {choice : Choice}
    (wrong : choice ≠ truth) : backers voters vote choice ⊆ liars := by
  intro voter backs
  obtain ⟨among, voted⟩ := mem_backers.mp backs
  -- An honest backer would have voted for the truth.
  by_contra honest
  exact wrong (truthful voter among honest choice voted)

/-- A choice with more backers than there are liars is the truth. -/
theorem Truthful.eq_truth (truthful : Truthful voters liars truth vote) {choice : Choice}
    (outnumbered : liars.card < (backers voters vote choice).card) : choice = truth := by
  -- Otherwise only liars are behind it.
  by_contra wrong
  have few := Finset.card_le_card (truthful.backers_subset wrong)
  omega

variable [DecidableEq Voter]

/-- The truth has every honest voter behind it. -/
theorem Outspoken.honest_le (outspoken : Outspoken voters liars truth vote) :
    (voters \ liars).card ≤ (backers voters vote truth).card := by
  refine Finset.card_le_card fun voter honest => ?_
  obtain ⟨among, trusted⟩ := Finset.mem_sdiff.mp honest
  exact mem_backers.mpr ⟨among, outspoken voter among trusted⟩

/-- Votes in which the liars agree on a choice, and the others on something or nothing. -/
def colluding (liars : Finset Voter) (lie : Choice) (others : Option Choice) :
    Voter → Option Choice :=
  fun voter => if voter ∈ liars then some lie else others

/-- Colluding liars are the backers of their choice. -/
theorem backers_colluding {lie : Choice} {others : Option Choice} (inside : liars ⊆ voters)
    (apart : others ≠ some lie) : backers voters (colluding liars lie others) lie = liars := by
  ext voter
  rw [mem_backers, colluding]
  constructor
  · -- The others vote for something else, or for nothing.
    intro ⟨_, voted⟩
    by_contra honest
    rw [if_neg honest] at voted
    exact apart voted
  · intro lies
    exact ⟨inside lies, if_pos lies⟩

/-- Whatever else has backers has the others. -/
theorem backers_colluding_subset {lie choice : Choice} {others : Option Choice}
    (apart : choice ≠ lie) :
    backers voters (colluding liars lie others) choice ⊆ voters \ liars := by
  intro voter backs
  obtain ⟨among, voted⟩ := mem_backers.mp backs
  refine Finset.mem_sdiff.mpr ⟨among, fun lies => ?_⟩
  rw [colluding, if_pos lies] at voted
  exact apart (Option.some.inj voted).symm

/-- Nothing is elected but the truth, however the liars vote, exactly if they miss the threshold. -/
theorem safe_iff (inside : liars ⊆ voters) {lie : Choice}
    (false_lie : lie ≠ truth) :
    (∀ vote, Truthful voters liars truth vote → ∀ choice, Elected voters threshold vote choice →
        choice = truth) ↔
      liars.card < threshold := by
  constructor
  · -- Enough liars elect what they agree on, while the others say nothing.
    intro safe
    by_contra many
    have behind : backers voters (colluding liars lie none) lie = liars :=
      backers_colluding inside (by simp)
    refine false_lie (safe (colluding liars lie none) ?_ lie ⟨by rw [behind]; omega, ?_⟩)
    · -- Who says nothing does not lie.
      intro voter _ honest choice voted
      rw [colluding, if_neg honest] at voted
      cases voted
    · -- Nothing else has any backers.
      intro other
      rw [behind]
      refine Finset.card_le_card fun voter backs => ?_
      by_contra honest
      simp [colluding, honest] at backs
  · -- Whatever is elected has more backers than there are liars.
    intro few vote truthful choice elected
    exact truthful.eq_truth (few.trans_le elected.enough)

/-- The truth is elected alone, however the liars vote, exactly if the honest are enough. -/
theorem live_iff (inside : liars ⊆ voters) {lie : Choice}
    (false_lie : lie ≠ truth) :
    (∀ vote, Outspoken voters liars truth vote → Elected voters threshold vote truth ∧
        ∀ choice, Elected voters threshold vote choice → choice = truth) ↔
      threshold ≤ (voters \ liars).card ∧ liars.card < (voters \ liars).card := by
  constructor
  · -- The honest have to be enough by themselves, and the liars may agree on another choice.
    intro live
    have outspoken : Outspoken voters liars truth (colluding liars lie (some truth)) :=
      fun voter _ honest => if_neg honest
    have others : backers voters (colluding liars lie (some truth)) truth ⊆ voters \ liars :=
      backers_colluding_subset (Ne.symm false_lie)
    obtain ⟨⟨enough, _⟩, alone⟩ := live _ outspoken
    have honest := Finset.card_le_card others
    refine ⟨enough.trans honest, ?_⟩
    by_contra many
    have behind : backers voters (colluding liars lie (some truth)) lie = liars :=
      backers_colluding inside (by simpa using Ne.symm false_lie)
    refine false_lie (alone lie ⟨by rw [behind]; omega, ?_⟩)
    -- The others are behind the truth, and no more than the liars.
    intro other
    by_cases same : other = lie
    · rw [same]
    · have subset : backers voters (colluding liars lie (some truth)) other ⊆ voters \ liars :=
        backers_colluding_subset same
      have few := Finset.card_le_card subset
      rw [behind]
      omega
  · -- Only liars back anything else, and the honest are more.
    intro ⟨enough, more⟩ vote outspoken
    have honest := outspoken.honest_le
    refine ⟨⟨enough.trans honest, ?_⟩, ?_⟩
    · intro other
      by_cases same : other = truth
      · rw [same]
      · have few := Finset.card_le_card (outspoken.truthful.backers_subset same)
        omega
    · intro choice elected
      exact outspoken.truthful.eq_truth (by have most := elected.most truth; omega)

end IpDiscovery.Quorum
