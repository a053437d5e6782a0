import IpDiscovery.Consensus

/-! Which positions support an address, where each outcome has a position of its own. -/

namespace IpDiscovery

/-- An outcome that names an address. -/
def names (ip : IpAddr) : Outcome → Bool
  | .ok result => result.ip = ip
  | .error _ => false

/-- The positions whose outcomes name an address. -/
def supporters (settled : List (Nat × Outcome)) (ip : IpAddr) : List Nat :=
  (settled.filter fun entry => names ip entry.2).map Prod.fst

/-- A position supports an address if it is settled with a result for it. -/
theorem mem_supporters {settled : List (Nat × Outcome)} {ip : IpAddr} {position : Nat} :
    position ∈ supporters settled ip ↔ ∃ result, (position, .ok result) ∈ settled ∧
      result.ip = ip := by
  -- The filter keeps the successes with this address.
  simp only [supporters, List.mem_map, List.mem_filter]
  constructor
  · intro found
    obtain ⟨⟨other, outcome⟩, ⟨member, named⟩, rfl⟩ := found
    cases outcome with
    | error e => cases named
    | ok result => exact ⟨result, member, of_decide_eq_true named⟩
  · intro found
    obtain ⟨result, member, same⟩ := found
    exact ⟨(position, .ok result), ⟨member, decide_eq_true same⟩, rfl⟩

/-- The support of an address counts its supporters. -/
theorem supporters_length (settled : List (Nat × Outcome)) (ip : IpAddr) :
    (supporters settled ip).length = support (settled.map Prod.snd) ip := by
  -- The induction settles one outcome at a time, and each counts on both sides or on neither.
  induction settled with
  | nil => rfl
  | cons entry rest ih =>
    obtain ⟨position, outcome⟩ := entry
    cases outcome with
    | error e => simpa [supporters, names, support, agreeing, successes, Except.toOption] using ih
    | ok result =>
      by_cases same : result.ip = ip
      · simpa [supporters, names, support, agreeing, successes, Except.toOption, same] using ih
      · simpa [supporters, names, support, agreeing, successes, Except.toOption, same] using ih

/-- An address has no more support than there are outcomes. -/
theorem support_le_length (settled : List (Nat × Outcome)) (ip : IpAddr) :
    support (settled.map Prod.snd) ip ≤ settled.length := by
  -- The supporters are a part of all who are settled.
  rw [← supporters_length, supporters, List.length_map]
  exact List.length_filter_le _ _

/-- Positions that name an address are counted by its support. -/
theorem card_le_support {settled : List (Nat × Outcome)} {ip : IpAddr} {positions : Finset Nat}
    (voted : ∀ position ∈ positions, ∃ result, (position, .ok result) ∈ settled ∧
      result.ip = ip) : positions.card ≤ support (settled.map Prod.snd) ip := by
  -- A set of supporters has no more members than the list of all of them.
  rw [← supporters_length, ← Finset.length_toList]
  refine (List.subperm_of_subset positions.nodup_toList ?_).length_le
  intro position member
  exact mem_supporters.mpr (voted position (Finset.mem_toList.mp member))

end IpDiscovery
