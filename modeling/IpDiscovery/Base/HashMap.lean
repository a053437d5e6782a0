import Mathlib

/-! Hash maps as lists of entries with distinct keys, and the orders they may be iterated in. -/

namespace IpDiscovery

/-- A hash map, whose entries are kept in the order they were first inserted in. -/
structure HashMap (κ ν : Type) where
  entries : List (κ × ν)
  nodup : (entries.map Prod.fst).Nodup

section Library

variable {κ ν : Type}

/-- `HashMap::new`. -/
def HashMap.empty : HashMap κ ν := ⟨[], List.nodup_nil⟩

/-- `HashMap::is_empty`. -/
def HashMap.isEmpty (map : HashMap κ ν) : Bool := map.entries.isEmpty

section Lookup

variable [DecidableEq κ]

/-- `HashMap::get`. -/
def HashMap.get? (map : HashMap κ ν) (key : κ) : Option ν :=
  (map.entries.find? fun entry => entry.1 = key).map Prod.snd

/-- The entries after the value under one key was changed, or the key was added behind them. -/
def alterEntries (key : κ) (change : Option ν → ν) : List (κ × ν) → List (κ × ν)
  | [] => [(key, change none)]
  | entry :: rest =>
    if entry.1 = key then (key, change (some entry.2)) :: rest
    else entry :: alterEntries key change rest

/-- Changing a value adds its key where it was missing, and no other. -/
theorem alterEntries_keys (key : κ) (change : Option ν → ν) (entries : List (κ × ν)) :
    (alterEntries key change entries).map Prod.fst =
      if key ∈ entries.map Prod.fst then entries.map Prod.fst
      else entries.map Prod.fst ++ [key] := by
  -- The induction follows the search for the key.
  induction entries with
  | nil => simp [alterEntries]
  | cons entry rest ih =>
    by_cases here : entry.1 = key
    · simp [alterEntries, here]
    · have elsewhere : key ≠ entry.1 := fun same => here same.symm
      simp only [alterEntries, if_neg here, List.map_cons, ih, List.mem_cons, elsewhere, false_or]
      split <;> rfl

/-- The map after the value under one key was changed. -/
def HashMap.alter (map : HashMap κ ν) (key : κ) (change : Option ν → ν) : HashMap κ ν where
  entries := alterEntries key change map.entries
  nodup := by
    -- A new key is one that was missing.
    rw [alterEntries_keys]
    split
    · exact map.nodup
    · rename_i missing
      exact List.nodup_append.mpr ⟨map.nodup, List.nodup_singleton key,
        fun left member right single same =>
          missing (List.mem_singleton.mp single ▸ same ▸ member)⟩

/-- `HashMap::insert`. -/
def HashMap.insert (map : HashMap κ ν) (key : κ) (value : ν) : HashMap κ ν :=
  map.alter key fun _ => value

/-- `entry(key).or_default().push(value)`. -/
def HashMap.push {α : Type} (map : HashMap κ (List α)) (key : κ) (value : α) :
    HashMap κ (List α) :=
  map.alter key fun values => values.getD [] ++ [value]

/-- The map `HashMap::remove` leaves behind. -/
def HashMap.erase (map : HashMap κ ν) (key : κ) : HashMap κ ν where
  entries := map.entries.filter fun entry => entry.1 ≠ key
  nodup := map.nodup.sublist (List.filter_sublist.map Prod.fst)

/-- An entry is in the map exactly when its key is looked up as its value. -/
theorem HashMap.get?_eq_some {map : HashMap κ ν} {key : κ} {value : ν} :
    map.get? key = some value ↔ (key, value) ∈ map.entries := by
  -- Distinct keys leave one entry for the search to find.
  constructor
  · -- What the search finds is an entry with the key.
    intro found
    obtain ⟨entry, hit, same⟩ := Option.map_eq_some_iff.mp found
    have member := List.mem_of_find?_eq_some hit
    have keyed : entry.1 = key := by simpa using List.find?_some hit
    rw [← keyed, ← same]
    exact member
  · -- The search finds an entry with the key, and there is only one.
    intro member
    cases hit : map.entries.find? fun entry => entry.1 = key with
    | none => simpa using List.find?_eq_none.mp hit (key, value) member
    | some entry =>
      have keyed : entry.1 = key := by simpa using List.find?_some hit
      have same := List.inj_on_of_nodup_map map.nodup (List.mem_of_find?_eq_some hit) member keyed
      simp [HashMap.get?, hit, same]

/-- The empty map holds nothing. -/
@[simp] theorem HashMap.get?_empty (key : κ) : (HashMap.empty : HashMap κ ν).get? key = none := rfl

/-- A changed value is found under its key, and every other key keeps its value. -/
theorem HashMap.get?_alter (map : HashMap κ ν) (key : κ) (change : Option ν → ν) (other : κ) :
    (map.alter key change).get? other =
      if other = key then some (change (map.get? key)) else map.get? other := by
  -- The induction follows the search for the key.
  have general (entries : List (κ × ν)) :
      ((alterEntries key change entries).find? fun entry => entry.1 = other).map Prod.snd =
        if other = key then
          some (change ((entries.find? fun entry => entry.1 = key).map Prod.snd))
        else (entries.find? fun entry => entry.1 = other).map Prod.snd := by
    induction entries with
    | nil =>
      by_cases same : other = key
      · simp [alterEntries, same]
      · simp [alterEntries, same, Ne.symm same]
    | cons entry rest ih =>
      by_cases here : entry.1 = key
      · -- The key itself is found with its new value.
        by_cases same : other = key
        · simp [alterEntries, here, same]
        · simp [alterEntries, here, same, Ne.symm same]
      · by_cases found : entry.1 = other
        · have different : other ≠ key := fun same => here (found.trans same)
          simp [alterEntries, found, different]
        · simp only [alterEntries, if_neg here, List.find?_cons, decide_eq_false found,
            decide_eq_false here, ih]
  exact general map.entries

/-- A fresh key is added behind the entries that are there. -/
theorem HashMap.insert_fresh {map : HashMap κ ν} {key : κ} (value : ν)
    (fresh : key ∉ map.entries.map Prod.fst) :
    (map.insert key value).entries = map.entries ++ [(key, value)] := by
  -- The search runs past all entries.
  have general (entries : List (κ × ν)) (missing : key ∉ entries.map Prod.fst) :
      alterEntries key (fun _ => value) entries = entries ++ [(key, value)] := by
    induction entries with
    | nil => rfl
    | cons entry rest ih =>
      simp only [List.map_cons, List.mem_cons, not_or] at missing
      simp [alterEntries, Ne.symm missing.1, ih missing.2]
  exact general map.entries fresh

/-- Removing a key that was just added restores the entries. -/
theorem HashMap.erase_insert_fresh {map : HashMap κ ν} {key : κ} (value : ν)
    (fresh : key ∉ map.entries.map Prod.fst) :
    ((map.insert key value).erase key).entries = map.entries := by
  -- The filter drops the new entry only.
  have others : map.entries.filter (fun entry => decide (entry.1 ≠ key)) = map.entries := by
    rw [List.filter_eq_self]
    intro entry member
    have different : entry.1 ≠ key := fun same =>
      fresh (same ▸ List.mem_map.mpr ⟨entry, member, rfl⟩)
    simpa using different
  simp only [HashMap.erase, HashMap.insert_fresh value fresh, List.filter_append, others]
  simp

end Lookup

/-! ## Iteration -/

/-- A choice of iteration order: every entry of a map is visited exactly once. -/
structure HashOrder (κ ν : Type) where
  visit : HashMap κ ν → List (κ × ν)
  perm : ∀ map, (visit map).Perm map.entries

/-- The order of first insertion. -/
def HashOrder.inserted : HashOrder κ ν := ⟨HashMap.entries, fun _ => .refl _⟩

/-- An order that visits the entries with some property before the others. -/
def HashOrder.preferring (preferred : κ → Bool) : HashOrder κ ν where
  visit map :=
    map.entries.filter (fun entry => preferred entry.1) ++
      map.entries.filter (fun entry => !preferred entry.1)
  perm map := List.filter_append_perm _ map.entries

/-- An order visits what the map holds. -/
theorem HashOrder.mem_visit (order : HashOrder κ ν) {map : HashMap κ ν} {entry : κ × ν} :
    entry ∈ order.visit map ↔ entry ∈ map.entries := (order.perm map).mem_iff

/-- `HashMap::into_values`. -/
def HashOrder.values (order : HashOrder κ ν) (map : HashMap κ ν) : List ν :=
  (order.visit map).map Prod.snd

end Library

end IpDiscovery
