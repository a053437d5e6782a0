import IpDiscovery.Base.TextLaws

/-! Reading a value by its name, where the case and the whitespace around it do not matter. -/

namespace IpDiscovery

section Tables

variable {α : Type} {normal : Char → Char} {table : List (String × α)}

/-- A text without surrounding whitespace, and with each character replaced by its normal form. -/
def normalise (normal : Char → Char) (text : String) : String :=
  String.ofList ((trim text).toList.map normal)

/-- The value whose name a text is in its normal form, and the text itself where there is none. -/
def readName (normal : Char → Char) (table : List (String × α)) (text : String) :
    Except String α :=
  match table.find? fun entry => entry.1 = normalise normal text with
  | some entry => .ok entry.2
  | none => .error text

/-- A table that can be read: its names differ, and whitespace is not a part of any of them. -/
structure Legible (normal : Char → Char) (table : List (String × α)) : Prop where
  distinct : (table.map Prod.fst).Nodup
  solid : ∀ entry ∈ table, ∀ char ∈ entry.1.toList, isWhitespace char = false
  kept : ∀ char, isWhitespace (normal char) = isWhitespace char

/-- A text that is not the name of a value is given back as it is. -/
theorem readName_eq_error {text error : String}
    (failed : readName normal table text = .error error) : error = text := by
  unfold readName at failed
  split at failed <;> cases failed
  rfl

/-- Names are read exactly in the spellings that come down to them, with whitespace around. -/
theorem readName_eq_ok_iff (legible : Legible normal table) {text : String} {value : α} :
    readName normal table text = .ok value ↔
      ∃ front written back, (∀ char ∈ front, isWhitespace char = true) ∧
        (∀ char ∈ back, isWhitespace char = true) ∧
        text = String.ofList (front ++ written ++ back) ∧
        (String.ofList (written.map normal), value) ∈ table := by
  constructor
  · intro read
    obtain ⟨front, back, before, after, split⟩ := trim_split text
    refine ⟨front, (trim text).toList, back, before, after, split, ?_⟩
    unfold readName at read
    split at read
    · rename_i entry found
      cases read
      have same := List.find?_some found
      rw [decide_eq_true_iff] at same
      rw [show String.ofList ((trim text).toList.map normal) = entry.1 from same.symm]
      exact List.mem_of_find?_eq_some found
    · cases read
  · intro ⟨front, written, back, before, after, split, listed⟩
    -- What is written holds no whitespace, since its normal form does not.
    have solid : ∀ char ∈ written, isWhitespace char = false := by
      intro char member
      rw [← legible.kept]
      exact legible.solid _ listed _ (by simpa using ⟨char, member, rfl⟩)
    have normalised : normalise normal text = String.ofList (written.map normal) := by
      rw [normalise, split, trim_padded before solid after, String.toList_ofList]
    unfold readName
    cases found : table.find? fun entry => entry.1 = normalise normal text with
    | none =>
      have absent := List.find?_eq_none.mp found _ listed
      simp [normalised] at absent
    | some entry =>
      have same := List.find?_some found
      rw [decide_eq_true_iff, normalised] at same
      have entries := List.inj_on_of_nodup_map legible.distinct (List.mem_of_find?_eq_some found)
        listed same
      rw [entries]

end Tables

end IpDiscovery
