import IpDiscovery.Base.Text

/-! Laws of trimming and of line splitting, for texts that are put together from known pieces. -/

namespace IpDiscovery

/-! ## Trimming -/

/-- Trimming takes the whitespace from both sides of a text, and nothing else. -/
theorem trim_padded {front text back : List Char}
    (before : ∀ char ∈ front, isWhitespace char = true)
    (solid : ∀ char ∈ text, isWhitespace char = false)
    (after : ∀ char ∈ back, isWhitespace char = true) :
    trim (String.ofList (front ++ text ++ back)) = String.ofList text := by
  rw [trim, String.toList_ofList, List.append_assoc, List.dropWhile_append_of_pos before]
  congr 1
  cases text with
  | nil =>
    -- Nothing but whitespace is left.
    have empty : back.dropWhile isWhitespace = [] := List.dropWhile_eq_nil_iff.mpr after
    simp [empty]
  | cons first text =>
    have start : (first :: text ++ back).dropWhile isWhitespace = first :: text ++ back := by
      rw [List.cons_append]
      exact List.dropWhile_cons_of_neg (by simp [solid first List.mem_cons_self])
    -- From the end, the whitespace comes first, and then the last character that stays.
    have stop : (first :: text).reverse.dropWhile isWhitespace = (first :: text).reverse := by
      cases reversed : (first :: text).reverse with
      | nil => rfl
      | cons last others =>
        have member : last ∈ (first :: text).reverse := by simp [reversed]
        exact List.dropWhile_cons_of_neg (by simp [solid last (List.mem_reverse.mp member)])
    rw [start, List.reverse_append, List.dropWhile_append_of_pos fun char member =>
      after char (List.mem_reverse.mp member), stop, List.reverse_reverse]

/-- Trimming leaves the part of a text between whitespace. -/
theorem trim_split (text : String) : ∃ front back, (∀ char ∈ front, isWhitespace char = true) ∧
    (∀ char ∈ back, isWhitespace char = true) ∧
    text = String.ofList (front ++ (trim text).toList ++ back) := by
  -- Trimming takes the whitespace off the front first, and then off the back of the rest.
  let rest := text.toList.dropWhile isWhitespace
  refine ⟨text.toList.takeWhile isWhitespace, (rest.reverse.takeWhile isWhitespace).reverse,
    fun char => List.mem_takeWhile_imp, ?_, ?_⟩
  · intro char member
    exact List.mem_takeWhile_imp (List.mem_reverse.mp member)
  · rw [trim, String.toList_ofList, List.append_assoc, ← List.reverse_append,
      List.takeWhile_append_dropWhile, List.reverse_reverse, List.takeWhile_append_dropWhile,
      String.ofList_toList]

/-! ## Lines -/

/-- A text that goes on behind a line feed has a first line in front of it. -/
theorem lines_cons {line : List Char} (unbroken : '\n' ∉ line) (rest : List Char) :
    lines (String.ofList (line ++ '\n' :: rest)) =
      String.ofList (stripCarriageReturn line) :: lines (String.ofList rest) := by
  have split : (line ++ '\n' :: rest).splitOnP (· == '\n') =
      line :: rest.splitOnP (· == '\n') :=
    List.splitOnP_append_cons_of_forall_mem (by grind) _ (by simp) _
  -- The last piece of the text is the last piece of the rest.
  obtain ⟨piece, pieces, pieced⟩ :=
    List.exists_cons_of_ne_nil (List.splitOnP_ne_nil (· == '\n') rest)
  simp only [lines, String.toList_ofList, split, pieced]
  simp [List.getLast?_cons_cons]

/-- What stands behind the last line feed is the last line. -/
theorem lines_last {line : List Char} (unbroken : '\n' ∉ line) (nonempty : line ≠ []) :
    lines (String.ofList line) = [String.ofList line] := by
  have split : line.splitOnP (· == '\n') = [line] :=
    List.splitOnP_eq_singleton (by grind)
  simp [lines, split, nonempty]

/-- A line that does not end with a carriage return is kept as it is. -/
theorem stripCarriageReturn_eq {line : List Char} (plain : line.getLast? ≠ some '\r') :
    stripCarriageReturn line = line := if_neg plain

/-- A carriage return at the end of a line is cut off, and only one. -/
theorem stripCarriageReturn_append (line : List Char) :
    stripCarriageReturn (line ++ ['\r']) = line := by
  simp [stripCarriageReturn]

end IpDiscovery
