import IpDiscovery.AddrText

/-! The text of an address reads back as the address, and holds only digits, dots and colons. -/

namespace IpDiscovery

/-! ## Numbers -/

/-- Every digit that is written is read as its value. -/
theorem toDigit_digitChar {radix digit : Nat} (small : radix ≤ 16) (inside : digit < radix) :
    toDigit radix (Nat.digitChar digit) = some digit := by
  -- Sixteen characters, each compared against the three ranges.
  have bounded : digit < 16 := by omega
  interval_cases digit <;> simp [toDigit, Nat.digitChar] <;> omega

/-- The digit that is written for a value is a digit of the radix. -/
theorem isDigitOf_digitChar {radix digit : Nat} (small : radix ≤ 16) (inside : digit < radix) :
    isDigitOf radix (Nat.digitChar digit) = true := by
  simp [isDigitOf, toDigit_digitChar small inside]

/-- A number is written as the number without its last digit, and then that digit. -/
theorem writeNumber_eq {radix : Nat} (wide : 1 < radix) (value : Nat) :
    writeNumber radix value =
      if value < radix then [Nat.digitChar value]
      else writeNumber radix (value / radix) ++ [Nat.digitChar (value % radix)] :=
  Nat.toDigits_eq_if wide

section Number

variable {radix : Nat} (wide : 1 < radix) (small : radix ≤ 16)
include wide small

/-- Only digits are written. -/
theorem writeNumber_digits (value : Nat) :
    ∀ char ∈ writeNumber radix value, isDigitOf radix char = true := by
  -- The induction drops the last digit.
  induction value using Nat.strongRecOn with
  | ind value ih =>
    intro char member
    rw [writeNumber_eq wide] at member
    split at member
    · rename_i last
      rw [List.mem_singleton.mp member]
      exact isDigitOf_digitChar small last
    · rename_i more
      rcases List.mem_append.mp member with earlier | final
      · exact ih _ (Nat.div_lt_self (by omega) wide) char earlier
      · rw [List.mem_singleton.mp final]
        exact isDigitOf_digitChar small (Nat.mod_lt _ (by omega))

/-- The digits spell the number they were written from. -/
theorem digitsValue_writeNumber (value : Nat) :
    digitsValue radix (writeNumber radix value) = value := by
  -- Reading one more digit undoes the division that split it off.
  induction value using Nat.strongRecOn with
  | ind value ih =>
    rw [writeNumber_eq wide]
    split
    · rename_i last
      simp [digitsValue, toDigit_digitChar small last]
    · rename_i more
      have front := ih _ (Nat.div_lt_self (by omega) wide)
      have back := toDigit_digitChar small (Nat.mod_lt value (show radix > 0 by omega))
      simp only [digitsValue, List.foldl_append, List.foldl_cons, List.foldl_nil, back,
        Option.getD_some] at front ⊢
      rw [front]
      exact Nat.div_add_mod' value radix

/-- A written number opens with a zero only if it is zero. -/
theorem writeNumber_head (value : Nat) (positive : 0 < value) :
    (writeNumber radix value).head? ≠ some '0' := by
  -- The first digit is the last quotient, which the induction keeps positive.
  induction value using Nat.strongRecOn with
  | ind value ih =>
    rw [writeNumber_eq wide]
    split
    · rename_i last
      simp
      omega
    · rename_i more
      have front := ih _ (Nat.div_lt_self (by omega) wide) (Nat.div_pos (by omega) (by omega))
      rw [List.head?_append]
      cases opened : (writeNumber radix (value / radix)).head? with
      | none => exact absurd (List.head?_eq_none_iff.mp opened) Nat.toDigits_ne_nil
      | some char => simpa [opened] using front

/-- A written number is read back from in front of anything that does not go on with a digit. -/
theorem readNumber_writeNumber {value maxDigits bound : Nat} {allowZeroPrefix : Bool}
    {rest : List Char} (some_digits : 0 < maxDigits) (short : value < radix ^ maxDigits)
    (inside : value < bound) (ends : ∀ char ∈ rest.head?, isDigitOf radix char = false) :
    readNumber radix maxDigits bound allowZeroPrefix (writeNumber radix value ++ rest) =
      some (value, rest) := by
  have digits := writeNumber_digits wide small value
  have stops : rest.takeWhile (isDigitOf radix) = [] ∧ rest.dropWhile (isDigitOf radix) = rest := by
    cases rest with
    | nil => simp
    | cons char rest => simpa using ends char rfl
  have taken : (writeNumber radix value ++ rest).takeWhile (isDigitOf radix) =
      writeNumber radix value := by
    rw [List.takeWhile_append_of_pos digits, stops.1, List.append_nil]
  have left : (writeNumber radix value ++ rest).dropWhile (isDigitOf radix) = rest := by
    rw [List.dropWhile_append_of_pos digits, stops.2]
  have count : (writeNumber radix value).length ≤ maxDigits :=
    (Nat.length_toDigits_le_iff wide some_digits).mpr short
  have nonempty : (writeNumber radix value).length ≠ 0 := by
    exact fun empty => Nat.toDigits_ne_nil (List.length_eq_zero_iff.mp empty)
  have unprefixed : ¬ (allowZeroPrefix = false ∧ (writeNumber radix value).head? = some '0' ∧
      (writeNumber radix value).length > 1) := by
    -- Only zero opens with a zero, and zero is a single digit.
    intro refused
    rcases Nat.eq_zero_or_pos value with zero | positive
    · subst zero
      simp [writeNumber] at refused
    · exact writeNumber_head wide small value positive refused.2.1
  simp only [readNumber, taken, left, if_neg (show ¬ (writeNumber radix value).length > maxDigits by
    omega), if_neg nonempty, if_neg unprefixed, digitsValue_writeNumber wide small, if_pos inside]

end Number

/-- What follows a number that was read is what followed its digits. -/
theorem readNumber_rest {radix maxDigits bound value : Nat} {allowZeroPrefix : Bool}
    {input rest : List Char}
    (read : readNumber radix maxDigits bound allowZeroPrefix input = some (value, rest)) :
    rest = input.dropWhile (isDigitOf radix) := by
  -- The one success returns exactly that suffix.
  simp only [readNumber] at read
  split at read
  · cases read
  · split at read
    · cases read
    · split at read
      · cases read
      · split at read
        · cases read; rfl
        · cases read

/-- No number is read where no digit stands. -/
theorem readNumber_none {radix maxDigits bound : Nat} {allowZeroPrefix : Bool}
    {input : List Char} (ends : ∀ char ∈ input.head?, isDigitOf radix char = false) :
    readNumber radix maxDigits bound allowZeroPrefix input = none := by
  have empty : input.takeWhile (isDigitOf radix) = [] := by
    cases input with
    | nil => rfl
    | cons char rest => simpa using ends char rfl
  simp [readNumber, empty]

/-! ## Dotted addresses -/

/-- An octet that is written in decimal is read back, where no other digit follows it. -/
theorem readOctet_writeNumber {byte : UInt8} {rest : List Char}
    (ends : ∀ char ∈ rest.head?, isDigitOf 10 char = false) :
    readOctet (writeNumber 10 byte.toNat ++ rest) = some (byte, rest) := by
  have inside := byte.toNat_lt
  rw [readOctet, readNumber_writeNumber (by omega) (by omega) (by omega) (by omega) inside ends]
  simp

/-- A dotted address is read back from in front of anything that does not go on with a digit. -/
theorem readIpv4_writeIpv4 {a b c d : UInt8} {rest : List Char}
    (ends : ∀ char ∈ rest.head?, isDigitOf 10 char = false) :
    readIpv4 (writeIpv4 a b c d ++ rest) = some (⟨[a, b, c, d], rfl⟩, rest) := by
  -- A dot ends each of the first three numbers.
  have dot (more : List Char) : ∀ char ∈ ('.' :: more).head?, isDigitOf 10 char = false := by
    simp [isDigitOf, toDigit]
  simp only [readIpv4, readSeparator, readGivenChar, writeIpv4, List.append_assoc,
    List.cons_append, Nat.lt_irrefl, if_false, if_true, Option.bind_eq_bind, Option.bind_some,
    readOctet_writeNumber (dot _), readOctet_writeNumber ends, gt_iff_lt, Nat.zero_lt_succ]
  rfl

/-- A dotted address has a dot behind its first digits. -/
theorem readIpv4_none {input : List Char}
    (undotted : (input.dropWhile (isDigitOf 10)).head? ≠ some '.') : readIpv4 input = none := by
  -- Either no first number is read, or the separator behind it is missing.
  simp only [readIpv4, readSeparator, gt_iff_lt, Nat.lt_irrefl, if_false, Option.bind_eq_bind]
  cases read : readOctet input with
  | none => rfl
  | some first =>
    rcases first with ⟨byte, rest⟩
    rcases Option.map_eq_some_iff.mp read with ⟨⟨value, after⟩, number, same⟩
    have suffix := readNumber_rest number
    cases same
    rw [← suffix] at undotted
    cases rest with
    | nil => rfl
    | cons char rest =>
      have other : char ≠ '.' := by simpa using undotted
      simp [readGivenChar, other]

/-! ## Groups -/

/-- A text goes on with neither a hexadecimal digit nor a dot. -/
def EndsGroup (rest : List Char) : Prop :=
  ∀ char ∈ rest.head?, isDigitOf 16 char = false ∧ char ≠ '.'

/-- The end of the text ends a group. -/
theorem EndsGroup.nil : EndsGroup [] := by
  intro char member
  cases member

/-- A colon ends a group. -/
theorem EndsGroup.colon (rest : List Char) : EndsGroup (':' :: rest) := by
  intro char member
  cases member
  decide

/-- A decimal digit is a hexadecimal one. -/
theorem isDigitOf_ten {char : Char} (digit : isDigitOf 10 char = true) :
    isDigitOf 16 char = true := by
  -- A value below ten is below sixteen.
  simp only [isDigitOf, toDigit, Option.isSome_ite] at digit ⊢
  split_ifs at digit ⊢ <;> omega

/-- Behind the decimal digits of a group stands another digit or the end of the group. -/
theorem readIpv4_group {digits rest : List Char} (hex : ∀ char ∈ digits, isDigitOf 16 char = true)
    (ends : EndsGroup rest) : readIpv4 (digits ++ rest) = none := by
  -- The induction eats decimal digits until the first character that is none.
  apply readIpv4_none
  induction digits with
  | nil =>
    cases rest with
    | nil => simp
    | cons char rest =>
      have stop := ends char rfl
      have other : isDigitOf 10 char ≠ true := fun digit => by simp [isDigitOf_ten digit] at stop
      simpa [List.dropWhile_cons, other] using stop.2
  | cons char digits ih =>
    have more := ih fun other member => hex other (List.mem_cons_of_mem _ member)
    rw [List.cons_append, List.dropWhile_cons]
    split
    · exact more
    · -- A dot is no digit in any radix.
      have digit := hex char List.mem_cons_self
      intro dotted
      cases dotted
      revert digit
      decide

/-- Nor does what follows a group. -/
theorem readIpv4_ends {rest : List Char} (ends : EndsGroup rest) : readIpv4 rest = none :=
  @readIpv4_group [] rest (by simp) ends

/-- A group that is written in hexadecimal is read back, where nothing of it follows. -/
theorem readGroup_writeNumber {group : UInt16} {rest : List Char} (ends : EndsGroup rest) :
    readGroup (writeNumber 16 group.toNat ++ rest) = some (group, rest) := by
  have inside := group.toNat_lt
  rw [readGroup, readNumber_writeNumber (by omega) (by omega) (by omega) (by omega) inside
    (fun char member => (ends char member).1)]
  simp

/-- The text of one group is read as that group, and not as the start of an embedded address. -/
theorem readGroups_group {left index : Nat} {group : UInt16} {rest : List Char}
    (ends : EndsGroup rest) :
    readGroups (left + 1) index
        ((if index > 0 then [':'] else []) ++ writeNumber 16 group.toNat ++ rest) =
      (group :: (readGroups left (index + 1) rest).1, (readGroups left (index + 1) rest).2) := by
  have unembedded := readIpv4_group
    (writeNumber_digits (show 1 < 16 by omega) (by omega) group.toNat) ends
  have read := @readGroup_writeNumber group rest ends
  by_cases later : index > 0
  · simp [readGroups, readSeparator, readGivenChar, later, unembedded, read]
  · simp [readGroups, readSeparator, later, unembedded, read]

/-- Groups end at the end of the text, at a double colon, and where no slot is left. -/
theorem readGroups_stop {left index : Nat} {rest : List Char}
    (ends : rest = [] ∨ ∃ more, rest = ':' :: ':' :: more) :
    readGroups left index rest = ([], false, rest) := by
  -- No number opens with a colon, and nothing opens the empty text.
  have none16 (more : List Char) : readGroup (':' :: more) = none := by
    rw [readGroup, readNumber_none (by simp [isDigitOf, toDigit])]
    rfl
  have none10 (more : List Char) : readIpv4 (':' :: more) = none :=
    readIpv4_ends (.colon more)
  have empty16 : readGroup [] = none := by decide
  have empty10 : readIpv4 [] = none := by decide
  cases left with
  | zero => rfl
  | succ left =>
    rcases ends with rfl | ⟨more, rfl⟩
    · by_cases later : index > 0 <;>
        simp [readGroups, readSeparator, readGivenChar, later, empty16, empty10]
    · by_cases later : index > 0 <;>
        simp [readGroups, readSeparator, readGivenChar, later, none16, none10]

/-- What follows the text of a list of groups ends its last group. -/
theorem EndsGroup.tail {rest : List Char} (tail : List UInt16) (ends : EndsGroup rest) :
    EndsGroup (tail.flatMap (fun segment => ':' :: writeNumber 16 segment.toNat) ++ rest) := by
  cases tail with
  | nil => simpa using ends
  | cons segment tail => simpa using EndsGroup.colon _

/-- The ends of a part of an address: the end of the text, or a double colon. -/
def EndsPart (rest : List Char) : Prop := rest = [] ∨ ∃ more, rest = ':' :: ':' :: more

/-- What ends a part of an address ends its last group too. -/
theorem EndsPart.endsGroup {rest : List Char} (ends : EndsPart rest) : EndsGroup rest := by
  rcases ends with rfl | ⟨more, rfl⟩
  · exact .nil
  · exact .colon _

/-- The groups behind the first are read back where enough slots are left. -/
theorem readGroups_tail {rest : List Char} (ends : EndsPart rest) (tail : List UInt16) :
    ∀ {left index : Nat}, tail.length ≤ left → 0 < index →
      readGroups left index
          (tail.flatMap (fun segment => ':' :: writeNumber 16 segment.toNat) ++ rest) =
        (tail, false, rest) := by
  -- The induction reads one colon and one group at a time.
  induction tail with
  | nil =>
    intro left index _ _
    exact readGroups_stop ends
  | cons segment tail ih =>
    intro left index slots later
    cases left with
    | zero => simp at slots
    | succ left =>
      have fewer : tail.length ≤ left := by simpa using slots
      have read := @readGroups_group left index segment _ (ends.endsGroup.tail tail)
      simp only [if_pos later, List.cons_append, List.nil_append] at read
      simp [read, ih fewer (Nat.succ_pos index)]

/-- A part of an address is read back where enough slots are left. -/
theorem readGroups_writeGroups {groups : List UInt16} {rest : List Char} {left : Nat}
    (ends : EndsPart rest) (slots : groups.length ≤ left) :
    readGroups left 0 (writeGroups groups ++ rest) = (groups, false, rest) := by
  cases groups with
  | nil => exact readGroups_stop ends
  | cons first tail =>
    cases left with
    | zero => simp at slots
    | succ left =>
      have fewer : tail.length ≤ left := by simpa using slots
      -- The first group is read without a colon, and all others behind one.
      have read := @readGroups_group left 0 first _ (ends.endsGroup.tail tail)
      simp only [Nat.lt_irrefl, if_false, List.nil_append] at read
      simp [writeGroups, read, readGroups_tail ends tail fewer (Nat.succ_pos 0)]

/-- Groups do not look like a dotted address. -/
theorem readIpv4_writeGroups {groups : List UInt16} {rest : List Char} (ends : EndsPart rest) :
    readIpv4 (writeGroups groups ++ rest) = none := by
  cases groups with
  | nil => exact readIpv4_ends ends.endsGroup
  | cons first tail =>
    rw [writeGroups, List.append_assoc]
    exact readIpv4_group (writeNumber_digits (by omega) (by omega) _) (ends.endsGroup.tail tail)

/-! ## Runs of zeros -/

/-- Every group of a span is zero. -/
def ZeroRun (groups : List UInt16) (span : Span) : Prop :=
  ∀ position, span.start ≤ position → position < span.start + span.length →
    groups[position]? = some 0

/-- The span that is chosen is a run of zeros. -/
theorem longestZeroes_zeroRun {groups : List UInt16} (rest : List UInt16) :
    ∀ {index : Nat} {longest current : Span}, groups.drop index = rest →
      ZeroRun groups longest → ZeroRun groups current →
      (current.length ≠ 0 → current.start + current.length = index) →
        ZeroRun groups (longestZeroes rest index longest current) := by
  -- Both spans stay runs, and the current one ends where the fold has arrived.
  induction rest with
  | nil =>
    intro index longest current _ found _ _
    exact found
  | cons segment rest ih =>
    intro index longest current suffix found running arrives
    have here : groups[index]? = some segment := by
      have read := congrArg (fun list => list[0]?) suffix
      simpa using read
    have after : groups.drop (index + 1) = rest := by
      rw [← List.drop_drop, suffix]
      rfl
    rw [longestZeroes]
    split
    · rename_i zero
      subst zero
      have ended : (if current.length = 0 then index else current.start) +
          (current.length + 1) = index + 1 := by
        split
        · omega
        · rename_i opened
          have reached := arrives opened
          omega
      have extended : ZeroRun groups
          ⟨if current.length = 0 then index else current.start, current.length + 1⟩ := by
        intro position above below
        dsimp only at above below
        rcases Nat.lt_or_ge position index with earlier | arrived
        · -- Positions before this one belong to the run that was already open.
          by_cases fresh : current.length = 0
          · simp only [fresh, if_true] at above
            omega
          · have reached := arrives fresh
            simp only [fresh, if_false] at above
            exact running position above (by omega)
        · rwa [show position = index by omega]
      dsimp only
      refine ih after ?_ extended fun _ => ended
      by_cases longer : current.length + 1 > longest.length
      · rw [if_pos longer]
        exact extended
      · rw [if_neg longer]
        exact found
    · refine ih after found ?_ ?_
      · intro position above below
        simp at below
      · intro nonzero
        exact absurd rfl nonzero

/-- A list with a run of zeros is what stands before it, the zeros, and what stands behind. -/
theorem ZeroRun.split {groups : List UInt16} {span : Span} (run : ZeroRun groups span)
    (nonempty : 0 < span.length) :
    span.start + span.length ≤ groups.length ∧
      groups = groups.take span.start ++ List.replicate span.length 0 ++
        groups.drop (span.start + span.length) := by
  -- The last zero of the run is inside the groups, and so the whole run fits.
  have last := run (span.start + span.length - 1) (by omega) (by omega)
  have inside := (List.getElem?_eq_some_iff.mp last).1
  have fits : span.start + span.length ≤ groups.length := by omega
  refine ⟨fits, ?_⟩
  have zeros : (groups.drop span.start).take span.length = List.replicate span.length 0 := by
    apply List.ext_getElem?
    intro position
    rw [List.getElem?_take, List.getElem?_drop, List.getElem?_replicate]
    split
    · rename_i below
      exact run _ (by omega) (by omega)
    · rfl
  rw [← zeros, List.append_assoc, ← List.drop_drop, List.take_append_drop, List.take_append_drop]

/-! ## IPv6 addresses -/

/-- An even number of bytes is spelled by half as many groups. -/
theorem segmentBytes_segments (data : Bytes) :
    ∀ count, data.length = 2 * count →
      segmentBytes (segments data) = data ∧ (segments data).length = count := by
  -- The induction takes two bytes at a time.
  induction data using segments.induct with
  | case1 high low rest ih =>
    intro count sized
    rw [List.length_cons, List.length_cons] at sized
    obtain ⟨same, length⟩ := ih (count - 1) (by omega)
    constructor
    · simp only [segments, segmentBytes, List.flatMap_cons, u16ToBeBytes_fromBeBytes] at same ⊢
      rw [same]
      rfl
    · rw [segments, List.length_cons, length]
      omega
  | case2 data short =>
    intro count sized
    cases data with
    | nil => exact ⟨rfl, by simp at sized; simp [segments, sized]⟩
    | cons byte rest =>
      cases rest with
      | nil => simp at sized; omega
      | cons next rest => exact absurd rfl (short byte next rest)

/-- A mapped address is twelve fixed bytes before the four of the IPv4 address. -/
theorem toIpv4Mapped_eq_some {octets inner : Bytes} (mapped : toIpv4Mapped octets = some inner) :
    octets = List.replicate 10 0 ++ [0xFF, 0xFF] ++ inner := by
  unfold toIpv4Mapped at mapped
  split at mapped
  · rename_i opened
    cases mapped
    rw [← opened, List.take_append_drop]
  · cases mapped

/-- The text of a mapped address is read back as its groups. -/
theorem readIpv6_mapped (a b c d : UInt8) :
    readIpv6 ("::ffff:".toList ++ writeIpv4 a b c d) =
      some (segments (List.replicate 10 0 ++ [0xFF, 0xFF] ++ [a, b, c, d]), []) := by
  -- Nothing stands before the double colon, and one group and the dotted address behind it.
  have front : readGroups 8 0 (':' :: ':' :: ("ffff:".toList ++ writeIpv4 a b c d)) =
      ([], false, ':' :: ':' :: ("ffff:".toList ++ writeIpv4 a b c d)) :=
    readGroups_stop (Or.inr ⟨_, rfl⟩)
  have dotted := @readIpv4_writeIpv4 a b c d [] (by simp)
  have inner : readGroups 6 1 (':' :: writeIpv4 a b c d) = (segments [a, b, c, d], true, []) := by
    rw [List.append_nil] at dotted
    simp [readGroups, readSeparator, readGivenChar, dotted]
  have back : readGroups 7 0 ("ffff:".toList ++ writeIpv4 a b c d) =
      (0xFFFF :: segments [a, b, c, d], true, []) := by
    have read := @readGroups_group 6 0 0xFFFF _ (EndsGroup.colon (writeIpv4 a b c d))
    have spelled : writeNumber 16 (0xFFFF : UInt16).toNat = ['f', 'f', 'f', 'f'] := by decide
    rw [spelled, inner] at read
    exact read
  rw [show "::ffff:".toList ++ writeIpv4 a b c d =
    ':' :: ':' :: ("ffff:".toList ++ writeIpv4 a b c d) from rfl]
  simp only [readIpv6, front, List.length_nil, if_neg (show ¬ 0 = 8 by omega), readGivenChar,
    if_true, Option.bind_eq_bind, Option.bind_some, show 8 - (0 + 1) = 7 from rfl, back]
  rfl

/-- Groups with their zeros cut out are read back with the zeros put in again. -/
theorem readIpv6_cut {front back : List UInt16} {zeros : Nat} (cut : 1 < zeros)
    (eight : front.length + zeros + back.length = 8) :
    readIpv6 (writeGroups front ++ "::".toList ++ writeGroups back) =
      some (front ++ List.replicate zeros 0 ++ back, []) := by
  -- The first part stops at the two colons, and the second at the end of the text.
  have before := @readGroups_writeGroups front (':' :: ':' :: writeGroups back) 8
    (Or.inr ⟨_, rfl⟩) (by omega)
  have after := @readGroups_writeGroups back [] (8 - (front.length + 1)) (Or.inl rfl) (by omega)
  rw [List.append_nil] at after
  have spelled : writeGroups front ++ "::".toList ++ writeGroups back =
      writeGroups front ++ ':' :: ':' :: writeGroups back := by
    simp
  rw [spelled]
  simp only [readIpv6, before, if_neg (show ¬ front.length = 8 by omega), readGivenChar, if_true,
    Option.bind_eq_bind, Option.bind_some, after,
    show 8 - back.length - front.length = zeros by omega]
  rfl

/-- Eight groups that are written out are read back. -/
theorem readIpv6_whole {groups : List UInt16} (eight : groups.length = 8) :
    readIpv6 (writeGroups groups) = some (groups, []) := by
  have read := @readGroups_writeGroups groups [] 8 (Or.inl rfl) (by omega)
  rw [List.append_nil] at read
  simp [readIpv6, read, eight]

/-- The text of an IPv6 address is read back as its groups, and never as a dotted address. -/
theorem readIpv6_writeIpv6 (address : Octets 16) :
    readIpv4 (writeIpv6 address.bytes) = none ∧
      readIpv6 (writeIpv6 address.bytes) = some (segments address.bytes, []) := by
  have eight := (segmentBytes_segments address.bytes 8 address.sized).2
  unfold writeIpv6
  split
  · -- The address is written in one of three ways, and each is read back in its own.
    rename_i a b c d mapped
    rw [toIpv4Mapped_eq_some mapped]
    exact ⟨readIpv4_ends (.colon _), readIpv6_mapped a b c d⟩
  · dsimp only
    split
    · rename_i long
      have start : ZeroRun (segments address.bytes) ⟨0, 0⟩ := by
        intro position _ below
        simp at below
      have run := @longestZeroes_zeroRun (segments address.bytes) (segments address.bytes) 0 ⟨0, 0⟩
        ⟨0, 0⟩ rfl start start (fun nonzero => absurd rfl nonzero)
      obtain ⟨fits, parts⟩ := run.split (by omega)
      constructor
      · rw [List.append_assoc]
        exact readIpv4_writeGroups (Or.inr ⟨_, rfl⟩)
      · rw [readIpv6_cut long (by simp; omega), ← parts]
    · refine ⟨?_, readIpv6_whole eight⟩
      have read := @readIpv4_writeGroups (segments address.bytes) [] (Or.inl rfl)
      rwa [List.append_nil] at read

/-- The text of an address reads back as that address. -/
theorem IpAddr.fromStr_display (ip : IpAddr) : IpAddr.fromStr ip.display = some ip := by
  -- The dotted form is tried first, and only an IPv4 address has one.
  rw [IpAddr.fromStr, IpAddr.display, String.toList_ofList]
  match ip with
  | .v4 ⟨[a, b, c, d], _⟩ =>
    have read := @readIpv4_writeIpv4 a b c d [] (by simp)
    rw [List.append_nil] at read
    simp [IpAddr.write, readIpAddr, read]
  | .v6 address =>
    have read := readIpv6_writeIpv6 address
    have same := (segmentBytes_segments address.bytes 8 address.sized).1
    simp [IpAddr.write, readIpAddr, read.1, read.2, same, Octets.ofBytes?_sized address.sized]

/-! ## Characters -/

/-- The characters an address is written with. -/
def IsAddrChar (char : Char) : Prop := isDigitOf 16 char = true ∨ char = '.' ∨ char = ':'

/-- Numbers are written in characters of an address. -/
theorem writeNumber_addrChar {radix value : Nat} (wide : 1 < radix)
    (small : radix = 10 ∨ radix = 16) :
    ∀ char ∈ writeNumber radix value, IsAddrChar char := by
  intro char member
  rcases small with rfl | rfl
  · exact Or.inl (isDigitOf_ten (writeNumber_digits wide (by omega) value char member))
  · exact Or.inl (writeNumber_digits wide (by omega) value char member)

/-- Dotted octets are written in characters of an address. -/
theorem writeIpv4_addrChar (a b c d : UInt8) : ∀ char ∈ writeIpv4 a b c d, IsAddrChar char := by
  intro char member
  -- An address is four numbers with three dots between them.
  have decimal (value : Nat) := @writeNumber_addrChar 10 value (by omega) (Or.inl rfl) char
  simp only [writeIpv4, List.mem_append, List.mem_cons] at member
  rcases member with ((first | dot | second) | dot | third) | dot | fourth
  · exact decimal _ first
  · exact Or.inr (Or.inl dot)
  · exact decimal _ second
  · exact Or.inr (Or.inl dot)
  · exact decimal _ third
  · exact Or.inr (Or.inl dot)
  · exact decimal _ fourth

/-- Groups with colons between them are written in characters of an address. -/
theorem writeGroups_addrChar (groups : List UInt16) :
    ∀ char ∈ writeGroups groups, IsAddrChar char := by
  intro char member
  -- Every group is a hexadecimal number, and all but the first follow a colon.
  have hex (value : Nat) := @writeNumber_addrChar 16 value (by omega) (Or.inr rfl) char
  cases groups with
  | nil => cases member
  | cons first tail =>
    simp only [writeGroups, List.mem_append, List.mem_flatMap, List.mem_cons] at member
    rcases member with front | ⟨segment, _, colon | digit⟩
    · exact hex _ front
    · exact Or.inr (Or.inr colon)
    · exact hex _ digit

/-- An address is written with digits, dots and colons only. -/
theorem IpAddr.write_addrChar (ip : IpAddr) : ∀ char ∈ ip.write, IsAddrChar char := by
  intro char member
  match ip, member with
  | .v4 ⟨[a, b, c, d], _⟩, member => exact writeIpv4_addrChar a b c d char member
  | .v6 address, member =>
    -- Besides the groups only the two markers of colons are written.
    have colons {char : Char} (member : char ∈ "::ffff:".toList) : IsAddrChar char := by
      have spelled : char = ':' ∨ char = 'f' ∨ char = ':' := by simpa using member
      rcases spelled with rfl | rfl | rfl
      · exact Or.inr (Or.inr rfl)
      · exact Or.inl (by decide)
      · exact Or.inr (Or.inr rfl)
    have double {char : Char} (member : char ∈ "::".toList) : IsAddrChar char :=
      Or.inr (Or.inr (by simpa using member))
    rw [IpAddr.write, writeIpv6] at member
    split at member
    · rcases List.mem_append.mp member with marker | dotted
      · exact colons marker
      · exact writeIpv4_addrChar _ _ _ _ char dotted
    · dsimp only at member
      split at member
      · rcases List.mem_append.mp member with earlier | back
        · rcases List.mem_append.mp earlier with front | middle
          · exact writeGroups_addrChar _ char front
          · exact double middle
        · exact writeGroups_addrChar _ char back
      · exact writeGroups_addrChar _ char member

/-- No address is written as nothing. -/
theorem IpAddr.write_ne_nil (ip : IpAddr) : ip.write ≠ [] := by
  -- The empty text reads back as nothing.
  intro empty
  have read := IpAddr.fromStr_display ip
  have unread : IpAddr.fromStr (String.ofList []) = none := by decide
  rw [IpAddr.display, empty, unread] at read
  cases read

/-! ## Lengths -/

/-- Four octets take fifteen characters at most, with their dots. -/
theorem writeIpv4_length (a b c d : UInt8) : (writeIpv4 a b c d).length ≤ 15 := by
  -- A byte has three decimal digits at most.
  have short (byte : UInt8) : (writeNumber 10 byte.toNat).length ≤ 3 :=
    Nat.toDigits_length 10 byte.toNat 3 (by omega) (by have := byte.toNat_lt; omega)
  have shortA := short a
  have shortB := short b
  have shortC := short c
  have shortD := short d
  simp only [writeIpv4, List.length_append, List.length_cons]
  omega

/-- A group takes five characters at most, with the colon behind it. -/
theorem writeGroups_length (groups : List UInt16) :
    (writeGroups groups).length ≤ 5 * groups.length := by
  have short (group : UInt16) : (writeNumber 16 group.toNat).length ≤ 4 :=
    Nat.toDigits_length 16 group.toNat 4 (by omega) (by have := group.toNat_lt; omega)
  have tail (groups : List UInt16) :
      (groups.flatMap fun segment => ':' :: writeNumber 16 segment.toNat).length ≤
        5 * groups.length := by
    -- The induction adds a colon and four digits for every group.
    induction groups with
    | nil => simp
    | cons group groups ih =>
      have digits := short group
      simp only [List.flatMap_cons, List.length_append, List.length_cons]
      omega
  cases groups with
  | nil => simp [writeGroups]
  | cons first groups =>
    have digits := short first
    have others := tail groups
    simp only [writeGroups, List.length_append, List.length_cons]
    omega

/-- No address takes more than eight groups, their colons and a double colon. -/
theorem IpAddr.write_length (ip : IpAddr) : ip.write.length ≤ 42 := by
  match ip with
  | .v4 ⟨[a, b, c, d], _⟩ =>
    have short := writeIpv4_length a b c d
    rw [IpAddr.write]
    omega
  | .v6 address =>
    have eight := (segmentBytes_segments address.bytes 8 address.sized).2
    rw [IpAddr.write, writeIpv6]
    split
    · have dotted := writeIpv4_length
      simp only [List.length_append]
      exact Nat.add_le_add (by decide : _ ≤ 27) (dotted _ _ _ _)
    · dsimp only
      split
      · -- The groups before and behind the cut are eight together at most.
        have front := writeGroups_length ((segments address.bytes).take
          (longestZeroes (segments address.bytes) 0 ⟨0, 0⟩ ⟨0, 0⟩).start)
        have back := writeGroups_length ((segments address.bytes).drop
          ((longestZeroes (segments address.bytes) 0 ⟨0, 0⟩ ⟨0, 0⟩).start +
            (longestZeroes (segments address.bytes) 0 ⟨0, 0⟩ ⟨0, 0⟩).length))
        rw [List.length_take] at front
        rw [List.length_drop] at back
        have marker : "::".toList.length = 2 := rfl
        simp only [List.length_append]
        omega
      · have whole := writeGroups_length (segments address.bytes)
        omega

end IpDiscovery
