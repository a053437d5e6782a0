import IpDiscovery.Dns.Parse
import IpDiscovery.Dns.QueryLaws

/-! The text of a TXT record that is cut into character-strings at arbitrary bytes. -/

namespace IpDiscovery.Dns

/-- A character-string on the wire: its bytes behind the one that counts them. -/
def packString (segment : Bytes) : Bytes := UInt8.ofNat segment.length :: segment

/-- The concatenation of the character-strings that are UTF-8 by themselves. -/
def readable (segments : List Bytes) : String := String.join (segments.filterMap fromUtf8)

/-- A text is cut between its characters only. -/
def CutsBetween (text : String) (segments : List Bytes) : Prop :=
  ∀ count : Nat, ∃ front back : String,
    text = front ++ back ∧ (segments.take count).flatten = utf8 front

/-! ## Character-strings -/

/-- The text of character-strings is what is readable of them. -/
theorem txtText_packed {segments : List Bytes}
    (short : ∀ segment ∈ segments, segment.length ≤ 255) :
    txtText (segments.flatMap packString) = readable segments := by
  -- The induction takes one character-string off the front.
  induction segments with
  | nil => simp [txtText, readable]
  | cons segment segments ih =>
    rw [List.forall_mem_cons] at short
    have count : (UInt8.ofNat segment.length).toNat = segment.length := by
      rw [UInt8.toNat_ofNat']
      omega
    have opened : (segment :: segments).flatMap packString =
        UInt8.ofNat segment.length :: (segment ++ segments.flatMap packString) := by
      simp [packString]
    rw [opened, txtText, count, if_pos (by rw [List.length_append]; omega), List.take_left,
      List.drop_left, ih short.2, readable, readable, List.filterMap_cons]
    cases fromUtf8 segment with
    | none => exact String.empty_append
    | some text => exact String.join_cons.symm

/-- Character-strings that are all readable are read as the bytes they hold. -/
theorem utf8_readable {segments : List Bytes}
    (valid : ∀ segment ∈ segments, (fromUtf8 segment).isSome = true) :
    utf8 (readable segments) = segments.flatten := by
  induction segments with
  | nil => simp [readable, utf8]
  -- What is readable of the first is the whole of it, and the rest is by induction.
  | cons segment segments ih =>
    rw [List.forall_mem_cons] at valid
    obtain ⟨text, read⟩ := Option.isSome_iff_exists.mp valid.1
    rw [readable, List.filterMap_cons, read]
    dsimp only
    rw [String.join_cons, utf8_append, List.flatten_cons, ← fromUtf8_eq_some.mp read]
    exact congrArg (segment ++ ·) (ih valid.2)

/-- What is readable never has more bytes than there are, and fewer where something is not. -/
theorem readable_length (segments : List Bytes) :
    (utf8 (readable segments)).length ≤ segments.flatten.length ∧
      ((∃ segment ∈ segments, (fromUtf8 segment).isSome = false) →
        (utf8 (readable segments)).length < segments.flatten.length) := by
  induction segments with
  | nil => simp [readable, utf8]
  | cons segment segments ih =>
    rw [readable, List.filterMap_cons, List.flatten_cons, List.length_append]
    cases read : fromUtf8 segment with
    | none =>
      -- The empty character-string is readable, so at least one byte is lost here.
      have lost : 0 < segment.length := by
        rcases Nat.eq_zero_or_pos segment.length with empty | lost
        · rw [List.length_eq_zero_iff.mp empty, show ([] : Bytes) = utf8 "" from rfl,
            fromUtf8_utf8] at read
          cases read
        · exact lost
      have fewer : (utf8 (readable segments)).length ≤ segments.flatten.length := ih.1
      dsimp only
      rw [show String.join (segments.filterMap fromUtf8) = readable segments from rfl]
      exact ⟨by omega, fun _ => by omega⟩
    | some text =>
      dsimp only
      rw [String.join_cons, utf8_append, List.length_append, ← fromUtf8_eq_some.mp read,
        show String.join (segments.filterMap fromUtf8) = readable segments from rfl]
      refine ⟨by omega, ?_⟩
      rintro ⟨other, member, bad⟩
      rcases List.mem_cons.mp member with rfl | later
      · rw [read] at bad
        cases bad
      · have fewer := ih.2 ⟨other, later, bad⟩
        omega

/-- A cut text is read in full exactly where every character-string is readable. -/
theorem readable_eq_iff {text : String} {segments : List Bytes}
    (cut : segments.flatten = utf8 text) :
    readable segments = text ↔ ∀ segment ∈ segments, (fromUtf8 segment).isSome = true := by
  -- An unreadable segment would be missing, and make the text shorter.
  constructor
  · intro same segment member
    by_contra bad
    have fewer := (readable_length segments).2 ⟨segment, member, by simpa using bad⟩
    rw [same, cut] at fewer
    exact Nat.lt_irrefl _ fewer
  · intro valid
    exact utf8_injective ((utf8_readable valid).trans cut)

/-- The character-strings are all readable exactly where the text is cut between characters. -/
theorem cutsBetween_iff {text : String} {segments : List Bytes}
    (cut : segments.flatten = utf8 text) :
    CutsBetween text segments ↔ ∀ segment ∈ segments, (fromUtf8 segment).isSome = true := by
  constructor
  · intro between segment member
    obtain ⟨before, after, rfl⟩ := List.append_of_mem member
    -- The character-string lies between two cuts.
    obtain ⟨front, back, split, bytes⟩ := between before.length
    obtain ⟨front', back', split', bytes'⟩ := between (before.length + 1)
    rw [List.take_left] at bytes
    rw [List.take_length_add_append, List.take_succ_cons, List.take_zero, List.flatten_append,
      bytes] at bytes'
    simp only [List.flatten_cons, List.flatten_nil, List.append_nil] at bytes'
    have same := congrArg String.toList (split.symm.trans split')
    rw [String.toList_append, String.toList_append] at same
    rcases List.append_eq_append_iff.mp same with ⟨more, longer, _⟩ | ⟨more, longer, _⟩
    · -- The later cut is behind the earlier one, by the characters of this character-string.
      obtain rfl : front' = front ++ String.ofList more := by
        rw [← String.toList_inj, String.toList_append, String.toList_ofList, longer]
      rw [utf8_append, List.append_cancel_left_eq] at bytes'
      rw [fromUtf8_eq_some.mpr bytes']
      rfl
    · -- Both cuts are at the same place, and the character-string is empty.
      obtain rfl : front = front' ++ String.ofList more := by
        rw [← String.toList_inj, String.toList_append, String.toList_ofList, longer]
      have lengths := congrArg List.length bytes'
      rw [utf8_append, List.length_append, List.length_append] at lengths
      have empty : segment = utf8 "" := List.length_eq_zero_iff.mp (by omega)
      rw [fromUtf8_eq_some.mpr empty]
      rfl
  · intro valid count
    have front (part : List Bytes) (sub : ∀ segment ∈ part, segment ∈ segments) :
        utf8 (readable part) = part.flatten :=
      utf8_readable fun segment member => valid segment (sub segment member)
    have head := front (segments.take count) fun _ => List.mem_of_mem_take
    have tail := front (segments.drop count) fun _ => List.mem_of_mem_drop
    refine ⟨readable (segments.take count), readable (segments.drop count), ?_, head.symm⟩
    apply utf8_injective
    rw [utf8_append, head, tail, ← cut, ← List.flatten_append, List.take_append_drop]

/-! ## A response with one TXT record -/

/-- A text has one rendering, and the empty one has none. -/
theorem answer_nonEmpty_eq_ok {found text : String} (some_text : text ≠ "") :
    answer (nonEmpty found).toList = .ok [text] ↔ found = text := by
  unfold nonEmpty answer
  -- The one text is that of the record, unless it is empty.
  constructor
  · intro answered
    split at answered
    · cases answered
    · cases answered
      rfl
  · rintro rfl
    have held : found.isEmpty = false := by simpa using some_text
    rw [held]
    rfl

/-- Records of other types say nothing about the requested one. -/
theorem texts_otherType {longest : Nat} {recordType : RecordType}
    {answers : List (ResourceRecord longest)}
    (other : ∀ record ∈ answers, record.rtype ≠ recordType.toU16) :
    answers.filterMap (ResourceRecord.text recordType) = [] := by
  rw [List.filterMap_eq_nil_iff]
  intro record member
  exact if_neg (other record member)

/--
A TXT record answers with the character-strings that are UTF-8 by themselves, put together.

That is its whole text exactly where the text is cut between its characters.
-/
theorem parseResponse_segments {target : Target} {data : Slice target} {header : Header}
    {questions : List (Question maxLabel)} {front back : List (ResourceRecord maxLabel)}
    {record : ResourceRecord maxLabel} {rest : Bytes} {text : String} {segments : List Bytes}
    (message : Message header questions (front ++ record :: back) rest data.bytes)
    (clean : header.rcode = 0) (asked : header.qdcount.toNat = questions.length)
    (answered : header.ancount.toNat = (front ++ record :: back).length)
    (typed : record.rtype = RecordType.txt.toU16)
    (other : ∀ record ∈ front ++ back, record.rtype ≠ RecordType.txt.toU16)
    (packed : record.rdata = segments.flatMap packString)
    (short : ∀ segment ∈ segments, segment.length ≤ 255) (cut : segments.flatten = utf8 text)
    (some_text : text ≠ "") :
    parseResponse data .txt = answer (nonEmpty (readable segments)).toList ∧
      (parseResponse data .txt = .ok [text] ↔ CutsBetween text segments) := by
  have rendered : record.text .txt = nonEmpty (readable segments) := by
    rw [ResourceRecord.text, if_pos typed, packed, txtText_packed short]
  rw [List.forall_mem_append] at other
  -- No other record adds a text.
  have parsed : parseResponse data .txt = answer (nonEmpty (readable segments)).toList := by
    rw [parseResponse_complete maxLabel_le message .txt clean asked answered (by simp),
      List.filterMap_append, List.filterMap_cons, texts_otherType other.1,
      texts_otherType other.2, rendered]
    cases nonEmpty (readable segments) <;> rfl
  refine ⟨parsed, ?_⟩
  rw [parsed, answer_nonEmpty_eq_ok some_text, readable_eq_iff cut, cutsBetween_iff cut]

/-- One text of three bytes: cut between its characters, and once more inside the second of them. -/
theorem parseResponse_segments_cut :
    (parseResponse (txtReply [1, 0x61, 2, 0xC3, 0xA9] (by decide)) .txt = .ok ["aé"] ↔
      CutsBetween "aé" [[0x61], [0xC3, 0xA9]]) ∧
    parseResponse (txtReply [1, 0x61, 1, 0xC3, 1, 0xA9] (by decide)) .txt = .ok ["a"] := by
  have between := @parseResponse_segments .x64 (txtReply [1, 0x61, 2, 0xC3, 0xA9] (by decide))
    ⟨0x1234, 0x81, 0x80, 1, 1, 0, 0⟩ [sampleQuestion] [] []
    (sampleRecord 16 [1, 0x61, 2, 0xC3, 0xA9] (by decide)) [] "aé" [[0x61], [0xC3, 0xA9]]
    (by unfold Message; decide) (by decide) (by decide) (by decide) (by decide) (by simp)
    (by decide) (by decide) (by decide +kernel) (by decide)
  have inside := @parseResponse_segments .x64 (txtReply [1, 0x61, 1, 0xC3, 1, 0xA9] (by decide))
    ⟨0x1234, 0x81, 0x80, 1, 1, 0, 0⟩ [sampleQuestion] [] []
    (sampleRecord 16 [1, 0x61, 1, 0xC3, 1, 0xA9] (by decide)) [] "aé" [[0x61], [0xC3], [0xA9]]
    (by unfold Message; decide) (by decide) (by decide) (by decide) (by decide) (by simp)
    (by decide) (by decide) (by decide +kernel) (by decide)
  -- Of the three character-strings only the first is text by itself.
  have read : readable [[0x61], [0xC3], [0xA9]] = "a" := by decide +kernel
  rw [read] at inside
  exact ⟨between.2, inside.1⟩

/-- A character cut in its middle is not read at all. -/
theorem character_lost_at_cut :
    [[0xC3], [0xA9]].flatten = utf8 "é" ∧
    Message ⟨0x1234, 0x81, 0x80, 1, 1, 0, 0⟩ [sampleQuestion]
      [sampleRecord 16 ([[0xC3], [0xA9]].flatMap packString) (by decide)] []
      (txtReply [1, 0xC3, 1, 0xA9] (by decide)).bytes ∧
    parseResponse (txtReply [1, 0xC3, 1, 0xA9] (by decide)) .txt =
      .error (.err "no matching records found") := by
  refine ⟨by decide +kernel, by unfold Message; decide, by decide +kernel⟩

end IpDiscovery.Dns
