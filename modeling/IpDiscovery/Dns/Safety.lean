import IpDiscovery.Dns.Parse

/-! The reply parser on arbitrary bytes: it is safe, and it reads every range once. -/

namespace IpDiscovery.Dns

variable {target : Target} {data : Slice target} {longest : Nat}

/-! ## Safety -/

/-- Walking over labels ends at a position or with an error, on every slice. -/
theorem skipNameLoop_safe (pos : Nat) : Safe (skipNameLoop data pos) := by
  -- A position is at most one length byte ahead of the slice, which leaves room for every sum.
  have room := data.room
  induction pos using skipNameLoop.induct data with
  | case1 pos outside =>
    rw [skipNameLoop, dif_pos outside]
    exact .err _
  -- The byte at the position is inside, so reading it cannot fail.
  | case2 pos inside fault failed =>
    rw [index_inside (show pos < data.bytes.length from Nat.not_le.mp inside)] at failed
    cases failed
  | case3 pos inside byte read top =>
    rw [skipNameLoop_pointer inside read top]
    exact Target.add_safe (by omega)
  | case4 pos inside read notPointer =>
    rw [skipNameLoop_root inside read]
    exact Target.add_safe (by omega)
  | case5 pos inside byte read notPointer notRoot fault failed =>
    have small := byte.toNat_lt
    rw [Target.add_fits (by omega)] at failed
    cases failed
  | case6 pos inside byte read notPointer notRoot next moved ih =>
    rw [skipNameLoop_label inside read notPointer notRoot moved]
    exact ih

/-- Skipping a name ends at a position or with an error, from every position. -/
theorem skipName_safe (pos : Nat) : Safe (skipName data pos) := by
  unfold skipName
  split
  · exact .err _
  · exact skipNameLoop_safe pos

/-- A skipped name ends behind its start, and at most one byte behind the slice. -/
theorem skipName_advances {pos stop : Nat} (skipped : skipName data pos = .ok stop) :
    pos < stop ∧ stop ≤ data.length + 1 := by
  rcases skipName_sound skipped with ⟨name, named, _, ended, within⟩ | cut
  · have nonempty := named.length_pos
    omega
  · unfold skipName at skipped
    split at skipped
    · cases skipped
    · omega

/-- Skipping the questions is safe, since no question is skipped from outside the slice. -/
theorem questionLoop_safe (qdcount : Nat) :
    ∀ pos : Nat, Safe (questionLoop data qdcount pos) := by
  have room := data.room
  induction qdcount with
  | zero =>
    intro pos
    exact .ok pos
  | succ qdcount ih =>
    intro pos
    apply Safe.bind (skipName_safe pos)
    intro named skipped
    have bounded := (skipName_advances skipped).2
    -- The type and the class are four bytes, and the position behind them fits.
    have sum : target.add named 4 = .ok (named + 4) := Target.add_fits (by omega)
    rw [sum, ok_bind]
    apply Safe.bind (.failIf _ _)
    intro _ _
    rw [ok_bind]
    exact ih (named + 4)

/-- The span of a record is found without a panic. -/
theorem recordSpan_safe (pos : Nat) : Safe (recordSpan data pos) := by
  have room := data.room
  unfold recordSpan
  split
  · exact .ok none
  · apply Safe.bind (skipName_safe pos)
    intro named skipped
    have bounded := (skipName_advances skipped).2
    -- The fixed fields are ten bytes behind the name.
    have sum {offset : Nat} (small : offset ≤ 10) :
        target.add named offset = .ok (named + offset) := Target.add_fits (by omega)
    simp only [sum (show 10 ≤ 10 by omega), sum (show 1 ≤ 10 by omega),
      sum (show 8 ≤ 10 by omega), sum (show 9 ≤ 10 by omega), ok_bind]
    split
    · exact .ok none
    · -- All ten bytes of the fixed fields are inside the slice.
      rename_i fixed
      apply Safe.bind (data.index_safe (by omega))
      intro t₀ _
      apply Safe.bind (data.index_safe (by omega))
      intro t₁ _
      apply Safe.bind (data.index_safe (by omega))
      intro l₀ _
      apply Safe.bind (data.index_safe (by omega))
      intro l₁ _
      have small := (u16FromBeBytes l₀ l₁).toNat_lt
      apply Safe.bind (Target.add_safe (by omega))
      intro stop _
      split
      · exact .ok none
      · exact .ok (some _)

/-- The answer loop reads every slice without a panic. -/
theorem answerLoop_safe (recordType : RecordType) (ancount : Nat) :
    ∀ (pos : Nat) (results : List String),
      Safe (answerLoop data recordType ancount pos results) := by
  have room := data.room
  induction ancount with
  | zero =>
    intro pos results
    exact .ok results
  | succ ancount ih =>
    intro pos results
    apply Safe.bind (recordSpan_safe pos)
    intro found spanned
    cases found with
    | none => exact .ok results
    | some span =>
      -- The data of the record is inside the slice, and so is the next position.
      obtain ⟨record, typed, sized, _, held, inside⟩ := recordSpan_sound spanned
      have next : target.add span.pos span.rdlength = .ok (span.pos + span.rdlength) :=
        Target.add_fits (by omega)
      simp only [recordText_eq typed sized held inside, next, ok_bind]
      exact ih _ _

/-- Parsing a reply ends with texts or with an error, on every slice. -/
theorem safe_parseResponse (recordType : RecordType) :
    Safe (parseResponse data recordType) := by
  -- The header is read only after its length is checked.
  apply Safe.bind (.failIf _ _)
  intro _ long
  have long := failIf_eq_ok long
  apply Safe.bind (data.index_safe (by omega))
  intro _ _
  apply Safe.bind (.failIf _ _)
  intro _ _
  apply Safe.bind (data.index_safe (by omega))
  intro _ _
  apply Safe.bind (data.index_safe (by omega))
  intro _ _
  apply Safe.bind (data.index_safe (by omega))
  intro _ _
  apply Safe.bind (data.index_safe (by omega))
  intro _ _
  apply Safe.bind (.failIf _ _)
  intro _ _
  apply Safe.bind (questionLoop_safe _ _)
  intro _ _
  apply Safe.bind (answerLoop_safe _ _ _ _)
  intro results _
  split
  · exact .err _
  · exact .ok results

/-! ## Ranges -/

/-- The position behind the data of a record. -/
def RecordSpan.stop (span : RecordSpan) : Nat := span.pos + span.rdlength

/-- The bytes in the range of a record's data. -/
def RecordSpan.rdata (data : Bytes) (span : RecordSpan) : Bytes :=
  (data.drop span.pos).take span.rdlength

/-- The text of record data of the requested type. -/
def rdataText : RecordType → Bytes → Option String
  | .a, rdata => (Octets.ofBytes? 4 rdata).map fun address => (IpAddr.v4 address).display
  | .aaaa, rdata => (Octets.ofBytes? 16 rdata).map fun address => (IpAddr.v6 address).display
  | .txt, rdata => nonEmpty (txtText rdata)

/-- A string that claims more bytes than its record has ends the text before it. -/
theorem CharacterStrings.txtText_overrun {strings : List String} {front : Bytes}
    (packed : CharacterStrings strings front) {len : UInt8} {rest : Bytes}
    (overruns : rest.length < len.toNat) :
    Dns.txtText (front ++ len :: rest) = String.join strings := by
  -- The induction takes the whole strings off the front, and the last one is not read.
  induction packed with
  | nil =>
    rw [List.nil_append, Dns.txtText, if_neg (Nat.not_le.mpr overruns)]
    rfl
  | @cons text strings tail fits _ ih =>
    have count : (UInt8.ofNat (utf8 text).length).toNat = (utf8 text).length := by
      rw [UInt8.toNat_ofNat']
      omega
    rw [List.cons_append, List.append_assoc, Dns.txtText, count,
      if_pos (by rw [List.length_append]; omega), List.take_left, List.drop_left, fromUtf8_utf8, ih]
    simp

/-- The text of the bytes in a range, where it is the range of a record of the requested type. -/
def RecordSpan.text (data : Bytes) (recordType : RecordType) (span : RecordSpan) :
    Option String :=
  if span.rtype = recordType.toU16 then rdataText recordType (span.rdata data) else none

/-- The ranges of the data of successive records, the first of which starts at a position. -/
def recordSpans : Nat → List (ResourceRecord longest) → List RecordSpan
  | _, [] => []
  | pos, record :: answers =>
    ⟨record.rtype, pos + record.name.length + 10, record.rdata.length⟩ ::
      recordSpans (pos + record.encode.length) answers

/-- A record is its name, ten bytes of fixed fields, and its data. -/
theorem ResourceRecord.encode_length (record : ResourceRecord longest) :
    record.encode.length = record.name.length + 10 + record.rdata.length := by
  simp [ResourceRecord.encode, Nat.add_assoc]

/-- No range starts before the first record does. -/
theorem recordSpans_behind (answers : List (ResourceRecord longest)) :
    ∀ {pos : Nat}, ∀ span ∈ recordSpans pos answers, pos ≤ span.pos := by
  -- Each record starts where the one before it ends.
  induction answers with
  | nil =>
    intro pos span member
    cases member
  | cons record answers ih =>
    intro pos span member
    rcases List.mem_cons.mp member with first | later
    · subst first
      dsimp only
      omega
    · have after := ih span later
      omega

/-- The ranges come in increasing order, and no two of them share a byte. -/
theorem recordSpans_ordered (answers : List (ResourceRecord longest)) :
    ∀ pos : Nat, (recordSpans pos answers).Pairwise fun former latter =>
      former.stop ≤ latter.pos := by
  -- The later ranges are behind the record, and its own range ends with it.
  induction answers with
  | nil =>
    intro pos
    exact .nil
  | cons record answers ih =>
    intro pos
    refine .cons ?_ (ih _)
    intro later member
    have behind := recordSpans_behind answers later member
    rw [record.encode_length] at behind
    unfold RecordSpan.stop
    dsimp only
    omega

/-- The ranges of records that were read end inside the slice. -/
theorem recordSpans_inside {answers : List (ResourceRecord longest)} :
    ∀ {pos : Nat} {rest : Bytes},
      data.bytes.drop pos = answers.flatMap ResourceRecord.encode ++ rest →
        ∀ span ∈ recordSpans pos answers, span.stop ≤ data.length := by
  -- Each record is a part of what is left of the slice.
  induction answers with
  | nil =>
    intro pos rest _ span member
    cases member
  | cons record answers ih =>
    intro pos rest unread span member
    rw [List.flatMap_cons, List.append_assoc] at unread
    rcases List.mem_cons.mp member with first | later
    · subst first
      have inside := part_inside (by rw [record.encode_length]; omega) unread
      rw [record.encode_length] at inside
      unfold RecordSpan.stop
      dsimp only
      omega
    · exact ih (drop_part unread) span later

/-- The texts of records that were read are the texts of the bytes in their ranges. -/
theorem recordSpans_text (recordType : RecordType) {answers : List (ResourceRecord longest)} :
    ∀ {pos : Nat} {rest : Bytes},
      data.bytes.drop pos = answers.flatMap ResourceRecord.encode ++ rest →
        answers.filterMap (ResourceRecord.text recordType) =
          (recordSpans pos answers).filterMap (RecordSpan.text data.bytes recordType) := by
  -- The data of the first record is what its range cuts out, and the rest follows.
  induction answers with
  | nil =>
    intro pos rest _
    rfl
  | cons record answers ih =>
    intro pos rest unread
    rw [List.flatMap_cons, List.append_assoc] at unread
    have parts := unread
    simp only [ResourceRecord.encode, List.append_assoc] at parts
    have held := drop_part (drop_part parts)
    rw [ResourceRecord.fixed_length] at held
    have cut : (RecordSpan.mk record.rtype (pos + record.name.length + 10)
        record.rdata.length).rdata data.bytes = record.rdata := by
      rw [RecordSpan.rdata, held, List.take_left]
    have same : record.text recordType = RecordSpan.text data.bytes recordType
        ⟨record.rtype, pos + record.name.length + 10, record.rdata.length⟩ := by
      unfold ResourceRecord.text RecordSpan.text
      rw [cut]
      cases recordType <;> rfl
    rw [recordSpans, List.filterMap_cons, List.filterMap_cons, same, ih (drop_part unread)]

/--
The parser is safe on every byte string.

It never panics or hangs, and nor does the name skipper from any position, which moves forward over
the bytes of one name. The parsed texts are those of the bytes in the data ranges of at most ANCOUNT
answer records, which stand behind QDCOUNT questions, and these ranges follow each other inside the
datagram. A character-string that claims more than its record holds is not read at all.
-/
theorem parseResponse_safe (data : Slice target) (recordType : RecordType) :
    Safe (parseResponse data recordType) ∧
    (∀ pos, Safe (skipName data pos)) ∧
    (∀ pos stop, skipName data pos = .ok stop → pos < stop ∧ stop ≤ data.length + 1 ∧
      ((∃ name, DomainName maxSkipped name ∧
          data.bytes.drop pos = name ++ data.bytes.drop stop ∧ stop = pos + name.length) ∨
        stop = data.length + 1)) ∧
    (∀ results, parseResponse data recordType = .ok results →
      ∃ (header : Header) (questions : List (Question maxSkipped))
        (answers : List (ResourceRecord maxSkipped)) (rest : Bytes),
        Message header questions answers rest data.bytes ∧
        header.qdcount.toNat = questions.length ∧
        results ≠ [] ∧ results.length ≤ header.ancount.toNat ∧
        answers.length ≤ header.ancount.toNat ∧
        ∃ spans : List RecordSpan,
          spans = recordSpans (12 + (questions.flatMap Question.encode).length) answers ∧
          results = spans.filterMap (RecordSpan.text data.bytes recordType) ∧
          spans.Pairwise (fun former latter => former.stop ≤ latter.pos) ∧
          ∀ span ∈ spans, 12 ≤ span.pos ∧ span.stop ≤ data.length) ∧
    ∀ strings front len rest, CharacterStrings strings front → rest.length < len.toNat →
      rdataText .txt (front ++ len :: rest) = nonEmpty (String.join strings) := by
  refine ⟨safe_parseResponse recordType, skipName_safe, ?_, ?_, ?_⟩
  · intro pos stop skipped
    obtain ⟨forward, bounded⟩ := skipName_advances skipped
    refine ⟨forward, bounded, ?_⟩
    rcases skipName_sound skipped with ⟨name, named, unread, ended, _⟩ | cut
    · exact Or.inl ⟨name, named, unread, ended⟩
    · exact Or.inr cut
  · intro results parsed
    obtain ⟨header, questions, answers, rest, message, _, asked, _, bounded, _, rendered, found⟩ :=
      parseResponse_sound parsed
    have unread : data.bytes.drop (12 + (questions.flatMap Question.encode).length) =
        answers.flatMap ResourceRecord.encode ++ rest := by
      rw [message, List.append_assoc]
      exact List.drop_left' (by rw [List.length_append, Header.encode_length])
    have texts := recordSpans_text recordType unread
    refine ⟨header, questions, answers, rest, message, asked, found, ?_, bounded, _, rfl,
      rendered.trans texts, recordSpans_ordered _ _, ?_⟩
    · -- Each record adds at most one text.
      rw [rendered]
      exact (List.length_filterMap_le _ _).trans bounded
    · intro span member
      have behind := recordSpans_behind answers span member
      exact ⟨by omega, recordSpans_inside unread span member⟩
  · intro strings front len rest packed overruns
    rw [rdataText, packed.txtText_overrun overruns]

/-- The name of the sample reply's question is skipped once, and its one text has its own range. -/
theorem parseResponse_safe_alias :
    (12 < 17 ∧ 17 ≤ sampleReply.length + 1) ∧
    ∃ spans : List RecordSpan,
      ["203.0.113.7"] = spans.filterMap (RecordSpan.text sampleReply.bytes .a) ∧
      (spans.Pairwise fun former latter => former.stop ≤ latter.pos) ∧
      ∀ span ∈ spans, 12 ≤ span.pos ∧ span.stop ≤ sampleReply.length := by
  obtain ⟨_, _, names, parses, _⟩ := parseResponse_safe sampleReply .a
  obtain ⟨forward, bounded, _⟩ := names 12 17 (by decide +kernel)
  obtain ⟨_, _, _, _, _, _, _, _, _, spans, _, texts, ordered, inside⟩ :=
    parses ["203.0.113.7"] (by decide +kernel)
  exact ⟨⟨forward, bounded⟩, spans, texts, ordered, inside⟩

end IpDiscovery.Dns
