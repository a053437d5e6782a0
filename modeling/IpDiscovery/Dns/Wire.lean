import IpDiscovery.Dns.Names

/-! The DNS wire format of questions and records, and what the cursor does on it. -/

namespace IpDiscovery.Dns

/-- An entry of the question section. -/
structure Question (longest : Nat) where
  name : Bytes
  named : DomainName longest name
  qtype : UInt16
  qclass : UInt16

/-- An entry of the answer section. -/
structure ResourceRecord (longest : Nat) where
  name : Bytes
  named : DomainName longest name
  rtype : UInt16
  rclass : UInt16
  ttl : UInt32
  rdata : Bytes
  fits : rdata.length < 2 ^ 16

/-- The twelve bytes every message opens with. -/
structure Header where
  id : UInt16
  flags : UInt8
  moreFlags : UInt8
  qdcount : UInt16
  ancount : UInt16
  nscount : UInt16
  arcount : UInt16
deriving DecidableEq, Repr

/-- The response code. -/
def Header.rcode (header : Header) : UInt8 := header.moreFlags &&& 0x0F

/-- The bytes of a question. -/
def Question.encode {longest : Nat} (question : Question longest) : Bytes :=
  question.name ++ u16ToBeBytes question.qtype ++ u16ToBeBytes question.qclass

/-- The fixed fields between a record's name and its data. -/
def ResourceRecord.fixed {longest : Nat} (record : ResourceRecord longest) : Bytes :=
  u16ToBeBytes record.rtype ++ u16ToBeBytes record.rclass ++ u32ToBeBytes record.ttl ++
    u16ToBeBytes (UInt16.ofNat record.rdata.length)

/-- The bytes of a record: its name, its fixed fields and its data. -/
def ResourceRecord.encode {longest : Nat} (record : ResourceRecord longest) : Bytes :=
  record.name ++ record.fixed ++ record.rdata

/-- The bytes of a header. -/
def Header.encode (header : Header) : Bytes :=
  u16ToBeBytes header.id ++ [header.flags, header.moreFlags] ++ u16ToBeBytes header.qdcount ++
    u16ToBeBytes header.ancount ++ u16ToBeBytes header.nscount ++ u16ToBeBytes header.arcount

/-- A datagram that opens with a header, a question section, some answer records, and the rest. -/
def Message {longest : Nat} (header : Header) (questions : List (Question longest))
    (answers : List (ResourceRecord longest)) (rest data : Bytes) : Prop :=
  data = header.encode ++ questions.flatMap Question.encode ++
    answers.flatMap ResourceRecord.encode ++ rest

/-- Every header is twelve bytes long. -/
@[simp] theorem Header.encode_length (header : Header) : header.encode.length = 12 := by
  simp [Header.encode]

/-- Type, class, TTL and length are ten bytes. -/
@[simp] theorem ResourceRecord.fixed_length {longest : Nat} (record : ResourceRecord longest) :
    record.fixed.length = 10 := by
  simp [ResourceRecord.fixed]

/-! ## Questions and records -/

section Cursor

variable {target : Target} {data : Slice target} {longest : Nat}

/-- A well-formed question section is skipped to its end. -/
theorem questionLoop_complete (legal : longest ≤ maxSkipped) (questions : List (Question longest)) :
    ∀ {pos : Nat} {rest : Bytes},
      data.bytes.drop pos = questions.flatMap Question.encode ++ rest →
        questionLoop data questions.length pos =
          .ok (pos + (questions.flatMap Question.encode).length) := by
  -- The induction skips one question at a time.
  have room := data.room
  induction questions with
  | nil =>
    intro pos rest _
    rfl
  | cons question questions ih =>
    intro pos rest unread
    simp only [List.flatMap_cons, Question.encode, List.append_assoc] at unread
    have nonempty := question.named.length_pos
    have skipped := skipName_complete legal question.named unread
    have inside := part_inside nonempty unread
    simp only [List.length_append, u16ToBeBytes_length] at inside
    have behind : data.bytes.drop (pos + question.name.length + 4) =
        questions.flatMap Question.encode ++ rest := drop_part (drop_part (drop_part unread))
    simp only [List.length_cons, questionLoop, skipped, ok_bind,
      Target.add_fits (show pos + question.name.length + 4 ≤ target.usizeMax by omega),
      failIf_neg (show ¬ pos + question.name.length + 4 > data.length by omega), ih behind]
    simp only [List.flatMap_cons, Question.encode, List.length_append, u16ToBeBytes_length,
      Except.ok.injEq]
    omega

/-- What is skipped as the question section holds as many questions as were asked for. -/
theorem questionLoop_sound (qdcount : Nat) :
    ∀ {pos stop : Nat}, pos ≤ data.length → questionLoop data qdcount pos = .ok stop →
      ∃ questions : List (Question maxSkipped), questions.length = qdcount ∧
        data.bytes.drop pos = questions.flatMap Question.encode ++ data.bytes.drop stop ∧
        stop ≤ data.length := by
  induction qdcount with
  | zero =>
    intro pos stop inside ran
    cases ran
    exact ⟨[], rfl, by simp, inside⟩
  | succ qdcount ih =>
    intro pos stop inside ran
    obtain ⟨named, skipped, ran⟩ := bind_eq_ok ran
    obtain ⟨_, sum, ran⟩ := bind_eq_ok ran
    obtain ⟨_, fits, ran⟩ := bind_eq_ok ran
    obtain ⟨next, moved, ran⟩ := bind_eq_ok ran
    have fits := failIf_eq_ok fits
    cases Target.add_eq_ok sum
    cases Target.add_eq_ok moved
    -- A name that ran past the end would have left no room for the question's four bytes.
    rcases skipName_sound skipped with ⟨name, legal, unread, _, _⟩ | cut
    · obtain ⟨questions, count, suffix, within⟩ := ih (by omega) ran
      obtain ⟨t₀, r₀⟩ := data.index_exists (show named < data.length by omega)
      obtain ⟨t₁, r₁⟩ := data.index_exists (show named + 1 < data.length by omega)
      obtain ⟨c₀, r₂⟩ := data.index_exists (show named + 2 < data.length by omega)
      obtain ⟨c₁, r₃⟩ := data.index_exists (show named + 3 < data.length by omega)
      refine ⟨⟨name, legal, u16FromBeBytes t₀ t₁, u16FromBeBytes c₀ c₁⟩ :: questions,
        by rw [List.length_cons, count], ?_, within⟩
      rw [unread, drop_of_index r₀, drop_of_index r₁, drop_of_index r₂, drop_of_index r₃, suffix]
      simp [Question.encode]
    · omega

/-- Behind a name and the fixed fields, a record is found where all of its data is there. -/
theorem recordSpan_fixed {record : ResourceRecord longest} {pos : Nat} {more : Bytes}
    (skipped : skipName data pos = .ok (pos + record.name.length))
    (behind : data.bytes.drop (pos + record.name.length) = record.fixed ++ more) :
    recordSpan data pos =
      .ok (if more.length < record.rdata.length then none
        else some ⟨record.rtype, pos + record.name.length + 10, record.rdata.length⟩) := by
  have room := data.room
  have inside := part_inside (by rw [record.fixed_length]; decide) behind
  rw [ResourceRecord.fixed_length] at inside
  have small := record.fits
  -- The fixed fields are read at their offsets behind the name.
  obtain ⟨t₀, t₁, typeBytes, named⟩ := u16ToBeBytes_spelled record.rtype
  obtain ⟨l₀, l₁, lengthBytes, counted⟩ :=
    u16ToBeBytes_spelled (UInt16.ofNat record.rdata.length)
  have counted : (u16FromBeBytes l₀ l₁).toNat = record.rdata.length := by
    rw [counted, UInt16.toNat_ofNat_of_lt' record.fits]
  have field (offset : Nat) : index data.bytes (pos + record.name.length + offset) =
      index (record.fixed ++ more) offset := by
    rw [← index_drop, behind]
  have read₀ : index data.bytes (pos + record.name.length) = .ok t₀ := by
    rw [← Nat.add_zero (pos + record.name.length), field, ResourceRecord.fixed, typeBytes]
    rfl
  have read₁ : index data.bytes (pos + record.name.length + 1) = .ok t₁ := by
    rw [field, ResourceRecord.fixed, typeBytes]
    rfl
  have read₈ : index data.bytes (pos + record.name.length + 8) = .ok l₀ := by
    rw [field, ResourceRecord.fixed, typeBytes, lengthBytes]
    rfl
  have read₉ : index data.bytes (pos + record.name.length + 9) = .ok l₁ := by
    rw [field, ResourceRecord.fixed, typeBytes, lengthBytes]
    rfl
  have sum {offset : Nat} (few : offset ≤ 10) :
      target.add (pos + record.name.length) offset = .ok (pos + record.name.length + offset) :=
    Target.add_fits (by omega)
  have last : target.add (pos + record.name.length + 10) record.rdata.length =
      .ok (pos + record.name.length + 10 + record.rdata.length) := Target.add_fits (by omega)
  simp only [recordSpan, if_neg (show ¬ pos ≥ data.length by omega), skipped, ok_bind,
    sum (show 10 ≤ 10 by omega), sum (show 1 ≤ 10 by omega), sum (show 8 ≤ 10 by omega),
    sum (show 9 ≤ 10 by omega), read₀, read₁, read₈, read₉, named, counted, last,
    if_neg (show ¬ pos + record.name.length + 10 > data.length by omega)]
  split
  · rw [if_pos (by omega)]
    rfl
  · rw [if_neg (by omega)]
    rfl

/-- A record that opens the unread bytes is found, with the range of its data. -/
theorem recordSpan_complete (legal : longest ≤ maxSkipped) {record : ResourceRecord longest}
    {pos : Nat} {rest : Bytes} (unread : data.bytes.drop pos = record.encode ++ rest) :
    recordSpan data pos =
      .ok (some ⟨record.rtype, pos + record.name.length + 10, record.rdata.length⟩) := by
  simp only [ResourceRecord.encode, List.append_assoc] at unread
  rw [recordSpan_fixed (skipName_complete legal record.named unread) (drop_part unread),
    if_neg (by rw [List.length_append]; omega)]

/-- Where a record is found, a whole record opens the unread bytes. -/
theorem recordSpan_sound {pos : Nat} {span : RecordSpan}
    (found : recordSpan data pos = .ok (some span)) :
    ∃ record : ResourceRecord maxSkipped, record.rtype = span.rtype ∧
      record.rdata.length = span.rdlength ∧
      data.bytes.drop pos = record.encode ++ data.bytes.drop (span.pos + span.rdlength) ∧
      data.bytes.drop span.pos = record.rdata ++ data.bytes.drop (span.pos + span.rdlength) ∧
      span.pos + span.rdlength ≤ data.length := by
  unfold recordSpan at found
  split at found
  · cases found
  · obtain ⟨named, skipped, found⟩ := bind_eq_ok found
    obtain ⟨_, fixedSum, found⟩ := bind_eq_ok found
    split at found
    · cases found
    · rename_i fixedFits
      obtain ⟨t₀, read₀, found⟩ := bind_eq_ok found
      obtain ⟨_, sum₁, found⟩ := bind_eq_ok found
      obtain ⟨t₁, read₁, found⟩ := bind_eq_ok found
      obtain ⟨_, sum₈, found⟩ := bind_eq_ok found
      obtain ⟨l₀, read₈, found⟩ := bind_eq_ok found
      obtain ⟨_, sum₉, found⟩ := bind_eq_ok found
      obtain ⟨l₁, read₉, found⟩ := bind_eq_ok found
      obtain ⟨_, start, found⟩ := bind_eq_ok found
      obtain ⟨_, stopSum, found⟩ := bind_eq_ok found
      cases Target.add_eq_ok fixedSum
      cases Target.add_eq_ok sum₁
      cases Target.add_eq_ok sum₈
      cases Target.add_eq_ok sum₉
      cases Target.add_eq_ok start
      cases Target.add_eq_ok stopSum
      split at found
      · cases found
      · rename_i dataFits
        cases found
        rcases skipName_sound skipped with ⟨name, legal, unread, _, _⟩ | cut
        · obtain ⟨c₀, r₂⟩ := data.index_exists (show named + 2 < data.length by omega)
          obtain ⟨c₁, r₃⟩ := data.index_exists (show named + 3 < data.length by omega)
          obtain ⟨x₀, r₄⟩ := data.index_exists (show named + 4 < data.length by omega)
          obtain ⟨x₁, r₅⟩ := data.index_exists (show named + 5 < data.length by omega)
          obtain ⟨x₂, r₆⟩ := data.index_exists (show named + 6 < data.length by omega)
          obtain ⟨x₃, r₇⟩ := data.index_exists (show named + 7 < data.length by omega)
          -- The data is as long as its length field says.
          let rdata := (data.bytes.drop (named + 10)).take (u16FromBeBytes l₀ l₁).toNat
          have size : rdata.length = (u16FromBeBytes l₀ l₁).toNat := by
            unfold Slice.length at dataFits
            simp only [rdata, List.length_take, List.length_drop]
            omega
          have behind : data.bytes.drop (named + 10) =
              rdata ++ data.bytes.drop (named + 10 + (u16FromBeBytes l₀ l₁).toNat) := by
            have halves := List.take_append_drop (u16FromBeBytes l₀ l₁).toNat
              (data.bytes.drop (named + 10))
            rw [List.drop_drop] at halves
            exact halves.symm
          refine ⟨⟨name, legal, u16FromBeBytes t₀ t₁, u16FromBeBytes c₀ c₁,
            u32FromBeBytes x₀ x₁ x₂ x₃, rdata, size ▸ UInt16.toNat_lt _⟩, rfl, size, ?_, behind,
            by dsimp only; omega⟩
          simp only [ResourceRecord.encode, ResourceRecord.fixed, size, UInt16.ofNat_toNat]
          rw [unread, drop_of_index read₀, drop_of_index read₁, drop_of_index r₂,
            drop_of_index r₃, drop_of_index r₄, drop_of_index r₅, drop_of_index r₆,
            drop_of_index r₇, drop_of_index read₈, drop_of_index read₉, behind]
          simp
        · omega

end Cursor

end IpDiscovery.Dns
