import IpDiscovery.Dns.Safety

/-! A reply that arrives without its end: which of its answers the parser still finds. -/

namespace IpDiscovery.Dns

variable {target : Target} {data : Slice target} {longest : Nat} {recordType : RecordType}

/-- The records that end inside so many bytes, up to the first one that does not. -/
def wholeBefore (room : Nat) :
    List (ResourceRecord longest) → List (ResourceRecord longest)
  | [] => []
  | record :: answers =>
    if record.encode.length ≤ room then
      record :: wholeBefore (room - record.encode.length) answers
    else []

/-- The position of the first answer record, behind the header and the questions. -/
def answersStart (questions : List (Question longest)) : Nat :=
  12 + (questions.flatMap Question.encode).length

/-- So many bytes of a record end behind its first byte, and no later than its labels do. -/
def EndsInLabels (record : ResourceRecord longest) (left : Nat) : Prop :=
  ∃ labels last behind, Walk longest record.name 0 labels last behind ∧ 0 < left ∧
    left ≤ (labels.flatMap encodeLabel).length

/-- So many bytes of the answers end in the labels of a record, with a rendering before it. -/
def CutInLabels (recordType : RecordType) (room : Nat)
    (answers : List (ResourceRecord longest)) : Prop :=
  ∃ record later, answers = wholeBefore room answers ++ record :: later ∧
    EndsInLabels record
      (room - ((wholeBefore room answers).flatMap ResourceRecord.encode).length) ∧
    ∃ earlier ∈ wholeBefore room answers, ∃ text, Renders recordType earlier (some text)

/-- A parse that answers with the renderings of some records, or fails where there are none. -/
def Keeps (recordType : RecordType) (answers : List (ResourceRecord longest))
    (parsed : Run (List String)) : Prop :=
  ∃ texts, List.Forall₂ (Renders recordType) answers texts ∧
    if texts.reduceOption = [] then ∃ error, parsed = .error (.err error)
    else parsed = .ok texts.reduceOption

/-! ## The records before the cut -/

/-- The cut falls behind the records before it, and in the first of the others, if any. -/
theorem wholeBefore_spec (answers : List (ResourceRecord longest)) :
    ∀ room : Nat, ∃ later, answers = wholeBefore room answers ++ later ∧
      ((wholeBefore room answers).flatMap ResourceRecord.encode).length ≤ room ∧
      ∀ record ∈ later.head?, room <
        ((wholeBefore room answers).flatMap ResourceRecord.encode).length +
          record.encode.length := by
  -- The induction takes one record off the room that is left.
  induction answers with
  | nil =>
    intro room
    exact ⟨[], rfl, Nat.zero_le _, by simp⟩
  | cons record answers ih =>
    intro room
    by_cases fits : record.encode.length ≤ room
    · obtain ⟨later, split, within, next⟩ := ih (room - record.encode.length)
      rw [wholeBefore, if_pos fits, List.flatMap_cons, List.length_append]
      refine ⟨later, by rw [List.cons_append, ← split], by omega, ?_⟩
      intro other first
      have beyond := next other first
      omega
    · rw [wholeBefore, if_neg fits]
      refine ⟨record :: answers, rfl, Nat.zero_le _, ?_⟩
      intro other first
      cases first
      rw [List.flatMap_nil, List.length_nil]
      omega

/-- Among the records before the cut, some text is found where one of them has a rendering. -/
theorem texts_ne_nil_iff {answers : List (ResourceRecord longest)}
    (packed : recordType = .txt → ∀ record ∈ answers, record.rtype = RecordType.txt.toU16 →
      ∃ strings, CharacterStrings strings record.rdata) :
    answers.filterMap (ResourceRecord.text recordType) ≠ [] ↔
      ∃ earlier ∈ answers, ∃ text, Renders recordType earlier (some text) := by
  rw [ne_eq, List.filterMap_eq_nil_iff]
  push Not
  -- A record has a text exactly if it renders one.
  constructor
  · rintro ⟨earlier, member, found⟩
    obtain ⟨text, held⟩ := Option.ne_none_iff_exists'.mp found
    refine ⟨earlier, member, text, ?_⟩
    rw [← held]
    exact earlier.renders fun requested => packed requested earlier member
  · rintro ⟨earlier, member, text, renders⟩
    refine ⟨earlier, member, ?_⟩
    rw [← renders.eq_text]
    exact Option.some_ne_none text

/-- The renderings are the texts of the records. -/
theorem keeps_iff {answers : List (ResourceRecord longest)} {parsed : Run (List String)}
    (packed : recordType = .txt → ∀ record ∈ answers, record.rtype = RecordType.txt.toU16 →
      ∃ strings, CharacterStrings strings record.rdata) :
    Keeps recordType answers parsed ↔
      if answers.filterMap (ResourceRecord.text recordType) = [] then
        ∃ error, parsed = .error (.err error)
      else parsed = .ok (answers.filterMap (ResourceRecord.text recordType)) := by
  have same : (answers.map (ResourceRecord.text recordType)).reduceOption =
      answers.filterMap (ResourceRecord.text recordType) := by
    rw [List.reduceOption, List.filterMap_map]
    rfl
  unfold Keeps
  simp only [forall₂_renders_iff packed, exists_eq_left, same]

/-- What is answered for the texts of some records keeps those records. -/
theorem keeps_answer {answers : List (ResourceRecord longest)}
    (packed : recordType = .txt → ∀ record ∈ answers, record.rtype = RecordType.txt.toU16 →
      ∃ strings, CharacterStrings strings record.rdata) :
    Keeps recordType answers
      (answer (answers.filterMap (ResourceRecord.text recordType))) := by
  rw [keeps_iff packed, answer]
  split
  · exact ⟨_, rfl⟩
  · rfl

/-! ## The record at the cut -/

/-- A record whose name ends in its labels is one the skipper gives up on. -/
theorem recordSpan_inLabels (legal : longest ≤ maxSkipped) {record : ResourceRecord longest}
    {pos left : Nat} (unread : data.bytes.drop pos = record.encode.take left)
    (inLabels : EndsInLabels record left) :
    ∃ error, recordSpan data pos = .error (.err error) := by
  obtain ⟨labels, last, behind, walk, positive, within⟩ := inLabels
  have named : record.name = labels.flatMap encodeLabel ++ last :: behind := walk.unread
  have length := congrArg List.length unread
  rw [List.length_drop, List.length_take, record.encode_length, named, List.length_append] at length
  have inside : ¬ pos ≥ data.length := by
    unfold Slice.length
    omega
  -- A walk over the bytes that are left would be the walk over the name, which is longer.
  have lost (stop : Nat) : skipName data pos ≠ .ok stop := by
    intro skipped
    obtain ⟨labels', last', behind', walk', _⟩ := skipName_eq_ok_iff.mp skipped
    have spelled : labels.flatMap encodeLabel ++ last :: (behind ++ record.fixed ++ record.rdata) =
        labels'.flatMap encodeLabel ++ last' :: (behind' ++ record.encode.drop left) := by
      calc
        _ = record.encode := by
          rw [ResourceRecord.encode, named]
          simp
        _ = record.encode.take left ++ record.encode.drop left :=
          (List.take_append_drop left record.encode).symm
        _ = _ := by
          rw [← unread, walk'.unread]
          simp
    obtain ⟨rfl, _, _⟩ := labels_unique (walk.mono legal).counted walk'.counted walk.ends
      walk'.ends spelled
    have size := congrArg List.length walk'.unread
    rw [unread, List.length_take, List.length_append, List.length_cons] at size
    omega
  have safe := @skipName_safe target data pos
  unfold recordSpan
  rw [if_neg inside]
  cases skipped : skipName data pos with
  | ok stop => exact absurd skipped (lost stop)
  | error fault =>
    cases fault with
    | err error => exact ⟨error, rfl⟩
    | panic => exact absurd skipped safe.1
    | hang => exact absurd skipped safe.2

/-- A record cut anywhere else is not found, and the loop stops in front of it. -/
theorem recordSpan_pastLabels (legal : longest ≤ maxSkipped) {record : ResourceRecord longest}
    {pos left : Nat} (unread : data.bytes.drop pos = record.encode.take left)
    (short : left < record.encode.length) (past : ¬ EndsInLabels record left) :
    recordSpan data pos = .ok none := by
  have room := data.room
  rcases Nat.eq_zero_or_pos left with rfl | positive
  · -- Nothing is left, so the position is outside the slice.
    have outside : pos ≥ data.length := List.drop_eq_nil_iff.mp unread
    rw [recordSpan, if_pos outside]
  obtain ⟨labels, last, tail, counted, ends, named, size⟩ := domainName_iff.mp record.named
  have beyond : (labels.flatMap encodeLabel).length < left := by
    by_contra within
    exact past ⟨labels, last, tail, ⟨counted, ends, named⟩, positive, Nat.not_lt.mp within⟩
  -- The byte that ends the labels is there, and so the name is skipped.
  have walk : Walk longest data.bytes pos labels last
      ((tail ++ (record.fixed ++ record.rdata)).take
        (left - (labels.flatMap encodeLabel).length - 1)) := by
    refine ⟨counted, ends, ?_⟩
    obtain ⟨more, rfl⟩ := Nat.exists_eq_add_of_lt beyond
    rw [unread, ResourceRecord.encode, named, Nat.add_assoc, List.append_assoc, List.append_assoc,
      List.take_length_add_append, List.cons_append, List.take_succ_cons]
    congr 3
    omega
  have stop : walkStop pos labels last = pos + record.name.length := by
    rw [walkStop, named, List.length_append, List.length_cons]
    omega
  have skipped : skipName data pos = .ok (pos + record.name.length) :=
    skipName_eq_ok_iff.mpr ⟨labels, last, _, walk.mono legal, stop.symm⟩
  have length := congrArg List.length unread
  rw [List.length_drop, List.length_take] at length
  have inside : ¬ pos ≥ data.length := by
    unfold Slice.length
    omega
  rcases Nat.lt_or_ge left (record.name.length + 10) with cut | fixed
  · -- The fixed fields run past the end.
    have sum : target.add (pos + record.name.length) 10 = .ok (pos + record.name.length + 10) := by
      have bounded := (skipName_advances skipped).2
      exact Target.add_fits (by omega)
    unfold recordSpan
    rw [if_neg inside, skipped]
    simp only [ok_bind, sum]
    rw [if_pos (by unfold Slice.length; omega)]
    rfl
  · -- The data does.
    have behind : data.bytes.drop (pos + record.name.length) =
        record.fixed ++ record.rdata.take (left - (record.name.length + 10)) := by
      obtain ⟨more, rfl⟩ := Nat.exists_eq_add_of_le fixed
      rw [← List.drop_drop, unread, ResourceRecord.encode, List.append_assoc, Nat.add_assoc,
        List.take_length_add_append, List.drop_left, ← record.fixed_length,
        List.take_length_add_append]
      congr 2
      omega
    rw [record.encode_length] at short
    rw [recordSpan_fixed skipped behind, if_pos]
    rw [List.length_take]
    omega

/-! ## The answers before the cut -/

/-- The answer loop on a cut section fails in the labels of a name, and stops anywhere else. -/
theorem answerLoop_cut (legal : longest ≤ maxSkipped) (recordType : RecordType)
    {kept : List (ResourceRecord longest)} (later : List (ResourceRecord longest))
    {record : ResourceRecord longest} {pos left : Nat}
    (unread : data.bytes.drop pos =
      kept.flatMap ResourceRecord.encode ++ record.encode.take left)
    (short : left < record.encode.length) :
    (EndsInLabels record left → ∃ error,
      answerLoop data recordType (kept ++ record :: later).length pos [] =
        .error (.err error)) ∧
    (¬ EndsInLabels record left →
      answerLoop data recordType (kept ++ record :: later).length pos [] =
        .ok (kept.filterMap (ResourceRecord.text recordType))) := by
  -- The records in front are read, and the one that is cut decides the rest.
  have behind := drop_part unread
  rw [List.length_append, List.length_cons,
    answerLoop_through legal recordType (later.length + 1) kept [] unread, answerLoop]
  constructor
  · intro inLabels
    obtain ⟨error, failed⟩ := recordSpan_inLabels legal behind inLabels
    exact ⟨error, by rw [failed]; rfl⟩
  · intro past
    rw [recordSpan_pastLabels legal behind short past]
    rfl

/-- Where all records end before the cut, none is cut. -/
theorem not_cutInLabels {room : Nat} {answers : List (ResourceRecord longest)}
    (split : wholeBefore room answers = answers) : ¬ CutInLabels recordType room answers := by
  rintro ⟨record, later, longer, _⟩
  rw [split] at longer
  simp at longer

/-- The first record behind those before the cut is the one that is cut. -/
theorem cutInLabels_iff {room left : Nat} {answers kept later : List (ResourceRecord longest)}
    {record : ResourceRecord longest} (before : wholeBefore room answers = kept)
    (split : answers = kept ++ record :: later)
    (inside : room = (kept.flatMap ResourceRecord.encode).length + left)
    (packed : recordType = .txt → ∀ record ∈ kept, record.rtype = RecordType.txt.toU16 →
      ∃ strings, CharacterStrings strings record.rdata) :
    CutInLabels recordType room answers ↔
      EndsInLabels record left ∧ kept.filterMap (ResourceRecord.text recordType) ≠ [] := by
  rw [CutInLabels, before, texts_ne_nil_iff packed, inside, Nat.add_sub_cancel_left]
  -- There is one way to split the answers behind those kept.
  constructor
  · rintro ⟨record', later', same, lost⟩
    rw [split] at same
    cases List.append_cancel_left same
    exact lost
  · intro lost
    exact ⟨record, later, split, lost⟩

/-- A cut in the answers leaves the header, the questions, and so many bytes of the answers. -/
theorem Message.cut {header : Header} {questions : List (Question longest)}
    {answers : List (ResourceRecord longest)} {rest whole : Bytes} {room : Nat}
    (message : Message header questions answers rest whole)
    (inside : room ≤ (answers.flatMap ResourceRecord.encode).length) :
    whole.take (answersStart questions + room) =
      header.encode ++ (questions.flatMap Question.encode ++
        (answers.flatMap ResourceRecord.encode).take room) := by
  rw [message, List.append_assoc, List.append_assoc, answersStart, ← header.encode_length,
    Nat.add_assoc, List.take_length_add_append, List.take_length_add_append,
    List.take_append_of_le_length inside]

/--
A reply cut inside its answers keeps those before the cut, but for one place of the cut.

Where the labels of a name are cut behind their first byte, the answers before it are lost.
-/
theorem parseResponse_truncated {header : Header} {questions : List (Question maxLabel)}
    {answers : List (ResourceRecord maxLabel)} {rest whole : Bytes} {cut : Nat}
    (message : Message header questions answers rest whole) (clean : header.rcode = 0)
    (asked : header.qdcount.toNat = questions.length)
    (answered : header.ancount.toNat = answers.length)
    (packed : recordType = .txt → ∀ record ∈ answers, record.rtype = RecordType.txt.toU16 →
      ∃ strings, CharacterStrings strings record.rdata)
    (received : data.bytes = whole.take cut) (behind : answersStart questions ≤ cut)
    (inside : cut ≤ answersStart questions + (answers.flatMap ResourceRecord.encode).length) :
    Keeps recordType (wholeBefore (cut - answersStart questions) answers)
        (parseResponse data recordType) ↔
      ¬ CutInLabels recordType (cut - answersStart questions) answers := by
  obtain ⟨room, rfl⟩ := Nat.exists_eq_add_of_le behind
  rw [Nat.add_sub_cancel_left]
  have opened := received.trans (message.cut (show room ≤ _ by omega))
  have unread : data.bytes.drop (12 + (questions.flatMap Question.encode).length) =
      (answers.flatMap ResourceRecord.encode).take room := by
    rw [opened, ← header.encode_length, ← List.drop_drop, List.drop_left, List.drop_left]
  have none_answered : header.ancount = 0 ↔ answers = [] := by
    rw [← UInt16.toNat_inj, answered]
    exact List.length_eq_zero_iff
  rw [parseResponse_eq_loop maxLabel_le opened recordType clean asked, answered]
  obtain ⟨later, split, within, next⟩ := wholeBefore_spec answers room
  generalize before : wholeBefore room answers = kept at *
  cases later with
  | nil =>
    -- All records end before the cut.
    obtain rfl : answers = kept := by rw [split, List.append_nil]
    rw [List.take_of_length_le within] at unread
    refine iff_of_true ?_ (not_cutInLabels before)
    by_cases empty : answers = []
    · rw [failIf_pos (none_answered.mpr empty), keeps_iff packed, empty]
      exact ⟨_, rfl⟩
    · rw [failIf_neg (mt none_answered.mp empty), ok_bind,
        answerLoop_complete maxLabel_le recordType answers [] (by rw [unread, List.append_nil]),
        ok_bind]
      exact keeps_answer packed
  | cons record later =>
    -- The first record behind the others is cut.
    have beyond := next record rfl
    obtain ⟨left, size⟩ := Nat.exists_eq_add_of_le within
    have short : left < record.encode.length := by omega
    have packed_kept : recordType = .txt → ∀ record ∈ kept, record.rtype = RecordType.txt.toU16 →
        ∃ strings, CharacterStrings strings record.rdata := by
      intro requested earlier member
      refine packed requested earlier ?_
      rw [split]
      exact List.mem_append_left _ member
    have nonempty : header.ancount ≠ 0 := by
      rw [ne_eq, none_answered, split]
      simp
    rw [cutInLabels_iff before split size packed_kept, failIf_neg nonempty, ok_bind, split]
    rw [split, size, List.flatMap_append, List.flatMap_cons, List.take_length_add_append,
      List.take_append_of_le_length short.le] at unread
    obtain ⟨fails, stops⟩ := answerLoop_cut maxLabel_le recordType later unread short
    by_cases inLabels : EndsInLabels record left
    · -- The error of the skipper is the whole answer.
      obtain ⟨error, failed⟩ := fails inLabels
      rw [failed, keeps_iff packed_kept, and_iff_right inLabels, not_not]
      split
      · rename_i empty
        exact iff_of_true ⟨error, rfl⟩ empty
      · rename_i found
        exact iff_of_false (fun ran => by cases ran) found
    · rw [stops inLabels, ok_bind]
      exact iff_of_true (keeps_answer packed_kept) fun lost => inLabels lost.1

/-- Two addresses, the second of which belongs to a name that is not compressed. -/
def sampleAnswers : List (ResourceRecord maxLabel) :=
  [sampleRecord 1 [203, 0, 113, 7] (by decide),
    ⟨sampleQuestion.name, sampleQuestion.named, 1, 1, 60, [203, 0, 113, 8], by decide⟩]

/-- A reply that holds both of them. -/
def twoAddresses : Bytes :=
  [0x12, 0x34, 0x81, 0x80, 0, 1, 0, 2, 0, 0, 0, 0, 3, 119, 119, 119, 0, 0, 1, 0, 1] ++
    [0xC0, 12, 0, 1, 0, 1, 0, 0, 0, 60, 0, 4, 203, 0, 113, 7] ++
    [3, 119, 119, 119, 0, 0, 1, 0, 1, 0, 0, 0, 60, 0, 4, 203, 0, 113, 8]

/-- The first bytes of that reply. -/
def cutReply (cut : Nat) : Slice .x64 :=
  ⟨twoAddresses.take cut, by
    rw [List.length_take]
    exact (Nat.min_le_right _ _).trans (by decide)⟩

/-- A cut in the fixed fields of the second address keeps the first. -/
theorem parseResponse_truncated_fixed :
    Keeps .a (wholeBefore 23 sampleAnswers) (parseResponse (cutReply 44) .a) ↔
      ¬ CutInLabels .a 23 sampleAnswers :=
  @parseResponse_truncated .x64 (cutReply 44) .a ⟨0x1234, 0x81, 0x80, 1, 2, 0, 0⟩
    [sampleQuestion] sampleAnswers [] twoAddresses 44 (by unfold Message; decide) (by decide)
    (by decide) (by decide) (fun requested => by cases requested) rfl (by decide) (by decide)

/-- A cut behind two letters of its name loses the first address too. -/
theorem answer_lost_at_cut :
    Message ⟨0x1234, 0x81, 0x80, 1, 2, 0, 0⟩ [sampleQuestion] sampleAnswers [] twoAddresses ∧
    wholeBefore (40 - answersStart [sampleQuestion]) sampleAnswers = sampleAnswers.take 1 ∧
    parseResponse (cutReply 40) .a = .error (.err "unexpected end of name") ∧
    ¬ Keeps .a (wholeBefore (40 - answersStart [sampleQuestion]) sampleAnswers)
      (parseResponse (cutReply 40) .a) := by
  have failed : parseResponse (cutReply 40) .a = .error (.err "unexpected end of name") := by
    decide +kernel
  refine ⟨by unfold Message; decide, rfl, failed, ?_⟩
  -- One text was kept, and the error does not report it.
  rw [failed, keeps_iff fun requested => by cases requested]
  intro kept
  split at kept
  · rename_i empty
    exact absurd empty (by decide +kernel)
  · cases kept

end IpDiscovery.Dns
