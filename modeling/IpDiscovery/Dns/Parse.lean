import IpDiscovery.Dns.Answers

/-! The reply parser as a whole: what it recovers from a message, and what it accepts. -/

namespace IpDiscovery.Dns

variable {target : Target} {data : Slice target} {longest : Nat}

/-- The bytes of a header that the parser looks at. -/
theorem Header.reads {header : Header} {bytes more : Bytes}
    (opened : bytes = header.encode ++ more) :
    index bytes 2 = .ok header.flags ∧ index bytes 3 = .ok header.moreFlags ∧
      bytes.take 2 = u16ToBeBytes header.id ∧
      ∃ q₀ q₁ a₀ a₁, index bytes 4 = .ok q₀ ∧ index bytes 5 = .ok q₁ ∧
        index bytes 6 = .ok a₀ ∧ index bytes 7 = .ok a₁ ∧
        u16FromBeBytes q₀ q₁ = header.qdcount ∧ u16FromBeBytes a₀ a₁ = header.ancount := by
  -- Every field stands at its own offset.
  obtain ⟨i₀, i₁, idBytes, _⟩ := u16ToBeBytes_spelled header.id
  obtain ⟨q₀, q₁, questionBytes, questions⟩ := u16ToBeBytes_spelled header.qdcount
  obtain ⟨a₀, a₁, answerBytes, answers⟩ := u16ToBeBytes_spelled header.ancount
  rw [opened, Header.encode, idBytes, questionBytes, answerBytes]
  exact ⟨rfl, rfl, rfl, q₀, q₁, a₀, a₁, rfl, rfl, rfl, rfl, questions, answers⟩

/-- Any twelve bytes are a header. -/
theorem Header.exists_encode {bytes : Bytes} (long : 12 ≤ bytes.length) :
    ∃ header : Header, bytes = header.encode ++ bytes.drop 12 := by
  -- Three groups of four bytes.
  obtain ⟨i₀, i₁, f₀, f₁, rest, rfl⟩ := split_four (show 4 ≤ bytes.length by omega)
  simp only [List.length_cons] at long
  obtain ⟨q₀, q₁, a₀, a₁, rest, rfl⟩ := split_four (show 4 ≤ rest.length by omega)
  simp only [List.length_cons] at long
  obtain ⟨n₀, n₁, r₀, r₁, rest, rfl⟩ := split_four (show 4 ≤ rest.length by omega)
  refine ⟨⟨u16FromBeBytes i₀ i₁, f₀, f₁, u16FromBeBytes q₀ q₁, u16FromBeBytes a₀ a₁,
    u16FromBeBytes n₀ n₁, u16FromBeBytes r₀ r₁⟩, ?_⟩
  simp [Header.encode]

/-- What a whole parse answers for the texts it has collected. -/
def answer (texts : List String) : Run (List String) :=
  if texts = [] then .error (.err "no matching records found") else .ok texts

/-- Behind a header without an error and its questions, the parser is its answer loop, if any. -/
theorem parseResponse_eq_loop (legal : longest ≤ maxSkipped) {header : Header}
    {questions : List (Question longest)} {unanswered : Bytes}
    (opened : data.bytes = header.encode ++ (questions.flatMap Question.encode ++ unanswered))
    (recordType : RecordType) (clean : header.rcode = 0)
    (asked : header.qdcount.toNat = questions.length) :
    parseResponse data recordType = (do
      failIf (header.ancount = 0) "no answers in response"
      let results ← answerLoop data recordType header.ancount.toNat
        (12 + (questions.flatMap Question.encode).length) []
      answer results) := by
  obtain ⟨_, read₃, _, q₀, q₁, a₀, a₁, read₄, read₅, read₆, read₇, questionCount, answerCount⟩ :=
    Header.reads opened
  have size : 12 ≤ data.length := by
    unfold Slice.length
    rw [opened, List.length_append, Header.encode_length]
    omega
  -- The question section starts right behind the header.
  have unasked : data.bytes.drop 12 = questions.flatMap Question.encode ++ unanswered := by
    rw [opened]
    exact List.drop_left' header.encode_length
  simp only [parseResponse, failIf_neg (show ¬ data.length < 12 by omega), read₃, read₄, read₅,
    read₆, read₇, questionCount, answerCount, ok_bind, asked,
    failIf_neg (show ¬ (header.moreFlags &&& 0x0F ≠ 0) from not_not_intro clean),
    questionLoop_complete legal questions unasked]
  rfl

/-- The parser answers with the texts of the records a message lays out. -/
theorem parseResponse_complete (legal : longest ≤ maxSkipped) {header : Header}
    {questions : List (Question longest)} {answers : List (ResourceRecord longest)} {rest : Bytes}
    (message : Message header questions answers rest data.bytes) (recordType : RecordType)
    (clean : header.rcode = 0) (asked : header.qdcount.toNat = questions.length)
    (answered : header.ancount.toNat = answers.length) (nonempty : answers ≠ []) :
    parseResponse data recordType =
      answer (answers.filterMap (ResourceRecord.text recordType)) := by
  -- The sections follow each other, and each is read where the one before it ends.
  have opened : data.bytes = header.encode ++ (questions.flatMap Question.encode ++
      (answers.flatMap ResourceRecord.encode ++ rest)) := by
    rw [message]
    simp
  have unasked := @drop_part data.bytes header.encode _ 0 (by rw [List.drop_zero, opened])
  rw [Nat.zero_add, Header.encode_length] at unasked
  have positive : header.ancount ≠ 0 := by
    intro zero
    rw [zero] at answered
    exact nonempty (List.length_eq_zero_iff.mp answered.symm)
  rw [parseResponse_eq_loop legal opened recordType clean asked, failIf_neg positive, ok_bind,
    answered, answerLoop_complete legal recordType answers [] (drop_part unasked), ok_bind,
    List.nil_append]

/-- A parse that succeeds has read a header, all its questions, and a run of whole records. -/
theorem parseResponse_sound {recordType : RecordType} {texts : List String}
    (parsed : parseResponse data recordType = .ok texts) :
    ∃ (header : Header) (questions : List (Question maxSkipped))
      (answers : List (ResourceRecord maxSkipped)) (rest : Bytes),
      Message header questions answers rest data.bytes ∧ header.rcode = 0 ∧
      header.qdcount.toNat = questions.length ∧ 0 < header.ancount.toNat ∧
      answers.length ≤ header.ancount.toNat ∧
      (answers.length = header.ancount.toNat ∨
        ∀ (record : ResourceRecord maxSkipped) (more : Bytes), rest ≠ record.encode ++ more) ∧
      texts = answers.filterMap (ResourceRecord.text recordType) ∧ texts ≠ [] := by
  -- Each bind is one read, one guard, or one of the two loops.
  obtain ⟨_, long, parsed⟩ := bind_eq_ok parsed
  have long := failIf_eq_ok long
  obtain ⟨header, opened⟩ := Header.exists_encode (show 12 ≤ data.bytes.length by
    unfold Slice.length at long
    omega)
  obtain ⟨_, read₃, _, q₀, q₁, a₀, a₁, read₄, read₅, read₆, read₇, questionCount, answerCount⟩ :=
    Header.reads opened
  simp only [read₃, read₄, read₅, read₆, read₇, ok_bind, questionCount, answerCount] at parsed
  obtain ⟨_, clean, parsed⟩ := bind_eq_ok parsed
  obtain ⟨_, some_answers, parsed⟩ := bind_eq_ok parsed
  obtain ⟨pos, asked, parsed⟩ := bind_eq_ok parsed
  obtain ⟨results, collected, parsed⟩ := bind_eq_ok parsed
  obtain ⟨questions, count, questionBytes, _⟩ := questionLoop_sound _ (by omega) asked
  obtain ⟨answers, rest, bounded, answerBytes, same, stopped⟩ := answerLoop_sound _ _ collected
  rw [List.nil_append] at same
  split at parsed
  · cases parsed
  · rename_i found
    cases parsed
    refine ⟨header, questions, answers, rest, ?_, not_not.mp (failIf_eq_ok clean), count.symm, ?_,
      bounded, stopped, same, found⟩
    · rw [Message, opened, questionBytes, answerBytes]
      simp
    · -- The answer count was checked not to be zero.
      have positive := failIf_eq_ok some_answers
      apply Nat.pos_of_ne_zero
      intro zero
      exact positive (UInt16.toNat_inj.mp zero)

/--
The parser recovers the answers of every well-formed message, in record order.

Names may be compressed or not, and anything may follow the answers.
-/
theorem parseResponse_wellFormed {header : Header} {questions : List (Question maxLabel)}
    {answers : List (ResourceRecord maxLabel)} {rest : Bytes} {recordType : RecordType}
    (message : Message header questions answers rest data.bytes) (clean : header.rcode = 0)
    (asked : header.qdcount.toNat = questions.length)
    (answered : header.ancount.toNat = answers.length) (nonempty : 1 ≤ answers.length)
    (packed : recordType = .txt → ∀ record ∈ answers, record.rtype = RecordType.txt.toU16 →
      ∃ strings, CharacterStrings strings record.rdata) :
    ∃ texts, List.Forall₂ (Renders recordType) answers texts ∧
      parseResponse data recordType =
        if texts.reduceOption = [] then .error (.err "no matching records found")
        else .ok texts.reduceOption := by
  have some_answers : answers ≠ [] := List.ne_nil_of_length_pos nonempty
  refine ⟨answers.map (ResourceRecord.text recordType), (forall₂_renders_iff packed).mpr rfl, ?_⟩
  rw [parseResponse_complete maxLabel_le message recordType clean asked answered some_answers,
    answer, List.reduceOption, List.filterMap_map]
  rfl

/-- A question for a name of one label. -/
def sampleQuestion : Question maxLabel :=
  ⟨[3, 119, 119, 119, 0], @DomainName.label _ [119, 119, 119] [0] (by decide) (by decide) .root,
    1, 1⟩

/-- A record owned by a compression pointer to the name of the question. -/
def sampleRecord (rtype : UInt16) (rdata : Bytes) (fits : rdata.length < 2 ^ 16) :
    ResourceRecord maxLabel :=
  ⟨[0xC0, 12], .pointer (by decide), rtype, 1, 60, rdata, fits⟩

/-- A reply with an alias and two addresses behind its question, and one byte behind those. -/
def sampleReply : Slice .x64 :=
  ⟨[0x12, 0x34, 0x81, 0x80, 0, 1, 0, 3, 0, 0, 0, 0,
    3, 119, 119, 119, 0, 0, 1, 0, 1,
    0xC0, 12, 0, 5, 0, 1, 0, 0, 0, 60, 0, 2, 0xC0, 12,
    0xC0, 12, 0, 1, 0, 1, 0, 0, 0, 60, 0, 4, 203, 0, 113, 7,
    0xC0, 12, 0, 1, 0, 1, 0, 0, 0, 60, 0, 1, 10, 255], by decide⟩

/-- A reply whose one TXT record holds some character-strings. -/
def txtReply (rdata : Bytes) (fits : 33 + rdata.length ≤ Target.isizeMax .x64) : Slice .x64 :=
  ⟨[0x12, 0x34, 0x81, 0x80, 0, 1, 0, 1, 0, 0, 0, 0, 3, 119, 119, 119, 0, 0, 1, 0, 1] ++
    [0xC0, 12, 0, 16, 0, 1, 0, 0, 0, 60] ++ u16ToBeBytes (UInt16.ofNat rdata.length) ++ rdata, by
    simp only [List.length_append, List.length_cons, List.length_nil, u16ToBeBytes_length]
    omega⟩

/-- The addresses of the sample reply are recovered, and so is a text in two character-strings. -/
theorem parseResponse_wellFormed_alias :
    (∃ texts, List.Forall₂ (Renders .a) [sampleRecord 5 [0xC0, 12] (by decide),
        sampleRecord 1 [203, 0, 113, 7] (by decide), sampleRecord 1 [10] (by decide)] texts ∧
      parseResponse sampleReply .a =
        if texts.reduceOption = [] then .error (.err "no matching records found")
        else .ok texts.reduceOption) ∧
    ∃ texts, List.Forall₂ (Renders .txt) [sampleRecord 16 [2, 49, 46, 1, 50] (by decide)] texts ∧
      parseResponse (txtReply [2, 49, 46, 1, 50] (by decide)) .txt =
        if texts.reduceOption = [] then .error (.err "no matching records found")
        else .ok texts.reduceOption := by
  constructor
  · exact @parseResponse_wellFormed .x64 sampleReply ⟨0x1234, 0x81, 0x80, 1, 3, 0, 0⟩
      [sampleQuestion] _ [255] .a (by unfold Message; decide) (by decide) (by decide) (by decide)
      (by decide) (fun requested => by cases requested)
  · refine @parseResponse_wellFormed .x64 (txtReply [2, 49, 46, 1, 50] (by decide))
      ⟨0x1234, 0x81, 0x80, 1, 1, 0, 0⟩ [sampleQuestion] _ [] .txt (by unfold Message; decide)
      (by decide) (by decide) (by decide) (by decide) ?_
    intro _ record member _
    rw [List.mem_singleton.mp member]
    -- The two character-strings fill the record's data.
    have packed : CharacterStrings ["1.", "2"] _ := .cons (by decide) (.cons (by decide) .nil)
    exact ⟨_, packed⟩

end IpDiscovery.Dns
