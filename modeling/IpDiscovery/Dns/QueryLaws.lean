import IpDiscovery.Dns.Query
import IpDiscovery.Dns.Reply

/-! The query encoder against the reply parser: names decode, are skipped, and can be echoed. -/

namespace IpDiscovery.Dns

/-! ## Texts -/

/-- Different texts have different bytes. -/
theorem utf8_injective {left right : String} (same : utf8 left = utf8 right) : left = right := by
  -- Reading the bytes gives the text back.
  have read := fromUtf8_utf8 left
  rw [same, fromUtf8_utf8] at read
  exact (Option.some.inj read).symm

/-- A text has bytes exactly if it is not empty. -/
theorem utf8_length_pos (text : String) : 0 < (utf8 text).length ↔ text.isEmpty = false := by
  -- Both sides compare the number of bytes with zero.
  have size : (utf8 text).length = text.utf8ByteSize := rfl
  simp [size, String.isEmpty, Nat.pos_iff_ne_zero]

/-! ## Names -/

/-- What one label of a name may be. -/
def IsLabel (label : Bytes) : Prop := 0 < label.length ∧ label.length ≤ maxLabel

/-- An uncompressed name: its labels, then the empty label of the root. -/
def encodeName (labels : List Bytes) : Bytes := labels.flatMap encodeLabel ++ [0]

/-- The labels of an uncompressed name that opens a byte string, and what is left behind it. -/
def decodeName : Bytes → Option (List Bytes × Bytes)
  | [] => none
  | len :: rest =>
    -- The root ends the name, and neither pointers nor reserved tags are followed.
    if len = 0 then some ([], rest)
    else if len &&& 0xC0 ≠ 0 then none
    else if len.toNat ≤ rest.length then
      (decodeName (rest.drop len.toNat)).map fun tail => (rest.take len.toNat :: tail.1, tail.2)
    else none
termination_by bytes => bytes.length
decreasing_by
  simp only [List.length_drop, List.length_cons]
  omega

/-- The bytes whose top two bits are clear are those up to the longest label. -/
theorem plain_iff (byte : UInt8) : byte &&& 0xC0 = 0 ↔ byte.toNat ≤ maxLabel := by
  -- The two top bits are clear in exactly the first quarter of the byte's values.
  have table : ∀ value < 256, (value &&& 192 = 0 ↔ value ≤ 63) := by decide +kernel
  rw [← UInt8.toNat_inj, UInt8.toNat_and]
  exact table byte.toNat byte.toNat_lt

/-- The byte that counts a label has its top two bits clear. -/
theorem IsLabel.plain {label : Bytes} (legal : IsLabel label) :
    UInt8.ofNat label.length &&& 0xC0 = 0 := by
  obtain ⟨nonempty, short⟩ := legal
  -- A label is shorter than 256 bytes, so its length survives in the byte.
  obtain ⟨value, _, _⟩ := label_byte nonempty (short.trans maxLabel_le)
  rw [plain_iff, value]
  exact short

/-- Decoding a name gives back its labels, and what follows it. -/
theorem decodeName_encodeName {labels : List Bytes} (legal : ∀ label ∈ labels, IsLabel label)
    (rest : Bytes) : decodeName (encodeName labels ++ rest) = some (labels, rest) := by
  -- The induction takes one label off the front.
  induction labels with
  | nil =>
    change decodeName (0 :: rest) = _
    rw [decodeName, if_pos rfl]
  | cons label labels ih =>
    rw [List.forall_mem_cons] at legal
    obtain ⟨here, later⟩ := legal
    obtain ⟨value, _, notRoot⟩ := label_byte here.1 (here.2.trans maxLabel_le)
    have opened : encodeName (label :: labels) ++ rest =
        UInt8.ofNat label.length :: (label ++ (encodeName labels ++ rest)) := by
      simp [encodeName, encodeLabel]
    rw [opened, decodeName, if_neg notRoot, if_neg (not_not_intro here.plain), value,
      if_pos (by rw [List.length_append]; omega), List.take_left, List.drop_left, ih later]
    rfl

/-- Names of different labels are different. -/
theorem encodeName_injective {left right : List Bytes} {moreLeft moreRight : Bytes}
    (legalLeft : ∀ label ∈ left, IsLabel label) (legalRight : ∀ label ∈ right, IsLabel label)
    (same : encodeName left ++ moreLeft = encodeName right ++ moreRight) : left = right := by
  -- Both sides are decoded.
  have decoded := decodeName_encodeName legalLeft moreLeft
  rw [same, decodeName_encodeName legalRight] at decoded
  cases decoded
  rfl

/-- An encoded name is one the reply parser knows. -/
theorem encodeName_named {labels : List Bytes} (legal : ∀ label ∈ labels, IsLabel label) :
    DomainName maxLabel (encodeName labels) := by
  -- Each label is one constructor of the name.
  induction labels with
  | nil => exact .root
  | cons label labels ih =>
    rw [List.forall_mem_cons] at legal
    obtain ⟨⟨nonempty, short⟩, later⟩ := legal
    have shape : encodeName (label :: labels) =
        UInt8.ofNat label.length :: (label ++ encodeName labels) := by
      simp [encodeName, encodeLabel]
    rw [shape]
    exact .label nonempty short (ih later)

/-! ## Encoding -/

/-- The dot-separated labels of a domain without its trailing dots. -/
def queryLabels (domain : String) : List String := splitChar '.' (trimEndMatches '.' domain)

/-- The name a query for a domain asks for. -/
def queryName (domain : String) : Bytes := encodeName ((queryLabels domain).map utf8)

/-- The label loop accepts legal labels, writes each behind its length, and counts the bytes. -/
theorem labelLoop_eq_ok_iff (labels : List String) :
    ∀ {packet out : Bytes} {totalLen outLen : Nat},
      labelLoop labels packet totalLen = .ok (out, outLen) ↔
        (∀ label ∈ labels, IsLabel (utf8 label)) ∧
        out = packet ++ (labels.map utf8).flatMap encodeLabel ∧
        outLen = totalLen + ((labels.map utf8).flatMap encodeLabel).length := by
  induction labels with
  | nil =>
    intro packet out totalLen outLen
    simp [labelLoop, eq_comm]
  | cons label labels ih =>
    intro packet out totalLen outLen
    by_cases legal : IsLabel (utf8 label)
    · -- Both checks pass, and the loop goes on behind the label.
      have nonempty := (utf8_length_pos label).mp legal.1
      have short : ¬ (utf8 label).length > 63 := Nat.not_lt.mpr legal.2
      rw [labelLoop, nonempty, failIf_neg Bool.false_ne_true, ok_bind]
      dsimp only
      rw [failIf_neg short, ok_bind, ih, List.forall_mem_cons]
      simp only [legal, true_and, List.map_cons, List.flatMap_cons, encodeLabel, List.length_append,
        List.length_cons, List.append_assoc, List.cons_append]
      constructor
      · rintro ⟨later, written, counted⟩
        exact ⟨later, written, by omega⟩
      · rintro ⟨later, written, counted⟩
        exact ⟨later, written, by omega⟩
    · -- A label that is empty or too long ends the loop.
      constructor
      · intro ran
        obtain ⟨_, nonempty, ran⟩ := bind_eq_ok ran
        obtain ⟨_, short, ran⟩ := bind_eq_ok ran
        refine absurd ⟨?_, Nat.not_lt.mp (failIf_eq_ok short)⟩ legal
        exact (utf8_length_pos label).mpr (Bool.not_eq_true _ ▸ failIf_eq_ok nonempty)
      · rintro ⟨all, _, _⟩
        exact absurd (all label List.mem_cons_self) legal

/--
A query is built exactly for a domain of legal labels whose name takes at most 253 bytes.

It is a header, that name, and the type and class of the question.
-/
theorem buildQuery_eq_ok_iff {filled : Except String (Octets 2)} {domain : String}
    {recordType : RecordType} {dnsClass : DnsClass} {packet : Bytes} :
    buildQuery filled domain recordType dnsClass = .ok packet ↔
      ∃ idBytes, filled = .ok idBytes ∧
        (∀ label ∈ queryLabels domain, IsLabel (utf8 label)) ∧
        (queryName domain).length ≤ 253 ∧
        packet = queryHeader idBytes ++ queryName domain ++ u16ToBeBytes recordType.toU16 ++
          u16ToBeBytes dnsClass.toU16 := by
  -- The final zero byte is the root's, and the length counts it too.
  have size : (queryName domain).length =
      (((queryLabels domain).map utf8).flatMap encodeLabel).length + 1 := by
    simp [queryName, encodeName]
  constructor
  · intro built
    cases filled with
    | error error => cases built
    | ok idBytes =>
      simp only [buildQuery, Except.mapError, mapErr_ok, ok_bind] at built
      -- The loop has run to its end, and the length check has passed.
      obtain ⟨⟨front, totalLen⟩, looped, built⟩ := bind_eq_ok built
      dsimp only at built
      obtain ⟨_, short, built⟩ := bind_eq_ok built
      have short := failIf_eq_ok short
      obtain ⟨legal, written, counted⟩ := (labelLoop_eq_ok_iff _).mp looped
      cases built
      refine ⟨idBytes, rfl, legal, ?_, ?_⟩
      · unfold queryLabels at size
        omega
      · rw [written]
        simp [queryName, encodeName, queryLabels]
  · rintro ⟨idBytes, rfl, legal, short, rfl⟩
    -- What the loop writes and counts starts from the header and from zero.
    have looped := (labelLoop_eq_ok_iff (queryLabels domain)).mpr
      ⟨legal, Eq.refl (queryHeader idBytes ++ _), Eq.refl (0 + _)⟩
    unfold queryLabels at looped size
    simp only [buildQuery, Except.mapError, mapErr_ok, ok_bind, looped]
    rw [failIf_neg (by omega), ok_bind]
    simp [queryName, encodeName, queryLabels]
    rfl

/-- A query header has the length of every header. -/
@[simp] theorem queryHeader_length (idBytes : Octets 2) : (queryHeader idBytes).length = 12 := by
  simp [queryHeader, idBytes.sized]

/-- Nothing but the ID tells one query header from another. -/
theorem queryHeader_drop (idBytes : Octets 2) (more : Bytes) :
    (queryHeader idBytes ++ more).drop 2 = [1, 0, 0, 1, 0, 0, 0, 0, 0, 0] ++ more := by
  rw [queryHeader, List.append_assoc, List.append_assoc, List.drop_left' idBytes.sized]
  rfl

/-- Two domains have the same labels exactly when they agree but for their trailing dots. -/
theorem queryLabels_inj {left right : String} :
    queryLabels left = queryLabels right ↔ trimEndMatches '.' left = trimEndMatches '.' right := by
  constructor
  · intro same
    -- Joining the pieces at the dots gives the text back.
    have pieces := congrArg (List.map String.toList) same
    simp only [queryLabels, splitChar, List.map_map, Function.comp_def, String.toList_ofList,
      List.map_id'] at pieces
    have joined := congrArg (List.intercalate ['.']) pieces
    rw [List.intercalate_splitOn, List.intercalate_splitOn] at joined
    exact String.toList_inj.mp joined
  · intro same
    rw [queryLabels, queryLabels, same]

/-! ## Echoes -/

/-- A query turned into a response with an answer count, as a server echoes it. -/
def responseFor (query : Bytes) (flags moreFlags : UInt8) (ancount : UInt16) : Bytes :=
  (((query.set 2 flags).set 3 moreFlags).set 6 (UInt8.ofNat (ancount.toNat / 256))).set 7
    (UInt8.ofNat (ancount.toNat % 256))

/-- An echoed query opens with the header of a response to its one question. -/
theorem responseFor_query (idBytes : Octets 2) (more : Bytes) (flags moreFlags : UInt8)
    (ancount : UInt16) :
    ∃ id, u16ToBeBytes id = idBytes.bytes ∧
      responseFor (queryHeader idBytes ++ more) flags moreFlags ancount =
        (Header.mk id flags moreFlags 1 ancount 0 0).encode ++ more := by
  obtain ⟨i₀, i₁, spelled⟩ := List.length_eq_two.mp idBytes.sized
  refine ⟨u16FromBeBytes i₀ i₁, by rw [spelled, u16ToBeBytes_fromBeBytes], ?_⟩
  rw [Header.encode, u16ToBeBytes_fromBeBytes]
  simp [responseFor, queryHeader, spelled, u16ToBeBytes]

/-- An untruncated echo with whole answers behind it is valid, and its answers are parsed. -/
theorem responseFor_parses {target : Target} {data : Slice target} {idBytes : Octets 2}
    {question : Question maxLabel} {packet : Bytes} {flags moreFlags : UInt8} {ancount : UInt16}
    {answers : List (ResourceRecord maxLabel)} {rest : Bytes}
    (asked : packet = queryHeader idBytes ++ question.encode) (answering : flags &&& 0x80 ≠ 0)
    (whole : flags &&& 0x02 = 0) (clean : moreFlags &&& 0x0F = 0)
    (counted : ancount.toNat = answers.length) (nonempty : answers ≠ [])
    (echoed : data.bytes = responseFor packet flags moreFlags ancount ++
      answers.flatMap ResourceRecord.encode ++ rest) (requested : RecordType) :
    validateResponse packet data.bytes = .ok () ∧ questionLoop data 1 12 = .ok packet.length ∧
      data.bytes.drop packet.length = answers.flatMap ResourceRecord.encode ++ rest ∧
      parseResponse data requested =
        (answerLoop data requested answers.length packet.length [] >>= answer) := by
  obtain ⟨id, identified, opening⟩ :=
    responseFor_query idBytes question.encode flags moreFlags ancount
  rw [← asked] at opening
  let header := Header.mk id flags moreFlags 1 ancount 0 0
  have size : packet.length = 12 + ([question].flatMap Question.encode).length := by
    simp [asked]
  have message : Message header [question] answers rest data.bytes := by
    rw [Message, echoed, opening]
    simp [header]
  -- Header, question and answers are cut apart from the front.
  have opened : data.bytes = header.encode ++ ([question].flatMap Question.encode ++
      (answers.flatMap ResourceRecord.encode ++ rest)) := by
    rw [message]
    simp
  have unasked : data.bytes.drop 12 = [question].flatMap Question.encode ++
      (answers.flatMap ResourceRecord.encode ++ rest) := by
    rw [opened]
    exact List.drop_left' header.encode_length
  have unanswered : data.bytes.drop packet.length =
      answers.flatMap ResourceRecord.encode ++ rest := by
    rw [size]
    exact drop_part unasked
  -- The ID is the query's own.
  have own : packet.take 2 = u16ToBeBytes header.id := by
    rw [asked, identified, queryHeader]
    simp only [List.append_assoc]
    exact List.take_left' idBytes.sized
  refine ⟨validateResponse_complete opened (by omega) own answering whole, ?_, unanswered, ?_⟩
  · rw [size]
    exact questionLoop_complete maxLabel_le [question] unasked
  · -- The whole parse and the loop from the first record collect the same texts.
    rw [parseResponse_complete maxLabel_le message requested clean rfl counted nonempty,
      answerLoop_complete maxLabel_le requested answers [] unanswered, List.nil_append, ok_bind]

/-! ## Queries and responses -/

/--
The query encoder and the response parser agree on names.

A built packet is a header, the name of the domain's labels, and the fields of the question. Its
name decodes to these labels, is skipped as a whole, and tells apart all domains that differ in
more than trailing dots. An untruncated echo with whole answers behind it is valid, and its answers
are parsed from the first one on.
-/
theorem buildQuery_agrees {filled : Except String (Octets 2)} {domain : String}
    {recordType : RecordType} {dnsClass : DnsClass} {packet : Bytes}
    (built : buildQuery filled domain recordType dnsClass = .ok packet) :
    (∃ idBytes totalLen, filled = .ok idBytes ∧ (queryHeader idBytes).length = 12 ∧
      packet = queryHeader idBytes ++ queryName domain ++ u16ToBeBytes recordType.toU16 ++
        u16ToBeBytes dnsClass.toU16 ∧
      labelLoop (queryLabels domain) (queryHeader idBytes) 0 =
        .ok (queryHeader idBytes ++ ((queryLabels domain).map utf8).flatMap encodeLabel, totalLen) ∧
      totalLen + 1 = (queryName domain).length) ∧
    packet.length ≤ 269 ∧
    decodeName (packet.drop 12) =
      some ((queryLabels domain).map utf8,
        u16ToBeBytes recordType.toU16 ++ u16ToBeBytes dnsClass.toU16) ∧
    (∀ label ∈ queryLabels domain, UInt8.ofNat (utf8 label).length &&& 0xC0 = 0) ∧
    (∀ (target : Target) (data : Slice target), data.bytes = packet →
      skipName data 12 = .ok (packet.length - 4)) ∧
    (∀ other otherFilled otherPacket,
      buildQuery otherFilled other recordType dnsClass = .ok otherPacket →
        (packet.drop 2 = otherPacket.drop 2 ↔
          trimEndMatches '.' domain = trimEndMatches '.' other)) ∧
    ∀ (target : Target) (data : Slice target) (flags moreFlags : UInt8) (ancount : UInt16)
      (answers : List (ResourceRecord maxLabel)) (rest : Bytes) (requested : RecordType),
      flags &&& 0x80 ≠ 0 → flags &&& 0x02 = 0 → moreFlags &&& 0x0F = 0 →
      ancount.toNat = answers.length → answers ≠ [] →
      data.bytes = responseFor packet flags moreFlags ancount ++
        answers.flatMap ResourceRecord.encode ++ rest →
      validateResponse packet data.bytes = .ok () ∧
        questionLoop data 1 12 = .ok packet.length ∧
        data.bytes.drop packet.length = answers.flatMap ResourceRecord.encode ++ rest ∧
        parseResponse data requested =
          (answerLoop data requested answers.length packet.length [] >>= answer) := by
  obtain ⟨idBytes, rfl, legal, short, shape⟩ := buildQuery_eq_ok_iff.mp built
  have legalBytes : ∀ label ∈ (queryLabels domain).map utf8, IsLabel label := by
    simpa using legal
  -- What the packet asks is a question that the reply parser knows.
  let question : Question maxLabel :=
    ⟨queryName domain, encodeName_named legalBytes, recordType.toU16, dnsClass.toU16⟩
  have asked : packet = queryHeader idBytes ++ question.encode := by
    rw [shape]
    simp [Question.encode, question]
  have behind : packet.drop 12 = queryName domain ++
      (u16ToBeBytes recordType.toU16 ++ u16ToBeBytes dnsClass.toU16) := by
    rw [shape, List.append_assoc, List.append_assoc]
    exact List.drop_left' (queryHeader_length idBytes)
  have size : packet.length = (queryName domain).length + 16 := by
    rw [shape]
    simp
    omega
  have counted : (((queryLabels domain).map utf8).flatMap encodeLabel).length + 1 =
      (queryName domain).length := by
    simp [queryName, encodeName]
  refine ⟨⟨idBytes, _, rfl, queryHeader_length idBytes, shape,
    (labelLoop_eq_ok_iff _).mpr ⟨legal, rfl, rfl⟩, ?_⟩, by omega, ?_, ?_, ?_, ?_, ?_⟩
  · rw [Nat.zero_add]
    exact counted
  · rw [behind]
    exact decodeName_encodeName legalBytes _
  · intro label member
    exact (legal label member).plain
  · intro target data same
    have unread : data.bytes.drop 12 = queryName domain ++
        (u16ToBeBytes recordType.toU16 ++ u16ToBeBytes dnsClass.toU16) := by
      rw [same, behind]
    rw [skipName_complete maxLabel_le (encodeName_named legalBytes) unread, size, Except.ok.injEq]
    unfold queryName
    omega
  · intro other otherFilled otherPacket otherBuilt
    obtain ⟨otherId, rfl, otherLegal, _, otherShape⟩ := buildQuery_eq_ok_iff.mp otherBuilt
    -- Behind the IDs the packets differ in their names alone.
    rw [shape, otherShape, ← queryLabels_inj]
    simp only [List.append_assoc, queryHeader_drop, List.append_cancel_left_eq]
    constructor
    · intro same
      exact List.map_injective_iff.mpr (fun _ _ => utf8_injective)
        (encodeName_injective legalBytes (by simpa using otherLegal) same)
    · intro same
      rw [queryName, queryName, same]
  · intro target data flags moreFlags ancount answers rest requested answering whole clean counted
      nonempty echoed
    exact responseFor_parses asked answering whole clean counted nonempty echoed requested

/-- A query for the name that the sample reply answers. -/
def sampleQuery (id₀ id₁ : UInt8) : Bytes :=
  [id₀, id₁, 1, 0, 0, 1, 0, 0, 0, 0, 0, 0, 3, 119, 119, 119, 0, 0, 1, 0, 1]

/-- The sample reply is an echo of the query for its name, with three records behind it. -/
theorem buildQuery_agrees_www :
    skipName (⟨sampleQuery 0x12 0x34, by decide⟩ : Slice .x64) 12 = .ok 17 ∧
    trimEndMatches '.' "www." = trimEndMatches '.' "www" ∧
    parseResponse sampleReply .a = (answerLoop sampleReply .a 3 21 [] >>= answer) := by
  obtain ⟨_, _, _, _, skipped, apart, echoed⟩ :=
    @buildQuery_agrees (.ok ⟨[0x12, 0x34], rfl⟩) "www." .a .in (sampleQuery 0x12 0x34)
      (by decide +kernel)
  -- Each part is one consequence of the agreement, on a concrete slice, domain or reply.
  refine ⟨skipped .x64 ⟨sampleQuery 0x12 0x34, by decide⟩ rfl, ?_, ?_⟩
  · exact (apart "www" (.ok ⟨[0x56, 0x78], rfl⟩) (sampleQuery 0x56 0x78)
      (by decide +kernel)).mp rfl
  · exact (echoed .x64 sampleReply 0x81 0x80 3
      [sampleRecord 5 [0xC0, 12] (by decide), sampleRecord 1 [203, 0, 113, 7] (by decide),
        sampleRecord 1 [10] (by decide)] [255] .a (by decide) (by decide) (by decide) rfl
      (by simp) (by decide)).2.2.2

end IpDiscovery.Dns
