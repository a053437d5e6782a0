import IpDiscovery.AddrTextLaws
import IpDiscovery.Dns.Parse
import IpDiscovery.Dns.Provider

/-! What an accepted DNS reply must look like, and where its address comes from. -/

namespace IpDiscovery.Dns

/-! ## Tokens -/

/-- No character of an address separates tokens or ends a part. -/
theorem addrChar_inert {char : Char} (written : IsAddrChar char) :
    isWhitespace char = false ∧ char ≠ '/' := by
  -- Digits, letters up to f, dots and colons all lie between the blank and the other spaces.
  rcases written with digit | dot | colon
  · have range : 48 ≤ char.toNat ∧ char.toNat ≤ 102 := by
      simp only [isDigitOf, toDigit, Option.isSome_ite, Char.le_def,
        UInt32.le_iff_toNat_le] at digit
      split_ifs at digit with decimal lower upper
      · change 48 ≤ char.toNat ∧ char.toNat ≤ 57 at decimal
        omega
      · change 97 ≤ char.toNat ∧ char.toNat ≤ 122 at lower
        change char.toNat - 97 + 10 < 16 at digit
        omega
      · change 65 ≤ char.toNat ∧ char.toNat ≤ 90 at upper
        omega
      · exact absurd digit (Nat.lt_irrefl 16)
    constructor
    · simp [isWhitespace]
      omega
    · intro slash
      subst slash
      revert range
      decide
  · subst dot
    decide
  · subst colon
    decide

/-- The text of an address is one token. -/
theorem splitWhitespace_display (ip : IpAddr) : splitWhitespace ip.display = [ip.display] := by
  -- There is nothing to split at.
  have unsplit : ip.write.splitOnP isWhitespace = [ip.write] :=
    List.splitOnP_eq_singleton fun char member => (addrChar_inert (ip.write_addrChar char member)).1
  rw [splitWhitespace, IpAddr.display, String.toList_ofList, unsplit]
  simp [IpAddr.write_ne_nil]

/-- The text of an address holds no slash. -/
theorem beforeSlash_display (ip : IpAddr) : beforeSlash ip.display = ip.display := by
  rw [beforeSlash, IpAddr.display, String.toList_ofList]
  congr 1
  rw [List.takeWhile_eq_self_iff]
  intro char member
  simpa using (addrChar_inert (ip.write_addrChar char member)).2

/-- A part is accepted exactly when it opens with an address of the requested family. -/
theorem acceptPart_eq_some {version : IpVersion} {part : String} {ip : IpAddr} :
    acceptPart version part = some ip ↔
      IpAddr.fromStr (beforeSlash part) = some ip ∧ version.matches ip = true := by
  unfold acceptPart
  -- A readable part is accepted by the family it has.
  cases read : IpAddr.fromStr (beforeSlash part) with
  | none => simp
  | some found =>
    cases version with
    | v4 => simp [IpVersion.matches]; grind
    | v6 => simp [IpVersion.matches]; grind
    | any => simp [IpVersion.matches]

/-- An extracted address opens a token of some result. -/
theorem extractIp_sound {provider : DnsProvider} {results : List String} {version : IpVersion}
    {ip : IpAddr} (extracted : provider.extractIp results version = .ok ip) :
    version.matches ip = true ∧ ∃ result ∈ results, ∃ token ∈ splitWhitespace result,
      IpAddr.fromStr (beforeSlash token) = some ip := by
  -- The outer search has found a result, and the inner one a token in it.
  obtain ⟨result, member, found⟩ := List.exists_of_findSome?_eq_some (okOr_eq_ok extracted)
  obtain ⟨token, inside, accepted⟩ := List.exists_of_findSome?_eq_some found
  obtain ⟨read, family⟩ := acceptPart_eq_some.mp accepted
  exact ⟨family, result, member, token, inside, read⟩

/-- The text of an acceptable address that leads the results is extracted. -/
theorem extractIp_display {version : IpVersion} {ip : IpAddr}
    (family : version.matches ip = true) (provider : DnsProvider) (more : List String) :
    provider.extractIp (ip.display :: more) version = .ok ip := by
  have accepted : acceptPart version ip.display = some ip := by
    rw [acceptPart_eq_some, beforeSlash_display]
    exact ⟨ip.fromStr_display, family⟩
  simp [DnsProvider.extractIp, splitWhitespace_display, accepted]

/-! ## Replies -/

/-- The length of the data of an address record. -/
def addressLength : IpVersion → Nat
  | .v6 => 16
  | _ => 4

/-- Whether a record holds an address of the type a version asks for. -/
def HoldsAddress {longest : Nat} (provider : DnsProvider) (version : IpVersion)
    (record : ResourceRecord longest) : Bool :=
  record.rtype == (provider.selectRecordType version).toU16 &&
    record.rdata.length == addressLength version

/-- Where the address of a reply comes from. -/
def ComesFrom {longest : Nat} (provider : DnsProvider) (version : IpVersion)
    (answers : List (ResourceRecord longest)) (ip : IpAddr) : Prop :=
  match provider.recordType with
  | .address =>
    ∃ record, answers.find? (HoldsAddress provider version) = some record ∧
      ip.octets = record.rdata
  | .txt =>
    ∃ record ∈ answers, record.rtype = RecordType.txt.toU16 ∧
      ∃ token ∈ splitWhitespace (txtText record.rdata), IpAddr.fromStr (beforeSlash token) = some ip

/-- A validated reply answers the query, is a response, and is not truncated. -/
theorem validateResponse_sound {query response : Bytes} {header : Header} {more : Bytes}
    (opened : response = header.encode ++ more) (valid : validateResponse query response = .ok ()) :
    2 ≤ query.length ∧ query.take 2 = u16ToBeBytes header.id ∧ header.flags &&& 0x80 ≠ 0 ∧
      header.flags &&& 0x02 = 0 := by
  obtain ⟨read₂, _, identified, _⟩ := Header.reads opened
  -- Each bind is one guard or one read.
  obtain ⟨_, long, valid⟩ := bind_eq_ok valid
  have long := failIf_eq_ok long
  obtain ⟨mine, own, valid⟩ := bind_eq_ok valid
  obtain ⟨theirs, other, valid⟩ := bind_eq_ok valid
  obtain ⟨_, same, valid⟩ := bind_eq_ok valid
  obtain ⟨flags, read, valid⟩ := bind_eq_ok valid
  obtain ⟨_, answering, valid⟩ := bind_eq_ok valid
  obtain ⟨again, reread, valid⟩ := bind_eq_ok valid
  rw [read₂] at read reread
  cases read
  cases reread
  have sameId := not_not.mp (failIf_eq_ok same)
  obtain ⟨_, _, mineBytes⟩ := slice_eq_ok own
  obtain ⟨_, _, theirBytes⟩ := slice_eq_ok other
  have ids : response.take 2 = query.take 2 := by simpa [mineBytes, theirBytes] using sameId
  exact ⟨by omega, by rw [← ids, identified], failIf_eq_ok answering,
    not_not.mp (failIf_eq_ok valid)⟩

/-- An untruncated response with the ID of the query is valid. -/
theorem validateResponse_complete {query response : Bytes} {header : Header} {more : Bytes}
    (opened : response = header.encode ++ more) (long : 2 ≤ query.length)
    (identified : query.take 2 = u16ToBeBytes header.id) (answering : header.flags &&& 0x80 ≠ 0)
    (whole : header.flags &&& 0x02 = 0) : validateResponse query response = .ok () := by
  obtain ⟨read₂, _, opening, _⟩ := Header.reads opened
  have size : 12 ≤ response.length := by
    rw [opened, List.length_append, Header.encode_length]
    omega
  -- Every guard is passed in turn.
  unfold validateResponse
  rw [failIf_neg (by omega), slice_inside (by omega) (show 2 ≤ response.length by omega),
    slice_inside (by omega) long, read₂]
  simp only [ok_bind, List.drop_zero, Nat.sub_zero, opening, identified]
  rw [failIf_neg (not_not_intro rfl), ok_bind, failIf_neg answering, ok_bind,
    failIf_neg (not_not_intro whole)]

section Address

variable {longest : Nat} {provider : DnsProvider} (kind : provider.recordType = .address)
  (version : IpVersion)
include kind

/-- An address provider asks for AAAA records on IPv6 alone. -/
theorem selectRecordType_address :
    provider.selectRecordType version = if version = .v6 then .aaaa else .a := by
  cases version <;> simp [DnsProvider.selectRecordType, kind]

/-- A record without an address of the right length is passed over. -/
theorem text_eq_none {record : ResourceRecord longest}
    (without : HoldsAddress provider version record = false) :
    record.text (provider.selectRecordType version) = none := by
  unfold HoldsAddress at without
  unfold ResourceRecord.text
  rw [selectRecordType_address kind] at without ⊢
  -- A record of another type is passed over as well.
  by_cases typed : record.rtype = (if version = .v6 then RecordType.aaaa else .a).toU16
  · have wrong : record.rdata.length ≠ addressLength version := by simpa [typed] using without
    rw [if_pos typed]
    cases version with
    | v4 => exact congrArg (Option.map _) (Octets.ofBytes?_wrong wrong)
    | v6 => exact congrArg (Option.map _) (Octets.ofBytes?_wrong wrong)
    | any => exact congrArg (Option.map _) (Octets.ofBytes?_wrong wrong)
  · rw [if_neg typed]

/-- A record with an address of the right length renders as that address. -/
theorem text_eq_display {record : ResourceRecord longest}
    (holds : HoldsAddress provider version record = true) :
    ∃ ip : IpAddr, ip.octets = record.rdata ∧ version.matches ip = true ∧
      record.text (provider.selectRecordType version) = some ip.display := by
  unfold HoldsAddress at holds
  unfold ResourceRecord.text
  rw [selectRecordType_address kind] at holds ⊢
  rw [Bool.and_eq_true, beq_iff_eq, beq_iff_eq] at holds
  -- The type and the length are checked, so the data is that of an address.
  obtain ⟨typed, sized⟩ := holds
  rw [if_pos typed]
  cases version with
  | v4 =>
    exact ⟨.v4 ⟨_, sized⟩, rfl, rfl, congrArg (Option.map _) (Octets.ofBytes?_sized sized)⟩
  | v6 =>
    exact ⟨.v6 ⟨_, sized⟩, rfl, rfl, congrArg (Option.map _) (Octets.ofBytes?_sized sized)⟩
  | any =>
    exact ⟨.v4 ⟨_, sized⟩, rfl, rfl, congrArg (Option.map _) (Octets.ofBytes?_sized sized)⟩

/-- Rendered answers lead with the address of the first record that holds one. -/
theorem extractIp_texts {answers : List (ResourceRecord longest)}
    (found : answers.filterMap (ResourceRecord.text (provider.selectRecordType version)) ≠ []) :
    ∃ ip record, answers.find? (HoldsAddress provider version) = some record ∧
      ip.octets = record.rdata ∧ version.matches ip = true ∧
      provider.extractIp
        (answers.filterMap (ResourceRecord.text (provider.selectRecordType version))) version =
          .ok ip := by
  -- The induction passes over the records without an address.
  induction answers with
  | nil => exact absurd rfl found
  | cons record answers ih =>
    cases holds : HoldsAddress provider version record with
    | false =>
      have passed := text_eq_none kind version holds
      simp only [List.filterMap_cons, passed, List.find?_cons, holds] at found ⊢
      exact ih found
    | true =>
      obtain ⟨ip, octets, family, rendered⟩ := text_eq_display kind version holds
      refine ⟨ip, record, by simp [holds], octets, family, ?_⟩
      rw [List.filterMap_cons, rendered]
      exact extractIp_display family provider _

end Address

/--
The reply pipeline is sound for every datagram, and complete for address providers.

What it accepts is an untruncated response to the query, and its address lies in the data of an
answer record of the selected type inside the datagram.
-/
theorem receive_sound {target : Target} (provider : DnsProvider) (version : IpVersion)
    (query : Bytes) (data : Slice target) :
    (∀ ip, provider.receive query data version = .ok ip →
      ∃ (header : Header) (questions : List (Question maxSkipped))
        (answers : List (ResourceRecord maxSkipped)) (rest : Bytes),
        Message header questions answers rest data.bytes ∧
        query.take 2 = u16ToBeBytes header.id ∧ header.flags &&& 0x80 ≠ 0 ∧
        header.flags &&& 0x02 = 0 ∧ header.rcode = 0 ∧
        header.qdcount.toNat = questions.length ∧ 1 ≤ header.ancount.toNat ∧
        answers.length ≤ header.ancount.toNat ∧
        (answers.length = header.ancount.toNat ∨
          ∀ (record : ResourceRecord maxSkipped) (more : Bytes), rest ≠ record.encode ++ more) ∧
        version.matches ip = true ∧ ComesFrom provider version answers ip) ∧
    (provider.recordType = .address → validateResponse query data.bytes = .ok () →
      ∀ texts, parseResponse data (provider.selectRecordType version) = .ok texts →
        ∃ ip, provider.receive query data version = .ok ip) := by
  constructor
  · intro ip accepted
    obtain ⟨_, valid, accepted⟩ := bind_eq_ok accepted
    obtain ⟨texts, parsed, extracted⟩ := bind_eq_ok accepted
    -- Validation, parsing and extraction have all succeeded.
    obtain ⟨header, questions, answers, rest, message, clean, asked, answered, bounded, stopped,
      rendered, found⟩ := parseResponse_sound (mapErr_eq_ok.mp parsed)
    have opened : data.bytes = header.encode ++ (questions.flatMap Question.encode ++
        (answers.flatMap ResourceRecord.encode ++ rest)) := by
      rw [message]
      simp
    obtain ⟨_, identified, response, whole⟩ :=
      validateResponse_sound opened (mapErr_eq_ok.mp valid)
    obtain ⟨family, result, member, token, inside, read⟩ := extractIp_sound extracted
    refine ⟨header, questions, answers, rest, message, identified, response, whole, clean, asked,
      answered, bounded, stopped, family, ?_⟩
    subst rendered
    unfold ComesFrom
    cases kind : provider.recordType with
    | address =>
      -- The first record with an address decides, whatever the others hold.
      obtain ⟨first, record, leads, octets, _, decided⟩ := extractIp_texts kind version found
      rw [decided] at extracted
      cases extracted
      exact ⟨record, leads, octets⟩
    | txt =>
      obtain ⟨record, among, text⟩ := List.mem_filterMap.mp member
      simp only [ResourceRecord.text, DnsProvider.selectRecordType, kind] at text
      split at text
      · rename_i typed
        unfold nonEmpty at text
        split at text
        · cases text
        · cases text
          exact ⟨record, among, typed, token, inside, read⟩
      · cases text
  · -- The first text is an address of the requested family.
    intro kind valid texts parsed
    obtain ⟨_, _, _, _, _, _, _, _, _, _, rendered, found⟩ := parseResponse_sound parsed
    subst rendered
    obtain ⟨ip, _, _, _, _, decided⟩ := extractIp_texts kind version found
    refine ⟨ip, ?_⟩
    simp only [DnsProvider.receive, valid, mapErr_ok, ok_bind, parsed, decided]

/-- The sample reply answers a query with its ID, and yields the address of its second record. -/
theorem receive_sound_alias :
    (∃ answers : List (ResourceRecord maxSkipped),
      ComesFrom opendns .any answers (ipv4 203 0 113 7)) ∧
    ∃ ip, opendns.receive [0x12, 0x34, 1, 0] sampleReply .any = .ok ip := by
  have both := receive_sound opendns .any [0x12, 0x34, 1, 0] sampleReply
  constructor
  · obtain ⟨_, _, answers, _, _, _, _, _, _, _, _, _, _, _, source⟩ :=
      both.1 (ipv4 203 0 113 7) (by decide +kernel)
    exact ⟨answers, source⟩
  · exact both.2 rfl (by decide +kernel) ["203.0.113.7"] (by decide +kernel)

end IpDiscovery.Dns
