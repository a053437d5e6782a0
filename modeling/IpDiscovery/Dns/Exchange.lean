import IpDiscovery.Base.Exchange
import IpDiscovery.Dns.Request
import IpDiscovery.Dns.Segments

/-! DNS lookups among each other: whoever answers and whatever the network does with packets. -/

namespace IpDiscovery.Dns

open Exchange Relation

/-! ## Lookups and servers -/

/-- A lookup that has drawn its ID and built its query. -/
structure Lookup where
  provider : DnsProvider
  version : IpVersion
  idBytes : Octets 2
  query : Bytes
  built : provider.request (.ok idBytes) version = .ok query

/-- A packet opens with the ID bytes of a query. -/
def Bears (idBytes : Octets 2) (packet : Bytes) : Prop := packet.take 2 = idBytes.bytes

/-- An answer record tells no other address than one. -/
structure Honest {longest : Nat} (seen : IpAddr) (record : ResourceRecord longest) : Prop where
  a : record.rtype = RecordType.a.toU16 → record.rdata.length = 4 → record.rdata = seen.octets
  aaaa : record.rtype = RecordType.aaaa.toU16 → record.rdata.length = 16 →
    record.rdata = seen.octets
  txt : record.rtype = RecordType.txt.toU16 → ∀ token ∈ splitWhitespace (txtText record.rdata),
    ∀ ip, IpAddr.fromStr (beforeSlash token) = some ip → ip = seen

/--
What a server may answer to a packet it sees coming from an address.

It is any message with the ID of the packet, a refusal included, that keeps its promised questions
and answers within a safe UDP payload. The answers tell no address but the one that is seen.
-/
def Serves (seen : IpAddr) (query reply : Bytes) : Prop :=
  ∃ (header : Header) (questions : List (Question maxLabel))
    (answers : List (ResourceRecord maxLabel)) (rest : Bytes),
    Message header questions answers rest reply ∧ query.take 2 = u16ToBeBytes header.id ∧
    header.qdcount.toNat = questions.length ∧ header.ancount.toNat = answers.length ∧
    (∀ record ∈ answers, Honest seen record) ∧ reply.length ≤ 1232

/-- Octets determine their address. -/
theorem octets_injective {ip other : IpAddr} (same : ip.octets = other.octets) : ip = other := by
  -- The two families differ in their lengths.
  have lengths := congrArg List.length same
  cases ip with
  | v4 address =>
    cases other with
    | v4 address' => exact congrArg IpAddr.v4 (Octets.ext same)
    | v6 address' => simp [IpAddr.octets, address.sized, address'.sized] at lengths
  | v6 address =>
    cases other with
    | v4 address' => simp [IpAddr.octets, address.sized, address'.sized] at lengths
    | v6 address' => exact congrArg IpAddr.v6 (Octets.ext same)

/-- Whatever type is asked for, the text of an honest record names no other address. -/
theorem Honest.text {longest : Nat} {seen : IpAddr} {record : ResourceRecord longest}
    (honest : Honest seen record) {recordType : RecordType} {text : String}
    (rendered : record.text recordType = some text) {token : String}
    (inside : token ∈ splitWhitespace text) {ip : IpAddr}
    (read : IpAddr.fromStr (beforeSlash token) = some ip) : ip = seen := by
  -- The text of an address is a single token, which reads back as that address.
  have displayed {address : IpAddr} (shown : text = address.display) : ip = address := by
    subst shown
    rw [splitWhitespace_display, List.mem_singleton] at inside
    subst inside
    rw [beforeSlash_display, IpAddr.fromStr_display] at read
    exact (Option.some.inj read).symm
  unfold ResourceRecord.text at rendered
  split at rendered
  · rename_i typed
    cases recordType with
    | a =>
      -- The data of an address record has the length of its family.
      obtain ⟨address, built, shown⟩ := Option.map_eq_some_iff.mp rendered
      have data := Octets.ofBytes?_eq_some.mp built
      rw [displayed shown.symm]
      exact octets_injective (data.trans (honest.a typed (data ▸ address.sized)))
    | aaaa =>
      obtain ⟨address, built, shown⟩ := Option.map_eq_some_iff.mp rendered
      have data := Octets.ofBytes?_eq_some.mp built
      rw [displayed shown.symm]
      exact octets_injective (data.trans (honest.aaaa typed (data ▸ address.sized)))
    | txt =>
      dsimp only [nonEmpty] at rendered
      split at rendered
      · cases rendered
      · cases rendered
        -- A text has been made to tell one address.
        exact honest.txt typed token inside ip read
  · cases rendered

/-! ## What a lookup believes -/

/-- A datagram within the buffer is received as a whole. -/
theorem received_whole {target : Target} {datagram : Bytes} (small : datagram.length ≤ 1232) :
    (received target 1232 (by decide) datagram).bytes = datagram :=
  List.take_of_length_le small

/-- The two bytes a query opens with are the ones that were drawn. -/
theorem Lookup.bears (lookup : Lookup) : Bears lookup.idBytes lookup.query := by
  obtain ⟨idBytes, random, _, _, packet⟩ := buildQuery_eq_ok_iff.mp (mapErr_eq_ok.mp lookup.built)
  cases random
  rw [Bears, packet, queryHeader]
  simp only [List.append_assoc]
  exact List.take_left' lookup.idBytes.sized

/-- An accepted datagram opens with the ID bytes of the query. -/
theorem reply_bears {provider : DnsProvider} {target : Target} {query datagram : Bytes}
    {version : IpVersion} {ip : IpAddr}
    (answered : provider.reply target query datagram version = .ok ip) :
    datagram.take 2 = query.take 2 := by
  obtain ⟨_, valid, parsed⟩ := bind_eq_ok answered
  obtain ⟨texts, parsed, _⟩ := bind_eq_ok parsed
  obtain ⟨header, questions, answers, rest, message, _⟩ :=
    parseResponse_sound (mapErr_eq_ok.mp parsed)
  have opened : (received target 1232 (by decide) datagram).bytes = header.encode ++
      (questions.flatMap Question.encode ++ (answers.flatMap ResourceRecord.encode ++ rest)) := by
    rw [message]
    simp
  -- A valid reply repeats the ID of the query.
  obtain ⟨_, identified, _, _⟩ := validateResponse_sound opened (mapErr_eq_ok.mp valid)
  obtain ⟨_, _, front, _⟩ := Header.reads opened
  rw [identified, ← front]
  exact (List.take_take.trans (by simp)).symm

/-- What a lookup takes from a reply of a server is the address the server has seen. -/
theorem reply_served {provider : DnsProvider} {target : Target} {seen ip : IpAddr}
    {asked query datagram : Bytes} {version : IpVersion} (served : Serves seen asked datagram)
    (answered : provider.reply target query datagram version = .ok ip) : ip = seen := by
  obtain ⟨header, questions, answers, rest, message, _, posed, counted, honest, small⟩ := served
  obtain ⟨_, _, parsed⟩ := bind_eq_ok answered
  obtain ⟨texts, parsed, extracted⟩ := bind_eq_ok parsed
  have parsed := mapErr_eq_ok.mp parsed
  rw [← @received_whole target _ small] at message
  -- The parser has seen a header without an error and with answers, which is the server's own.
  obtain ⟨header', questions', answers', rest', message', clean, _, some', _⟩ :=
    parseResponse_sound parsed
  have opened : (received target 1232 (by decide) datagram).bytes = header.encode ++
      (questions.flatMap Question.encode ++ (answers.flatMap ResourceRecord.encode ++ rest)) := by
    rw [message]
    simp
  have opened' : (received target 1232 (by decide) datagram).bytes = header'.encode ++
      (questions'.flatMap Question.encode ++
        (answers'.flatMap ResourceRecord.encode ++ rest')) := by
    rw [message']
    simp
  -- Both readings take the same bytes of the header.
  obtain ⟨_, code, _, _, _, a₀, a₁, _, _, read₀, read₁, _, answers₀⟩ := Header.reads opened
  obtain ⟨_, code', _, _, _, b₀, b₁, _, _, read₀', read₁', _, answers₁⟩ := Header.reads opened'
  cases read₀.symm.trans read₀'
  cases read₁.symm.trans read₁'
  have sameCode := Except.ok.inj (code.symm.trans code')
  have sameCount : header.ancount = header'.ancount := answers₀.symm.trans answers₁
  rw [← sameCount, counted] at some'
  rw [parseResponse_complete maxLabel_le message _ (by rw [Header.rcode, sameCode]; exact clean)
    posed counted (List.ne_nil_of_length_pos some'), answer] at parsed
  split at parsed
  · cases parsed
  · cases parsed
    -- The address stands in the text of one of the server's records.
    obtain ⟨_, text, member, token, inside, read⟩ := extractIp_sound extracted
    obtain ⟨record, among, rendered⟩ := List.mem_filterMap.mp member
    exact (honest record among).text rendered inside read

/-- The lookups of many clients at servers, told apart by the IDs of their queries. -/
def exchange {Client : Type} (target : Target) (lookup : Client → Lookup)
    (distinct : Function.Injective fun client => (lookup client).idBytes) :
    Scheme Client Bytes IpAddr where
  request client := (lookup client).query
  Serves := Serves
  accept client reply :=
    ((lookup client).provider.reply target (lookup client).query reply
      (lookup client).version).toOption
  Bears client packet := Bears (lookup client).idBytes packet
  request_bears := by
    intro client other bears
    exact distinct (Octets.ext (bears.symm.trans (lookup client).bears))
  serves_bears := by
    intro seen query reply client served bears
    obtain ⟨header, questions, answers, rest, message, identified, _⟩ := served
    -- The reply opens with the ID of its header, which is the one of the query.
    have front : reply.take 2 = u16ToBeBytes header.id := by
      rw [message, Header.encode]
      simp only [List.append_assoc]
      exact List.take_left' (u16ToBeBytes_length _)
    exact (identified.trans front.symm).trans bears
  accept_bears := by
    intro client reply ip accepted
    exact (reply_bears (toOption_eq_some.mp accepted)).trans (lookup client).bears
  accept_serves := by
    intro seen query reply client ip served accepted
    exact reply_served served (toOption_eq_some.mp accepted)

/-! ## A server of the protocol -/

/-- An address that the reply to a lookup can tell. -/
def Lookup.Tellable (lookup : Lookup) (seen : IpAddr) : Prop :=
  lookup.version.matches seen = true ∧
    (lookup.provider.recordType = .address → seen.octets.length = addressLength lookup.version)

/-- The data of an answer that tells an address. -/
def DnsProvider.told (provider : DnsProvider) (seen : IpAddr) : Bytes :=
  match provider.recordType with
  | .address => seen.octets
  | .txt => packString (utf8 seen.display)

/-- The text of an address fits into one character-string. -/
theorem display_length (ip : IpAddr) : (utf8 ip.display).length ≤ 255 := by
  -- A character has four bytes at most.
  have bytes (chars : List Char) : (utf8 (String.ofList chars)).length ≤ 4 * chars.length := by
    induction chars with
    | nil => simp [utf8]
    | cons char chars ih =>
      have own := char.utf8Size_le_four
      rw [String.ofList_cons, utf8_append, List.length_append, List.length_cons]
      have single : (utf8 (String.singleton char)).length = char.utf8Size :=
        String.utf8ByteSize_singleton
      omega
  have short := ip.write_length
  exact (bytes ip.write).trans (by omega)

/-- What is told of an address is short, whatever the record type. -/
theorem DnsProvider.told_length (provider : DnsProvider) (seen : IpAddr) :
    (provider.told seen).length ≤ 256 := by
  unfold DnsProvider.told
  split
  · -- Octets are few, and a text fits into its character-string.
    cases seen with
    | v4 address => simp [IpAddr.octets, address.sized]
    | v6 address => simp [IpAddr.octets, address.sized]
  · have short := display_length seen
    simp only [packString, List.length_cons]
    omega

/-- The pointer to the name that follows the header. -/
theorem pointer_named : DomainName maxLabel [0xC0, 12] := .pointer (by decide)

/-- An answer that tells an address, owned by the name of the question. -/
def Lookup.record (lookup : Lookup) (seen : IpAddr) : ResourceRecord maxLabel where
  name := [0xC0, 12]
  named := pointer_named
  rtype := (lookup.provider.selectRecordType lookup.version).toU16
  rclass := lookup.provider.dnsClass.toU16
  ttl := 60
  rdata := lookup.provider.told seen
  fits := by
    have short := lookup.provider.told_length seen
    omega

/-- The reply of a server that echoes the query with one answer. -/
def Lookup.response (lookup : Lookup) (seen : IpAddr) : Bytes :=
  responseFor lookup.query 0x81 0x80 1 ++ (lookup.record seen).encode

/-- A query is a header and one question. -/
theorem Lookup.asks (lookup : Lookup) :
    ∃ question : Question maxLabel, lookup.query = queryHeader lookup.idBytes ++ question.encode ∧
      lookup.query.length ≤ 269 := by
  obtain ⟨idBytes, random, legal, short, packet⟩ :=
    buildQuery_eq_ok_iff.mp (mapErr_eq_ok.mp lookup.built)
  -- The ID was drawn, and the rest of the packet is one question.
  cases random
  have named : DomainName maxLabel (queryName lookup.provider.queryDomain) :=
    encodeName_named (by simpa using legal)
  refine ⟨⟨_, named, (lookup.provider.selectRecordType lookup.version).toU16,
    lookup.provider.dnsClass.toU16⟩, ?_, ?_⟩
  · simp [packet, Question.encode]
  · simp only [packet, List.length_append, queryHeader_length, u16ToBeBytes_length]
    omega

/-- The text of an answer to a text provider is the text of the address. -/
theorem txtText_told {provider : DnsProvider} (kind : provider.recordType = .txt)
    (seen : IpAddr) : txtText (provider.told seen) = seen.display := by
  have short : ∀ segment ∈ [utf8 seen.display], segment.length ≤ 255 := by
    simpa using display_length seen
  have packed := txtText_packed short
  simpa [DnsProvider.told, kind, readable, fromUtf8_utf8] using packed

/-- An address provider tells the octets. -/
theorem told_octets {provider : DnsProvider} (kind : provider.recordType = .address)
    (seen : IpAddr) : provider.told seen = seen.octets := by
  simp [DnsProvider.told, kind]

/-- A text provider asks for texts alone, and an address provider never does. -/
theorem selectRecordType_txt_iff {provider : DnsProvider} {version : IpVersion} :
    (provider.selectRecordType version).toU16 = RecordType.txt.toU16 ↔
      provider.recordType = .txt := by
  cases kind : provider.recordType with
  | address =>
    rw [selectRecordType_address kind]
    split <;> simp [RecordType.toU16]
  | txt => simp [DnsProvider.selectRecordType, kind]

/-- The answer tells no other address than the one it is made for. -/
theorem Lookup.record_honest (lookup : Lookup) (seen : IpAddr) :
    Honest seen (lookup.record seen) := by
  -- Data of an address type is told by address providers only.
  have octets (typed : (lookup.record seen).rtype ≠ RecordType.txt.toU16) :
      (lookup.record seen).rdata = seen.octets := by
    cases kind : lookup.provider.recordType with
    | address => exact told_octets kind seen
    | txt => exact absurd (selectRecordType_txt_iff.mpr kind) typed
  constructor
  · intro typed _
    exact octets (by rw [typed]; decide)
  · intro typed _
    exact octets (by rw [typed]; decide)
  · intro typed token inside ip read
    -- The text of the data is the address, in one token.
    have kind := selectRecordType_txt_iff.mp typed
    rw [show (lookup.record seen).rdata = lookup.provider.told seen from rfl, txtText_told kind,
      splitWhitespace_display, List.mem_singleton] at inside
    subst inside
    rw [beforeSlash_display, IpAddr.fromStr_display] at read
    exact (Option.some.inj read).symm

/-- A response fits into the buffer of the receiver. -/
theorem Lookup.response_length (lookup : Lookup) (seen : IpAddr) :
    (lookup.response seen).length ≤ 1232 := by
  obtain ⟨_, _, short⟩ := lookup.asks
  have told := lookup.provider.told_length seen
  simp only [Lookup.response, responseFor, ResourceRecord.encode, Lookup.record, List.length_append,
    List.length_set, List.length_cons, List.length_nil, ResourceRecord.fixed_length]
  omega

/-- The reply is one that a server may send to the sender of the query. -/
theorem Lookup.response_serves (lookup : Lookup) (seen : IpAddr) :
    Serves seen lookup.query (lookup.response seen) := by
  obtain ⟨question, asked, _⟩ := lookup.asks
  obtain ⟨id, identified, echoed⟩ :=
    responseFor_query lookup.idBytes question.encode 0x81 0x80 1
  refine ⟨⟨id, 0x81, 0x80, 1, 1, 0, 0⟩, [question], [lookup.record seen], [], ?_, ?_, rfl, rfl, ?_,
    lookup.response_length seen⟩
  · -- The reply repeats the query, with another header and with an answer.
    rw [Message, Lookup.response, asked, echoed]
    simp
  · exact lookup.bears.trans identified.symm
  · simpa using lookup.record_honest seen

/-- The answer renders as the address, where it can be told. -/
theorem Lookup.record_text (lookup : Lookup) {seen : IpAddr} (tellable : lookup.Tellable seen) :
    (lookup.record seen).text (lookup.provider.selectRecordType lookup.version) =
      some seen.display := by
  cases kind : lookup.provider.recordType with
  | address =>
    have holds : HoldsAddress lookup.provider lookup.version (lookup.record seen) = true := by
      simp [HoldsAddress, Lookup.record, told_octets kind, tellable.2 kind]
    -- A record that holds an address of the family renders as that address.
    obtain ⟨ip, octets, _, text⟩ := text_eq_display kind _ holds
    rw [text, octets_injective (octets.trans (told_octets kind seen))]
  | txt =>
    have nonempty : seen.display.isEmpty = false := by
      simpa [IpAddr.display, String.isEmpty] using seen.write_ne_nil
    simp [ResourceRecord.text, Lookup.record, DnsProvider.selectRecordType, kind, txtText_told kind,
      nonEmpty, nonempty]

/-- The reply tells the lookup its address, where it can be told. -/
theorem Lookup.response_reply (lookup : Lookup) (target : Target) {seen : IpAddr}
    (tellable : lookup.Tellable seen) :
    lookup.provider.reply target lookup.query (lookup.response seen) lookup.version =
      .ok seen := by
  obtain ⟨question, asked, _⟩ := lookup.asks
  -- The reply fits into the buffer, and is parsed as it was written.
  have whole := @received_whole target _ (lookup.response_length seen)
  have echoed : (received target 1232 (by decide) (lookup.response seen)).bytes =
      responseFor lookup.query 0x81 0x80 1 ++
        [lookup.record seen].flatMap ResourceRecord.encode ++ [] := by
    rw [whole]
    simp [Lookup.response]
  obtain ⟨valid, _, unread, parses⟩ := responseFor_parses asked (by decide) (by decide) (by decide)
    rfl (by simp) echoed (lookup.provider.selectRecordType lookup.version)
  have collected := answerLoop_complete maxLabel_le
    (lookup.provider.selectRecordType lookup.version) _ [] unread
  rw [collected] at parses
  have texts : [lookup.record seen].filterMap
      (ResourceRecord.text (lookup.provider.selectRecordType lookup.version)) = [seen.display] := by
    simp [lookup.record_text tellable]
  have answered : answer [seen.display] = .ok [seen.display] := rfl
  rw [ok_bind, List.nil_append, texts, answered] at parses
  simp only [DnsProvider.reply, DnsProvider.receive, valid, parses, mapErr_ok, ok_bind]
  -- The first text is the address, which is of the requested family.
  exact extractIp_display tellable.1 _ []

/-! ## Calls -/

/-- A call that draws the ID of a lookup makes of the datagram it receives what the lookup does. -/
theorem Lookup.query_reply {lookup : Lookup} {target : Target} {socket : UdpSocket}
    {datagram : Bytes} {ip : IpAddr} (heard : socket.recv = .ok datagram)
    (answered : lookup.provider.query target (.ok lookup.idBytes) socket lookup.version = .ok ip) :
    lookup.provider.reply target lookup.query datagram lookup.version = .ok ip := by
  simp only [DnsProvider.query, bind_eq_ok_iff, orFail_eq_ok_iff] at answered
  obtain ⟨query, built, _, _, _, _, _, _, received, heard', replied⟩ := answered
  cases lookup.built.symm.trans built
  cases heard.symm.trans heard'
  exact replied

/-- A blocking call makes of its datagram what the lookup does, too. -/
theorem Lookup.queryBlocking_reply {lookup : Lookup} {target : Target} {socket : UdpSocket}
    {timeout : Duration} {datagram : Bytes} {ip : IpAddr} (heard : socket.recv = .ok datagram)
    (answered : lookup.provider.queryBlocking target (.ok lookup.idBytes) socket lookup.version
      timeout = .ok ip) :
    lookup.provider.reply target lookup.query datagram lookup.version = .ok ip := by
  simp only [DnsProvider.queryBlocking, bind_eq_ok_iff, orFail_eq_ok_iff] at answered
  obtain ⟨_, _, query, built, _, _, _, _, _, _, _, _, _, _, received, heard', replied⟩ := answered
  cases lookup.built.symm.trans built
  cases heard.symm.trans heard'
  exact replied

/--
However lookups, servers and the network take turns, a lookup that succeeds names its own address.

Packets may be lost, repeated, reordered and misdelivered, outsiders may send any packet without
the ID of a lookup, and servers may refuse. No such step keeps a lookup that waits from succeeding
later, where a reply can tell its address.
-/
theorem query_own_address {Client : Type} [DecidableEq Client] {target : Target}
    {lookup : Client → Lookup}
    (distinct : Function.Injective fun client => (lookup client).idBytes)
    (source : Client → IpAddr) {state : State Client Bytes IpAddr}
    (run : ReflTransGen (Step (exchange target lookup distinct) source) .initial state)
    (client : Client) :
    (∀ ip, state.phase client = .done (some ip) → ip = source client) ∧
    (∀ socket datagram, socket.recv = .ok datagram → datagram ∈ state.replies →
      (∀ ip, (lookup client).provider.query target (.ok (lookup client).idBytes) socket
        (lookup client).version = .ok ip → ip = source client) ∧
      (∀ timeout ip, (lookup client).provider.queryBlocking target
        (.ok (lookup client).idBytes) socket (lookup client).version timeout = .ok ip →
          ip = source client)) ∧
    ((lookup client).Tellable (source client) → state.phase client = .waiting →
      ∃ next, ReflTransGen (Step (exchange target lookup distinct) source) state next ∧
        next.phase client = .done (some (source client))) := by
  -- Everything follows from the invariant that the library has for all runs.
  have sound := Sound.of_run run
  refine ⟨fun ip => sound.answer, ?_, ?_⟩
  · intro socket datagram heard arrived
    constructor
    · intro ip answered
      exact sound.reply arrived (toOption_eq_some.mpr (Lookup.query_reply heard answered))
    · intro timeout ip answered
      exact sound.reply arrived (toOption_eq_some.mpr (Lookup.queryBlocking_reply heard answered))
  · intro tellable waiting
    exact sound.finish waiting ((lookup client).response_serves (source client))
      (toOption_eq_some.mpr ((lookup client).response_reply target tellable))

/-- A lookup at OpenDNS, and one at Google over IPv6. -/
def sampleLookup (first : Bool) : Lookup :=
  if first then
    { provider := opendns, version := .v4, idBytes := ⟨[0x12, 0x34], rfl⟩
      query := [0x12, 0x34, 1, 0, 0, 1, 0, 0, 0, 0, 0, 0] ++ queryName "myip.opendns.com" ++
        [0, 1, 0, 1]
      built := by decide +kernel }
  else
    { provider := google, version := .v6, idBytes := ⟨[0x12, 0x35], rfl⟩
      query := [0x12, 0x35, 1, 0, 0, 1, 0, 0, 0, 0, 0, 0] ++ queryName "o-o.myaddr.l.google.com" ++
        [0, 16, 0, 1]
      built := by decide +kernel }

/-- The two lookups differ in their IDs. -/
theorem sampleLookup_distinct : Function.Injective fun first => (sampleLookup first).idBytes := by
  decide

/-- The addresses the two are seen at. -/
def sampleSource (first : Bool) : IpAddr :=
  if first then ipv4 203 0 113 7
  else .v6 ⟨[0x20, 1, 0xD, 0xB8, 0, 0, 0, 0, 0, 0, 0, 0, 0, 0, 0, 7], rfl⟩

/-- Both have asked. -/
def sampleAsked : State Bool Bytes IpAddr where
  queries := {(sampleSource false, (sampleLookup false).query),
    (sampleSource true, (sampleLookup true).query)}
  replies := ∅
  phase := fun _ => .waiting

/-- They have come there by sending one query after the other. -/
theorem sampleAsked_run : ReflTransGen (Step (exchange .x64 sampleLookup sampleLookup_distinct)
    sampleSource) .initial sampleAsked := by
  have first := @Step.send _ _ _ _ (exchange .x64 sampleLookup sampleLookup_distinct) sampleSource
    .initial true rfl
  have both := (ReflTransGen.single first).tail (@Step.send _ _ _ _ _ _ _ false rfl)
  convert both using 1
  -- Only the queries and the phases have changed.
  simp only [sampleAsked, State.mk.injEq]
  refine ⟨?_, rfl, ?_⟩
  · simp [State.initial, exchange]
  · funext first
    cases first <;> rfl

/-- Each of two lookups that have asked can still succeed. -/
theorem query_own_address_asked :
    (∃ next, ReflTransGen (Step (exchange .x64 sampleLookup sampleLookup_distinct) sampleSource)
      sampleAsked next ∧ next.phase true = .done (some (ipv4 203 0 113 7))) ∧
    ∃ next, ReflTransGen (Step (exchange .x64 sampleLookup sampleLookup_distinct) sampleSource)
      sampleAsked next ∧ next.phase false = .done (some (sampleSource false)) :=
  ⟨(query_own_address sampleLookup_distinct sampleSource sampleAsked_run true).2.2
      ⟨by decide, fun _ => by decide⟩ rfl,
    (query_own_address sampleLookup_distinct sampleSource sampleAsked_run false).2.2
      ⟨by decide, fun _ => by decide⟩ rfl⟩

end IpDiscovery.Dns
