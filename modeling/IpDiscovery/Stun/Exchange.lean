import IpDiscovery.Base.Exchange
import IpDiscovery.Stun.Request

/-! STUN lookups among each other: whoever answers and whatever the network does with packets. -/

namespace IpDiscovery.Stun

open Exchange Relation

/-- The bytes of a packet where a message keeps its transaction ID hold a given one. -/
def Bears (transactionId : Octets 12) (packet : Bytes) : Prop :=
  (packet.drop 8).take 12 = transactionId.bytes

/--
What a server may answer to a packet it sees coming from an address.

It is any message with the transaction ID of the packet, a failure included, that reports no other
address to the sender.
-/
def Serves (seen : IpAddr) (query reply : Bytes) : Prop :=
  ∃ msgType transactionId attributes, Bears transactionId query ∧
    Datagram msgType transactionId attributes reply ∧
    ∀ ip, Reports transactionId attributes ip → ip = seen

/-- Behind eight bytes, a packet bears the transaction ID it spells. -/
theorem bears_iff {transactionId other : Octets 12} {front more : Bytes}
    (fixed : front.length = 8) :
    Bears other (front ++ transactionId.bytes ++ more) ↔ other = transactionId := by
  -- The transaction ID stands behind type, length and cookie.
  have spelled : ((front ++ transactionId.bytes ++ more).drop 8).take 12 = transactionId.bytes := by
    rw [List.append_assoc, List.drop_left' fixed, List.take_left' transactionId.sized]
  rw [Bears, spelled]
  exact ⟨fun same => (Octets.ext same).symm, fun same => by rw [same]⟩

/-- A message bears its own transaction ID and no other. -/
theorem Datagram.bears_iff {msgType : StunMethod} {transactionId other : Octets 12}
    {attributes : List (UInt16 × Bytes)} {data : Bytes}
    (datagram : Datagram msgType transactionId attributes data) :
    Bears other data ↔ other = transactionId := by
  obtain ⟨area, trailing, _, _, rfl⟩ := datagram
  rw [List.append_assoc _ area trailing]
  exact Stun.bears_iff (by simp)

/-- A serialised message bears its own ID and no other. -/
theorem encode_bears_iff {message : StunMessage} {other : Octets 12} :
    Bears other message.encode ↔ other = message.transactionId := by
  have spelled := @Stun.bears_iff message.transactionId other (u16ToBeBytes message.msgType.toU16 ++
    u16ToBeBytes 0 ++ u32ToBeBytes magicCookie) [] (by simp)
  rwa [List.append_nil] at spelled

/-- More bytes behind a message are more of what trails it. -/
theorem Datagram.append {msgType : StunMethod} {transactionId : Octets 12}
    {attributes : List (UInt16 × Bytes)} {data : Bytes}
    (datagram : Datagram msgType transactionId attributes data) (more : Bytes) :
    Datagram msgType transactionId attributes (data ++ more) := by
  obtain ⟨area, trailing, fits, layout, rfl⟩ := datagram
  exact ⟨area, trailing ++ more, fits, layout, by simp⟩

/-- The bytes of a message have one reading. -/
theorem Datagram.unique {msgType msgType' : StunMethod} {transactionId transactionId' : Octets 12}
    {attributes attributes' : List (UInt16 × Bytes)} {data : Bytes}
    (datagram : Datagram msgType transactionId attributes data)
    (datagram' : Datagram msgType' transactionId' attributes' data) :
    msgType = msgType' ∧ transactionId = transactionId' ∧ attributes = attributes' := by
  -- The decoder reads both, and its reading names every attribute.
  have decoded := @decode_complete .x64 _ _ _ _ datagram
  rw [@decode_complete .x64 _ _ _ _ datagram'] at decoded
  simp only [Except.ok.injEq, StunMessage.mk.injEq] at decoded
  obtain ⟨sameType, sameId, named⟩ := decoded
  have sameAttributes := congrArg (List.map toWire) named
  rw [map_toWire_fromWire, map_toWire_fromWire] at sameAttributes
  exact ⟨sameType.symm, sameId.symm, sameAttributes.symm⟩

/-- What a lookup takes from the front of a datagram, the whole datagram reports to it. -/
theorem StunProvider.reply_reported {provider : StunProvider} {target : Target}
    {transactionId : Octets 12} {datagram : Bytes} {ip : IpAddr}
    (answered : provider.reply target ⟨.request, transactionId, []⟩ datagram = .ok ip) :
    ∃ attributes, Datagram .response transactionId attributes datagram ∧
      Reports transactionId attributes ip := by
  obtain ⟨attributes, front, reports⟩ := processResponse_eq_ok_iff.mp answered
  refine ⟨attributes, ?_, reports⟩
  -- What the buffer has no room for trails the message.
  have whole := front.append (datagram.drop 576)
  rwa [show (received target 576 (by decide) datagram).bytes = datagram.take 576 from rfl,
    List.take_append_drop] at whole

section Clients

variable {Client : Type}

/-- The lookups of many clients at servers, told apart by their transaction IDs. -/
def exchange (target : Target) (provider : Client → StunProvider)
    (transactionId : Client → Octets 12) (distinct : Function.Injective transactionId) :
    Scheme Client Bytes IpAddr where
  request client := (StunMessage.mk .request (transactionId client) []).encode
  Serves := Serves
  accept client reply :=
    ((provider client).reply target ⟨.request, transactionId client, []⟩ reply).toOption
  Bears client packet := Bears (transactionId client) packet
  request_bears bears := distinct (encode_bears_iff.mp bears)
  serves_bears := by
    intro seen query reply client served bears
    obtain ⟨msgType, id, attributes, asked, datagram, _⟩ := served
    -- The reply has copied the transaction ID of its query.
    rwa [datagram.bears_iff.mp bears]
  accept_bears := by
    intro client reply ip accepted
    obtain ⟨attributes, datagram, _⟩ := StunProvider.reply_reported (toOption_eq_some.mp accepted)
    exact datagram.bears_iff.mpr rfl
  accept_serves := by
    intro seen query reply client ip served accepted
    obtain ⟨msgType, id, attributes, _, datagram, honest⟩ := served
    obtain ⟨attributes', datagram', reports⟩ :=
      StunProvider.reply_reported (toOption_eq_some.mp accepted)
    -- Client and server read the same message from the same bytes.
    obtain ⟨_, rfl, rfl⟩ := datagram.unique datagram'
    exact honest ip reports

end Clients

/-! ## A server of the protocol -/

/-- The success response of a server that masks the address and a port. -/
def bindingResponse (transactionId : Octets 12) (port : UInt16) (ip : IpAddr) : Bytes :=
  u16ToBeBytes StunMethod.response.toU16 ++ u16ToBeBytes (UInt16.ofNat (8 + ip.octets.length)) ++
    u32ToBeBytes magicCookie ++ transactionId.bytes ++ (u16ToBeBytes 0x0020 ++
      u16ToBeBytes (UInt16.ofNat (4 + ip.octets.length)) ++
      encodeXorMappedAddress transactionId port ip)

/-- The value of an XOR-MAPPED-ADDRESS has four bytes in front of the address. -/
theorem encodeXorMappedAddress_length (transactionId : Octets 12) (port : UInt16) (ip : IpAddr) :
    (encodeXorMappedAddress transactionId port ip).length = 4 + ip.octets.length := by
  have masked : (applyMask (xorKey transactionId) ip.octets).length = ip.octets.length :=
    applyMask_length (by simpa using octets_length_le ip)
  simp [encodeXorMappedAddress, encodeAddress, masked]
  omega

/-- The octets of an address are one or four words. -/
theorem octets_length_mod (ip : IpAddr) : ip.octets.length % 4 = 0 := by
  cases ip with
  | v4 address => rw [IpAddr.octets, address.sized]
  | v6 address => rw [IpAddr.octets, address.sized]

/-- The success response is a message with one attribute, which holds the masked address. -/
theorem bindingResponse_datagram (transactionId : Octets 12) (port : UInt16) (ip : IpAddr) :
    Datagram .response transactionId [(0x0020, encodeXorMappedAddress transactionId port ip)]
      (bindingResponse transactionId port ip) := by
  have sized := encodeXorMappedAddress_length transactionId port ip
  have short := octets_length_le ip
  have words := octets_length_mod ip
  have layout := @AttributeArea.cons 0x0020 (encodeXorMappedAddress transactionId port ip) [] [] []
    (by omega) (by simp) (by simp only [List.length_nil]; omega) .nil
  refine ⟨_, [], ?_, layout, ?_⟩
  · simp [sized]
    omega
  · -- The length field counts the head of the attribute and its value.
    have area : 2 + (2 + (4 + ip.octets.length)) = 8 + ip.octets.length := by omega
    simp [bindingResponse, sized, area]

/-- The success response reports the address it masks, and nothing else. -/
theorem bindingResponse_reports (transactionId : Octets 12) (port : UInt16) (ip other : IpAddr) :
    Reports transactionId [(0x0020, encodeXorMappedAddress transactionId port ip)] other ↔
      other = ip := by
  have carried : Carries (maskOf transactionId 0x0020)
      (encodeXorMappedAddress transactionId port ip) ip := encodeAddress_carries _ _ _
  constructor
  · -- A value carries one address at most.
    intro ⟨code, value, decisive, carries⟩
    cases decisive
    have read := (readAddress_eq_some (maskOf_length _ _)).mpr carried
    rw [(readAddress_eq_some (maskOf_length _ _)).mpr carries] at read
    exact Option.some.inj read
  · intro same
    subst same
    exact ⟨0x0020, _, rfl, carried⟩

/-- The success response is one that a server may send to the sender of a request. -/
theorem bindingResponse_serves (transactionId : Octets 12) (port : UInt16) (seen : IpAddr) :
    Serves seen (StunMessage.mk .request transactionId []).encode
      (bindingResponse transactionId port seen) :=
  ⟨.response, transactionId, _, encode_bears_iff.mpr rfl, bindingResponse_datagram _ _ _,
    fun _ reports => (bindingResponse_reports _ _ _ _).mp reports⟩

/-- The success response fits into the buffer, and tells the sender its address. -/
theorem bindingResponse_reply (provider : StunProvider) (target : Target)
    (transactionId : Octets 12) (port : UInt16) (seen : IpAddr) :
    provider.reply target ⟨.request, transactionId, []⟩ (bindingResponse transactionId port seen) =
      .ok seen := by
  have short : (bindingResponse transactionId port seen).length ≤ 576 := by
    have small := octets_length_le seen
    simp [bindingResponse, encodeXorMappedAddress_length, transactionId.sized]
    omega
  -- The datagram is received whole, and what it reports is accepted.
  refine processResponse_eq_ok_iff.mpr ⟨_, ?_, (bindingResponse_reports _ port _ _).mpr rfl⟩
  rw [show (received target 576 (by decide) (bindingResponse transactionId port seen)).bytes =
    (bindingResponse transactionId port seen).take 576 from rfl, List.take_of_length_le short]
  exact bindingResponse_datagram _ _ _

/--
However lookups, servers and the network take turns, a lookup that succeeds names its own address.

Packets may be lost, repeated, reordered and misdelivered, outsiders may send any packet without
the transaction ID of a lookup, and servers may refuse. No such step keeps a lookup that waits from
succeeding later.
-/
theorem bindingRequest_own_address {Client : Type} [DecidableEq Client] {target : Target}
    {provider : Client → StunProvider} {transactionId : Client → Octets 12}
    (distinct : Function.Injective transactionId) (source : Client → IpAddr)
    {state : State Client Bytes IpAddr}
    (run : ReflTransGen (Step (exchange target provider transactionId distinct) source)
      .initial state) (client : Client) :
    (∀ ip, state.phase client = .done (some ip) → ip = source client) ∧
    (∀ network version datagram, network.filled = .ok (transactionId client) →
      network.socket.recv = .ok datagram → datagram ∈ state.replies →
        (∀ ip, (provider client).bindingRequest target network version = .ok ip →
          ip = source client) ∧
        (∀ timeout ip, (provider client).bindingRequestBlocking target network version timeout =
          .ok ip → ip = source client)) ∧
    (state.phase client = .waiting →
      ∃ next, ReflTransGen (Step (exchange target provider transactionId distinct) source)
        state next ∧ next.phase client = .done (some (source client))) := by
  have sound := Sound.of_run run
  refine ⟨fun ip => sound.answer, ?_, ?_⟩
  · intro network version datagram random heard arrived
    -- A call makes of the delivered datagram what its client does.
    have believed : ∀ ip, (provider client).bindingRequest target network version = .ok ip →
        ip = source client := by
      intro ip answered
      obtain ⟨id, datagram', ⟨_, _, _, _, _, _, random', _, heard'⟩, replied⟩ :=
        StunProvider.bindingRequest_eq_ok_iff.mp answered
      cases random.symm.trans random'
      cases heard.symm.trans heard'
      exact sound.reply arrived (toOption_eq_some.mpr replied)
    refine ⟨believed, ?_⟩
    intro timeout ip answered
    have same := (StunProvider.bindingRequestBlocking_eq_ok_iff.mp answered).2
    exact believed ip (StunProvider.bindingRequest_eq_ok_iff.mpr same)
  · intro waiting
    exact sound.finish waiting (bindingResponse_serves (transactionId client) 0 (source client))
      (toOption_eq_some.mpr (bindingResponse_reply _ _ _ _ _))

/-- The IDs of two lookups. -/
def sampleId (first : Bool) : Octets 12 := ⟨List.replicate 12 (if first then 1 else 2), by simp⟩

/-- The two IDs differ. -/
theorem sampleId_injective : Function.Injective sampleId := by decide

/-- The addresses the two are seen at. -/
def sampleSource (first : Bool) : IpAddr := if first then ipv4 203 0 113 42 else ipv4 198 51 100 7

/-- The first of the two has asked. -/
def sampleAsked : State Bool Bytes IpAddr where
  queries := {(ipv4 203 0 113 42, (StunMessage.mk .request (sampleId true) []).encode)}
  replies := ∅
  phase := Function.update (fun _ => .idle) true .waiting

/-- The lookup that has asked can still succeed, and the one that has not names nothing. -/
theorem bindingRequest_own_address_asked :
    (∀ ip, sampleAsked.phase false = .done (some ip) → ip = ipv4 198 51 100 7) ∧
    ∃ next, ReflTransGen (Step (exchange .x64 (fun _ => google) sampleId sampleId_injective)
      sampleSource) sampleAsked next ∧ next.phase true = .done (some (ipv4 203 0 113 42)) := by
  have asked : ReflTransGen (Step (exchange .x64 (fun _ => google) sampleId sampleId_injective)
      sampleSource) .initial sampleAsked := by
    have sent := @Step.send _ _ _ _ (exchange .x64 (fun _ => google) sampleId sampleId_injective)
      sampleSource .initial true rfl
    simpa [sampleAsked, State.initial, exchange, sampleSource] using ReflTransGen.single sent
  exact ⟨(bindingRequest_own_address sampleId_injective sampleSource asked false).1,
    (bindingRequest_own_address sampleId_injective sampleSource asked true).2.2 rfl⟩

end IpDiscovery.Stun
