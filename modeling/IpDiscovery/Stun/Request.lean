import IpDiscovery.Network
import IpDiscovery.Stun.Reply

/-! A whole STUN lookup: the server's address, the binding request, and what the reply may do. -/

namespace IpDiscovery.Stun

/-- What one binding request meets outside the program. -/
structure StunNetwork where
  lookup : String → Library (List SocketAddr)
  filled : Library (Octets 12)
  socket : UdpSocket

/-- `StunMessage::new`. -/
def StunMessage.new (filled : Library (Octets 12)) (msgType : StunMethod) : Library StunMessage :=
  filled.map fun transactionId => { msgType, transactionId, attributes := [] }

/-- The name and port that are looked up. -/
def StunProvider.serverAddr (provider : StunProvider) : String :=
  provider.server ++ ":" ++ toString provider.port.toNat

/-- The local address for a server. -/
def localAddr (addr : SocketAddr) : SocketAddr :=
  if addr.ip.isIpv4 then unspecifiedV4 else unspecifiedV6

/-- What a request makes of the datagram in its buffer of the smallest MTU. -/
def StunProvider.reply (provider : StunProvider) (target : Target) (request : StunMessage)
    (datagram : Bytes) : ProviderRun IpAddr :=
  processResponse target request (received target 576 (by decide) datagram).bytes provider.name

/-- `binding_request_blocking`, which is `get_ip` of the blocking trait. -/
def StunProvider.bindingRequestBlocking (provider : StunProvider) (target : Target)
    (network : StunNetwork) (version : IpVersion) (timeout : Duration) : ProviderRun IpAddr := do
  failIf (timeout = 0) (ProviderError.message provider.name "timeout")
  let addrs ← orFail provider.name (network.lookup provider.serverAddr)
  -- The version selects the server, and is not looked at afterwards.
  let addr ← okOr (selectAddr addrs version)
    (ProviderError.message provider.name "no suitable address for IP version")
  orFail provider.name (network.socket.bind (localAddr addr))
  orFail provider.name (network.socket.setReadTimeout timeout)
  orFail provider.name (network.socket.setWriteTimeout timeout)
  orFail provider.name (network.socket.connect addr)
  let request ← orFail provider.name (StunMessage.new network.filled .request)
  orFail provider.name (network.socket.send request.encode)
  let datagram ← orFail provider.name network.socket.recv
  provider.reply target request datagram

/-- `binding_request`, which is `get_ip` of the asynchronous trait. -/
def StunProvider.bindingRequest (provider : StunProvider) (target : Target)
    (network : StunNetwork) (version : IpVersion) : ProviderRun IpAddr := do
  let addrs ← orFail provider.name (network.lookup provider.serverAddr)
  let addr ← okOr (selectAddr addrs version)
    (ProviderError.message provider.name "no suitable address for IP version")
  orFail provider.name (network.socket.bind (localAddr addr))
  orFail provider.name (network.socket.connect addr)
  let request ← orFail provider.name (StunMessage.new network.filled .request)
  orFail provider.name (network.socket.send request.encode)
  let datagram ← orFail provider.name network.socket.recv
  provider.reply target request datagram

/-! ## Reaching a reply -/

/-- The network lets a request with an ID out to a server, and a datagram back in. -/
def StunProvider.Exchanges (provider : StunProvider) (network : StunNetwork) (version : IpVersion)
    (transactionId : Octets 12) (datagram : Bytes) : Prop :=
  ∃ addrs addr, network.lookup provider.serverAddr = .ok addrs ∧
    selectAddr addrs version = some addr ∧ network.socket.bind (localAddr addr) = .ok () ∧
    network.socket.connect addr = .ok () ∧ network.filled = .ok transactionId ∧
    network.socket.send (StunMessage.mk .request transactionId []).encode = .ok () ∧
    network.socket.recv = .ok datagram

/-- The timeout of a blocking request is one that the socket takes. -/
def StunNetwork.Accepts (network : StunNetwork) (timeout : Duration) : Prop :=
  timeout ≠ 0 ∧ network.socket.setReadTimeout timeout = .ok () ∧
    network.socket.setWriteTimeout timeout = .ok ()

/-- A new message has an ID from the random source, and no attributes. -/
theorem StunMessage.new_eq_ok_iff {filled : Library (Octets 12)} {msgType : StunMethod}
    {message : StunMessage} :
    StunMessage.new filled msgType = .ok message ↔
      ∃ transactionId, filled = .ok transactionId ∧ message = ⟨msgType, transactionId, []⟩ := by
  cases filled with
  | error error => simp [StunMessage.new, Except.map]
  | ok transactionId => simp [StunMessage.new, Except.map, eq_comm]

/-- A request succeeds with what it makes of the datagram it is let to receive. -/
theorem StunProvider.bindingRequest_eq_ok_iff {provider : StunProvider} {target : Target}
    {network : StunNetwork} {version : IpVersion} {ip : IpAddr} :
    provider.bindingRequest target network version = .ok ip ↔
      ∃ transactionId datagram, provider.Exchanges network version transactionId datagram ∧
        provider.reply target ⟨.request, transactionId, []⟩ datagram = .ok ip := by
  -- Each step succeeds, or else the request fails with its error.
  simp only [StunProvider.bindingRequest, StunProvider.Exchanges, bind_eq_ok_iff,
    orFail_eq_ok_iff, okOr_eq_ok_iff, StunMessage.new_eq_ok_iff]
  constructor
  · rintro ⟨addrs, looked, addr, selected, _, bound, _, connected, _, ⟨id, random, rfl⟩, _, sent,
      datagram, heard, replied⟩
    exact ⟨id, datagram, ⟨addrs, addr, looked, selected, bound, connected, random, sent, heard⟩,
      replied⟩
  · rintro ⟨id, datagram, ⟨addrs, addr, looked, selected, bound, connected, random, sent, heard⟩,
      replied⟩
    exact ⟨addrs, looked, addr, selected, (), bound, (), connected, _, ⟨id, random, rfl⟩, (), sent,
      datagram, heard, replied⟩

/-- A blocking request does so too, once its timeout is accepted. -/
theorem StunProvider.bindingRequestBlocking_eq_ok_iff {provider : StunProvider} {target : Target}
    {network : StunNetwork} {version : IpVersion} {timeout : Duration} {ip : IpAddr} :
    provider.bindingRequestBlocking target network version timeout = .ok ip ↔
      network.Accepts timeout ∧
      ∃ transactionId datagram, provider.Exchanges network version transactionId datagram ∧
        provider.reply target ⟨.request, transactionId, []⟩ datagram = .ok ip := by
  simp only [StunProvider.bindingRequestBlocking, StunProvider.Exchanges, StunNetwork.Accepts,
    bind_eq_ok_iff, orFail_eq_ok_iff, okOr_eq_ok_iff, failIf_eq_ok_iff,
    StunMessage.new_eq_ok_iff]
  -- Both sides list the same successes, and the right one leaves out those that return nothing.
  constructor
  · rintro ⟨_, patient, addrs, looked, addr, selected, _, bound, _, reads, _, writes, _, connected,
      _, ⟨id, random, rfl⟩, _, sent, datagram, heard, replied⟩
    exact ⟨⟨patient, reads, writes⟩, id, datagram,
      ⟨addrs, addr, looked, selected, bound, connected, random, sent, heard⟩, replied⟩
  · rintro ⟨⟨patient, reads, writes⟩, id, datagram,
      ⟨addrs, addr, looked, selected, bound, connected, random, sent, heard⟩, replied⟩
    exact ⟨(), patient, addrs, looked, addr, selected, (), bound, (), reads, (), writes, (),
      connected, _, ⟨id, random, rfl⟩, (), sent, datagram, heard, replied⟩

/-! ## The family of a reply -/

/-- The value of an address attribute holds an address of the family that was not asked for. -/
def HoldsOther : IpVersion → Bytes → Prop
  | .v4, value => value[1]? = some 0x02 ∧ 20 ≤ value.length
  | .v6, value => value[1]? = some 0x01 ∧ 8 ≤ value.length
  | .any, _ => False

/-- A success response to a request whose decisive attribute is of the other family. -/
def OtherFamily (version : IpVersion) (transactionId : Octets 12) (reply : Bytes) : Prop :=
  ∃ attributes code value, Datagram .response transactionId attributes reply ∧
    decisiveAttribute attributes = some (code, value) ∧ HoldsOther version value

/-- Masked octets of any family that fit into a value are an address it carries. -/
theorem exists_carried {mask value : Bytes} {count : Nat} {family : UInt8}
    (build : Octets count → IpAddr) (sized : mask.length = 16) (small : count ≤ 16)
    (octets : ∀ address, (build address).octets = address.bytes)
    (tagged : ∀ address, familyByte (build address) = family)
    (named : value[1]? = some family) (long : 4 + count ≤ value.length) :
    ∃ address, Carries mask value (build address) := by
  -- A value opens with a reserved byte, the family, and the two bytes of the port.
  obtain ⟨reserved, tag, high, low, rest, rfl⟩ := split_four (show 4 ≤ value.length by omega)
  simp only [List.length_cons] at long
  cases named
  -- The mask is long enough for every octet.
  have masked : (applyMask mask (rest.take count)).length = count := by
    have front : (rest.take count).length = count := by
      rw [List.length_take]
      omega
    rw [applyMask_length (by omega), front]
  refine ⟨⟨_, masked⟩, (carries_cons_iff sized).mpr ⟨(tagged _).symm, ?_, ?_⟩⟩
  · rw [octets, masked]
    omega
  · rw [octets]
    dsimp only
    rw [masked]

/-- A value carries an address outside the requested family exactly when its bytes hold one. -/
theorem carries_other_iff {mask value : Bytes} {version : IpVersion} (sized : mask.length = 16) :
    (∃ ip, Carries mask value ip ∧ version.matches ip = false) ↔ HoldsOther version value := by
  constructor
  · -- An address of the other family brings its byte and its octets.
    rintro ⟨ip, ⟨reserved, high, low, rest, rfl⟩, other⟩
    have masked : (applyMask mask ip.octets).length = ip.octets.length :=
      applyMask_length (sized ▸ octets_length_le ip)
    cases version with
    | v4 =>
      cases ip with
      | v4 address => cases other
      | v6 address =>
        have octets : (IpAddr.v6 address).octets.length = 16 := address.sized
        refine ⟨rfl, ?_⟩
        simp only [List.length_cons, List.length_append]
        omega
    | v6 =>
      cases ip with
      | v4 address =>
        have octets : (IpAddr.v4 address).octets.length = 4 := address.sized
        refine ⟨rfl, ?_⟩
        simp only [List.length_cons, List.length_append]
        omega
      | v6 address => cases other
    | any => cases other
  · -- The bytes can be unmasked, and are an address then.
    intro holds
    cases version with
    | v4 =>
      obtain ⟨address, carried⟩ := exists_carried IpAddr.v6 sized (by decide) (fun _ => rfl)
        (fun _ => rfl) holds.1 holds.2
      exact ⟨_, carried, rfl⟩
    | v6 =>
      obtain ⟨address, carried⟩ := exists_carried IpAddr.v4 sized (by decide) (fun _ => rfl)
        (fun _ => rfl) holds.1 holds.2
      exact ⟨_, carried, rfl⟩
    | any => exact holds.elim

/-- A reply yields an address outside the requested family exactly when it reports one. -/
theorem StunProvider.reply_other_iff {provider : StunProvider} {target : Target}
    {version : IpVersion} {transactionId : Octets 12} {datagram : Bytes} :
    (∃ ip, provider.reply target ⟨.request, transactionId, []⟩ datagram = .ok ip ∧
        version.matches ip = false) ↔
      OtherFamily version transactionId (datagram.take 576) := by
  constructor
  · -- A reply is accepted for what it carries, and only then is its family of interest.
    rintro ⟨ip, replied, other⟩
    obtain ⟨attributes, answered, code, value, decisive, carried⟩ :=
      processResponse_eq_ok_iff.mp replied
    exact ⟨attributes, code, value, answered, decisive,
      (carries_other_iff (maskOf_length _ _)).mp ⟨ip, carried, other⟩⟩
  · rintro ⟨attributes, code, value, answered, decisive, holds⟩
    obtain ⟨ip, carried, other⟩ :=
      (carries_other_iff (maskOf_length transactionId code)).mpr holds
    exact ⟨ip, processResponse_eq_ok_iff.mpr ⟨attributes, answered, code, value, decisive, carried⟩,
      other⟩

/-- A request keeps to the family exactly when no datagram it may receive is of the other one. -/
theorem StunProvider.bindingRequest_family_iff {provider : StunProvider} {target : Target}
    {network : StunNetwork} {version : IpVersion} :
    (∀ ip, provider.bindingRequest target network version = .ok ip → version.matches ip = true) ↔
      ∀ transactionId datagram, provider.Exchanges network version transactionId datagram →
        ¬ OtherFamily version transactionId (datagram.take 576) := by
  constructor
  · -- A reply of the other family would be an answer of the other family.
    intro kept transactionId datagram exchanged reported
    obtain ⟨ip, replied, other⟩ :=
      (@StunProvider.reply_other_iff provider target version transactionId datagram).mpr reported
    have family := kept ip
      (StunProvider.bindingRequest_eq_ok_iff.mpr ⟨transactionId, datagram, exchanged, replied⟩)
    rw [family] at other
    cases other
  · -- An answer of the other family was such a reply.
    intro absent ip answered
    obtain ⟨transactionId, datagram, exchanged, replied⟩ :=
      StunProvider.bindingRequest_eq_ok_iff.mp answered
    by_contra other
    exact absent transactionId datagram exchanged
      (StunProvider.reply_other_iff.mp ⟨ip, replied, Bool.not_eq_true _ ▸ other⟩)

/-- Blocking requests keep the family under the same condition, if their timeout is accepted. -/
theorem StunProvider.bindingRequestBlocking_family_iff {provider : StunProvider} {target : Target}
    {network : StunNetwork} {version : IpVersion} {timeout : Duration} :
    (∀ ip, provider.bindingRequestBlocking target network version timeout = .ok ip →
        version.matches ip = true) ↔
      (network.Accepts timeout → ∀ transactionId datagram,
        provider.Exchanges network version transactionId datagram →
          ¬ OtherFamily version transactionId (datagram.take 576)) := by
  -- An accepted timeout makes the blocking request the same as the asynchronous one.
  rw [← @StunProvider.bindingRequest_family_iff provider target network version]
  constructor
  · intro kept accepted ip answered
    exact kept ip (StunProvider.bindingRequestBlocking_eq_ok_iff.mpr
      ⟨accepted, StunProvider.bindingRequest_eq_ok_iff.mp answered⟩)
  · intro kept ip answered
    obtain ⟨accepted, replied⟩ := StunProvider.bindingRequestBlocking_eq_ok_iff.mp answered
    exact kept accepted ip (StunProvider.bindingRequest_eq_ok_iff.mpr replied)

end IpDiscovery.Stun
