import IpDiscovery.Dns.Request
import IpDiscovery.Http.Request
import IpDiscovery.Stun.Request

/-! Which address families the calls of the three protocols answer with. -/

namespace IpDiscovery

/--
DNS and HTTP calls answer with the requested family alone, whatever the reply holds.

A STUN call does so exactly when no reply it may receive is a success response whose decisive
attribute holds an address of the other family, since nothing compares the two.
-/
theorem calls_honour_family (target : Target) (version : IpVersion) :
    (∀ (provider : Dns.DnsProvider) (filled : Library (Octets 2)) (socket : UdpSocket),
      (∀ timeout ip, provider.queryBlocking target filled socket version timeout = .ok ip →
        version.matches ip = true) ∧
      ∀ ip, provider.query target filled socket version = .ok ip → version.matches ip = true) ∧
    (∀ provider : Http.HttpProvider,
      (∀ client timeout ip, provider.fetchBlocking client version timeout = .ok ip →
        version.matches ip = true) ∧
      ∀ client ip, provider.fetch client version = .ok ip → version.matches ip = true) ∧
    ∀ (provider : Stun.StunProvider) (network : Stun.StunNetwork),
      (∀ timeout,
        (∀ ip, provider.bindingRequestBlocking target network version timeout = .ok ip →
          version.matches ip = true) ↔
        (network.Accepts timeout → ∀ transactionId datagram,
          provider.Exchanges network version transactionId datagram →
            ¬ Stun.OtherFamily version transactionId (datagram.take 576))) ∧
      ((∀ ip, provider.bindingRequest target network version = .ok ip →
          version.matches ip = true) ↔
        ∀ transactionId datagram, provider.Exchanges network version transactionId datagram →
          ¬ Stun.OtherFamily version transactionId (datagram.take 576)) := by
  -- DNS and HTTP look at the family themselves, and STUN leaves it to the server.
  refine ⟨?_, ?_, ?_⟩
  · intro provider filled socket
    exact ⟨fun _ _ => Dns.DnsProvider.queryBlocking_family,
      fun _ => Dns.DnsProvider.query_family⟩
  · intro provider
    exact ⟨fun _ _ _ => Http.HttpProvider.fetchWith_family,
      fun _ _ => Http.HttpProvider.fetchWith_family⟩
  · intro provider network
    exact ⟨fun _ => Stun.StunProvider.bindingRequestBlocking_family_iff,
      Stun.StunProvider.bindingRequest_family_iff⟩

/-- A socket on which everything succeeds, and one datagram arrives. -/
def openSocket (datagram : Bytes) : UdpSocket where
  bind _ := .ok ()
  setReadTimeout _ := .ok ()
  setWriteTimeout _ := .ok ()
  connect _ := .ok ()
  send _ := .ok ()
  recv := .ok datagram

/-- A server with an IPv4 address that reports an IPv6 address to the sender of ID zero. -/
def crossNetwork : Stun.StunNetwork where
  lookup _ := .ok [⟨ipv4 203 0 113 1, 3478⟩]
  filled := .ok ⟨List.replicate 12 0, rfl⟩
  socket := openSocket ([0x01, 0x01, 0, 24, 0x21, 0x12, 0xA4, 0x42] ++ List.replicate 12 0 ++
    [0x00, 0x01, 0, 20, 0, 2, 0, 0, 0x20, 0x01, 0x0D, 0xB8, 0, 0, 0, 0, 0, 0, 0, 0, 0, 0, 0, 9])

/-- The IPv6 address 2001:db8::9. -/
def documentationV6 : IpAddr :=
  .v6 ⟨[0x20, 0x01, 0x0D, 0xB8, 0, 0, 0, 0, 0, 0, 0, 0, 0, 0, 0, 9], rfl⟩

/-- A DNS and an HTTP call that answer, and the STUN call that meets the other family. -/
theorem calls_honour_family_answered :
    IpVersion.matches .any (ipv4 203 0 113 7) = true ∧
    IpVersion.matches .v4 (ipv4 198 51 100 42) = true ∧
    ¬ ∀ transactionId datagram,
      Stun.cloudflare.Exchanges crossNetwork .v4 transactionId datagram →
        ¬ Stun.OtherFamily .v4 transactionId (datagram.take 576) := by
  -- The first two are answers of their family, and the third crosses over.
  refine ⟨?_, ?_, ?_⟩
  · exact ((calls_honour_family .x64 .any).1 Dns.opendns (.ok ⟨[0x12, 0x34], rfl⟩)
      (openSocket Dns.sampleReply.bytes)).1 (10 ^ 9) _ (by decide +kernel)
  · exact ((calls_honour_family .x64 .v4).2.1 Http.aws).2
      (fun _ => .ok ⟨200, "200 OK", .ok "198.51.100.42\n"⟩) _ (by decide +kernel)
  · intro absent
    have kept := ((calls_honour_family .x64 .v4).2.2 Stun.cloudflare crossNetwork).2.mpr absent
      documentationV6 (by decide +kernel)
    cases kept

/-- A STUN call for IPv4 answers with the IPv6 address that its server reports. -/
theorem stun_answers_other_family :
    Stun.cloudflare.bindingRequestBlocking .x64 crossNetwork .v4 (10 ^ 9) = .ok documentationV6 ∧
    Stun.cloudflare.bindingRequest .x64 crossNetwork .v4 = .ok documentationV6 ∧
    IpVersion.matches .v4 documentationV6 = false := by
  decide +kernel

end IpDiscovery
