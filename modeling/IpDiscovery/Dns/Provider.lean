import IpDiscovery.Base.Text
import IpDiscovery.Provider
import IpDiscovery.Dns.Protocol

/-! The DNS provider: its built-in resolvers, and what it makes of a received reply. -/

namespace IpDiscovery.Dns

/-- DNS class. -/
inductive DnsClass where
  | in
  | cs
  | ch
  | hs
deriving DecidableEq, Repr

/-- Record type of a provider's query. -/
inductive DnsRecordType where
  | address
  | txt
deriving DecidableEq, Repr

/-- DNS provider configuration. -/
structure DnsProvider where
  name : String
  queryDomain : String
  resolverAddr : SocketAddr
  resolverAddrV6 : Option SocketAddr
  recordType : DnsRecordType
  dnsClass : DnsClass
  supportsV4 : Bool
  supportsV6 : Bool
deriving DecidableEq, Repr

/-- `DnsProvider::new`. -/
def DnsProvider.new (name queryDomain : String) (resolverAddr : SocketAddr)
    (recordType : DnsRecordType) : DnsProvider :=
  { name, queryDomain, resolverAddr, resolverAddrV6 := none, recordType, dnsClass := .in,
    supportsV4 := true, supportsV6 := false }

/-- `with_class`. -/
def DnsProvider.withClass (provider : DnsProvider) (dnsClass : DnsClass) : DnsProvider :=
  { provider with dnsClass }

/-- `with_v6_resolver`, which makes the provider support IPv6. -/
def DnsProvider.withV6Resolver (provider : DnsProvider) (addr : SocketAddr) : DnsProvider :=
  { provider with resolverAddrV6 := some addr, supportsV6 := true }

/-- What the provider traits report for a DNS provider. -/
def DnsProvider.toProvider (provider : DnsProvider) : Provider where
  name := provider.name
  protocol := .dns
  supportsVersion := defaultSupportsVersion provider.supportsV4 provider.supportsV6

/-! ## Built-in providers -/

/-- Google DNS, `o-o.myaddr.l.google.com` TXT at `ns1.google.com`. -/
def google : DnsProvider :=
  (DnsProvider.new "Google DNS" "o-o.myaddr.l.google.com" ⟨ipv4 216 239 32 10, 53⟩ .txt)
    |>.withV6Resolver
      ⟨.v6 ⟨[0x20, 0x01, 0x48, 0x60, 0x48, 0x02, 0x00, 0x32, 0, 0, 0, 0, 0, 0, 0, 0x0A], rfl⟩, 53⟩

/-- Cloudflare, `whoami.cloudflare` TXT in the CHAOS class at `1.1.1.1`. -/
def cloudflare : DnsProvider :=
  (DnsProvider.new "Cloudflare DNS" "whoami.cloudflare" ⟨ipv4 1 1 1 1, 53⟩ .txt)
    |>.withClass .ch
    |>.withV6Resolver
      ⟨.v6 ⟨[0x26, 0x06, 0x47, 0x00, 0x47, 0x00, 0, 0, 0, 0, 0, 0, 0, 0, 0x11, 0x11], rfl⟩, 53⟩

/-- OpenDNS, `myip.opendns.com` A at `resolver1.opendns.com`. -/
def opendns : DnsProvider :=
  .new "OpenDNS" "myip.opendns.com" ⟨ipv4 208 67 222 222, 53⟩ .address

/-! ## Queries -/

/-- `DnsProvider::select_resolver`. -/
def DnsProvider.selectResolver (provider : DnsProvider) : IpVersion → SocketAddr
  | .v6 => provider.resolverAddrV6.getD provider.resolverAddr
  | _ => provider.resolverAddr

/-- `DnsProvider::select_record_type`. -/
def DnsProvider.selectRecordType (provider : DnsProvider) (version : IpVersion) : RecordType :=
  match provider.recordType with
  | .address =>
    match version with
    | .v6 => .aaaa
    | _ => .a
  | .txt => .txt

/-! ## Replies -/

/-- `part.split('/').next().unwrap_or(part)`. -/
def beforeSlash (part : String) : String := String.ofList (part.toList.takeWhile (· != '/'))

/-- The address of one part of a result, where it has one of the requested family. -/
def acceptPart (version : IpVersion) (part : String) : Option IpAddr :=
  match IpAddr.fromStr (beforeSlash part) with
  | some ip =>
    match version with
    | .v4 => if ip.isIpv4 then some ip else none
    | .v6 => if ip.isIpv6 then some ip else none
    | .any => some ip
  | none => none

/-- `DnsProvider::extract_ip`: the first acceptable part of the first result that has one. -/
def DnsProvider.extractIp (provider : DnsProvider) (results : List String) (version : IpVersion) :
    ProviderRun IpAddr :=
  okOr (results.findSome? fun result => (splitWhitespace result).findSome? (acceptPart version))
    (ProviderError.message provider.name "no valid IP in DNS response")

/-- `DnsProvider::validate_response`. -/
def validateResponse (query response : Bytes) : Run Unit := do
  failIf (query.length < 2 ∨ response.length < 12) "response too short"
  failIf ((← slice response 0 2) ≠ (← slice query 0 2)) "transaction ID mismatch"
  failIf ((← index response 2) &&& 0x80 = 0) "packet is not a DNS response"
  failIf ((← index response 2) &&& 0x02 ≠ 0) "truncated DNS response"

/-- What `query_blocking` and `query` make of a received datagram. -/
def DnsProvider.receive {target : Target} (provider : DnsProvider) (query : Bytes)
    (response : Slice target) (version : IpVersion) : ProviderRun IpAddr := do
  mapErr (ProviderError.message provider.name) (validateResponse query response.bytes)
  let results ← mapErr (ProviderError.message provider.name)
    (parseResponse response (provider.selectRecordType version))
  provider.extractIp results version

end IpDiscovery.Dns
