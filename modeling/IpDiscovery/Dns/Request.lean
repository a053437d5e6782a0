import IpDiscovery.Dns.Query
import IpDiscovery.Dns.Reply
import IpDiscovery.Network

/-! A whole DNS lookup: the query sent to the resolver, and the address its reply yields. -/

namespace IpDiscovery.Dns

/-- The local address for a resolver. -/
def bindAddr (resolver : SocketAddr) : SocketAddr :=
  if resolver.ip.isIpv6 then unspecifiedV6 else unspecifiedV4

/-- The query of a lookup. -/
def DnsProvider.request (provider : DnsProvider) (filled : Library (Octets 2))
    (version : IpVersion) : ProviderRun Bytes :=
  mapErr (fun error => ProviderError.new provider.name error.display)
    (buildQuery filled provider.queryDomain (provider.selectRecordType version) provider.dnsClass)

/-- What a lookup makes of the datagram in its buffer of the size of a safe UDP payload. -/
def DnsProvider.reply (provider : DnsProvider) (target : Target) (query datagram : Bytes)
    (version : IpVersion) : ProviderRun IpAddr :=
  provider.receive query (received target 1232 (by decide) datagram) version

/-- `query_blocking`, which is `get_ip` of the blocking trait. -/
def DnsProvider.queryBlocking (provider : DnsProvider) (target : Target)
    (filled : Library (Octets 2)) (socket : UdpSocket) (version : IpVersion)
    (timeout : Duration) : ProviderRun IpAddr := do
  -- Without any time, nothing is sent.
  failIf (timeout = 0) (ProviderError.message provider.name "timeout")
  let resolver := provider.selectResolver version
  let query ← provider.request filled version
  orFail provider.name (socket.bind (bindAddr resolver))
  -- Sending and receiving each have the whole timeout.
  orFail provider.name (socket.setReadTimeout timeout)
  orFail provider.name (socket.setWriteTimeout timeout)
  orFail provider.name (socket.connect resolver)
  orFail provider.name (socket.send query)
  let datagram ← orFail provider.name socket.recv
  provider.reply target query datagram version

/-- `query`, which is `get_ip` of the asynchronous trait and leaves timeouts to its caller. -/
def DnsProvider.query (provider : DnsProvider) (target : Target) (filled : Library (Octets 2))
    (socket : UdpSocket) (version : IpVersion) : ProviderRun IpAddr := do
  let resolver := provider.selectResolver version
  let query ← provider.request filled version
  orFail provider.name (socket.bind (bindAddr resolver))
  orFail provider.name (socket.connect resolver)
  orFail provider.name (socket.send query)
  let datagram ← orFail provider.name socket.recv
  provider.reply target query datagram version

/-- An address taken from any datagram is of the requested family. -/
theorem DnsProvider.reply_family {provider : DnsProvider} {target : Target}
    {query datagram : Bytes} {version : IpVersion} {ip : IpAddr}
    (answered : provider.reply target query datagram version = .ok ip) :
    version.matches ip = true := by
  -- Validation and parsing are followed by an extraction that looks at the family.
  obtain ⟨_, _, parsed⟩ := bind_eq_ok answered
  obtain ⟨_, _, extracted⟩ := bind_eq_ok parsed
  exact (extractIp_sound extracted).1

/-- A blocking lookup answers with an address of the requested family. -/
theorem DnsProvider.queryBlocking_family {provider : DnsProvider} {target : Target}
    {filled : Library (Octets 2)} {socket : UdpSocket} {version : IpVersion} {timeout : Duration}
    {ip : IpAddr}
    (answered : provider.queryBlocking target filled socket version timeout = .ok ip) :
    version.matches ip = true := by
  -- Every step before the reply has succeeded, and the reply decides the address.
  simp only [DnsProvider.queryBlocking, bind_eq_ok_iff] at answered
  obtain ⟨_, _, _, _, _, _, _, _, _, _, _, _, _, _, _, _, answered⟩ := answered
  exact DnsProvider.reply_family answered

/-- An asynchronous lookup answers with an address of the requested family. -/
theorem DnsProvider.query_family {provider : DnsProvider} {target : Target}
    {filled : Library (Octets 2)} {socket : UdpSocket} {version : IpVersion} {ip : IpAddr}
    (answered : provider.query target filled socket version = .ok ip) :
    version.matches ip = true := by
  -- The steps are the same, but for the timeout.
  simp only [DnsProvider.query, bind_eq_ok_iff] at answered
  obtain ⟨_, _, _, _, _, _, _, _, _, _, answered⟩ := answered
  exact DnsProvider.reply_family answered

end IpDiscovery.Dns
