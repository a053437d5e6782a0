import IpDiscovery.Base.Bytes

/-! Addresses, protocols, results and errors shared by the providers and both resolvers. -/

namespace IpDiscovery

/-- A span of time in nanoseconds. -/
abbrev Duration := Nat

/-- A reading of the monotonic clock in nanoseconds. -/
abbrev Instant := Nat

/-- `Duration::MAX`, all seconds of a `u64` and one nanosecond short of another. -/
def Duration.max : Duration := 2 ^ 64 * 10 ^ 9 - 1

/-- An IPv4 or IPv6 address, known by its octets. -/
inductive IpAddr where
  | v4 (address : Octets 4)
  | v6 (address : Octets 16)
deriving DecidableEq, Repr

/-- `Ipv4Addr::new`. -/
def Octets.four (a b c d : UInt8) : Octets 4 := ⟨[a, b, c, d], rfl⟩

/-- An IPv4 address from its four octets. -/
def ipv4 (a b c d : UInt8) : IpAddr := .v4 (.four a b c d)

/-- The octets of an address in network order. -/
def IpAddr.octets : IpAddr → Bytes
  | .v4 address => address.bytes
  | .v6 address => address.bytes

/-- `IpAddr::is_ipv4`. -/
def IpAddr.isIpv4 : IpAddr → Bool
  | .v4 _ => true
  | .v6 _ => false

/-- `IpAddr::is_ipv6`. -/
def IpAddr.isIpv6 : IpAddr → Bool
  | .v4 _ => false
  | .v6 _ => true

/-- An address and a port. -/
structure SocketAddr where
  ip : IpAddr
  port : UInt16
deriving DecidableEq, Repr

/-- Protocol used to detect the public address. -/
inductive Protocol where
  | dns
  | http
  | stun
deriving DecidableEq, Repr

/-- Which address families a caller accepts. -/
inductive IpVersion where
  | v4
  | v6
  | any
deriving DecidableEq, Repr

/-- `IpVersion::matches`. -/
def IpVersion.matches : IpVersion → IpAddr → Bool
  | .v4, ip => ip.isIpv4
  | .v6, ip => ip.isIpv6
  | .any, _ => true

/-- A failure of one provider, with the text its error displays. -/
structure ProviderError where
  provider : String
  error : String
deriving DecidableEq, Repr

/-- `ProviderError::message`. -/
def ProviderError.message (provider message : String) : ProviderError := ⟨provider, message⟩

/-- `ProviderError::new`, for an error that is known by the text it displays. -/
def ProviderError.new (provider error : String) : ProviderError := ⟨provider, error⟩

/-- A provider's computation, which may fail with its error or panic. -/
abbrev ProviderRun (α : Type) := Except (Fault ProviderError) α

/-- A successful lookup. -/
structure ProviderResult where
  ip : IpAddr
  provider : String
  protocol : Protocol
  latency : Duration
deriving DecidableEq, Repr

/-- What a whole resolution fails with. -/
inductive Error where
  | allProvidersFailed (errors : List ProviderError)
  | noProvidersForVersion
  | consensusNotReached (required got : Nat) (errors : List ProviderError)
deriving DecidableEq, Repr

/-- How a resolution combines its providers. -/
inductive Strategy where
  | first
  | race
  | consensus (minAgree : Nat)
deriving DecidableEq, Repr

end IpDiscovery
