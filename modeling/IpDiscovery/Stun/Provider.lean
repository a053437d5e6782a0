import IpDiscovery.Provider
import IpDiscovery.Stun.Message

/-! The STUN provider: its built-in servers, address selection, and the checks on a reply. -/

namespace IpDiscovery.Stun

/-- STUN provider for IP detection. -/
structure StunProvider where
  name : String
  server : String
  port : UInt16

/-- What the provider traits report for a STUN provider. -/
def StunProvider.toProvider (provider : StunProvider) : Provider where
  name := provider.name
  protocol := .stun
  supportsVersion := defaultSupportsVersion true true

/-- Google STUN server. -/
def google : StunProvider := ⟨"Google STUN", "stun.l.google.com", 19302⟩

/-- Google STUN server 1. -/
def google1 : StunProvider := ⟨"Google STUN 1", "stun1.l.google.com", 19302⟩

/-- Google STUN server 2. -/
def google2 : StunProvider := ⟨"Google STUN 2", "stun2.l.google.com", 19302⟩

/-- Cloudflare STUN server. -/
def cloudflare : StunProvider := ⟨"Cloudflare STUN", "stun.cloudflare.com", 3478⟩

/-- `StunProvider::select_addr`. -/
def selectAddr (addrs : List SocketAddr) (version : IpVersion) : Option SocketAddr :=
  match version with
  | .v4 => addrs.find? fun addr => addr.ip.isIpv4
  | .v6 => addrs.find? fun addr => addr.ip.isIpv6
  | .any => (addrs.find? fun addr => addr.ip.isIpv4).or addrs.head?

/-- `StunProvider::process_response`. -/
def processResponse (target : Target) (request : StunMessage) (buf : Bytes) (name : String) :
    ProviderRun IpAddr := do
  let response ← mapErr (ProviderError.message name) (StunMessage.decode target buf)
  failIf (response.transactionId ≠ request.transactionId)
    (ProviderError.message name "transaction ID mismatch")
  failIf (response.msgType ≠ .response)
    (ProviderError.message name "not a binding success response")
  let mapped ← mapErr (ProviderError.message name) response.getMappedAddress
  okOr mapped (ProviderError.message name "no mapped address in response")

end IpDiscovery.Stun
