import IpDiscovery.AddrText
import IpDiscovery.Base.Text
import IpDiscovery.Provider

/-! The HTTP provider: its built-in services and the parsers of their bodies. -/

namespace IpDiscovery.Http

/-- A parser of a response body. -/
abbrev ResponseParser := String → Option IpAddr

/-- `parse_plain_text`. -/
def parsePlainText (text : String) : Option IpAddr := IpAddr.fromStr (trim text)

/-- `parse_cloudflare_trace`, which reads the first line that opens with its key. -/
def parseCloudflareTrace (text : String) : Option IpAddr :=
  ((lines text).findSome? (stripPrefix "ip=")).bind fun ipStr => IpAddr.fromStr (trim ipStr)

/-- HTTP provider configuration. -/
structure HttpProvider where
  name : String
  urlV4 : Option String
  urlV6 : Option String
  parser : ResponseParser

/-- `HttpProvider::new`. -/
def HttpProvider.new (name url : String) : HttpProvider :=
  { name, urlV4 := some url, urlV6 := none, parser := parsePlainText }

/-- `with_parser`. -/
def HttpProvider.withParser (provider : HttpProvider) (parser : ResponseParser) : HttpProvider :=
  { provider with parser }

/-- What the provider traits report for an HTTP provider. -/
def HttpProvider.toProvider (provider : HttpProvider) : Provider where
  name := provider.name
  protocol := .http
  supportsVersion := defaultSupportsVersion provider.urlV4.isSome provider.urlV6.isSome

/-- Cloudflare trace endpoint. -/
def cloudflare : HttpProvider :=
  (HttpProvider.new "Cloudflare" "https://1.1.1.1/cdn-cgi/trace").withParser parseCloudflareTrace

/-- AWS checkip service. -/
def aws : HttpProvider := .new "AWS" "https://checkip.amazonaws.com"

end IpDiscovery.Http
