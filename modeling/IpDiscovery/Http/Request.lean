import IpDiscovery.Http.Provider
import IpDiscovery.Network

/-! A whole HTTP lookup: the request for a provider's URL, and the address in the body. -/

namespace IpDiscovery.Http

/-- A response as the HTTP client hands it over, with the text its status displays. -/
structure HttpResponse where
  status : UInt16
  statusText : String
  text : Library String

/-- `StatusCode::is_success`. -/
def HttpResponse.isSuccess (response : HttpResponse) : Bool :=
  200 ≤ response.status && response.status < 300

/-- What sending a GET request for a URL comes to. -/
abbrev HttpClient := String → Library HttpResponse

/-- `HttpProvider::get_url`. -/
def HttpProvider.getUrl (provider : HttpProvider) : IpVersion → Option String
  | .v6 => provider.urlV6.or provider.urlV4
  | _ => provider.urlV4

/-- What both fetches do with their client. -/
def HttpProvider.fetchWith (provider : HttpProvider) (client : HttpClient) (version : IpVersion) :
    ProviderRun IpAddr := do
  let url ← okOr (provider.getUrl version)
    (ProviderError.message provider.name "no URL for IP version")
  let response ← orFail provider.name (client url)
  -- The body of an error page is not read.
  failIf (response.isSuccess = false)
    (ProviderError.message provider.name ("HTTP error: " ++ response.statusText))
  let text ← orFail provider.name response.text
  let ip ← okOr (provider.parser text)
    (ProviderError.message provider.name "failed to parse response")
  -- A parsed address of the other family is refused.
  failIf (version.matches ip = false)
    (ProviderError.message provider.name "provider returned unexpected IP version")
  return ip

/-- `fetch_blocking`, which is `get_ip` of the blocking trait and has a client for its timeout. -/
def HttpProvider.fetchBlocking (provider : HttpProvider) (client : Duration → HttpClient)
    (version : IpVersion) (timeout : Duration) : ProviderRun IpAddr :=
  provider.fetchWith (client timeout) version

/-- `fetch`, which is `get_ip` of the asynchronous trait and uses the provider's own client. -/
def HttpProvider.fetch (provider : HttpProvider) (client : HttpClient) (version : IpVersion) :
    ProviderRun IpAddr :=
  provider.fetchWith client version

/-- An address taken from any body is of the requested family. -/
theorem HttpProvider.fetchWith_family {provider : HttpProvider} {client : HttpClient}
    {version : IpVersion} {ip : IpAddr} (answered : provider.fetchWith client version = .ok ip) :
    version.matches ip = true := by
  -- The last check before the answer is that of the family.
  simp only [HttpProvider.fetchWith, bind_eq_ok_iff] at answered
  obtain ⟨_, _, _, _, _, _, _, _, found, _, _, family, answered⟩ := answered
  cases answered
  exact Bool.not_eq_false _ ▸ failIf_eq_ok family

end IpDiscovery.Http
