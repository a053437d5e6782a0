import IpDiscovery.Dns.Order
import IpDiscovery.Stun.Provider

/-! How far the providers prefer IPv4 where either family is accepted. -/

namespace IpDiscovery

/-! ## A preferred kind in a search -/

/-- The first find is of a kind exactly when no find of another kind comes before one of it. -/
theorem findSome?_kind_iff {α β : Type} {search : α → Option β} {kind : β → Prop}
    {items : List α} :
    (∃ found, items.findSome? search = some found ∧ kind found) ↔
      ∃ before item after found, items = before ++ item :: after ∧ search item = some found ∧
        kind found ∧ ∀ other ∈ before, ∀ value, search other = some value → kind value := by
  constructor
  · rintro ⟨found, first, good⟩
    -- Before the first find there is no find at all.
    obtain ⟨before, item, after, rfl, here, none⟩ := List.findSome?_eq_some_iff.mp first
    refine ⟨before, item, after, found, rfl, here, good, ?_⟩
    intro other member value read
    rw [none other member] at read
    cases read
  · rintro ⟨before, item, after, found, rfl, here, good, only⟩
    rw [List.findSome?_append]
    cases early : before.findSome? search with
    | none => exact ⟨found, by rw [List.findSome?_cons, here]; rfl, good⟩
    | some value =>
      obtain ⟨other, member, read⟩ := List.exists_of_findSome?_eq_some early
      exact ⟨value, rfl, only other member value read⟩

/-! ## The two searches -/

namespace Stun

/-- With either family accepted, the first IPv4 address of a server is used. -/
theorem selectAddr_any_first {before after : List SocketAddr} {addr : SocketAddr}
    (v4 : addr.ip.isIpv4 = true) (first : ∀ other ∈ before, other.ip.isIpv4 = false) :
    selectAddr (before ++ addr :: after) .any = some addr := by
  -- The search for IPv4 passes over everything in front.
  have passed : before.find? (fun other => other.ip.isIpv4) = none := by
    rw [List.find?_eq_none]
    intro other member
    rw [first other member]
    decide
  rw [selectAddr, List.find?_append, passed, List.find?_cons, v4]
  rfl

/-- With either family accepted, only a server without addresses has none to use. -/
theorem selectAddr_any_none {addrs : List SocketAddr} :
    selectAddr addrs .any = none ↔ addrs = [] := by
  rw [selectAddr, Option.or_eq_none_iff, List.head?_eq_none_iff]
  constructor
  · exact And.right
  · rintro rfl
    exact ⟨rfl, rfl⟩

end Stun

namespace Dns

/-- The address a token opens with. -/
def tokenAddress (token : String) : Option IpAddr := IpAddr.fromStr (beforeSlash token)

/-- The tokens of all results, in the order in which they are tried. -/
def tokens (results : List String) : List String := results.flatMap splitWhitespace

/-- With either family accepted, the address is that of the first token that opens with one. -/
theorem extractIp_any_eq_ok {provider : DnsProvider} {results : List String} {ip : IpAddr} :
    provider.extractIp results .any = .ok ip ↔
      (tokens results).findSome? tokenAddress = some ip := by
  have accepted : acceptPart .any = tokenAddress := by
    funext token
    unfold acceptPart tokenAddress
    cases IpAddr.fromStr (beforeSlash token) <;> rfl
  rw [tokens, findSome?_flatMap, ← accepted]
  exact okOr_eq_ok_iff

end Dns

/--
A STUN server's first IPv4 address is used wherever it has one, but DNS takes the first address.

So a DNS lookup of either family yields an IPv4 address exactly when no token that opens with an
IPv6 address comes before the first one that opens with an IPv4 address.
-/
theorem any_prefers_ipv4 (addrs : List SocketAddr) (provider : Dns.DnsProvider)
    (results : List String) :
    (((∃ addr ∈ addrs, addr.ip.isIpv4 = true) → ∃ before addr after,
        addrs = before ++ addr :: after ∧ (∀ other ∈ before, other.ip.isIpv4 = false) ∧
          addr.ip.isIpv4 = true ∧ Stun.selectAddr addrs .any = some addr) ∧
      (Stun.selectAddr addrs .any = none ↔ addrs = [])) ∧
    ((∃ token ∈ Dns.tokens results, ∃ ip, Dns.tokenAddress token = some ip ∧ ip.isIpv4 = true) →
      ((∃ ip, provider.extractIp results .any = .ok ip ∧ ip.isIpv4 = true) ↔
        ∃ before token after ip, Dns.tokens results = before ++ token :: after ∧
          Dns.tokenAddress token = some ip ∧ ip.isIpv4 = true ∧
          ∀ other ∈ before, ∀ found, Dns.tokenAddress other = some found →
            found.isIpv4 = true)) := by
  refine ⟨⟨?_, Stun.selectAddr_any_none⟩, ?_⟩
  · intro available
    -- The search takes the first IPv4 address, so all before it are of the other family.
    obtain ⟨addr, found⟩ := Option.isSome_iff_exists.mp (List.find?_isSome.mpr available)
    obtain ⟨v4, before, after, rfl, first⟩ := List.find?_eq_some_iff_append.mp found
    have first : ∀ other ∈ before, other.ip.isIpv4 = false := by
      intro other member
      simpa using first other member
    exact ⟨before, addr, after, rfl, first, v4, Stun.selectAddr_any_first v4 first⟩
  · intro _
    simp only [Dns.extractIp_any_eq_ok]
    exact findSome?_kind_iff

/-- An IPv4 address behind an IPv6 one is used by STUN, and one in front of it by DNS. -/
theorem any_prefers_ipv4_mixed :
    (Stun.selectAddr [⟨.v6 ⟨List.replicate 16 1, rfl⟩, 3478⟩] .any = none ↔
      ([⟨.v6 ⟨List.replicate 16 1, rfl⟩, 3478⟩] : List SocketAddr) = []) ∧
    ∃ ip, Dns.google.extractIp ["203.0.113.7 2001:db8::9"] .any = .ok ip ∧ ip.isIpv4 = true := by
  have split : Dns.tokens ["203.0.113.7 2001:db8::9"] = ["203.0.113.7", "2001:db8::9"] := by
    decide +kernel
  have read : Dns.tokenAddress "203.0.113.7" = some (ipv4 203 0 113 7) := by decide +kernel
  refine ⟨(any_prefers_ipv4 _ Dns.google []).1.2,
    ((any_prefers_ipv4 [] Dns.google _).2 ?_).mpr ?_⟩
  · exact ⟨"203.0.113.7", by rw [split]; exact List.mem_cons_self, _, read, rfl⟩
  · exact ⟨[], "203.0.113.7", ["2001:db8::9"], _, split, read, rfl, by simp⟩

/-- An IPv6 address in front of an IPv4 one is what DNS answers with. -/
theorem any_takes_ipv6 :
    (∃ token ∈ Dns.tokens ["2001:db8::9", "203.0.113.7"],
      Dns.tokenAddress token = some (ipv4 203 0 113 7)) ∧
    Dns.google.extractIp ["2001:db8::9", "203.0.113.7"] .any =
      .ok (.v6 ⟨[0x20, 0x01, 0x0D, 0xB8, 0, 0, 0, 0, 0, 0, 0, 0, 0, 0, 0, 9], rfl⟩) := by
  decide +kernel

end IpDiscovery
