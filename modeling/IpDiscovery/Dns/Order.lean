import IpDiscovery.Dns.Reply

/-! How the extracted address depends on the order of the results. -/

namespace IpDiscovery.Dns

/-- The address a token spells by itself, where it is of the requested family. -/
def bareAddress (version : IpVersion) (token : String) : Option IpAddr :=
  if '/' ∈ token.toList then none else (IpAddr.fromStr token).filter version.matches

/-- The address a result is read as: that of its first token which opens with one. -/
def resultAddress (version : IpVersion) (result : String) : Option IpAddr :=
  (splitWhitespace result).findSome? (acceptPart version)

/-- A search that finds one value wherever it finds any finds that value in every order. -/
theorem findSome?_eq_of_forall {α β : Type} {search : α → Option β} {items : List α} {value : β}
    (only : ∀ item ∈ items, ∀ found, search item = some found → found = value)
    (reached : ∃ item ∈ items, search item ≠ none) : items.findSome? search = some value := by
  cases result : items.findSome? search with
  | none =>
    obtain ⟨item, member, found⟩ := reached
    exact absurd (List.findSome?_eq_none_iff.mp result item member) found
  | some found =>
    -- Whatever is found first is the one value there is.
    obtain ⟨item, member, here⟩ := List.exists_of_findSome?_eq_some result
    rw [only item member found here]

/-- Searching all pieces in order is searching the items for the first one with a find. -/
theorem findSome?_flatMap {α β γ : Type} (search : β → Option γ) (pieces : α → List β)
    (items : List α) :
    (items.flatMap pieces).findSome? search =
      items.findSome? fun item => (pieces item).findSome? search := by
  induction items with
  | nil => rfl
  | cons item items ih =>
    rw [List.flatMap_cons, List.findSome?_append, List.findSome?_cons, ih]
    cases (pieces item).findSome? search <;> rfl

/-- A token without a slash is read to its end. -/
theorem beforeSlash_plain {token : String} (plain : '/' ∉ token.toList) :
    beforeSlash token = token := by
  rw [beforeSlash, List.takeWhile_eq_self_iff.mpr, String.ofList_toList]
  intro char member
  simp only [bne_iff_ne]
  rintro rfl
  exact plain member

/-- A bare address is an acceptable part. -/
theorem acceptPart_bareAddress {version : IpVersion} {token : String} {ip : IpAddr}
    (bare : bareAddress version token = some ip) : acceptPart version token = some ip := by
  unfold bareAddress at bare
  split at bare
  · cases bare
  · rename_i plain
    -- Cutting at the slash leaves the token as it is.
    rw [Option.filter_eq_some_iff] at bare
    rw [acceptPart_eq_some, beforeSlash_plain plain]
    exact bare

/-- The address of the results is that of the first result which is read as one. -/
theorem extractIp_eq_resultAddress (provider : DnsProvider) (results : List String)
    (version : IpVersion) :
    provider.extractIp results version = okOr (results.findSome? (resultAddress version))
      (ProviderError.message provider.name "no valid IP in DNS response") := rfl

/--
The extracted address is that of the first token that opens with one of the requested family.

Where just one token is a bare address, every order of the results yields it exactly when no
result is read as another address.
-/
theorem extractIp_reordered (provider : DnsProvider) (version : IpVersion) :
    (∀ results, provider.extractIp results version =
      okOr ((results.flatMap splitWhitespace).findSome? (acceptPart version))
        (ProviderError.message provider.name "no valid IP in DNS response")) ∧
    ∀ results ip, (results.flatMap splitWhitespace).filterMap (bareAddress version) = [ip] →
      ((∀ shuffled, shuffled.Perm results → provider.extractIp shuffled version = .ok ip) ↔
        ∀ result ∈ results, ∀ found, resultAddress version result = some found → found = ip) := by
  constructor
  · intro results
    rw [findSome?_flatMap]
    rfl
  · intro results ip unique
    constructor
    · intro always result member found read
      -- The result is read first in the order that moves it to the front.
      have moved := always (result :: results.erase result) (List.perm_cons_erase member).symm
      rw [extractIp_eq_resultAddress, List.findSome?_cons, read] at moved
      cases moved
      rfl
    · intro agree shuffled same
      -- The bare address is in one of the results, which is read as some address.
      have held : ip ∈ (results.flatMap splitWhitespace).filterMap (bareAddress version) := by
        rw [unique]
        exact List.mem_singleton_self ip
      obtain ⟨token, among, bare⟩ := List.mem_filterMap.mp held
      obtain ⟨result, member, inside⟩ := List.mem_flatMap.mp among
      have reached : resultAddress version result ≠ none := by
        intro missing
        have passed := List.findSome?_eq_none_iff.mp missing token inside
        rw [acceptPart_bareAddress bare] at passed
        cases passed
      have first := findSome?_eq_of_forall
        (fun item inShuffled => agree item (same.mem_iff.mp inShuffled))
        ⟨result, same.mem_iff.mpr member, reached⟩
      rw [extractIp_eq_resultAddress, first]
      rfl

/-- A prefix of the bare address does no harm in either order. -/
theorem extractIp_reordered_pair :
    google.extractIp ["edns0-client-subnet 203.0.113.7/32", "203.0.113.7"] .v4 =
      .ok (ipv4 203 0 113 7) ∧
    google.extractIp ["203.0.113.7", "edns0-client-subnet 203.0.113.7/32"] .v4 =
      .ok (ipv4 203 0 113 7) := by
  have subnet : resultAddress .v4 "edns0-client-subnet 203.0.113.7/32" =
      some (ipv4 203 0 113 7) := by decide +kernel
  have alone : resultAddress .v4 "203.0.113.7" = some (ipv4 203 0 113 7) := by decide +kernel
  -- Both texts hold the same address, so their order does not matter.
  have ordered := ((extractIp_reordered google .v4).2
    ["edns0-client-subnet 203.0.113.7/32", "203.0.113.7"] (ipv4 203 0 113 7)
    (by decide +kernel)).mpr (by
      rw [List.forall_mem_cons, List.forall_mem_singleton, subnet, alone]
      exact ⟨fun _ read => (Option.some.inj read).symm, fun _ read => (Option.some.inj read).symm⟩)
  exact ⟨ordered _ (.refl _), ordered _ (.swap _ _ [])⟩

/-- A network prefix that comes first is taken for the address, though the other is bare. -/
theorem prefix_taken_for_address :
    (["203.0.113.7", "203.0.113.0/24"].flatMap splitWhitespace).filterMap (bareAddress .v4) =
      [ipv4 203 0 113 7] ∧
    ["203.0.113.0/24", "203.0.113.7"].Perm ["203.0.113.7", "203.0.113.0/24"] ∧
    google.extractIp ["203.0.113.7", "203.0.113.0/24"] .v4 = .ok (ipv4 203 0 113 7) ∧
    google.extractIp ["203.0.113.0/24", "203.0.113.7"] .v4 = .ok (ipv4 203 0 113 0) := by
  decide +kernel

end IpDiscovery.Dns
