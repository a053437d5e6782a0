import IpDiscovery.Builtins
import IpDiscovery.Dns.Exchange
import IpDiscovery.Http.Bodies
import IpDiscovery.Stun.Exchange
import IpDiscovery.Tolerance

/-! From packets to a consensus: servers that tell what they see, and how many may lie. -/

namespace IpDiscovery

open Quorum

/-! ## Calls -/

/--
A network on which servers tell the address they see.

Packets of others may arrive, as long as they do not bear the ID of the lookup. A page may hold no
address at all.
-/
def Outside.Tells (outside : Outside) (client : Http.HttpClient) (version : IpVersion)
    (seen : IpAddr) : Implementation → Prop
  | .stun _ => ∀ transactionId datagram, outside.stun.filled = .ok transactionId →
      outside.stun.socket.recv = .ok datagram → Stun.Bears transactionId datagram →
        Stun.Serves seen (Stun.StunMessage.mk .request transactionId []).encode datagram
  | .dns provider => ∀ query datagram, provider.request outside.filled version = .ok query →
      outside.socket.recv = .ok datagram → datagram.take 2 = query.take 2 →
        Dns.Serves seen query datagram
  | .http provider => ∀ text, provider.Receives client version text →
      (provider.parser = Http.parsePlainText ∧ Http.PlainBody seen text) ∨
        (provider.parser = Http.parseCloudflareTrace ∧ Http.TraceBody seen text) ∨
          provider.parser text = none
  | .disabled _ => True

/-- What a STUN lookup believes of an honest server is what the server has seen. -/
theorem Stun.StunProvider.reply_seen {provider : StunProvider} {target : Target}
    {transactionId : Octets 12} {datagram : Bytes} {seen ip : IpAddr}
    (told : Stun.Bears transactionId datagram →
      Stun.Serves seen (StunMessage.mk .request transactionId []).encode datagram)
    (answered : provider.reply target ⟨.request, transactionId, []⟩ datagram = .ok ip) :
    ip = seen := by
  obtain ⟨attributes, datagram', reports⟩ := StunProvider.reply_reported answered
  obtain ⟨msgType, id, attributes', asked, served, honest⟩ := told (datagram'.bears_iff.mpr rfl)
  -- The datagram has one reading, which is the one the server gave it.
  obtain ⟨_, rfl, rfl⟩ := served.unique datagram'
  exact honest ip reports

/-- What an HTTP request believes of an honest server is what the server has seen. -/
theorem Http.HttpProvider.fetchWith_seen {provider : HttpProvider} {client : HttpClient}
    {version : IpVersion} {seen ip : IpAddr}
    (told : ∀ text, provider.Receives client version text →
      (provider.parser = parsePlainText ∧ PlainBody seen text) ∨
        (provider.parser = parseCloudflareTrace ∧ TraceBody seen text) ∨
          provider.parser text = none)
    (answered : provider.fetchWith client version = .ok ip) : ip = seen := by
  obtain ⟨text, received, parsed, _⟩ := HttpProvider.fetchWith_eq_ok_iff.mp answered
  -- The body is plain, a trace, or not read at all.
  rcases told text received with ⟨plain, served⟩ | ⟨trace, served⟩ | unread
  · rw [plain, parsePlainText_body served] at parsed
    exact (Option.some.inj parsed).symm
  · rw [trace, parseCloudflareTrace_body served] at parsed
    exact (Option.some.inj parsed).symm
  · rw [unread] at parsed
    cases parsed

section Calls

variable {target : Target} {outside : Outside} {version : IpVersion} {seen ip : IpAddr}

/-- Whatever a built-in returns over an honest network is the address that was seen. -/
theorem Implementation.getIpBlocking_seen {timeout : Duration} {implementation : Implementation}
    (told : outside.Tells (outside.blockingClient timeout) version seen implementation)
    (answered : implementation.getIpBlocking target outside version timeout = .ok ip) :
    ip = seen := by
  cases implementation with
  | stun provider =>
    -- The datagram that was heard bears the id that was drawn.
    obtain ⟨_, id, datagram, ⟨_, _, _, _, _, _, random, _, heard⟩, replied⟩ :=
      Stun.StunProvider.bindingRequestBlocking_eq_ok_iff.mp answered
    exact Stun.StunProvider.reply_seen (told id datagram random heard) replied
  | dns provider =>
    simp only [Implementation.getIpBlocking, Dns.DnsProvider.queryBlocking, bind_eq_ok_iff,
      orFail_eq_ok_iff] at answered
    obtain ⟨_, _, query, built, _, _, _, _, _, _, _, _, _, _, datagram, heard, replied⟩ := answered
    exact Dns.reply_served (told query datagram built heard (Dns.reply_bears replied)) replied
  | http provider => exact Http.HttpProvider.fetchWith_seen told answered
  | disabled provider => cases answered

/-- An asynchronous call to an honest server answers with what the server has seen. -/
theorem Implementation.getIp_seen {implementation : Implementation}
    (told : outside.Tells outside.client version seen implementation)
    (answered : implementation.getIp target outside version = .ok ip) : ip = seen := by
  cases implementation with
  | stun provider =>
    -- The datagram that was heard bears the id that was drawn.
    obtain ⟨id, datagram, ⟨_, _, _, _, _, _, random, _, heard⟩, replied⟩ :=
      Stun.StunProvider.bindingRequest_eq_ok_iff.mp answered
    exact Stun.StunProvider.reply_seen (told id datagram random heard) replied
  | dns provider =>
    simp only [Implementation.getIp, Dns.DnsProvider.query, bind_eq_ok_iff,
      orFail_eq_ok_iff] at answered
    -- A reply that is read bears the id of its query, so an honest server has sent it.
    obtain ⟨query, built, _, _, _, _, _, _, datagram, heard, replied⟩ := answered
    exact Dns.reply_served (told query datagram built heard (Dns.reply_bears replied)) replied
  | http provider => exact Http.HttpProvider.fetchWith_seen told answered
  | disabled provider => cases answered

end Calls

/-! ## Consensus -/

section Consensus

variable {features : Features} {target : Target} {calls : List ConfigCall}
  {outside : Nat → Outside} {liars : Finset Nat}
  {seen : Fitting (featuredConfig features calls).version}

/-- Built-ins on honest networks vote for the address that is seen, whatever the liars do. -/
theorem blocking_truthful {custom : Blocking.Calls}
    (told : ∀ position ∈ Blocking.voters (featuredConfig features calls), position ∉ liars →
      ∃ p, (matchingBuiltins features calls)[position]? = some p ∧
        (outside position).Tells
          ((outside position).blockingClient (featuredConfig features calls).timeout)
          (featuredConfig features calls).version seen.1 (p.implementation features)) :
    Truthful (Blocking.voters (featuredConfig features calls)) liars seen
      (Blocking.ballot (featuredConfig features calls)
        (blockingCalls features target calls outside custom)) := by
  intro position among honest choice voted
  obtain ⟨p, located, tells⟩ := told position among honest
  -- A ballot is what a call returned, and this one is to an honest server.
  have returned := Blocking.ballot_eq_some.mp voted
  simp only [blockingCalls, located, Blocking.CallResult.returned.injEq] at returned
  exact Subtype.ext (Implementation.getIpBlocking_seen tells
    ((answerBlocking_owned features target calls outside position p).outcome_eq_ok.mp returned))

/-- The same holds of the asynchronous calls. -/
theorem async_truthful {pace : Nat → Pace} {custom : Async.Calls}
    (told : ∀ position ∈ Async.voters (featuredConfig features calls), position ∉ liars →
      ∃ p, (matchingBuiltins features calls)[position]? = some p ∧
        (outside position).Tells (outside position).client
          (featuredConfig features calls).version seen.1 (p.implementation features)) :
    Truthful (Async.voters (featuredConfig features calls)) liars seen
      (Async.ballot (featuredConfig features calls)
        (asyncCalls features target calls outside pace custom)) := by
  intro position among honest choice voted
  obtain ⟨p, located, tells⟩ := told position among honest
  have returned := Async.ballot_eq_some.mp voted
  simp only [asyncCalls, located] at returned
  -- A call that was cut short casts no ballot.
  split at returned
  · cases returned
  · simp only [Async.CallResult.returned.injEq] at returned
    exact Subtype.ext (Implementation.getIp_seen tells
      ((answerAsync_owned features target calls outside position p).outcome_eq_ok.mp returned))

end Consensus

/--
A consensus over the network is the address that honest servers see, from the packets up.

This holds where fewer providers than have to agree are on other networks, whatever these let
through, and custom providers count among them. It does not depend on when and in which order the
calls come to an end.
-/
theorem consensus_seen (features : Features) (target : Target) (calls : List ConfigCall)
    (outside : Nat → Outside) {minAgree : Nat}
    (selected : (featuredConfig features calls).strategy = .consensus minAgree)
    (nonzero : (featuredConfig features calls).timeout ≠ 0)
    (seen : Fitting (featuredConfig features calls).version) {liars : Finset Nat}
    (few : liars.card < minAgree) :
    (liars ⊆ Blocking.voters (featuredConfig features calls) →
      (∀ position ∈ Blocking.voters (featuredConfig features calls), position ∉ liars →
        ∃ p, (matchingBuiltins features calls)[position]? = some p ∧
          (outside position).Tells
            ((outside position).blockingClient (featuredConfig features calls).timeout)
            (featuredConfig features calls).version seen.1 (p.implementation features)) →
      ∀ clock orders custom result,
        Blocking.Returns clock (featuredConfig features calls)
          (blockingCalls features target calls outside custom) orders (.ok result) →
            result.ip = seen.1) ∧
    (liars ⊆ Async.voters (featuredConfig features calls) →
      (∀ position ∈ Async.voters (featuredConfig features calls), position ∉ liars →
        ∃ p, (matchingBuiltins features calls)[position]? = some p ∧
          (outside position).Tells (outside position).client
            (featuredConfig features calls).version seen.1 (p.implementation features)) →
      ∀ order pace custom result,
        Async.resolve order (featuredConfig features calls)
          (asyncCalls features target calls outside pace custom) = .ok result →
            result.ip = seen.1) := by
  -- The builder lets no consensus ask for fewer than two.
  have positive : 1 ≤ minAgree := Nat.le_of_succ_le (builder_strategy calls selected)
  constructor
  · intro inside told clock orders custom result returned
    by_cases none_match : Blocking.matchingProviders (featuredConfig features calls) = []
    · -- Nobody to ask means no result.
      cases (Blocking.returns_iff_of_none none_match).mp returned
    · obtain ⟨state, reached, ended⟩ :=
        (Blocking.returns_iff_of_consensus selected none_match nonzero).mp returned
      -- Liars are fewer than have to agree, so they cannot win a consensus.
      exact (Blocking.truthful_iff positive nonzero inside).mpr few clock orders _ state reached
        (blocking_truthful told) result ended
  · intro inside told order pace custom result resolved
    by_cases none_match : Async.matchingProviders (featuredConfig features calls) = []
    · rw [Async.resolve, if_pos none_match] at resolved
      cases resolved
    · exact (Async.truthful_iff selected positive none_match nonzero inside).mpr few order _
        (async_truthful told) result resolved

/-! ## A run -/

/-- Three built-ins of which two have to agree on an IPv4 address. -/
def trioCalls : List ConfigCall :=
  [.set (.providers [.openDns, .googleStun, .aws]), .set (.strategy (.consensus 2)),
    .set (.version .v4)]

/-- The address that the honest servers see. -/
def trioSeen : Fitting (featuredConfig .all trioCalls).version := ⟨ipv4 203 0 113 7, rfl⟩

/-- OpenDNS and Google tell what they see, and a page lies. -/
def trioNetwork : Outside where
  filled := .ok (Dns.sampleLookup true).idBytes
  socket := openSocket ((Dns.sampleLookup true).response trioSeen.1)
  stun :=
    { lookup _ := .ok [⟨ipv4 203 0 113 1, 3478⟩]
      filled := .ok (Stun.sampleId true)
      socket := openSocket (Stun.bindingResponse (Stun.sampleId true) 9 trioSeen.1) }
  blockingClient _ _ := .ok ⟨200, "200 OK", .ok "198.51.100.42\n"⟩
  client _ := .ok ⟨200, "200 OK", .ok "198.51.100.42\n"⟩

/-- The two UDP servers are honest, whatever client there is for pages. -/
theorem trioNetwork_tells {client : Http.HttpClient} {position : Nat}
    (honest : position = 0 ∨ position = 1) :
    ∃ p, (matchingBuiltins .all trioCalls)[position]? = some p ∧
      trioNetwork.Tells client (featuredConfig .all trioCalls).version trioSeen.1
        (p.implementation .all) := by
  rcases honest with dns | stun
  · subst dns
    refine ⟨.openDns, rfl, fun query datagram built heard _ => ?_⟩
    -- There is one query for the id that was drawn.
    cases (Dns.sampleLookup true).built.symm.trans built
    cases heard
    exact (Dns.sampleLookup true).response_serves trioSeen.1
  · subst stun
    refine ⟨.googleStun, rfl, fun id datagram random heard _ => ?_⟩
    cases random
    cases heard
    exact Stun.bindingResponse_serves _ _ _

/-- The lie of one page among three is never agreed on. -/
theorem consensus_seen_trio :
    (∀ clock orders custom result, Blocking.Returns clock (featuredConfig .all trioCalls)
      (blockingCalls .all .x64 trioCalls (fun _ => trioNetwork) custom) orders (.ok result) →
        result.ip = ipv4 203 0 113 7) ∧
    ∀ order pace custom result, Async.resolve order (featuredConfig .all trioCalls)
      (asyncCalls .all .x64 trioCalls (fun _ => trioNetwork) pace custom) = .ok result →
        result.ip = ipv4 203 0 113 7 := by
  have seen := @consensus_seen .all .x64 trioCalls (fun _ => trioNetwork) 2 rfl (by decide) trioSeen
    {2} (by decide)
  -- Behind the two there is only the third position.
  have honest {position : Nat} (among : position < 3) (other : position ∉ ({2} : Finset Nat)) :
      position = 0 ∨ position = 1 := by
    rw [Finset.mem_singleton] at other
    omega
  constructor
  · exact seen.1 (by decide) fun position among other =>
      trioNetwork_tells (honest (Finset.mem_range.mp among) other)
  · exact seen.2 (by decide) fun position among other =>
      trioNetwork_tells (honest (Finset.mem_range.mp among) other)

end IpDiscovery
