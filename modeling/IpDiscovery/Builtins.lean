import IpDiscovery.Dns.Safety
import IpDiscovery.Dns.Exchange
import IpDiscovery.Features
import IpDiscovery.Families
import IpDiscovery.Stun.Alignment

/-! Calls of the built-in providers on a network, and resolutions made of them. -/

namespace IpDiscovery

/-! ## Errors under one name -/

/-- A call that neither panics nor hangs, and fails only under one name. -/
def Owned {α : Type} (name : String) (run : ProviderRun α) : Prop :=
  ∀ fault, run = .error fault → ∃ text, fault = .err ⟨name, text⟩

section Owned

variable {α β : Type} {name : String}

/-- What has succeeded fails under no name. -/
theorem Owned.ok (value : α) : Owned name (.ok value) := nofun

/-- A check that names the provider is owned. -/
theorem Owned.failIf (bad : Prop) [Decidable bad] (text : String) :
    Owned name (failIf bad (ProviderError.message name text)) := by
  unfold IpDiscovery.failIf
  split
  · intro fault failed
    cases failed
    exact ⟨text, rfl⟩
  · exact .ok ()

/-- A missing value is reported under the name. -/
theorem Owned.okOr (value : Option α) (text : String) :
    Owned name (okOr value (ProviderError.message name text)) := by
  intro fault failed
  cases value with
  | some value => cases failed
  | none =>
    cases failed
    exact ⟨text, rfl⟩

/-- Errors of the library are put under the name. -/
theorem Owned.orFail (outcome : Library α) : Owned name (orFail name outcome) := by
  intro fault failed
  cases outcome with
  | ok value => cases failed
  | error text =>
    cases failed
    exact ⟨text, rfl⟩

/-- The errors of a safe computation are put under the name. -/
theorem Owned.mapErr {ε : Type} {run : Except (Fault ε) α} (safe : Safe run)
    (display : ε → String) :
    Owned name (mapErr (fun error => ⟨name, display error⟩) run) := by
  intro fault failed
  -- Only an ordinary error is left, and the name is put in front of it.
  cases run with
  | ok value => cases failed
  | error inner =>
    cases inner with
    | err error =>
      cases failed
      exact ⟨display error, rfl⟩
    | panic => exact absurd rfl safe.1
    | hang => exact absurd rfl safe.2

/-- A sequence is owned where all of its steps are. -/
theorem Owned.bind {first : ProviderRun α} {next : α → ProviderRun β}
    (opening : Owned name first) (onward : ∀ value, Owned name (next value)) :
    Owned name (first >>= next) := by
  intro fault failed
  cases first with
  | ok value => exact onward value fault failed
  | error inner =>
    cases failed
    exact opening _ rfl

/-- What is owned neither panics nor hangs. -/
theorem Owned.safe {run : ProviderRun α} (owned : Owned name run) : Safe run := by
  constructor
  · intro panicked
    obtain ⟨_, same⟩ := owned _ panicked
    cases same
  · intro hung
    obtain ⟨_, same⟩ := owned _ hung
    cases same

/-- The value or the error that a call leaves with, which is all it can leave with. -/
def Owned.outcome : {run : ProviderRun α} → Owned name run → Except ProviderError α
  | .ok value, _ => .ok value
  | .error (.err error), _ => .error error
  | .error .panic, owned => absurd rfl owned.safe.1
  | .error .hang, owned => absurd rfl owned.safe.2

/-- An owned call answers a value exactly if it has computed it. -/
theorem Owned.outcome_eq_ok {run : ProviderRun α} (owned : Owned name run) {value : α} :
    owned.outcome = .ok value ↔ run = .ok value := by
  cases run with
  | ok found => simp [Owned.outcome]
  | error fault =>
    obtain ⟨text, rfl⟩ := owned fault rfl
    simp [Owned.outcome]

/-- An error that a call leaves with is under its name. -/
theorem Owned.outcome_name {run : ProviderRun α} (owned : Owned name run) {error : ProviderError}
    (failed : owned.outcome = .error error) : error.provider = name := by
  cases run with
  | ok found => cases failed
  | error fault =>
    obtain ⟨text, rfl⟩ := owned fault rfl
    cases failed
    rfl

end Owned

/-! ## Calls of the three protocols -/

namespace Dns

/-- The encoder returns a packet or an error. -/
theorem labelLoop_safe (labels : List String) :
    ∀ packet totalLen, Safe (labelLoop labels packet totalLen) := by
  induction labels with
  | nil => exact fun packet totalLen => .ok _
  | cons label labels ih =>
    intro packet totalLen
    rw [labelLoop]
    -- A label fails its checks, or the rest is encoded behind it.
    exact .bind (.failIf _ _) fun _ _ => .bind (.failIf _ _) fun _ _ => ih _ _

/-- The encoder of a whole query returns a packet or an error. -/
theorem buildQuery_safe (filled : Library (Octets 2)) (domain : String) (recordType : RecordType)
    (dnsClass : DnsClass) : Safe (buildQuery filled domain recordType dnsClass) := by
  unfold buildQuery
  apply Safe.bind
  · cases filled with
    | ok idBytes => exact .ok _
    | error text => exact .err _
  · intro idBytes _
    exact .bind (labelLoop_safe _ _ _) fun _ _ => .bind (.failIf _ _) fun _ _ => .ok _

/-- The checks of a reply look at no byte before they have looked at the lengths. -/
theorem validateResponse_safe (query response : Bytes) :
    Safe (validateResponse query response) := by
  unfold validateResponse
  apply Safe.bind (.failIf _ _)
  intro _ long
  obtain ⟨asked, answered⟩ := not_or.mp (failIf_eq_ok long)
  -- Both packets have the two bytes that are compared.
  rw [slice_inside (by omega) (by omega), slice_inside (by omega) (by omega), ok_bind, ok_bind]
  apply Safe.bind (.failIf _ _)
  intro _ _
  -- The flags stand within the header.
  rw [index_inside (show 2 < response.length by omega), ok_bind]
  exact .bind (.failIf _ _) fun _ _ => .failIf _ _

section Calls

variable (provider : DnsProvider) (target : Target) (version : IpVersion)

/-- The query is built, or fails under the name of the provider. -/
theorem request_owned (filled : Library (Octets 2)) :
    Owned provider.name (provider.request filled version) :=
  .mapErr (buildQuery_safe _ _ _ _) DnsQueryError.display

/-- A reply is read into an address, or into an error of the provider's own. -/
theorem reply_owned (query datagram : Bytes) :
    Owned provider.name (provider.reply target query datagram version) :=
  .bind (.mapErr (validateResponse_safe _ _) id) fun _ =>
    .bind (.mapErr (safe_parseResponse _) id) fun _ => .okOr _ _

/-- A blocking lookup fails only under the name of its provider. -/
theorem queryBlocking_owned (filled : Library (Octets 2)) (socket : UdpSocket)
    (timeout : Duration) :
    Owned provider.name (provider.queryBlocking target filled socket version timeout) :=
  .bind (.failIf _ _) fun _ => .bind (request_owned _ _ _) fun _ => .bind (.orFail _) fun _ =>
    .bind (.orFail _) fun _ => .bind (.orFail _) fun _ => .bind (.orFail _) fun _ =>
      .bind (.orFail _) fun _ => .bind (.orFail _) fun _ => reply_owned _ _ _ _ _

/-- An asynchronous lookup fails only under the name of its provider. -/
theorem query_owned (filled : Library (Octets 2)) (socket : UdpSocket) :
    Owned provider.name (provider.query target filled socket version) :=
  .bind (request_owned _ _ _) fun _ => .bind (.orFail _) fun _ => .bind (.orFail _) fun _ =>
    .bind (.orFail _) fun _ => .bind (.orFail _) fun _ => reply_owned _ _ _ _ _

end Calls

end Dns

namespace Stun

/-- The address of a message is looked for without a panic. -/
theorem getMappedAddress_safe (message : StunMessage) : Safe message.getMappedAddress := by
  unfold StunMessage.getMappedAddress
  -- Whichever attribute decides, reading its value is a total function.
  split
  · rw [parseXorMappedAddress_eq]
    exact .ok _
  · split
    · rw [parseMappedAddress_eq]
      exact .ok _
    · exact .ok _

section Calls

variable (provider : StunProvider) (target : Target) (network : StunNetwork) (version : IpVersion)

/-- A binding response is read into an address, or into an error of the provider's own. -/
theorem reply_owned (request : StunMessage) (datagram : Bytes) :
    Owned provider.name (provider.reply target request datagram) :=
  .bind (.mapErr (decode_fails _ _).safe id) fun _ => .bind (.failIf _ _) fun _ =>
    .bind (.failIf _ _) fun _ => .bind (.mapErr (getMappedAddress_safe _) id) fun _ => .okOr _ _

/-- A blocking binding request fails only under the name of its provider. -/
theorem bindingRequestBlocking_owned (timeout : Duration) :
    Owned provider.name (provider.bindingRequestBlocking target network version timeout) :=
  .bind (.failIf _ _) fun _ => .bind (.orFail _) fun _ => .bind (.okOr _ _) fun _ =>
    .bind (.orFail _) fun _ => .bind (.orFail _) fun _ => .bind (.orFail _) fun _ =>
      .bind (.orFail _) fun _ => .bind (.orFail _) fun _ => .bind (.orFail _) fun _ =>
        .bind (.orFail _) fun _ => reply_owned _ _ _ _

/-- An asynchronous binding request fails only under the name of its provider. -/
theorem bindingRequest_owned :
    Owned provider.name (provider.bindingRequest target network version) :=
  .bind (.orFail _) fun _ => .bind (.okOr _ _) fun _ => .bind (.orFail _) fun _ =>
    .bind (.orFail _) fun _ => .bind (.orFail _) fun _ => .bind (.orFail _) fun _ =>
      .bind (.orFail _) fun _ => reply_owned _ _ _ _

end Calls

end Stun

/-- A request over HTTP fails only under the name of its provider. -/
theorem Http.fetchWith_owned (provider : Http.HttpProvider) (client : Http.HttpClient)
    (version : IpVersion) : Owned provider.name (provider.fetchWith client version) :=
  .bind (.okOr _ _) fun _ => .bind (.orFail _) fun _ => .bind (.failIf _ _) fun _ =>
    .bind (.orFail _) fun _ => .bind (.okOr _ _) fun _ => .bind (.failIf _ _) fun _ => .ok _

/-! ## Calls of the built-in providers -/

/-- What one call meets outside the program. -/
structure Outside where
  filled : Library (Octets 2)
  socket : UdpSocket
  stun : Stun.StunNetwork
  blockingClient : Duration → Http.HttpClient
  client : Http.HttpClient

/-- `get_ip` of the blocking trait. -/
def Implementation.getIpBlocking (target : Target) (outside : Outside) (version : IpVersion)
    (timeout : Duration) : Implementation → ProviderRun IpAddr
  | .stun provider => provider.bindingRequestBlocking target outside.stun version timeout
  | .dns provider => provider.queryBlocking target outside.filled outside.socket version timeout
  | .http provider => provider.fetchBlocking outside.blockingClient version timeout
  | .disabled provider => provider.getIp

/-- `get_ip` of the asynchronous trait. -/
def Implementation.getIp (target : Target) (outside : Outside) (version : IpVersion) :
    Implementation → ProviderRun IpAddr
  | .stun provider => provider.bindingRequest target outside.stun version
  | .dns provider => provider.query target outside.filled outside.socket version
  | .http provider => provider.fetch outside.client version
  | .disabled provider => provider.getIp

section Calls

variable (target : Target) (outside : Outside) (version : IpVersion)

/-- Whatever the protocol, a blocking call fails only under the name of its provider. -/
theorem Implementation.getIpBlocking_owned (timeout : Duration) (implementation : Implementation) :
    Owned implementation.toProvider.name
      (implementation.getIpBlocking target outside version timeout) := by
  -- A disabled provider has one error, which is its own.
  cases implementation with
  | stun provider => exact Stun.bindingRequestBlocking_owned _ _ _ _ _
  | dns provider => exact Dns.queryBlocking_owned _ _ _ _ _ _
  | http provider => exact Http.fetchWith_owned _ _ _
  | disabled provider =>
    intro fault failed
    cases failed
    exact ⟨_, rfl⟩

/-- Whatever the protocol, an asynchronous call fails only under the name of its provider. -/
theorem Implementation.getIp_owned (implementation : Implementation) :
    Owned implementation.toProvider.name (implementation.getIp target outside version) := by
  -- The cases are those of the blocking call.
  cases implementation with
  | stun provider => exact Stun.bindingRequest_owned _ _ _ _
  | dns provider => exact Dns.query_owned _ _ _ _ _
  | http provider => exact Http.fetchWith_owned _ _ _
  | disabled provider =>
    intro fault failed
    cases failed
    exact ⟨_, rfl⟩

end Calls

/-! ## Resolutions -/

/-- How an asynchronous call fares: how often it is polled, and whether it outlasts its timeout. -/
structure Pace where
  polls : Nat
  elapsed : Bool
  latency : Duration

section Resolutions

variable (features : Features) (target : Target) (calls : List ConfigCall) (outside : Nat → Outside)

/-- What the matching built-in at a position returns to the blocking resolver. -/
def answerBlocking (position : Nat) (p : BuiltinProvider) : ProviderRun IpAddr :=
  (p.implementation features).getIpBlocking target (outside position)
    (featuredConfig features calls).version (featuredConfig features calls).timeout

/-- What the matching built-in at a position returns to the asynchronous resolver. -/
def answerAsync (position : Nat) (p : BuiltinProvider) : ProviderRun IpAddr :=
  (p.implementation features).getIp target (outside position)
    (featuredConfig features calls).version

/-- The blocking answer of a built-in fails only under the name it is boxed with. -/
theorem answerBlocking_owned (position : Nat) (p : BuiltinProvider) :
    Owned (p.boxed features).name (answerBlocking features target calls outside position p) :=
  Implementation.getIpBlocking_owned _ _ _ _ _

/-- The asynchronous answer of a built-in fails only under the name it is boxed with. -/
theorem answerAsync_owned (position : Nat) (p : BuiltinProvider) :
    Owned (p.boxed features).name (answerAsync features target calls outside position p) :=
  Implementation.getIp_owned _ _ _ _

/-- The calls of a blocking resolution, where the built-ins come before the custom providers. -/
def blockingCalls (custom : Blocking.Calls) : Blocking.Calls := fun position =>
  match (matchingBuiltins features calls)[position]? with
  | some p => .returned (answerBlocking_owned features target calls outside position p).outcome
  | none => custom position

/-- The calls of an asynchronous resolution. -/
def asyncCalls (pace : Nat → Pace) (custom : Async.Calls) : Async.Calls := fun position =>
  match (matchingBuiltins features calls)[position]? with
  | some p =>
    { polls := (pace position).polls
      result :=
        if (pace position).elapsed then .elapsed
        else .returned (answerAsync_owned features target calls outside position p).outcome
      latency := (pace position).latency }
  | none => custom position

end Resolutions

/-- A result is what the call of a matching built-in returned, and says so. -/
def FromBuiltin (features : Features) (calls : List ConfigCall)
    (answer : Nat → BuiltinProvider → ProviderRun IpAddr) (result : ProviderResult) : Prop :=
  ∃ position p, (matchingBuiltins features calls)[position]? = some p ∧
    features.enables p.protocol = true ∧ result.provider = p.display ∧
    result.protocol = p.protocol ∧ answer position p = .ok result.ip

/-- A result is what the call of a matching custom provider returned, and says so. -/
def FromCustom (version : IpVersion) (builtins : Nat) (customs : List Provider)
    (returned : Nat → IpAddr → Prop) (result : ProviderResult) : Prop :=
  ∃ position provider,
    (customs.filter (·.supportsVersion version))[position]? = some provider ∧
    result.provider = provider.name ∧ result.protocol = provider.protocol ∧
    returned (builtins + position) result.ip

/-- Without customs, nothing has come from one. -/
theorem not_fromCustom {version : IpVersion} {builtins : Nat} {returned : Nat → IpAddr → Prop}
    {result : ProviderResult} : ¬ FromCustom version builtins [] returned result := by
  intro ⟨position, provider, located, _⟩
  cases located

section Provenance

variable {features : Features} {target : Target} {calls : List ConfigCall}
  {outside : Nat → Outside}

/-- A stub answers nobody, so whatever was answered came from an enabled provider. -/
theorem enabled_of_answer {p : BuiltinProvider} {run : Implementation → ProviderRun IpAddr}
    (stubbed : ∀ stub, run (.disabled stub) = stub.getIp) {ip : IpAddr}
    (answered : run (p.implementation features) = .ok ip) : features.enables p.protocol = true := by
  by_contra disabled
  rw [BuiltinProvider.implementation_disabled (Bool.not_eq_true _ ▸ disabled), stubbed] at answered
  cases answered

/-- A provider in the matching list is a built-in at its position, or a custom one behind them. -/
theorem located_cases {builtins : List BuiltinProvider} {customs : List Provider} {position : Nat}
    {provider : Provider}
    (located : (builtins.map (·.boxed features) ++ customs)[position]? = some provider) :
    (∃ p, builtins[position]? = some p ∧ provider = p.boxed features) ∨
      ∃ rest, position = builtins.length + rest ∧ builtins[position]? = none ∧
        customs[rest]? = some provider := by
  rw [List.getElem?_append] at located
  split at located
  · -- Inside the built-ins the provider is one of them, in its box.
    rename_i inside
    rw [List.getElem?_map, Option.map_eq_some_iff] at located
    obtain ⟨p, here, same⟩ := located
    exact .inl ⟨p, here, same.symm⟩
  · -- Behind them the positions count the customs.
    rename_i outside
    rw [List.length_map] at outside located
    exact .inr ⟨position - builtins.length, by omega, List.getElem?_eq_none (by omega), located⟩

/-- Whatever a blocking resolution accounts for has come from a network, or from a custom call. -/
theorem blocking_provenance {custom : Blocking.Calls} {result : ProviderResult}
    (accounted : Blocking.Accounts (featuredConfig features calls)
      (blockingCalls features target calls outside custom) result) :
    FromBuiltin features calls (answerBlocking features target calls outside) result ∨
      FromCustom (featuredConfig features calls).version (matchingBuiltins features calls).length
        (blockingAdded calls) (fun position ip => custom position = .returned (.ok ip)) result := by
  obtain ⟨_, provider, _, _, named, spoken, position, located, returned⟩ := accounted
  rw [(featured_matchingProviders features calls).1] at located
  rcases located_cases located with ⟨p, here, rfl⟩ | ⟨rest, rfl, absent, here⟩
  · -- The call of a built-in is the one its implementation makes.
    simp only [blockingCalls, here, Blocking.CallResult.returned.injEq] at returned
    have answered :=
      (answerBlocking_owned features target calls outside position p).outcome_eq_ok.mp returned
    have enabled := enabled_of_answer (fun _ => rfl) answered
    obtain ⟨displayed, protocol⟩ := BuiltinProvider.boxed_enabled enabled
    exact .inl ⟨position, p, here, enabled, named.trans displayed, spoken.trans protocol, answered⟩
  · -- Behind the built-ins the calls are those of the customs.
    simp only [blockingCalls, absent] at returned
    exact .inr ⟨rest, provider, here, named, spoken, returned⟩

/-- An asynchronous result comes from a built-in provider or from a custom one. -/
theorem async_provenance {pace : Nat → Pace} {custom : Async.Calls} {result : ProviderResult}
    (accounted : Async.Accounts (featuredConfig features calls)
      (asyncCalls features target calls outside pace custom) result) :
    FromBuiltin features calls (answerAsync features target calls outside) result ∨
      FromCustom (featuredConfig features calls).version (matchingBuiltins features calls).length
        (asyncAdded calls) (fun position ip => (custom position).result = .returned (.ok ip))
        result := by
  obtain ⟨_, provider, _, _, named, spoken, position, located, returned⟩ := accounted
  rw [(featured_matchingProviders features calls).2] at located
  rcases located_cases located with ⟨p, here, rfl⟩ | ⟨rest, rfl, absent, here⟩
  · simp only [asyncCalls, here] at returned
    split at returned
    · -- A call that was cut short has returned nothing.
      cases returned
    · simp only [Async.CallResult.returned.injEq] at returned
      have answered :=
        (answerAsync_owned features target calls outside position p).outcome_eq_ok.mp returned
      have enabled := enabled_of_answer (fun _ => rfl) answered
      obtain ⟨displayed, protocol⟩ := BuiltinProvider.boxed_enabled enabled
      exact .inl
        ⟨position, p, here, enabled, named.trans displayed, spoken.trans protocol, answered⟩
  · simp only [asyncCalls, absent] at returned
    exact .inr ⟨rest, provider, here, named, spoken, returned⟩

/-- Where custom providers fail under their own names, so do all. -/
theorem blocking_ownErrors {custom : Blocking.Calls}
    (own : ∀ position provider error, ((blockingAdded calls).filter
        (·.supportsVersion (featuredConfig features calls).version))[position]? = some provider →
      custom ((matchingBuiltins features calls).length + position) = .returned (.error error) →
        error.provider = provider.name) :
    Blocking.OwnErrors (featuredConfig features calls)
      (blockingCalls features target calls outside custom) := by
  intro position provider error located failed
  rw [(featured_matchingProviders features calls).1] at located
  rcases located_cases located with ⟨p, here, rfl⟩ | ⟨rest, rfl, absent, here⟩
  · -- A built-in fails under its own name, and a custom one by assumption.
    simp only [blockingCalls, here, Blocking.CallResult.returned.injEq] at failed
    exact (answerBlocking_owned features target calls outside position p).outcome_name failed
  · simp only [blockingCalls, absent] at failed
    exact own rest provider error here failed

/-- Where custom futures fail under their own names, so do all. -/
theorem async_ownErrors {pace : Nat → Pace} {custom : Async.Calls}
    (own : ∀ position provider error, ((asyncAdded calls).filter
        (·.supportsVersion (featuredConfig features calls).version))[position]? = some provider →
      (custom ((matchingBuiltins features calls).length + position)).result =
          .returned (.error error) → error.provider = provider.name) :
    Async.OwnErrors (featuredConfig features calls)
      (asyncCalls features target calls outside pace custom) := by
  intro position provider error located failed
  rw [(featured_matchingProviders features calls).2] at located
  rcases located_cases located with ⟨p, here, rfl⟩ | ⟨rest, rfl, absent, here⟩
  · simp only [asyncCalls, here] at failed
    -- A call that was cut short has no error of its own to tell.
    split at failed
    · cases failed
    · simp only [Async.CallResult.returned.injEq] at failed
      exact (answerAsync_owned features target calls outside position p).outcome_name failed
  · simp only [asyncCalls, absent] at failed
    exact own rest provider error here failed

end Provenance

/--
Resolutions of a configuration are made of its built-in providers' calls on the network.

With any features, settings and networks, an answer is of the requested family, and is what the
call of an enabled built-in or of a custom provider returned. No built-in panics or hangs, and
failures are reported under the names of those who failed.
-/
theorem builtins_resolve (features : Features) (target : Target) (calls : List ConfigCall)
    (outside : Nat → Outside) :
    (∀ clock orders custom answer,
      Blocking.Returns clock (featuredConfig features calls)
        (blockingCalls features target calls outside custom) orders answer →
      (∀ result, answer = .ok result →
        (featuredConfig features calls).version.matches result.ip = true ∧
        (FromBuiltin features calls (answerBlocking features target calls outside) result ∨
          FromCustom (featuredConfig features calls).version
            (matchingBuiltins features calls).length (blockingAdded calls)
            (fun position ip => custom position = .returned (.ok ip)) result)) ∧
      ((∀ position provider error, ((blockingAdded calls).filter
          (·.supportsVersion (featuredConfig features calls).version))[position]? = some provider →
        custom ((matchingBuiltins features calls).length + position) = .returned (.error error) →
          error.provider = provider.name) →
        Reports (Blocking.matchingNames (featuredConfig features calls)) answer)) ∧
    (∀ order pace custom answer,
      Async.resolve order (featuredConfig features calls)
        (asyncCalls features target calls outside pace custom) = answer.mapError Fault.err →
      (∀ result, answer = .ok result →
        (featuredConfig features calls).version.matches result.ip = true ∧
        (FromBuiltin features calls (answerAsync features target calls outside) result ∨
          FromCustom (featuredConfig features calls).version
            (matchingBuiltins features calls).length (asyncAdded calls)
            (fun position ip => (custom position).result = .returned (.ok ip)) result)) ∧
      ((∀ position provider error, ((asyncAdded calls).filter
          (·.supportsVersion (featuredConfig features calls).version))[position]? = some provider →
        (custom ((matchingBuiltins features calls).length + position)).result =
          .returned (.error error) → error.provider = provider.name) →
        Reports (Async.matchingNames (featuredConfig features calls)) answer)) ∧
    ∀ position p, Safe (answerBlocking features target calls outside position p) ∧
      Safe (answerAsync features target calls outside position p) := by
  refine ⟨?_, ?_, ?_⟩
  · intro clock orders custom answer returned
    refine ⟨?_, fun own => Blocking.reports_of_returns (blocking_ownErrors own) returned⟩
    intro result answered
    rw [answered] at returned
    -- Every result is accounted for by a call, whatever the strategy was.
    have accounted := Blocking.accounts_of_returns returned
    exact ⟨accounted.family, blocking_provenance accounted⟩
  · intro order pace custom answer resolved
    refine ⟨?_, fun own => Async.reports_of_resolve (async_ownErrors own) resolved⟩
    intro result answered
    rw [answered] at resolved
    have accounted := Async.accounts_of_resolve resolved
    exact ⟨accounted.family, async_provenance accounted⟩
  · -- Runs of built-ins are safe whatever their networks do.
    intro position p
    exact ⟨(answerBlocking_owned features target calls outside position p).safe,
      (answerAsync_owned features target calls outside position p).safe⟩

/-- A network on which OpenDNS answers. -/
def answeringNetwork : Outside where
  filled := .ok (Dns.sampleLookup true).idBytes
  socket := openSocket Dns.sampleReply.bytes
  stun := crossNetwork
  blockingClient _ _ := .error "offline"
  client _ := .error "offline"

/-- OpenDNS is asked behind a service whose feature is not enabled. -/
def answeringCalls : List ConfigCall := [.set (.providers [.aws, .openDns])]

/-- The stub is passed over, and the answer of OpenDNS is its own. -/
theorem builtins_resolve_stub :
    FromBuiltin .default answeringCalls
      (answerAsync .default .x64 answeringCalls fun _ => answeringNetwork)
      ⟨ipv4 203 0 113 7, "OpenDNS", .dns, 30⟩ := by
  let config := featuredConfig .default answeringCalls
  let calls := asyncCalls .default .x64 answeringCalls (fun _ => answeringNetwork)
    (fun _ => ⟨0, false, 30⟩) fun _ => ⟨0, .elapsed, 0⟩
  -- The two calls are looked at one after the other.
  have stub : Async.callOutcome config (BuiltinProvider.aws.boxed .default) (calls 0) =
      .error ⟨"Aws", "provider feature not enabled"⟩ := by decide +kernel
  have dns : Async.callOutcome config (BuiltinProvider.openDns.boxed .default) (calls 1) =
      .ok ⟨ipv4 203 0 113 7, "OpenDNS", .dns, 30⟩ := by decide +kernel
  have matching : Async.matchingProviders config =
      [BuiltinProvider.aws.boxed .default, BuiltinProvider.openDns.boxed .default] := rfl
  have timed : config.timeout ≠ 0 := by decide
  have resolved : Async.resolve .inserted config calls =
      .ok ⟨ipv4 203 0 113 7, "OpenDNS", .dns, 30⟩ := by
    rw [Async.resolve, matching, if_neg (List.cons_ne_nil _ _),
      show config.strategy = .first from rfl]
    simp only [Async.resolveFirst, matching, List.zipIdx_cons, List.zipIdx_nil, Async.firstLoop,
      Async.makeProviderFuture, if_neg timed, Async.await_waiting, ok_bind, stub, dns]
    rfl
  have answered := ((builtins_resolve .default .x64 answeringCalls fun _ => answeringNetwork).2.1
    .inserted (fun _ => ⟨0, false, 30⟩) (fun _ => ⟨0, .elapsed, 0⟩) (.ok _) resolved).1 _ rfl
  rcases answered.2 with builtin | ⟨position, provider, located, _⟩
  · exact builtin
  · cases located

end IpDiscovery
