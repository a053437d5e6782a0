import IpDiscovery.Attribution
import IpDiscovery.Builder

/-! Cargo features: builds without some protocols, and the stubs that stand for their providers. -/

namespace IpDiscovery

/-! ## Stubs -/

/-- The protocol features that a build enables. -/
structure Features where
  dns : Bool
  http : Bool
  stun : Bool
deriving DecidableEq, Repr

/-- A build with all protocols. -/
def Features.all : Features := ⟨true, true, true⟩

/-- The features that are enabled where none are named. -/
def Features.default : Features := ⟨true, false, true⟩

/-- The feature of a protocol is enabled. -/
def Features.enables (features : Features) : Protocol → Bool
  | .dns => features.dns
  | .http => features.http
  | .stun => features.stun

/-- Stub provider for a protocol whose feature is not enabled. -/
structure DisabledProvider where
  name : String
deriving DecidableEq, Repr

/-- What the provider traits report for a stub, which supports what the traits do by default. -/
def DisabledProvider.toProvider (provider : DisabledProvider) : Provider where
  name := provider.name
  -- The protocol does not matter, since a stub never answers.
  protocol := .http
  supportsVersion := defaultSupportsVersion true false

/-- `DisabledProvider::get_ip`, in both traits. -/
def DisabledProvider.getIp (provider : DisabledProvider) : ProviderRun IpAddr :=
  .error (.err (ProviderError.message provider.name "provider feature not enabled"))

/-- The derived `Debug` of a built-in provider. -/
def BuiltinProvider.debug : BuiltinProvider → String
  | .googleStun => "GoogleStun"
  | .googleStun1 => "GoogleStun1"
  | .googleStun2 => "GoogleStun2"
  | .cloudflareStun => "CloudflareStun"
  | .googleDns => "GoogleDns"
  | .cloudflareDns => "CloudflareDns"
  | .openDns => "OpenDns"
  | .cloudflareHttp => "CloudflareHttp"
  | .aws => "Aws"

/-- `Display` of a built-in provider. -/
def BuiltinProvider.display : BuiltinProvider → String
  | .googleStun => "Google STUN"
  | .googleStun1 => "Google STUN 1"
  | .googleStun2 => "Google STUN 2"
  | .cloudflareStun => "Cloudflare STUN"
  | .googleDns => "Google DNS"
  | .cloudflareDns => "Cloudflare DNS"
  | .openDns => "OpenDNS"
  | .cloudflareHttp => "Cloudflare"
  | .aws => "AWS"

/-! ## What stands behind a built-in provider -/

/-- A provider that the crate implements. -/
inductive Implementation where
  | stun (provider : Stun.StunProvider)
  | dns (provider : Dns.DnsProvider)
  | http (provider : Http.HttpProvider)
  | disabled (provider : DisabledProvider)

/-- What the provider traits report for an implementation. -/
def Implementation.toProvider : Implementation → Provider
  | .stun provider => provider.toProvider
  | .dns provider => provider.toProvider
  | .http provider => provider.toProvider
  | .disabled provider => provider.toProvider

/-- What `to_boxed` and `to_boxed_blocking` put into their boxes, with some features enabled. -/
def BuiltinProvider.implementation (features : Features) (p : BuiltinProvider) : Implementation :=
  match features.stun, features.dns, features.http, p with
  | true, _, _, .googleStun => .stun Stun.google
  | true, _, _, .googleStun1 => .stun Stun.google1
  | true, _, _, .googleStun2 => .stun Stun.google2
  | true, _, _, .cloudflareStun => .stun Stun.cloudflare
  | _, true, _, .googleDns => .dns Dns.google
  | _, true, _, .cloudflareDns => .dns Dns.cloudflare
  | _, true, _, .openDns => .dns Dns.opendns
  | _, _, true, .cloudflareHttp => .http Http.cloudflare
  | _, _, true, .aws => .http Http.aws
  -- The feature is not enabled.
  | _, _, _, other => .disabled ⟨other.debug⟩

/-- A built-in provider as the traits see it, with some features enabled. -/
def BuiltinProvider.boxed (features : Features) (p : BuiltinProvider) : Provider :=
  (p.implementation features).toProvider

/-- With all features, the boxes hold what the builder puts into them. -/
theorem BuiltinProvider.boxed_all (p : BuiltinProvider) :
    p.boxed .all = p.toBoxedBlocking ∧ p.boxed .all = p.toBoxed := by
  cases p <;> exact ⟨rfl, rfl⟩

/-- An enabled provider is known by what it displays, and speaks its protocol. -/
theorem BuiltinProvider.boxed_enabled {features : Features} {p : BuiltinProvider}
    (enabled : features.enables p.protocol = true) :
    (p.boxed features).name = p.display ∧ (p.boxed features).protocol = p.protocol := by
  -- Each variant looks at the feature of its own protocol.
  cases p <;> simp only [BuiltinProvider.protocol, Features.enables] at enabled <;>
    simp [BuiltinProvider.boxed, BuiltinProvider.implementation, enabled,
      Implementation.toProvider] <;> exact ⟨rfl, rfl⟩

/-- A provider without its feature is a stub that is known by the name of its variant. -/
theorem BuiltinProvider.implementation_disabled {features : Features} {p : BuiltinProvider}
    (disabled : features.enables p.protocol = false) :
    p.implementation features = .disabled ⟨p.debug⟩ := by
  cases p <;> simp only [BuiltinProvider.protocol, Features.enables] at disabled <;>
    simp [BuiltinProvider.implementation, disabled]

/-- The built-in providers that support IPv6 where their feature is enabled. -/
def BuiltinProvider.reachesV6 : BuiltinProvider → Bool
  | .openDns | .cloudflareHttp | .aws => false
  | _ => true

/-- Only IPv6 sets providers apart, and their stubs do not support it at all. -/
theorem BuiltinProvider.boxed_supports {features : Features} {p : BuiltinProvider}
    {version : IpVersion} : (p.boxed features).supportsVersion version = true ↔
      (version = .v6 → features.enables p.protocol = true ∧ p.reachesV6 = true) := by
  by_cases enabled : features.enables p.protocol = true
  · cases p <;> simp only [BuiltinProvider.protocol, Features.enables] at enabled <;>
      cases version <;>
      simp [BuiltinProvider.boxed, BuiltinProvider.implementation, enabled,
        Implementation.toProvider, BuiltinProvider.protocol, Features.enables] <;> decide
  · -- A stub supports what the traits do by default.
    have stub := BuiltinProvider.implementation_disabled (Bool.not_eq_true _ ▸ enabled)
    rw [BuiltinProvider.boxed, stub]
    cases version <;> simp [Implementation.toProvider, DisabledProvider.toProvider,
      defaultSupportsVersion, enabled]

/-! ## Configurations -/

/-- `ConfigBuilder::build`, in a build with some features. -/
def ConfigBuilder.buildWith (features : Features) (builder : ConfigBuilder) : Config :=
  let hasCustomProviders :=
    !builder.customBlockingProviders.isEmpty || !builder.customProviders.isEmpty
  -- The code computes this list once for each trait, and boxes the same providers.
  let selected : List BuiltinProvider :=
    match builder.providerFilter with
    | some (.protocols protocols) =>
      BuiltinProvider.all.filter fun p => protocols.contains p.protocol
    | some (.select selected) => selected
    | none => if !hasCustomProviders then BuiltinProvider.all else []
  { blockingProviders := selected.map (·.boxed features) ++ builder.customBlockingProviders
    providers := selected.map (·.boxed features) ++ builder.customProviders
    timeout := builder.timeout
    version := builder.version
    strategy := builder.strategy }

/-- With all features the same configuration is built. -/
theorem ConfigBuilder.buildWith_all (builder : ConfigBuilder) :
    builder.buildWith .all = builder.build := by
  have blocking : (fun p : BuiltinProvider => p.boxed .all) = BuiltinProvider.toBoxedBlocking :=
    funext fun p => p.boxed_all.1
  have async : (fun p : BuiltinProvider => p.boxed .all) = BuiltinProvider.toBoxed :=
    funext fun p => p.boxed_all.2
  unfold ConfigBuilder.buildWith ConfigBuilder.build
  simp only [Config.mk.injEq, and_true]
  -- The two lists of providers are built alike, case by case of the filter.
  constructor
  · rw [blocking]
    cases builder.providerFilter with
    | none => dsimp only; split <;> rfl
    | some filter => cases filter <;> rfl
  · rw [async]
    cases builder.providerFilter with
    | none => dsimp only; split <;> rfl
    | some filter => cases filter <;> rfl

/-- The configuration that a sequence of calls builds with some features. -/
def featuredConfig (features : Features) (calls : List ConfigCall) : Config :=
  (calls.foldl ConfigCall.apply .new).buildWith features

section Lists

variable {features : Features} {calls : List ConfigCall}

/-- The same built-ins are chosen whatever the features, and boxed with them. -/
theorem featuredConfig_lists (features : Features) (calls : List ConfigCall) :
    (featuredConfig features calls).blockingProviders =
        (builtins calls).map (·.boxed features) ++ blockingAdded calls ∧
      (featuredConfig features calls).providers =
        (builtins calls).map (·.boxed features) ++ asyncAdded calls := by
  unfold featuredConfig ConfigBuilder.buildWith builtins
  rw [builder_filter, builder_async, builder_blocking]
  cases lastFilter calls with
  -- Without a filter both lists ask the same question about the customs of both kinds.
  | none =>
    by_cases custom : blockingAdded calls = [] ∧ asyncAdded calls = []
    · simp [custom.1, custom.2]
    · have some : (!(blockingAdded calls).isEmpty || !(asyncAdded calls).isEmpty) = true := by
        rcases not_and_or.mp custom with blocking | async
        · simp [blocking]
        · simp [async]
      simp [custom, some]
  | some filter => cases filter <;> exact ⟨rfl, rfl⟩

/-- The built-ins of a configuration that support the version it asks for. -/
def matchingBuiltins (features : Features) (calls : List ConfigCall) : List BuiltinProvider :=
  (builtins calls).filter fun p =>
    (p.boxed features).supportsVersion (featuredConfig features calls).version

/-- The matching providers are the matching built-ins, and custom ones behind them. -/
theorem featured_matchingProviders (features : Features) (calls : List ConfigCall) :
    Blocking.matchingProviders (featuredConfig features calls) =
        (matchingBuiltins features calls).map (·.boxed features) ++
          (blockingAdded calls).filter
            (·.supportsVersion (featuredConfig features calls).version) ∧
      Async.matchingProviders (featuredConfig features calls) =
        (matchingBuiltins features calls).map (·.boxed features) ++
          (asyncAdded calls).filter
            (·.supportsVersion (featuredConfig features calls).version) := by
  obtain ⟨blocking, async⟩ := featuredConfig_lists features calls
  constructor
  · rw [Blocking.matchingProviders, blocking, List.filter_append, List.filter_map]
    rfl
  · rw [Async.matchingProviders, async, List.filter_append, List.filter_map]
    rfl

end Lists

end IpDiscovery
