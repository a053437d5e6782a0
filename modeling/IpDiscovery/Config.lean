import IpDiscovery.Dns.Provider
import IpDiscovery.Http.Provider
import IpDiscovery.Stun.Provider

/-! The configuration builder, and the built-in providers it selects from. -/

namespace IpDiscovery

/-! ## Built-in providers -/

/-- Built-in IP detection providers. -/
inductive BuiltinProvider where
  | googleStun
  | googleStun1
  | googleStun2
  | cloudflareStun
  | googleDns
  | cloudflareDns
  | openDns
  | cloudflareHttp
  | aws
deriving DecidableEq, Repr

/-- `BuiltinProvider::protocol`. -/
def BuiltinProvider.protocol : BuiltinProvider → Protocol
  | .googleStun | .googleStun1 | .googleStun2 | .cloudflareStun => .stun
  | .googleDns | .cloudflareDns | .openDns => .dns
  | .cloudflareHttp | .aws => .http

/-- `BuiltinProvider::ALL`, ordered by expected performance. -/
def BuiltinProvider.all : List BuiltinProvider :=
  [.cloudflareStun, .cloudflareDns, .googleStun, .googleStun1, .googleStun2, .googleDns,
    .openDns, .cloudflareHttp, .aws]

/-- `BuiltinProvider::to_boxed_blocking`, with all protocols compiled in. -/
def BuiltinProvider.toBoxedBlocking : BuiltinProvider → BoxedBlockingProvider
  | .googleStun => Stun.google.toProvider
  | .googleStun1 => Stun.google1.toProvider
  | .googleStun2 => Stun.google2.toProvider
  | .cloudflareStun => Stun.cloudflare.toProvider
  | .googleDns => Dns.google.toProvider
  | .cloudflareDns => Dns.cloudflare.toProvider
  | .openDns => Dns.opendns.toProvider
  | .cloudflareHttp => Http.cloudflare.toProvider
  | .aws => Http.aws.toProvider

/-- `BuiltinProvider::to_boxed`, with all protocols compiled in. -/
def BuiltinProvider.toBoxed : BuiltinProvider → BoxedProvider
  | .googleStun => Stun.google.toProvider
  | .googleStun1 => Stun.google1.toProvider
  | .googleStun2 => Stun.google2.toProvider
  | .cloudflareStun => Stun.cloudflare.toProvider
  | .googleDns => Dns.google.toProvider
  | .cloudflareDns => Dns.cloudflare.toProvider
  | .openDns => Dns.opendns.toProvider
  | .cloudflareHttp => Http.cloudflare.toProvider
  | .aws => Http.aws.toProvider

/-! ## Configurations -/

/-- Configuration for IP detection. -/
structure Config where
  blockingProviders : List BoxedBlockingProvider
  providers : List BoxedProvider
  timeout : Duration
  version : IpVersion
  strategy : Strategy

/-- Filter to select which providers to include. -/
inductive ProviderFilter where
  | protocols (protocols : List Protocol)
  | select (selected : List BuiltinProvider)
deriving DecidableEq, Repr

/-- Builder for `Config`. -/
structure ConfigBuilder where
  customProviders : List BoxedProvider
  customBlockingProviders : List BoxedBlockingProvider
  timeout : Duration
  version : IpVersion
  strategy : Strategy
  providerFilter : Option ProviderFilter

/-- `ConfigBuilder::new`. -/
def ConfigBuilder.new : ConfigBuilder where
  customProviders := []
  customBlockingProviders := []
  timeout := 10 * 10 ^ 9
  version := .any
  strategy := .first
  providerFilter := none

/-- Filter providers by protocol. -/
def ConfigBuilder.protocols (builder : ConfigBuilder) (protocols : List Protocol) : ConfigBuilder :=
  { builder with providerFilter := some (.protocols protocols) }

/-- Select specific built-in providers. -/
def ConfigBuilder.providers (builder : ConfigBuilder) (providers : List BuiltinProvider) :
    ConfigBuilder :=
  { builder with providerFilter := some (.select providers) }

/-- Add a custom async provider. -/
def ConfigBuilder.addProvider (builder : ConfigBuilder) (provider : BoxedProvider) :
    ConfigBuilder :=
  { builder with customProviders := builder.customProviders ++ [provider] }

/-- Add a custom blocking provider. -/
def ConfigBuilder.addBlockingProvider (builder : ConfigBuilder)
    (provider : BoxedBlockingProvider) : ConfigBuilder :=
  { builder with customBlockingProviders := builder.customBlockingProviders ++ [provider] }

/-- Set timeout for each provider. -/
def ConfigBuilder.withTimeout (builder : ConfigBuilder) (timeout : Duration) : ConfigBuilder :=
  { builder with timeout }

/-- Set IP version preference. -/
def ConfigBuilder.withVersion (builder : ConfigBuilder) (version : IpVersion) : ConfigBuilder :=
  { builder with version }

/-- Set resolution strategy, with `min_agree` clamped to at least two. -/
def ConfigBuilder.withStrategy (builder : ConfigBuilder) (strategy : Strategy) : ConfigBuilder :=
  { builder with
    strategy :=
      match strategy with
      | .consensus minAgree => .consensus (max minAgree 2)
      | other => other }

/-- `ConfigBuilder::build`, which computes the two provider lists separately. -/
def ConfigBuilder.build (builder : ConfigBuilder) : Config :=
  let hasCustomProviders :=
    !builder.customBlockingProviders.isEmpty || !builder.customProviders.isEmpty
  let blockingProviders :=
    match builder.providerFilter with
    | some (.protocols protocols) =>
      (BuiltinProvider.all.filter fun p => protocols.contains p.protocol).map
        BuiltinProvider.toBoxedBlocking
    | some (.select selected) => selected.map BuiltinProvider.toBoxedBlocking
    | none =>
      if !hasCustomProviders then BuiltinProvider.all.map BuiltinProvider.toBoxedBlocking else []
  let providers :=
    match builder.providerFilter with
    | some (.protocols protocols) =>
      (BuiltinProvider.all.filter fun p => protocols.contains p.protocol).map
        BuiltinProvider.toBoxed
    | some (.select selected) => selected.map BuiltinProvider.toBoxed
    | none => if !hasCustomProviders then BuiltinProvider.all.map BuiltinProvider.toBoxed else []
  { blockingProviders := blockingProviders ++ builder.customBlockingProviders
    providers := providers ++ builder.customProviders
    timeout := builder.timeout
    version := builder.version
    strategy := builder.strategy }

end IpDiscovery
