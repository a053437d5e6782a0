import IpDiscovery.Ipd

/-! The binding for Node: the options of a script, and the objects and errors it is given. -/

namespace IpDiscovery.Node

/-- The strategies of the binding, which has no number of agreeing providers. -/
inductive Strategy where
  | first
  | race
  | consensus
deriving DecidableEq, Repr

/-- The strategy of the library, whose consensus needs two providers that agree. -/
def Strategy.toRust : Strategy → IpDiscovery.Strategy
  | .first => .first
  | .race => .race
  | .consensus => .consensus 2

/-- The options of a script, whose versions, protocols and providers are those of the library. -/
structure JsConfig where
  timeoutMs : Option UInt32
  version : Option IpVersion
  strategy : Option Strategy
  protocols : Option (List Protocol)
  providers : Option (List BuiltinProvider)
deriving DecidableEq, Repr

/-- The object of a successful lookup. -/
structure JsProviderResult where
  ip : String
  provider : String
  protocol : String
  latencyMs : UInt32
deriving DecidableEq, Repr

/-- The builder calls for the options that are present. -/
def JsConfig.calls (config : JsConfig) : List ConfigCall :=
  (config.timeoutMs.map fun ms => .set (.timeout (ms.toNat * 10 ^ 6))).toList ++
    (config.version.map fun version => .set (.version version)).toList ++
    (config.strategy.map fun strategy => .set (.strategy strategy.toRust)).toList ++
    (config.protocols.map fun protocols => .set (.protocols protocols)).toList ++
    (config.providers.map fun providers => .set (.providers providers)).toList

/-- The builder calls of `get_ip`, which leaves out everything where no options are given. -/
def callsOf (config : Option JsConfig) : List ConfigCall := (config.map JsConfig.calls).getD []

/-- The object for a result, whose milliseconds are cut off at 32 bits. -/
def ofResult (result : ProviderResult) : JsProviderResult where
  ip := result.ip.display
  provider := result.provider
  protocol := result.protocol.display
  latencyMs := UInt32.ofNat (Duration.asMillis result.latency)

/-- What an entry point makes of a resolution, with an opening for its errors. -/
def convert (opening : String) (debug : List ProviderError → String) :
    Except Error ProviderResult → Except String JsProviderResult
  | .ok result => .ok (ofResult result)
  | .error e => .error (opening ++ " discovery failed: " ++ e.display debug)

/-- `get_ip`. -/
def getIp (debug : List ProviderError → String)
    (getIpWith : Config → Except Error ProviderResult) (config : Option JsConfig) :
    Except String JsProviderResult :=
  convert "IP" debug (getIpWith (featuredConfig .all (callsOf config)))

/-- `get_ipv4`. -/
def getIpv4 (debug : List ProviderError → String)
    (getIpWith : Config → Except Error ProviderResult) : Except String JsProviderResult :=
  convert "IPv4" debug (getIpWith (featuredConfig .all [.set (.version .v4)]))

/-- `get_ipv6`. -/
def getIpv6 (debug : List ProviderError → String)
    (getIpWith : Config → Except Error ProviderResult) : Except String JsProviderResult :=
  convert "IPv6" debug (getIpWith (featuredConfig .all [.set (.version .v6)]))

/-- `get_private_ip`. -/
def getPrivateIp (socket : LocalSocket) : Option String :=
  (IpDiscovery.getPrivateIp socket).map (·.display)

/-- `get_private_ipv6`. -/
def getPrivateIpv6 (socket : LocalSocket) : Option String :=
  (IpDiscovery.getPrivateIpv6 socket).map (·.display)

/-- A lookup by family is one that asks for the family alone, but for how its errors open. -/
theorem getIp_of_family (debug : List ProviderError → String)
    (getIpWith : Config → Except Error ProviderResult) :
    (getIpv4 debug getIpWith).toOption =
        (getIp debug getIpWith (some ⟨none, some .v4, none, none, none⟩)).toOption ∧
      (getIpv6 debug getIpWith).toOption =
        (getIp debug getIpWith (some ⟨none, some .v6, none, none, none⟩)).toOption := by
  have same (opening : String) (answer : Except Error ProviderResult) :
      (convert opening debug answer).toOption = (convert "IP" debug answer).toOption := by
    cases answer <;> rfl
  exact ⟨same "IPv4" _, same "IPv6" _⟩

/-- The local address of a script is what `ipd -l -n` prints. -/
theorem localIp_eq_stdout {host : Ipd.Host} {cli : Ipd.Cli} (asked : cli.localScope = true)
    (plain : cli.format = .plain) (bare : cli.noNewline = true) (loud : cli.quiet = false) :
    (Ipd.main host cli).stdout =
      (if cli.ipv4 = false ∧ cli.ipv6 = true then getPrivateIpv6 host.v6
        else (getPrivateIp host.v4).or (getPrivateIpv6 host.v6)).getD "" := by
  have located : (Ipd.localIp host cli).map (·.display) =
      if cli.ipv4 = false ∧ cli.ipv6 = true then getPrivateIpv6 host.v6
        else (getPrivateIp host.v4).or (getPrivateIpv6 host.v6) := by
    -- The four combinations of the flags ask for the same addresses on both sides.
    cases v4 : cli.ipv4 <;> cases v6 : cli.ipv6 <;>
      simp [Ipd.localIp, v4, v6, getPrivateIp, getPrivateIpv6, Option.map_or]
  rw [← located, Ipd.main, if_pos asked]
  cases Ipd.localIp host cli with
  | none => rfl
  | some ip =>
    have printed : Ipd.privateOutput host cli ip = ip.display := by
      simp only [Ipd.privateOutput, plain, Ipd.plainOutput, bare, if_true]
    simp only [Ipd.Cli.succeed, printed, loud, Option.map_some, Option.getD_some]
    rfl

/-! ## Lookups -/

/-- The builder of the binding, by its fields. -/
theorem JsConfig.builder (config : JsConfig) : config.calls.foldl ConfigCall.apply .new =
    { ConfigBuilder.new with
      timeout := (config.timeoutMs.map fun ms => ms.toNat * 10 ^ 6).getD (10 * 10 ^ 9)
      version := config.version.getD .any
      strategy := (config.strategy.getD .first).toRust
      -- Providers are set behind protocols, and take their place.
      providerFilter :=
        (config.providers.map .select).or (config.protocols.map .protocols) } := by
  obtain ⟨timeoutMs, version, strategy, protocols, providers⟩ := config
  -- The number of agreeing providers is not below the least one, so nothing is clamped.
  have chosen (builder : ConfigBuilder) (strategy : Strategy) :
      builder.withStrategy strategy.toRust = { builder with strategy := strategy.toRust } := by
    cases strategy <;> rfl
  -- Each option is either absent and left to its default, or set.
  cases timeoutMs <;> cases version <;> cases strategy <;> cases protocols <;> cases providers <;>
    simp [JsConfig.calls, ConfigCall.apply, BuilderCall.apply, ConfigBuilder.withVersion,
      ConfigBuilder.withTimeout, ConfigBuilder.protocols, ConfigBuilder.providers,
      ConfigBuilder.new, chosen, show Strategy.first.toRust = .first from rfl]

/-- The binding adds no provider of its own. -/
theorem callsOf_customs (config : Option JsConfig) : asyncAdded (callsOf config) = [] := by
  have plain (options : JsConfig) : asyncAdded options.calls = [] := by
    obtain ⟨timeoutMs, version, strategy, protocols, providers⟩ := options
    cases timeoutMs <;> cases version <;> cases strategy <;> cases protocols <;>
      -- No call of the binding is one that adds a provider.
      cases providers <;> rfl
  cases config with
  | none => rfl
  | some options => exact plain options

/-- A filter without entries chooses nobody. -/
theorem builtins_of_empty {options : JsConfig} (empty : options.providers = some [] ∨
    (options.providers = none ∧ options.protocols = some [])) : builtins options.calls = [] := by
  have last : lastFilter options.calls =
      (options.providers.map ProviderFilter.select).or
        (options.protocols.map ProviderFilter.protocols) := by
    rw [← builder_filter, options.builder]
  -- An empty list of names leaves nothing, and an empty list of protocols allows nothing.
  rw [builtins, last]
  rcases empty with chosen | ⟨unchosen, limited⟩
  · simp [chosen, selectedBuiltins]
  · simp [unchosen, limited, selectedBuiltins]

/--
The object that a script is given holds what the call of a chosen provider returned.

Its text reads back as the address, which is of the requested family, and its other fields name
the provider and its protocol. An empty list of providers, or one of protocols alone, leaves none,
and is answered as a version that nobody supports.
-/
theorem getIp_honest (debug : List ProviderError → String)
    (getIpWith : Config → Except Error ProviderResult) (config : Option JsConfig)
    (target : Target) (outside : Nat → Outside) (order : HashOrder IpAddr (List ProviderResult))
    (pace : Nat → Pace) (custom : Async.Calls)
    (resolved : Async.resolve order (featuredConfig .all (callsOf config))
      (asyncCalls .all target (callsOf config) outside pace custom) =
        (getIpWith (featuredConfig .all (callsOf config))).mapError Fault.err) :
    (∀ object, getIp debug getIpWith config = .ok object →
      ∃ ip position p, IpAddr.fromStr object.ip = some ip ∧
        (featuredConfig .all (callsOf config)).version.matches ip = true ∧
        (matchingBuiltins .all (callsOf config))[position]? = some p ∧
        object.provider = p.display ∧ object.protocol = p.protocol.display ∧
        answerAsync .all target (callsOf config) outside position p = .ok ip) ∧
    ∀ options, config = some options →
      (options.providers = some [] ∨
        (options.providers = none ∧ options.protocols = some [])) →
      getIp debug getIpWith config =
        .error "IP discovery failed: no providers support the requested IP version" := by
  constructor
  · intro object converted
    rw [getIp] at converted
    cases answered : getIpWith (featuredConfig .all (callsOf config)) with
    -- The error of the resolver is none that a script is given.
    | error error =>
      rw [answered] at converted
      cases converted
    | ok result =>
      rw [answered] at converted resolved
      cases converted
      have accounted := Async.accounts_of_resolve resolved
      have source := async_provenance accounted
      rw [callsOf_customs] at source
      obtain ⟨position, p, located, _, named, spoken, returned⟩ :=
        source.resolve_right not_fromCustom
      -- Without customs, the result is from a built-in provider.
      exact ⟨result.ip, position, p, result.ip.fromStr_display, accounted.family, located, named,
        congrArg Protocol.display spoken, returned⟩
  · rintro options rfl empty
    -- Nobody is left by such a filter, whatever was set before it.
    have nobody : Async.matchingProviders (featuredConfig .all (callsOf (some options))) = [] := by
      rw [(featured_matchingProviders _ _).2, matchingBuiltins, callsOf_customs]
      have none_chosen : builtins (callsOf (some options)) = [] := builtins_of_empty empty
      rw [none_chosen]
      rfl
    rw [Async.resolve, if_pos nobody] at resolved
    cases answered : getIpWith (featuredConfig .all (callsOf (some options))) with
    | ok result =>
      rw [answered] at resolved
      cases resolved
    | error error =>
      rw [answered] at resolved
      cases resolved
      rw [getIp, answered]
      rfl

/-- The only provider of a configuration is answered with, where it answers in time. -/
theorem resolve_lone {order : HashOrder IpAddr (List ProviderResult)} {config : Config}
    {calls : Async.Calls} {provider : Provider} {ip : IpAddr}
    (lone : Async.matchingProviders config = [provider]) (strategy : config.strategy = .first)
    (nonzero : config.timeout ≠ 0) (called : (calls 0).result = .returned (.ok ip))
    (family : config.version.matches ip = true) :
    Async.resolve order config calls =
      .ok ⟨ip, provider.name, provider.protocol, (calls 0).latency⟩ := by
  rw [Async.resolve, lone, if_neg (List.cons_ne_nil _ _), strategy]
  simp [Async.resolveFirst, lone, Async.firstLoop, Async.makeProviderFuture, nonzero,
    Async.await_waiting, Async.callOutcome, called, family]
  rfl

/-- A script that asks for OpenDNS alone. -/
def sampleConfig : JsConfig := ⟨none, some .v4, none, none, some [.openDns]⟩

/-- The script is given what OpenDNS has returned. -/
theorem getIp_honest_openDns :
    ∃ ip position p, IpAddr.fromStr "203.0.113.7" = some ip ∧ IpVersion.matches .v4 ip = true ∧
      (matchingBuiltins .all sampleConfig.calls)[position]? = some p ∧ "OpenDNS" = p.display ∧
      "DNS" = p.protocol.display ∧
      answerAsync .all .x64 sampleConfig.calls (fun _ => answeringNetwork) position p = .ok ip := by
  have called : (asyncCalls .all .x64 sampleConfig.calls (fun _ => answeringNetwork)
      (fun _ => ⟨0, false, 30⟩) (fun _ => ⟨0, .elapsed, 0⟩) 0).result =
        .returned (.ok (ipv4 203 0 113 7)) := by decide +kernel
  exact (getIp_honest (fun _ => "") (fun _ => .ok ⟨ipv4 203 0 113 7, "OpenDNS", .dns, 30⟩)
    (some sampleConfig) .x64 (fun _ => answeringNetwork) .inserted (fun _ => ⟨0, false, 30⟩)
    (fun _ => ⟨0, .elapsed, 0⟩) (@resolve_lone _ _ _ (BuiltinProvider.openDns.boxed .all) _ rfl rfl
      (by decide) called rfl)).1 ⟨"203.0.113.7", "OpenDNS", "DNS", 0⟩ (by decide +kernel)

end IpDiscovery.Node
