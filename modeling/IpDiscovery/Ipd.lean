import IpDiscovery.Builtins
import IpDiscovery.Http.Bodies
import IpDiscovery.Parity

/-! The `ipd` command: its options, the configuration they build, and what it prints. -/

namespace IpDiscovery

/-- `Display` of a protocol. -/
def Protocol.display : Protocol → String
  | .dns => "DNS"
  | .http => "HTTP"
  | .stun => "STUN"

/-- `Display` of an error, with the `Debug` text of the errors that providers gave. -/
def Error.display (debug : List ProviderError → String) : Error → String
  | .allProvidersFailed errors => "all providers failed: " ++ debug errors
  | .noProvidersForVersion => "no providers support the requested IP version"
  | .consensusNotReached required got errors =>
    "consensus not reached (required " ++ toString required ++ ", got " ++ toString got ++ ", " ++
      toString errors.length ++ " provider errors)"

/-- `Duration::as_millis`. -/
def Duration.asMillis (duration : Duration) : Nat := duration / 10 ^ 6

/-! ## Local addresses -/

/-- A UDP socket that can be asked for its own address. -/
structure LocalSocket extends UdpSocket where
  localAddr : Library SocketAddr

/-- The address that a socket has once it is connected to a public destination. -/
def LocalSocket.route (socket : LocalSocket) (unspecified destination : SocketAddr) :
    Option IpAddr := do
  (socket.bind unspecified).toOption
  (socket.connect destination).toOption
  let addr ← socket.localAddr.toOption
  return addr.ip

/-- `get_private_ip`, by the route to Google DNS. -/
def getPrivateIp (socket : LocalSocket) : Option IpAddr :=
  socket.route unspecifiedV4 ⟨ipv4 8 8 8 8, 80⟩

/-- `get_private_ipv6`, by the route to Google DNS over IPv6. -/
def getPrivateIpv6 (socket : LocalSocket) : Option IpAddr :=
  socket.route unspecifiedV6
    ⟨.v6 ⟨[0x20, 0x01, 0x48, 0x60, 0x48, 0x60, 0, 0, 0, 0, 0, 0, 0, 0, 0x88, 0x88], rfl⟩, 80⟩

namespace Ipd

/-! ## Options -/

/-- What is printed of a result. -/
inductive OutputFormat where
  | plain
  | json
  | verbose
deriving DecidableEq, Repr

/-- The strategies of the command, which has no number of agreeing providers. -/
inductive StrategyArg where
  | first
  | race
  | consensus
deriving DecidableEq, Repr

/-- The protocols of the command. -/
inductive ProtocolArg where
  | dns
  | stun
  | http
deriving DecidableEq, Repr

/-- The providers of the command. -/
inductive BuiltinProviderArg where
  | googleStun
  | googleStun1
  | googleStun2
  | cloudflareStun
  | googleDns
  | cloudflareDns
  | openDns
  | cloudflareHttp
  | aws
deriving DecidableEq, Repr

/-- The options of the command. -/
structure Cli where
  ipv4 : Bool
  ipv6 : Bool
  format : OutputFormat
  strategy : StrategyArg
  protocol : List ProtocolArg
  provider : List BuiltinProviderArg
  timeout : UInt64
  -- The option is called `private`.
  localScope : Bool
  noNewline : Bool
  quiet : Bool
deriving DecidableEq, Repr

/-- `From<BuiltinProviderArg>`. -/
def BuiltinProviderArg.toBuiltin : BuiltinProviderArg → BuiltinProvider
  | .googleStun => .googleStun
  | .googleStun1 => .googleStun1
  | .googleStun2 => .googleStun2
  | .cloudflareStun => .cloudflareStun
  | .googleDns => .googleDns
  | .cloudflareDns => .cloudflareDns
  | .openDns => .openDns
  | .cloudflareHttp => .cloudflareHttp
  | .aws => .aws

/-- The protocol of the library. -/
def ProtocolArg.toProtocol : ProtocolArg → Protocol
  | .dns => .dns
  | .stun => .stun
  | .http => .http

/-- The strategy of the library, whose consensus needs two providers that agree. -/
def StrategyArg.toStrategy : StrategyArg → Strategy
  | .first => .first
  | .race => .race
  | .consensus => .consensus 2

/-- The version that the two flags ask for, which is any where both are given. -/
def Cli.version (cli : Cli) : IpVersion :=
  match cli.ipv4, cli.ipv6 with
  | true, false => .v4
  | false, true => .v6
  | _, _ => .any

/-- The builder calls of the command, which sets no empty filter. -/
def Cli.calls (cli : Cli) : List ConfigCall :=
  [.set (.version cli.version), .set (.strategy cli.strategy.toStrategy),
    .set (.timeout (cli.timeout.toNat * 10 ^ 9))] ++
  (if cli.protocol = [] then [] else [.set (.protocols (cli.protocol.map (·.toProtocol)))]) ++
  if cli.provider = [] then [] else [.set (.providers (cli.provider.map (·.toBuiltin)))]

/-- The configuration of the command, whose build enables all protocols. -/
def Cli.config (cli : Cli) : Config := featuredConfig .all cli.calls

/-! ## Output -/

/-- A field of a printed JSON object. -/
inductive Json where
  | text (value : String)
  | number (value : Nat)
deriving DecidableEq, Repr

/-- What the command meets outside the program. -/
structure Host where
  v4 : LocalSocket
  v6 : LocalSocket
  -- The blocking resolver's entry point.
  getIpWith : Config → Except Error ProviderResult
  prettyJson : List (String × Json) → String
  debugErrors : List ProviderError → String

/-- How the process ends. -/
inductive ExitCode where
  | success
  | failure
deriving DecidableEq, Repr

/-- What a run of the command leaves behind. -/
structure Exit where
  stdout : String
  stderr : String
  code : ExitCode
deriving DecidableEq, Repr

/-- An address on a line of its own, unless the line feed is not wanted. -/
def plainOutput (noNewline : Bool) (ip : IpAddr) : String :=
  if noNewline then ip.display else ip.display ++ "\n"

/-- The family of an address by name. -/
def familyName (ip : IpAddr) : String := if ip.isIpv4 then "IPv4" else "IPv6"

/-- What is printed for a local address. -/
def privateOutput (host : Host) (cli : Cli) (ip : IpAddr) : String :=
  match cli.format with
  | .plain => plainOutput cli.noNewline ip
  | .json =>
    host.prettyJson [("ip", .text ip.display), ("type", .text (familyName ip)),
      ("scope", .text "private")] ++ "\n"
  | .verbose =>
    ip.display ++ "\n" ++ ("  scope: private\n" ++ "  type:  " ++ familyName ip ++ "\n")

/-- What is printed for a result. -/
def resultOutput (host : Host) (cli : Cli) (result : ProviderResult) : String :=
  match cli.format with
  | .plain => plainOutput cli.noNewline result.ip
  | .json =>
    host.prettyJson [("ip", .text result.ip.display), ("provider", .text result.provider),
      ("protocol", .text result.protocol.display),
      ("latency_ms", .number (Duration.asMillis result.latency))] ++ "\n"
  | .verbose =>
    result.ip.display ++ "\n" ++ ("  provider: " ++ result.provider ++ "\n" ++
      "  protocol: " ++ result.protocol.display ++ "\n" ++
      "  latency:  " ++ toString (Duration.asMillis result.latency) ++ "ms\n")

/-- The local address that the flags ask for. -/
def localIp (host : Host) (cli : Cli) : Option IpAddr :=
  match cli.ipv4, cli.ipv6 with
  | false, true => getPrivateIpv6 host.v6
  | _, _ => (getPrivateIp host.v4).or (getPrivateIpv6 host.v6)

/-- An end with an output, which a quiet command keeps to itself. -/
def Cli.succeed (cli : Cli) (stdout : String) : Exit :=
  ⟨if cli.quiet then "" else stdout, "", .success⟩

/-- An end with an error, which a quiet command does not print. -/
def Cli.fail (cli : Cli) (stderr : String) : Exit :=
  ⟨"", if cli.quiet then "" else "error: " ++ stderr ++ "\n", .failure⟩

/-- `main`, behind the parser of its options. -/
def main (host : Host) (cli : Cli) : Exit :=
  if cli.localScope then
    match localIp host cli with
    | some ip => cli.succeed (privateOutput host cli ip)
    | none => cli.fail "no local network interface found with a valid private IP address"
  else
    match host.getIpWith cli.config with
    | .ok result => cli.succeed (resultOutput host cli result)
    | .error e => cli.fail (e.display host.debugErrors)

/-! ## What the options choose -/

/-- The built-in providers that the options leave, among which a named one is not filtered. -/
def Cli.Allows (cli : Cli) (p : BuiltinProvider) : Prop :=
  if cli.provider = [] then cli.protocol = [] ∨ p.protocol ∈ cli.protocol.map (·.toProtocol)
  else p ∈ cli.provider.map (·.toBuiltin)

/-- The configuration asks for the version of the options. -/
theorem Cli.config_version (cli : Cli) : cli.config.version = cli.version := by
  by_cases protocols : cli.protocol = [] <;> by_cases providers : cli.provider = [] <;>
    -- Neither filter touches the version.
    simp [Cli.config, featuredConfig, ConfigBuilder.buildWith, Cli.calls, protocols, providers,
      ConfigCall.apply, BuilderCall.apply, ConfigBuilder.withVersion, ConfigBuilder.withStrategy,
      ConfigBuilder.withTimeout, ConfigBuilder.protocols, ConfigBuilder.providers]

/-- The options add no custom providers. -/
theorem Cli.customs (cli : Cli) : blockingAdded cli.calls = [] ∧ asyncAdded cli.calls = [] := by
  by_cases protocols : cli.protocol = [] <;> by_cases providers : cli.provider = [] <;>
    simp [blockingAdded, asyncAdded, Cli.calls, protocols, providers, ConfigCall.blockingAdded,
      ConfigCall.asyncAdded]

/-- The filter that was set last is that of the named providers, if there are any. -/
theorem Cli.lastFilter (cli : Cli) : lastFilter cli.calls =
    if cli.provider = [] then
      if cli.protocol = [] then none else some (.protocols (cli.protocol.map (·.toProtocol)))
    else some (.select (cli.provider.map (·.toBuiltin))) := by
  by_cases protocols : cli.protocol = [] <;> by_cases providers : cli.provider = [] <;>
    simp only [IpDiscovery.lastFilter, Cli.calls, protocols, providers, if_true, if_false] <;> rfl

/-- The configuration asks exactly the built-ins that the options allow. -/
theorem Cli.mem_builtins {cli : Cli} {p : BuiltinProvider} :
    p ∈ builtins cli.calls ↔ cli.Allows p := by
  obtain ⟨blockings, asyncs⟩ := cli.customs
  unfold Cli.Allows builtins
  rw [cli.lastFilter, blockings, asyncs]
  -- With named providers the protocols are not looked at.
  by_cases providers : cli.provider = []
  · by_cases protocols : cli.protocol = []
    · simp [providers, protocols, BuiltinProvider.mem_all]
    · simp [providers, protocols, selectedBuiltins, BuiltinProvider.mem_all]
  · simp [providers, selectedBuiltins]

/-! ## What is printed -/

/-- The address is the first line where it has one of its own. -/
theorem head_lines (ip : IpAddr) (text : String) :
    (lines (ip.display ++ "\n" ++ text)).head?.bind IpAddr.fromStr = some ip := by
  have spelled : ip.display ++ "\n" ++ text = String.ofList (ip.write ++ '\n' :: text.toList) := by
    rw [← String.toList_inj]
    simp [IpAddr.display]
  -- No character of an address ends a line.
  have inert {char : Char} (blank : isWhitespace char = true) : char ∉ ip.write := by
    intro member
    rw [(Dns.addrChar_inert (ip.write_addrChar char member)).1] at blank
    cases blank
  have plain : ip.write.getLast? ≠ some '\r' :=
    fun returned => inert (by decide) (List.mem_of_getLast? returned)
  rw [spelled, lines_cons (inert (by decide)), stripCarriageReturn_eq plain]
  exact ip.fromStr_display

/-- The printed address can be read back, with or without a newline. -/
theorem trim_plainOutput (noNewline : Bool) (ip : IpAddr) :
    IpAddr.fromStr (trim (plainOutput noNewline ip)) = some ip := by
  unfold plainOutput
  split
  · simpa [IpAddr.display] using @Http.fromStr_trim_padded ip [] [] (by simp) (by simp)
  · -- The newline behind the address is trimmed.
    have same : ip.display ++ "\n" = String.ofList ([] ++ ip.write ++ ['\n']) := by
      rw [← String.toList_inj]
      simp [IpAddr.display]
    rw [same]
    exact Http.fromStr_trim_padded (by simp) (by simp [isWhitespace])

/-- What a script may rely on when the command has looked up the public address. -/
structure Honest (cli : Cli) (returned : Nat → BuiltinProvider → ProviderRun IpAddr) (exit : Exit) :
    Prop where
  -- Success stands for an address of an allowed provider, which a loud command prints first.
  found : exit.code = .success → exit.stderr = "" ∧ ∃ ip position p, cli.Allows p ∧
    cli.version.matches ip = true ∧ returned position p = .ok ip ∧
    (cli.quiet = false → cli.format = .plain → IpAddr.fromStr (trim exit.stdout) = some ip) ∧
    (cli.quiet = false → cli.format = .verbose →
      (lines exit.stdout).head?.bind IpAddr.fromStr = some ip)
  lost : exit.code = .failure → exit.stdout = "" ∧ (exit.stderr = "" ↔ cli.quiet = true)
  silent : cli.quiet = true → exit.stdout = "" ∧ exit.stderr = ""

/-- Without `-l`, the resolver alone decides about the exit code. -/
theorem main_code {host : Host} {cli : Cli} (remote : cli.localScope = false) :
    (main host cli).code =
      match host.getIpWith cli.config with
      | .ok _ => .success
      | .error _ => .failure := by
  rw [main, if_neg (by simp [remote])]
  split <;> rfl

/--
The command is successful exactly where its resolver is, and prints what a provider returned.

The provider is one that the options allow, and the address of the family they ask for. Output in
plain format reads back as the address, and so does the first line of verbose output. A failure is
told on the other stream, and a quiet command prints nothing. Options about the output change no
exit code.
-/
theorem main_honest (host : Host) (cli : Cli) (remote : cli.localScope = false) (target : Target)
    (outside : Nat → Outside) (clock : Blocking.Clock) (orders : Blocking.Orders)
    (resolved : Blocking.Returns clock cli.config
      (blockingCalls .all target cli.calls outside fun _ => .panicked) orders
      (host.getIpWith cli.config)) :
    Honest cli (answerBlocking .all target cli.calls outside) (main host cli) ∧
    ((main host cli).code = .success ↔ ∃ result, host.getIpWith cli.config = .ok result) ∧
    ∀ format noNewline quiet,
      (main host { cli with format, noNewline, quiet }).code = (main host cli).code := by
  refine ⟨?_, ?_, ?_⟩
  · cases answered : host.getIpWith cli.config with
    | ok result =>
      rw [answered] at resolved
      have exit : main host cli = cli.succeed (resultOutput host cli result) := by
        simp [main, remote, answered]
      have accounted := Blocking.accounts_of_returns resolved
      have family := accounted.family
      rw [cli.config_version] at family
      -- The command adds no providers, so the result is from a built-in one.
      have source := blocking_provenance accounted
      rw [cli.customs.1] at source
      obtain ⟨position, p, located, _, _, _, returned⟩ := source.resolve_right not_fromCustom
      have allowed : cli.Allows p :=
        -- Matching providers are among those that the options leave.
        Cli.mem_builtins.mp (List.mem_filter.mp (List.mem_of_getElem? located)).1
      rw [exit]
      refine ⟨?_, nofun, fun quiet => by simp [Cli.succeed, quiet]⟩
      intro _
      refine ⟨rfl, result.ip, position, p, allowed, family, returned, ?_, ?_⟩
      · intro loud plain
        simp only [Cli.succeed, loud, resultOutput, plain]
        exact trim_plainOutput cli.noNewline result.ip
      · intro loud verbose
        simp only [Cli.succeed, loud, resultOutput, verbose]
        exact head_lines result.ip _
    | error error =>
      -- The error of the resolver is told on the other stream.
      have exit : main host cli = cli.fail (error.display host.debugErrors) := by
        simp [main, remote, answered]
      rw [exit]
      refine ⟨nofun, ?_, fun quiet => by simp [Cli.fail, quiet]⟩
      intro _
      refine ⟨rfl, ?_⟩
      cases quiet : cli.quiet <;> simp [Cli.fail, quiet]
  · rw [main_code remote]
    cases host.getIpWith cli.config <;> simp
  · -- The configuration does not depend on the options about the output.
    intro format noNewline quiet
    rw [@main_code host { cli with format, noNewline, quiet } remote, main_code remote]
    rfl

/-! ## A run -/

/-- The only provider of a configuration is heard, where it answers at once. -/
theorem lone_run {clock : Blocking.Clock} {config : Config} {calls : Blocking.Calls}
    {provider : Provider} {ip : IpAddr}
    (lone : Blocking.matchingProviders config = [provider]) (nonzero : config.timeout ≠ 0)
    (called : calls 0 = .returned (.ok ip)) (family : config.version.matches ip = true) :
    ∃ state, Relation.ReflTransGen (Blocking.First.Regular clock config calls)
      (.init config 0) state ∧
        state.phase = .done (.ok ⟨ip, provider.name, provider.protocol, 0⟩) := by
  have opening : (Blocking.First.init config 0).phase = .trying [(provider, 0)] := by
    simp [Blocking.First.init, lone]
  -- No time passes, so nobody is late.
  have timely {threads : Blocking.Threads} (early : threads.now = 0) :
      threads.Timely config := by
    intro worker _ late
    rw [early] at late
    exact absurd (Nat.eq_zero_of_add_eq_zero_left (Nat.le_zero.mp late)) nonzero
  have started {state : Blocking.First} (none_failed : state.errors = []) :
      state.AllStarted config := by
    intro _ position inside
    simp [none_failed] at inside
  -- The worker is started and comes to its end, and its message is received.
  refine ⟨_, .head ⟨.main (.spawn opening nonzero), timely rfl, started rfl⟩
    (.head ⟨.main (.block rfl), timely rfl, started rfl⟩
    (.head ⟨.beside (.finish (show _ = [] ++ _ :: [] from rfl) rfl 0), timely rfl, started rfl⟩
    (.head ⟨.main (.receive rfl rfl), timely rfl, started ?_⟩ .refl))), ?_⟩ <;>
    simp [Blocking.First.receive, Blocking.WorkerMessage.outcome, Blocking.Worker.message, called,
      Blocking.CallResult.caught, Blocking.validateIp, family]
  rfl

/-- A provider that is alone and answers at once has its result returned. -/
theorem returns_lone {clock : Blocking.Clock} {config : Config} {calls : Blocking.Calls}
    {orders : Blocking.Orders} {provider : Provider} {ip : IpAddr}
    (lone : Blocking.matchingProviders config = [provider]) (strategy : config.strategy = .first)
    (nonzero : config.timeout ≠ 0) (called : calls 0 = .returned (.ok ip))
    (family : config.version.matches ip = true) :
    Blocking.Returns clock config calls orders (.ok ⟨ip, provider.name, provider.protocol, 0⟩) := by
  have started : Blocking.start config = .first :=
    Blocking.start_eq_first.mpr ⟨by simp [lone], strategy⟩
  -- Such a run to the end is one of the loop in order.
  obtain ⟨state, run, ended⟩ := @lone_run clock _ _ _ _ lone nonzero called family
  rw [Blocking.Returns, started]
  exact ⟨state, ⟨0, run_of_run (fun taken => taken.1) run⟩, ended⟩

/-- A host without local sockets, whose resolver has asked OpenDNS. -/
def sampleHost : Host where
  v4 := ⟨answeringNetwork.socket, .error "unbound"⟩
  v6 := ⟨answeringNetwork.socket, .error "unbound"⟩
  getIpWith _ := .ok ⟨ipv4 203 0 113 7, "OpenDNS", .dns, 0⟩
  prettyJson _ := ""
  debugErrors _ := ""

/-- `ipd -4 --provider open-dns`. -/
def sampleCli : Cli where
  ipv4 := true
  ipv6 := false
  format := .plain
  strategy := .first
  protocol := []
  provider := [.openDns]
  timeout := 10
  localScope := false
  noNewline := false
  quiet := false

/-- The command prints what OpenDNS has returned. -/
theorem main_honest_openDns :
    Honest sampleCli (answerBlocking .all .x64 sampleCli.calls fun _ => answeringNetwork)
      (main sampleHost sampleCli) ∧ (main sampleHost sampleCli).code = .success := by
  have called : blockingCalls .all .x64 sampleCli.calls (fun _ => answeringNetwork)
      (fun _ => .panicked) 0 = .returned (.ok (ipv4 203 0 113 7)) := by decide +kernel
  have honest := main_honest sampleHost sampleCli rfl .x64 (fun _ => answeringNetwork) ⟨0⟩
    ⟨.inserted, .inserted⟩ (@returns_lone _ _ _ _ (BuiltinProvider.openDns.boxed .all) _ rfl rfl
      (by decide) called rfl)
  exact ⟨honest.1, honest.2.1.mpr ⟨_, rfl⟩⟩

end Ipd

end IpDiscovery
