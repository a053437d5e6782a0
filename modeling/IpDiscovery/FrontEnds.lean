import IpDiscovery.Ballots
import IpDiscovery.Node

/-! The command and the binding beside each other, with options that mean the same. -/

namespace IpDiscovery.FrontEnds

open Relation

/-! ## The same settings -/

/-- Options of the binding that mean the same as those of the command. -/
structure Agrees (config : Node.JsConfig) (cli : Ipd.Cli) : Prop where
  timeout : (config.timeoutMs.map fun ms => ms.toNat * 10 ^ 6).getD (10 * 10 ^ 9) =
    cli.timeout.toNat * 10 ^ 9
  version : config.version.getD .any = cli.version
  strategy : (config.strategy.getD .first).toRust = cli.strategy.toStrategy
  -- The command has no empty lists.
  protocols : config.protocols =
    if cli.protocol = [] then none else some (cli.protocol.map (·.toProtocol))
  providers : config.providers =
    if cli.provider = [] then none else some (cli.provider.map (·.toBuiltin))

/-- The builder of the command, by its fields. -/
theorem cli_builder (cli : Ipd.Cli) : cli.calls.foldl ConfigCall.apply .new =
    { ConfigBuilder.new with
      timeout := cli.timeout.toNat * 10 ^ 9
      version := cli.version
      strategy := cli.strategy.toStrategy
      providerFilter := lastFilter cli.calls } := by
  have chosen (builder : ConfigBuilder) : builder.withStrategy cli.strategy.toStrategy =
      { builder with strategy := cli.strategy.toStrategy } := by
    cases cli.strategy <;> rfl
  -- Which of the two filters are set decides the calls, and both builders agree in every case.
  rw [cli.lastFilter]
  by_cases protocols : cli.protocol = [] <;> by_cases providers : cli.provider = [] <;>
    simp [Ipd.Cli.calls, protocols, providers, ConfigCall.apply, BuilderCall.apply,
      ConfigBuilder.withVersion, ConfigBuilder.withTimeout, ConfigBuilder.protocols,
      ConfigBuilder.providers, ConfigBuilder.new, chosen]

section Settings

variable {options : Option Node.JsConfig} {cli : Ipd.Cli}
  (agrees : Agrees (options.getD ⟨none, none, none, none, none⟩) cli)

include agrees

/-- The builders agree in all fields, whatever is left to its default. -/
theorem builder_of_agrees : (Node.callsOf options).foldl ConfigCall.apply .new =
    cli.calls.foldl ConfigCall.apply .new := by
  -- Without an object, the calls are those of an empty one.
  have same : Node.callsOf options =
      (options.getD ⟨none, none, none, none, none⟩).calls := by
    cases options <;> rfl
  generalize options.getD ⟨none, none, none, none, none⟩ = config at agrees same
  have filters : (config.providers.map ProviderFilter.select).or
      (config.protocols.map ProviderFilter.protocols) = lastFilter cli.calls := by
    rw [agrees.providers, agrees.protocols, cli.lastFilter]
    -- The command leaves out empty lists, and lets providers take the place of protocols.
    by_cases protocols : cli.protocol = [] <;> by_cases providers : cli.provider = [] <;>
      simp [protocols, providers]
  rw [same, config.builder, cli_builder, filters, agrees.timeout, agrees.version, agrees.strategy]

/--
Options that agree build the same configuration.

The binding sets only what is present, in another order than the command, which sets everything.
-/
theorem config_of_agrees : featuredConfig .all (Node.callsOf options) = cli.config := by
  rw [Ipd.Cli.config, featuredConfig, featuredConfig, builder_of_agrees agrees]

/-- The same built-in providers are at the same positions. -/
theorem matching_of_agrees :
    matchingBuiltins .all (Node.callsOf options) = matchingBuiltins .all cli.calls := by
  have same := builder_of_agrees agrees
  have last : lastFilter (Node.callsOf options) = lastFilter cli.calls := by
    rw [← builder_filter, ← builder_filter, same]
  have asyncs : asyncAdded (Node.callsOf options) = asyncAdded cli.calls := by
    rw [← builder_async, ← builder_async, same]
  have blockings : blockingAdded (Node.callsOf options) = blockingAdded cli.calls := by
    rw [← builder_blocking, ← builder_blocking, same]
  -- Which built-ins are chosen depends on the filter and on the customs.
  have chosen : builtins (Node.callsOf options) = builtins cli.calls := by
    rw [builtins, builtins, last, asyncs, blockings]
  rw [matchingBuiltins, matchingBuiltins, chosen, config_of_agrees agrees, Ipd.Cli.config]

end Settings

/-! ## The same answers -/

/-- What one lookup tells on both sides, in the words of each. -/
structure TellsSame (host : Ipd.Host) (cli : Ipd.Cli) (exit : Ipd.Exit)
    (answer : Except String Node.JsProviderResult) : Prop where
  -- The output and the object are those of one result, but for the time it took.
  found : ∀ object, answer = .ok object → exit.code = .success ∧ ∃ result,
    (cli.quiet = false → exit.stdout = Ipd.resultOutput host cli result) ∧
    object = { Node.ofResult result with latencyMs := object.latencyMs }
  lost : ∀ message, answer = .error message → exit.code = .failure ∧ ∃ text,
    message = "IP discovery failed: " ++ text ∧
    (cli.quiet = false → exit.stderr = "error: " ++ text ++ "\n")

/-- How a lookup in order returns where no call is cut short, if there is anybody to call. -/
inductive ReturnsInTime (clock : Blocking.Clock) (config : Config) (calls : Blocking.Calls) :
    Except Error ProviderResult → Prop where
  | nobody (none_match : Blocking.matchingProviders config = []) :
      ReturnsInTime clock config calls (.error .noProvidersForVersion)
  | somebody {now : Instant} {state : Blocking.First} {answer : Except Error ProviderResult}
      (started : Blocking.start config = .first)
      (run : ReflTransGen (Blocking.First.Regular clock config calls) (.init config now) state)
      (ended : state.phase = .done answer) : ReturnsInTime clock config calls answer

/-- An error that comes out of the lift is the one that was put in. -/
theorem mapError_eq_error {answer : Except Error ProviderResult} {e : Error}
    (failed : answer.mapError Fault.err = .error (.err e)) : answer = .error e := by
  cases answer <;> cases failed
  rfl

/-- Over the same calls, a lookup in order returns the same on threads as with futures. -/
theorem answers_agree {clock : Blocking.Clock} {config : Config} {calls : Async.Calls}
    {threadCalls : Blocking.Calls} {order : HashOrder IpAddr (List ProviderResult)}
    {answer asyncAnswer : Except Error ProviderResult} (twins : Twins config calls threadCalls)
    (inOrder : config.strategy = .first)
    (returned : ReturnsInTime clock config threadCalls answer)
    (resolved : Async.resolve order config calls = asyncAnswer.mapError Fault.err) :
    (∀ result, answer = .ok result →
      ∃ other, asyncAnswer = .ok other ∧ gist (.ok other) = gist (.ok result)) ∧
    ∀ e, answer = .error e → asyncAnswer = .error e := by
  cases returned with
  | nobody none_match =>
    rw [← twins.matching] at none_match
    -- With nobody to ask, both fail at once.
    rw [Async.resolve, if_pos none_match] at resolved
    constructor
    · intro result found
      cases found
    · intro e failed
      cases failed
      exact mapError_eq_error resolved.symm
  | somebody started run ended =>
    obtain ⟨some_match, _⟩ := Blocking.start_eq_first.mp started
    rw [← twins.matching] at some_match
    rw [Async.resolve, if_neg some_match, inOrder] at resolved
    -- The two loops go through the same calls in the same order.
    have agreed := first_agrees twins run ended
    constructor
    · intro result found
      subst found
      obtain ⟨other, answered, same⟩ := agreed
      exact ⟨other, mapError_eq_ok.mp (resolved.symm.trans answered), same⟩
    · intro e failed
      subst failed
      exact mapError_eq_error (resolved.symm.trans agreed.1)

/-- Equal runs have equal outcomes, whoever has made them. -/
theorem outcome_congr {name : String} {left right : ProviderRun IpAddr} (same : left = right)
    (ownedLeft : Owned name left) (ownedRight : Owned name right) :
    ownedLeft.outcome = ownedRight.outcome := by
  subst same
  rfl

/-- What calls behind those of the built-in providers would return, though nobody makes them. -/
def idle (custom : Nat → Except ProviderError IpAddr) (position : Nat) : Blocking.CallResult :=
  .returned (custom position)

/-- Custom futures that return at once. -/
def idleAsync (custom : Nat → Except ProviderError IpAddr) (position : Nat) : Async.Call :=
  ⟨0, .returned (custom position), 0⟩

section Answers

variable {options : Option Node.JsConfig} {cli : Ipd.Cli}
  (agrees : Agrees (options.getD ⟨none, none, none, none, none⟩) cli) (target : Target)
  (outside : Nat → Outside) (pace : Nat → Pace) (custom : Nat → Except ProviderError IpAddr)
  (patient : ∀ position, (pace position).elapsed = false)
  (same : ∀ position p, (matchingBuiltins .all cli.calls)[position]? = some p →
    answerBlocking .all target cli.calls outside position p =
      answerAsync .all target cli.calls outside position p)

include agrees patient same

/-- The resolvers of both sides have the same providers, and their calls return the same. -/
theorem twins_of_agrees : Twins cli.config
    (asyncCalls .all target (Node.callsOf options) outside pace (idleAsync custom))
    (blockingCalls .all target cli.calls outside (idle custom)) where
  providers := by
    obtain ⟨blocking, async⟩ := featuredConfig_lists .all cli.calls
    rw [Ipd.Cli.config, blocking, async, cli.customs.1, cli.customs.2]
  calls := by
    intro position
    rw [asyncCalls, blockingCalls, matching_of_agrees agrees]
    cases located : (matchingBuiltins .all cli.calls)[position]? with
    -- Behind the built-ins nobody is called.
    | none => exact ⟨_, rfl, rfl⟩
    | some p =>
      -- No call is cut short, so both are told what the provider returned.
      simp only [patient, Bool.false_eq_true, if_false]
      refine ⟨_, rfl, congrArg Blocking.CallResult.returned (outcome_congr ?_ _ _)⟩
      rw [same position p located, answerAsync, answerAsync, config_of_agrees agrees,
        Ipd.Cli.config]

/--
The command and the binding tell the same, where they are asked the same in the default strategy.

They resolve with threads and with futures, and build their configurations in different orders.
Where the calls of the built-in providers return the same to both and none is cut short, an object
for the script is a success of the command with the same output, and an error of the one is an
error of the other, with the same text.
-/
theorem front_ends_agree (remote : cli.localScope = false) (inOrder : cli.strategy = .first)
    (host : Ipd.Host) (getIpWith : Config → Except Error ProviderResult) (clock : Blocking.Clock)
    (order : HashOrder IpAddr (List ProviderResult))
    (blocking : ReturnsInTime clock cli.config
      (blockingCalls .all target cli.calls outside (idle custom)) (host.getIpWith cli.config))
    (async : Async.resolve order (featuredConfig .all (Node.callsOf options))
      (asyncCalls .all target (Node.callsOf options) outside pace (idleAsync custom)) =
        (getIpWith (featuredConfig .all (Node.callsOf options))).mapError Fault.err) :
    TellsSame host cli (Ipd.main host cli) (Node.getIp host.debugErrors getIpWith options) := by
  have twins := twins_of_agrees agrees target outside pace custom patient same
  have strategy : cli.config.strategy = .first := by
    rw [Ipd.Cli.config, featuredConfig, cli_builder, inOrder]
    rfl
  -- Both resolve the same configuration.
  rw [config_of_agrees agrees] at async
  obtain ⟨agreed, disagreed⟩ := answers_agree twins strategy blocking async
  rw [Node.getIp, config_of_agrees agrees]
  cases answered : host.getIpWith cli.config with
  | ok result =>
    obtain ⟨other, found, same⟩ := agreed result answered
    have exit : Ipd.main host cli = cli.succeed (Ipd.resultOutput host cli result) := by
      simp [Ipd.main, remote, answered]
    rw [exit, found]
    refine ⟨?_, fun _ failed => by cases failed⟩
    intro object told
    cases told
    -- All but the latency is the same, and nothing else goes into the output.
    simp only [gist_ok, Except.ok.injEq, Prod.mk.injEq] at same
    obtain ⟨address, provider, protocol⟩ := same
    refine ⟨rfl, result, ?_, ?_⟩
    · intro loud
      simp [Ipd.Cli.succeed, loud]
    · simp [Node.ofResult, address, provider, protocol]
  | error error =>
    have exit : Ipd.main host cli = cli.fail (error.display host.debugErrors) := by
      simp [Ipd.main, remote, answered]
    -- The errors are the same, and so are their texts.
    rw [exit, disagreed error answered]
    constructor
    · intro object told
      cases told
    · intro message told
      cases told
      refine ⟨rfl, _, rfl, ?_⟩
      intro loud
      simp [Ipd.Cli.fail, loud]

end Answers

/-- Options of a script that agree with those of the command. -/
theorem sample_agrees : Agrees Node.sampleConfig Ipd.sampleCli := by
  constructor <;> rfl

/-- The script is given what the command prints. -/
theorem front_ends_agree_openDns :
    TellsSame Ipd.sampleHost Ipd.sampleCli (Ipd.main Ipd.sampleHost Ipd.sampleCli)
      (.ok ⟨"203.0.113.7", "OpenDNS", "DNS", 0⟩) := by
  have only : (matchingBuiltins .all Ipd.sampleCli.calls) = [.openDns] := rfl
  have threaded : blockingCalls .all .x64 Ipd.sampleCli.calls (fun _ => answeringNetwork)
      (idle fun _ => .error (.message "" "")) 0 = .returned (.ok (ipv4 203 0 113 7)) := by
    decide +kernel
  have awaited : (asyncCalls .all .x64 Node.sampleConfig.calls (fun _ => answeringNetwork)
      (fun _ => ⟨0, false, 30⟩) (idleAsync fun _ => .error (.message "" "")) 0).result =
        .returned (.ok (ipv4 203 0 113 7)) := by decide +kernel
  have same : ∀ position p, (matchingBuiltins .all Ipd.sampleCli.calls)[position]? = some p →
      answerBlocking .all .x64 Ipd.sampleCli.calls (fun _ => answeringNetwork) position p =
        answerAsync .all .x64 Ipd.sampleCli.calls (fun _ => answeringNetwork) position p := by
    intro position p located
    rw [only] at located
    cases position with
    -- Both forms of the call hear the same datagram.
    | zero =>
      cases located
      decide +kernel
    | succ _ => cases located
  obtain ⟨state, run, ended⟩ := @Ipd.lone_run ⟨0⟩ Ipd.sampleCli.config _
    (BuiltinProvider.openDns.boxed .all) _ rfl (by decide) threaded rfl
  exact @front_ends_agree (some Node.sampleConfig) Ipd.sampleCli sample_agrees .x64
    (fun _ => answeringNetwork) (fun _ => ⟨0, false, 30⟩) (fun _ => .error (.message "" ""))
    (fun _ => rfl) same rfl rfl Ipd.sampleHost
    (fun _ => .ok ⟨ipv4 203 0 113 7, "OpenDNS", .dns, 30⟩) ⟨0⟩ .inserted
    (.somebody rfl run ended)
    (@Node.resolve_lone _ _ _ (BuiltinProvider.openDns.boxed .all) _ rfl rfl (by decide) awaited
      rfl)

end IpDiscovery.FrontEnds
