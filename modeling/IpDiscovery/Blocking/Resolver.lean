import IpDiscovery.Base.Runs
import IpDiscovery.Blocking.Collect
import IpDiscovery.Blocking.First

/-! The blocking resolver: how a resolution starts, and what its runs may answer. -/

namespace IpDiscovery.Blocking

open Relation

/-- How a resolution starts: with its answer, or with one of the two engines. -/
inductive Start where
  | answered (answer : Except Error ProviderResult)
  | first
  | collect (mode : Mode)

/-- `Resolver::resolve_race`, up to its first worker. -/
def startRace (config : Config) : Start :=
  -- The check for matching providers is made a second time.
  let providers := matchingProviders config
  if providers = [] then .answered (.error .noProvidersForVersion)
  else if config.timeout = 0 then
    .answered (.error (.allProvidersFailed (providers.map fun p => timeoutError p.name)))
  else .collect .race

/-- `Resolver::resolve_consensus`, up to its first worker. -/
def startConsensus (config : Config) (minAgree : Nat) : Start :=
  -- Without any time, all providers are reported as timed out.
  let providers := matchingProviders config
  if providers = [] then .answered (.error .noProvidersForVersion)
  else if config.timeout = 0 then
    .answered (.error (.consensusNotReached minAgree 0
      (providers.map fun p => timeoutError p.name)))
  else .collect (.consensus minAgree)

/-- `Resolver::resolve`, up to its first worker. -/
def start (config : Config) : Start :=
  if matchingProviders config = [] then .answered (.error .noProvidersForVersion)
  else
    match config.strategy with
    | .first => .first
    | .race => startRace config
    | .consensus minAgree => startConsensus config minAgree

section Runs

variable (clock : Clock) (config : Config) (calls : Calls) (orders : Orders)

/-- A state that `resolve_first` may be in. -/
def FirstReaches (state : First) : Prop :=
  ∃ now, ReflTransGen (First.Step clock config calls) (First.init config now) state

/-- A state that `resolve_race` or `resolve_consensus` may be in. -/
def CollectReaches (mode : Mode) (state : Collect) : Prop :=
  ∃ now, ReflTransGen (Collect.Step clock config orders mode calls) (Collect.init config now) state

/-- The answers that `resolve` may return, over all interleavings of a run. -/
def Returns (answer : Except Error ProviderResult) : Prop :=
  -- Two of the answers need no worker.
  match start config with
  | .answered answer' => answer = answer'
  | .first => ∃ state, FirstReaches clock config calls state ∧ state.phase = .done answer
  | .collect mode =>
    ∃ state, CollectReaches clock config calls orders mode state ∧ state.phase = .done answer

end Runs

end IpDiscovery.Blocking
