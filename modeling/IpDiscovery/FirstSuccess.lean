import IpDiscovery.Async.FirstOrder
import IpDiscovery.Blocking.FirstInTime

/-! Strategy First in both resolvers: providers are tried in order, one after the other. -/

namespace IpDiscovery

/--
How far a run of the blocking resolver has come.

One error stands for each provider that was passed over, and nobody behind the provider that is
waited for has a worker. A result is that of the provider behind the errors.
-/
structure Blocking.First.InOrder (clock : Blocking.Clock) (config : Config)
    (calls : Blocking.Calls) (state : Blocking.First) : Prop where
  once : (state.threads.workers.map Blocking.Worker.id).Nodup
  workers : ∀ worker ∈ state.threads.workers,
    (Blocking.matchingProviders config)[worker.id]? = some worker.provider ∧
      worker.id ≤ state.errors.length
  passedOver : ∀ position error, state.errors[position]? = some error →
    state.PassedOver clock config calls position error
  chosen : ∀ result, state.phase = .done (.ok result) →
    state.Chosen clock config calls result
  failed : ∀ e, state.phase = .done (.error e) → e = .allProvidersFailed state.errors ∧
    state.errors.length = (Blocking.matchingProviders config).length
  zero : config.timeout = 0 → state.threads.workers = []
  ends : ∃ state' answer,
    Relation.ReflTransGen (Blocking.First.Step clock config calls) state state' ∧
    state'.phase = .done answer

/-- In every reachable state, the providers have been tried in order. -/
theorem Blocking.First.inOrder_of_reached {clock : Blocking.Clock} {config : Config}
    {calls : Blocking.Calls} {state : Blocking.First}
    (reached : Blocking.FirstReaches clock config calls state) :
    state.InOrder clock config calls := by
  have ends := exists_end reached
  obtain ⟨now, run⟩ := reached
  have ordered := ordered_of_run run
  have sound := sound_of_run run
  obtain ⟨passedOver, chosen⟩ := history_of_run run
  have placed := ordered.placed
  unfold Placed at placed
  refine ⟨ordered.ids.imp Nat.ne_of_lt, ?_, passedOver, chosen, ?_, ordered.zero, ends⟩
  · intro worker member
    refine ⟨sound.threads.located worker member, ?_⟩
    -- Every phase bounds the ids.
    cases here : state.phase with
    | trying todo =>
      rw [here] at placed
      exact Nat.le_of_lt (placed.2.2 worker member)
    | waiting provider todo =>
      rw [here] at placed
      obtain ⟨earlier, current, awaiting⟩ := placed
      exact awaiting.bounded worker member
    | receiving provider todo expires =>
      rw [here] at placed
      obtain ⟨earlier, current, awaiting, _⟩ := placed
      exact awaiting.bounded worker member
    | done answer =>
      rw [here] at placed
      cases answer with
      | ok result => exact placed.2 worker member
      | error e => exact Nat.le_of_lt (placed.2.2 worker member)
  · -- A failure has one error for every provider.
    intro e ended
    rw [ended] at placed
    exact ⟨placed.1, placed.2.1⟩

/-- A provider whose message was heard and failed has not returned a fitting address. -/
theorem Blocking.First.Fails.undelivered {config : Config} {calls : Blocking.Calls}
    {state : Blocking.First} {provider : BoxedBlockingProvider} {error : ProviderError}
    (fails : state.Fails config calls provider .heard error) {ip : IpAddr}
    (returned : calls state.errors.length = .returned (.ok ip)) :
    config.version.matches ip = false := by
  cases fails with
  | heard hears failed =>
    -- A fitting address would have been a success.
    by_contra family
    have succeeded := hears.outcome_eq_ok.mpr ⟨ip, returned, by simpa using family, rfl⟩
    rw [failed] at succeeded
    cases succeeded

end IpDiscovery
