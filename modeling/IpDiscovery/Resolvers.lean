import IpDiscovery.Async.Answers
import IpDiscovery.Blocking.Answers

/-! What both resolvers have in common: whose answer they return, and how they choose it. -/

namespace IpDiscovery

/-! ## Soundness -/

/--
Both resolvers return only what a supporting provider's own call returned, under its name.

They report that no provider supports the version exactly where that is so.
-/
theorem resolve_sound (order : HashOrder IpAddr (List ProviderResult)) (orders : Blocking.Orders)
    (clock : Blocking.Clock) (config : Config) :
    (∀ calls : Async.Calls,
      (∀ result, Async.resolve order config calls = .ok result →
        Async.Accounts config calls result) ∧
      (Async.resolve order config calls = .error (.err .noProvidersForVersion) ↔
        ∀ provider ∈ config.providers, provider.supportsVersion config.version = false)) ∧
    (∀ calls : Blocking.Calls,
      (∀ answer, Blocking.Returns clock config calls orders answer →
        (∀ result, answer = .ok result → Blocking.Accounts config calls result) ∧
        (answer = .error .noProvidersForVersion ↔
          ∀ provider ∈ config.blockingProviders,
            provider.supportsVersion config.version = false)) ∧
      ((∀ provider ∈ config.blockingProviders, provider.supportsVersion config.version = false) →
        Blocking.Returns clock config calls orders (.error .noProvidersForVersion))) := by
  -- Each resolver has its own account of its answers.
  refine ⟨?_, ?_⟩
  · -- The asynchronous resolver is a function of the calls.
    intro calls
    exact ⟨fun result answered => Async.accounts_of_resolve answered,
      Async.resolve_noProviders_iff⟩
  · -- The blocking resolver has many runs, and all its answers are covered.
    intro calls
    refine ⟨?_, ?_⟩
    · intro answer returned
      refine ⟨?_, Blocking.returns_noProviders_iff returned⟩
      intro result same
      rw [same] at returned
      exact Blocking.accounts_of_returns returned
    · intro unsupported
      exact (Blocking.returns_iff_of_none
        (Blocking.matchingProviders_eq_nil.mpr unsupported)).mpr rfl

/-- A configuration whose only provider is asked first. -/
def loneConfig : Config where
  blockingProviders := [⟨"Custom", .http, fun _ => true⟩]
  providers := [⟨"Custom", .http, fun _ => true⟩]
  timeout := 1
  version := .any
  strategy := .first

/-- The lone provider is accounted for in both resolvers. -/
theorem resolve_sound_lone :
    Async.Accounts loneConfig (fun _ => ⟨1, .returned (.ok (ipv4 203 0 113 7)), 0⟩)
      ⟨ipv4 203 0 113 7, "Custom", .http, 0⟩ ∧
    Blocking.Accounts loneConfig (fun _ => .returned (.ok (ipv4 203 0 113 7)))
      ⟨ipv4 203 0 113 7, "Custom", .http, 0⟩ := by
  have sound := resolve_sound .inserted ⟨.inserted, .inserted⟩ ⟨1⟩ loneConfig
  have answered : Async.resolve .inserted loneConfig
      (fun _ => ⟨1, .returned (.ok (ipv4 203 0 113 7)), 0⟩) =
        .ok ⟨ipv4 203 0 113 7, "Custom", .http, 0⟩ := by
    simp [Async.resolve, Async.resolveFirst, Async.firstLoop, Async.makeProviderFuture,
      Async.await_waiting, Async.matchingProviders, Async.callOutcome, loneConfig,
      IpVersion.matches, ok_bind]
    rfl
  -- The worker is started and comes to its end, and its message is received.
  have run : Relation.ReflTransGen (Blocking.First.Step ⟨1⟩ loneConfig fun _ =>
      .returned (.ok (ipv4 203 0 113 7))) (Blocking.First.init loneConfig 0) _ :=
    .head (.main (.spawn rfl (by decide))) (.head (.main (.block rfl))
      (.head (.beside (.finish (show _ = [] ++ _ :: [] from rfl) rfl 0))
        (.head (.main (.receive rfl rfl)) .refl)))
  exact ⟨(sound.1 _).1 _ answered, ((sound.2 _).1 _ ⟨_, ⟨0, run⟩, rfl⟩).1 _ rfl⟩

/-! ## Plurality -/

/--
Consensus is exactly plurality with a threshold.

It is so over every list of outcomes. The asynchronous resolver selects over the outcomes of all
matching providers. The blocking resolver selects over the messages it has received, with an error
for every other matching provider.
-/
theorem consensus_plurality {minAgree : Nat} (positive : 1 ≤ minAgree) :
    (∀ order outcomes, Plurality minAgree outcomes (consensusOf order minAgree outcomes) ∧
      FallbackDead order minAgree (tally outcomes).1) ∧
    (∀ order config calls, Async.matchingProviders config ≠ [] →
      ∃ answer, Async.resolveConsensus order config calls minAgree = answer.mapError Fault.err ∧
        Plurality minAgree (Async.outcomes config calls) answer) ∧
    (∀ config answer, Blocking.matchingProviders config ≠ [] →
      Blocking.startConsensus config minAgree = .answered answer →
        Plurality minAgree ((Blocking.matchingProviders config).map fun provider =>
          .error (Blocking.timeoutError provider.name)) answer) ∧
    (∀ clock config calls orders state answer,
      Blocking.CollectReaches clock config calls orders (.consensus minAgree) state →
      state.phase = .done answer →
        ((state.settled config orders).map Prod.fst).Perm
          (List.range (Blocking.matchingProviders config).length) ∧
        Plurality minAgree (state.outcomes config orders) answer ∧
        FallbackDead orders.ipResults minAgree state.ipResults) := by
  -- All four parts are the same selection, over different lists of outcomes.
  refine ⟨?_, ?_, ?_, ?_⟩
  · -- Any list of outcomes, in any order.
    intro order outcomes
    exact ⟨consensusOf_plurality order minAgree outcomes positive,
      tally_fallbackDead order minAgree outcomes⟩
  · -- The outcomes that `join_all_vec` has collected.
    intro order config calls some_match
    exact ⟨_, Async.resolveConsensus_eq order minAgree some_match,
      consensusOf_plurality order minAgree _ positive⟩
  · -- No outcome at all within a timeout of zero.
    intro config answer some_match immediate
    exact Blocking.startConsensus_plurality positive some_match immediate
  · -- The outcomes of a run that has ended, whatever its interleaving.
    intro clock config calls orders state answer reached ended
    obtain ⟨now, run⟩ := reached
    obtain ⟨tracked, recorded⟩ := Blocking.Collect.laws_of_run run
    refine ⟨tracked.settled_ids (by rw [ended]; rfl) orders, ?_, ?_⟩
    · rw [recorded.consensus_answer ended]
      exact consensusOf_plurality orders.ipResults minAgree _ positive
    · rw [recorded.ipResults_eq]
      exact tally_fallbackDead orders.ipResults minAgree _

/-- Two outcomes that agree are a plurality of two. -/
theorem consensus_plurality_two :
    Plurality 2 [.ok ⟨ipv4 203 0 113 7, "A", .dns, 5⟩, .ok ⟨ipv4 203 0 113 7, "B", .stun, 4⟩]
      (.ok ⟨ipv4 203 0 113 7, "B", .stun, 4⟩) :=
  ((consensus_plurality (by omega)).1 .inserted _).1

end IpDiscovery
