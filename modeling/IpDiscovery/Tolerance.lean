import IpDiscovery.Ballots

/-! How many lying providers a consensus tolerates. -/

namespace IpDiscovery

open Quorum Relation

variable {config : Config} {minAgree : Nat} {truth : Fitting config.version} {liars : Finset Nat}

/-! ## The asynchronous resolver -/

namespace Async

/-- The positions of the matching providers. -/
abbrev voters (config : Config) : Finset Nat := Finset.range (matchingProviders config).length

/-- Asynchronous consensus is truthful exactly as long as the liars are fewer than must agree. -/
theorem truthful_iff (selected : config.strategy = .consensus minAgree) (positive : 1 ≤ minAgree)
    (some_match : matchingProviders config ≠ []) (nonzero : config.timeout ≠ 0)
    (inside : liars ⊆ voters config) :
    (∀ order calls, Truthful (voters config) liars truth (ballot config calls) →
      ∀ result, resolve order config calls = .ok result → result.ip = truth.1) ↔
      liars.card < minAgree := by
  obtain ⟨lie, false_lie⟩ := exists_other truth
  rw [← safe_iff inside false_lie]
  constructor
  · -- Every vote is that of some calls, and an elected address is answered in some order.
    intro safe vote truthful choice elected
    rw [← @ballot_callsFor config vote] at truthful elected
    obtain ⟨_, order, result, answered, same⟩ :=
      answer_of_elected selected some_match positive nonzero elected
    exact Subtype.ext (same.symm.trans (safe order _ truthful result answered))
  · -- Whatever the order, an answer is elected.
    intro safe order calls truthful result answered
    obtain ⟨choice, elected, same⟩ :=
      elected_of_answer selected some_match positive nonzero answered
    rw [← same, safe _ truthful choice elected]

/-- It reaches the truth exactly if the honest are enough, and more than the liars. -/
theorem reaches_truth_iff (selected : config.strategy = .consensus minAgree)
    (positive : 1 ≤ minAgree) (some_match : matchingProviders config ≠ [])
    (nonzero : config.timeout ≠ 0) (inside : liars ⊆ voters config) :
    (∀ order calls, Outspoken (voters config) liars truth (ballot config calls) →
      ∃ result, resolve order config calls = .ok result ∧ result.ip = truth.1) ↔
      minAgree ≤ (voters config \ liars).card ∧ liars.card < (voters config \ liars).card := by
  obtain ⟨lie, false_lie⟩ := exists_other truth
  rw [← live_iff inside false_lie]
  constructor
  · -- Every vote is that of some calls.
    intro live vote outspoken
    rw [← @ballot_callsFor config vote] at outspoken ⊢
    constructor
    · obtain ⟨result, answered, same⟩ := live .inserted _ outspoken
      obtain ⟨choice, elected, named⟩ :=
        elected_of_answer selected some_match positive nonzero answered
      rwa [show truth = choice from Subtype.ext (same.symm.trans named.symm)]
    · -- Another elected address would be the answer in some order.
      intro choice elected
      obtain ⟨_, order, result, answered, same⟩ :=
        answer_of_elected selected some_match positive nonzero elected
      obtain ⟨other, answered', right⟩ := live order _ outspoken
      cases answered.symm.trans answered'
      exact Subtype.ext (same.symm.trans right)
  · -- The truth is the only elected address, and something is answered.
    intro live order calls outspoken
    obtain ⟨elected, alone⟩ := live _ outspoken
    obtain ⟨always, _⟩ := answer_of_elected selected some_match positive nonzero elected
    obtain ⟨result, answered⟩ := always order
    obtain ⟨choice, chosen, same⟩ :=
      elected_of_answer selected some_match positive nonzero answered
    exact ⟨result, answered, by rw [← same, alone choice chosen]⟩

end Async

/-! ## The blocking resolver -/

namespace Blocking

/-- The positions of the matching providers. -/
abbrev voters (config : Config) : Finset Nat := Finset.range (matchingProviders config).length

/-- Everybody who does not lie returns the truth, in less than the timeout. -/
def Undelayed.Prompt (config : Config) (script : Script) (liars : Finset Nat)
    (truth : Fitting config.version) : Prop :=
  ∀ position ∈ voters config, position ∉ liars → script.spawnError position = none ∧
    script.calls position = .returned (.ok truth.1) ∧
    ∃ delay, script.delay position = some delay ∧ delay < config.timeout

/-- A script in which everybody returns at once what they are to vote for. -/
def Undelayed.atOnce (vote : Nat → Option (Fitting config.version)) : Script where
  spawnError _ := none
  calls := callsFor vote
  delay _ := some 0

/-- What an undelayed run reaches is reached by some run. -/
theorem Undelayed.Reaches.collectReaches {clock : Clock} {orders : Orders} {mode : Mode}
    {script : Script} {start : Instant} {state : Collect}
    (reached : Undelayed.Reaches clock config orders mode script start state) :
    CollectReaches clock config script.calls orders mode state :=
  ⟨start, run_of_run Undelayed.step_of_step reached⟩

/-- At the end of an undelayed consensus, whoever replies early enough has been heard. -/
theorem Undelayed.Reaches.ballot_eq {clock : Clock} {orders : Orders} {script : Script}
    {start : Instant} {state : Collect} (fits : start + config.timeout ≤ clock.maxInstant)
    (reached : Undelayed.Reaches clock config orders (.consensus minAgree) script start state)
    {answer : Except Error ProviderResult} (ended : state.phase = .done answer) {position : Nat}
    (among : position ∈ voters config) (starts : script.spawnError position = none)
    {delay : Duration} (known : script.delay position = some delay)
    (early : delay < config.timeout) :
    state.ballot config script.calls position = ballot config script.calls position := by
  obtain ⟨raced, _⟩ | heard := reached.onTime.stopped fits answer ended
  · -- Only a race stops before all have been heard.
    cases raced
  · obtain ⟨message, received, same⟩ := Undelayed.heard_of_prompt reached (by rw [ended]; rfl)
      heard (Finset.mem_range.mp among) starts known early
    rw [Collect.ballot, if_pos (List.mem_map.mpr ⟨message, received, same⟩)]

/-- Some run hears every vote, whatever the votes and the orders are. -/
theorem exists_heard (nonzero : config.timeout ≠ 0) (orders : Orders)
    (vote : Nat → Option (Fitting config.version)) : ∃ clock start state answer,
    start + config.timeout ≤ clock.maxInstant ∧
      Undelayed.Reaches clock config orders (.consensus minAgree) (Undelayed.atOnce vote) start
        state ∧
      state.phase = .done answer ∧
      ∀ position ∈ voters config, vote position = state.ballot config (callsFor vote) position := by
  have fits : 0 + config.timeout ≤ (Clock.mk config.timeout).maxInstant := by simp
  obtain ⟨state, answer, reached, ended⟩ := Undelayed.exists_end ⟨config.timeout⟩ config orders
    (.consensus minAgree) (Undelayed.atOnce vote) 0
  refine ⟨_, 0, state, answer, fits, reached, ended, fun position among => ?_⟩
  have heard := reached.ballot_eq fits ended among rfl rfl (Nat.pos_of_ne_zero nonzero)
  exact (congrFun (ballot_callsFor vote) position).symm.trans heard.symm

/-- Blocking consensus is truthful exactly as long as the liars are fewer than must agree. -/
theorem truthful_iff (positive : 1 ≤ minAgree) (nonzero : config.timeout ≠ 0)
    (inside : liars ⊆ voters config) :
    (∀ clock orders calls state, CollectReaches clock config calls orders (.consensus minAgree)
        state → Truthful (voters config) liars truth (ballot config calls) →
      ∀ result, state.phase = .done (.ok result) → result.ip = truth.1) ↔
      liars.card < minAgree := by
  obtain ⟨lie, false_lie⟩ := exists_other truth
  rw [← safe_iff inside false_lie]
  constructor
  · -- Every vote is heard in some run, which answers with an elected address in some order.
    intro safe vote truthful choice elected
    let orders : Orders := ⟨.inserted, .preferring fun other => other = choice.1⟩
    obtain ⟨clock, start, state, answer, _, reached, ended, same⟩ :=
      @exists_heard config minAgree nonzero orders vote
    obtain ⟨_, preferred⟩ := Collect.answer_of_elected reached.collectReaches positive ended
      (elected.congr same)
    obtain ⟨result, answered, named⟩ := preferred rfl
    rw [answered] at ended
    rw [← @ballot_callsFor config vote] at truthful
    exact Subtype.ext (named.symm.trans
      (safe clock orders _ state reached.collectReaches truthful result ended))
  · intro safe clock orders calls state reached truthful result ended
    obtain ⟨choice, elected, same⟩ := Collect.elected_of_answer reached positive ended
    -- What has been heard is as true as what was said.
    have heard : Truthful (voters config) liars truth (state.ballot config calls) := by
      intro position among honest choice voted
      exact truthful position among honest choice
        (ballot_eq_some.mpr (Collect.ballot_eq_some.mp voted).2)
    rw [← same, safe _ heard choice elected]

/-- It reaches the truth in undelayed runs exactly if the honest are enough, and a majority. -/
theorem reaches_truth_iff (positive : 1 ≤ minAgree) (nonzero : config.timeout ≠ 0)
    (inside : liars ⊆ voters config) :
    (∀ clock orders script start state answer, start + config.timeout ≤ clock.maxInstant →
        Undelayed.Reaches clock config orders (.consensus minAgree) script start state →
        Undelayed.Prompt config script liars truth → state.phase = .done answer →
      ∃ result, answer = .ok result ∧ result.ip = truth.1) ↔
      minAgree ≤ (voters config \ liars).card ∧ liars.card < (voters config \ liars).card := by
  obtain ⟨lie, false_lie⟩ := exists_other truth
  rw [← live_iff inside false_lie]
  constructor
  · -- The liars may return what they like, and so may an order prefer.
    intro live vote outspoken
    have prompt : Undelayed.Prompt config (Undelayed.atOnce vote) liars truth := by
      intro position among honest
      refine ⟨rfl, ?_, 0, rfl, Nat.pos_of_ne_zero nonzero⟩
      simp [Undelayed.atOnce, callsFor, outspoken position among honest]
    -- In some run every vote is heard, and the orders may prefer any address.
    have answers (orders : Orders) : ∃ clock state result,
        CollectReaches clock config (callsFor vote) orders (.consensus minAgree) state ∧
        state.phase = .done (.ok result) ∧ result.ip = truth.1 ∧
        ∀ position ∈ voters config,
          vote position = state.ballot config (callsFor vote) position := by
      obtain ⟨clock, start, state, answer, fits, reached, ended, same⟩ :=
        @exists_heard config minAgree nonzero orders vote
      obtain ⟨result, answered, right⟩ :=
        live clock orders _ start state answer fits reached prompt ended
      rw [answered] at ended
      exact ⟨clock, state, result, reached.collectReaches, ended, right, same⟩
    constructor
    · -- Where the truth is answered, it is elected.
      obtain ⟨clock, state, result, reached, ended, right, same⟩ := answers ⟨.inserted, .inserted⟩
      obtain ⟨choice, elected, named⟩ := Collect.elected_of_answer reached positive ended
      rw [show truth = choice from Subtype.ext (right.symm.trans named.symm)]
      exact elected.congr fun position among => (same position among).symm
    · -- Another elected address would be the answer in some order.
      intro choice elected
      obtain ⟨clock, state, result, reached, ended, right, same⟩ :=
        answers ⟨.inserted, .preferring fun other => other = choice.1⟩
      obtain ⟨_, preferred⟩ :=
        Collect.answer_of_elected reached positive ended (elected.congr same)
      obtain ⟨other, answered, named⟩ := preferred rfl
      cases answered
      exact Subtype.ext (named.symm.trans right)
  · -- In the end all honest votes have been heard.
    intro live clock orders script start state answer fits reached prompt ended
    have outspoken : Outspoken (voters config) liars truth (state.ballot config script.calls) := by
      intro position among honest
      obtain ⟨starts, returned, delay, known, early⟩ := prompt position among honest
      rw [reached.ballot_eq fits ended among starts known early]
      exact ballot_eq_some.mpr returned
    obtain ⟨elected, alone⟩ := live _ outspoken
    obtain ⟨⟨result, answered⟩, _⟩ :=
      Collect.answer_of_elected reached.collectReaches positive ended elected
    rw [answered] at ended
    obtain ⟨choice, chosen, same⟩ :=
      Collect.elected_of_answer reached.collectReaches positive ended
    exact ⟨result, answered, by rw [← same, alone choice chosen]⟩

/-- What the resolver may return are the ends of the runs of its consensus. -/
theorem returns_iff_of_consensus (selected : config.strategy = .consensus minAgree)
    (some_match : matchingProviders config ≠ []) (nonzero : config.timeout ≠ 0) {clock : Clock}
    {orders : Orders} {calls : Calls} {answer : Except Error ProviderResult} :
    Returns clock config calls orders answer ↔ ∃ state,
      CollectReaches clock config calls orders (.consensus minAgree) state ∧
        state.phase = .done answer := by
  have started := (@start_eq_collect config (.consensus minAgree)).mpr
    ⟨some_match, nonzero, selected⟩
  rw [Returns, started]

end Blocking

/-! ## Both resolvers -/

/--
Fewer liars than have to agree, and no more, cannot make a consensus answer with a lie.

Whoever does not lie returns the truth, or no address that fits, and replies whenever it likes.
-/
theorem consensus_truthful_iff (selected : config.strategy = .consensus minAgree)
    (positive : 1 ≤ minAgree) (nonzero : config.timeout ≠ 0)
    (some_match : Async.matchingProviders config ≠ [])
    (some_blocking : Blocking.matchingProviders config ≠ []) (truth : Fitting config.version) :
    (∀ liars ⊆ Async.voters config,
      (∀ order calls,
        Truthful (Async.voters config) liars truth (Async.ballot config calls) →
        ∀ result, Async.resolve order config calls = .ok result → result.ip = truth.1) ↔
      liars.card < minAgree) ∧
    ∀ liars ⊆ Blocking.voters config,
      (∀ clock orders calls,
        Truthful (Blocking.voters config) liars truth (Blocking.ballot config calls) →
        ∀ result, Blocking.Returns clock config calls orders (.ok result) →
          result.ip = truth.1) ↔
      liars.card < minAgree := by
  refine ⟨fun liars inside => Async.truthful_iff selected positive some_match nonzero inside,
    fun liars inside => ?_⟩
  rw [← @Blocking.truthful_iff config minAgree truth liars positive nonzero inside]
  simp only [Blocking.returns_iff_of_consensus selected some_blocking nonzero]
  -- What a consensus returns is the answer of a run that has ended, and nothing else.
  constructor
  · intro safe clock orders calls state reached truthful result ended
    exact safe clock orders calls truthful result ⟨state, reached, ended⟩
  · intro safe clock orders calls truthful result returned
    obtain ⟨state, reached, ended⟩ := returned
    exact safe clock orders calls state reached truthful result ended

/-- Three providers of which two have to agree. -/
def trioConfig : Config where
  blockingProviders := [⟨"A", .dns, fun _ => true⟩, ⟨"B", .http, fun _ => true⟩,
    ⟨"C", .stun, fun _ => true⟩]
  providers := [⟨"A", .dns, fun _ => true⟩, ⟨"B", .http, fun _ => true⟩,
    ⟨"C", .stun, fun _ => true⟩]
  timeout := 1
  version := .v4
  strategy := .consensus 2

/-- The address that two of the three return. -/
def trioTruth : Fitting trioConfig.version := ⟨ipv4 203 0 113 7, rfl⟩

/-- One liar among three cannot make two of them agree on a lie, and two liars can. -/
theorem consensus_truthful_trio :
    (∀ clock orders calls,
      Truthful (Blocking.voters trioConfig) {0} trioTruth (Blocking.ballot trioConfig calls) →
      ∀ result, Blocking.Returns clock trioConfig calls orders (.ok result) →
        result.ip = trioTruth.1) ∧
    ¬ ∀ order calls,
      Truthful (Async.voters trioConfig) {0, 1} trioTruth (Async.ballot trioConfig calls) →
      ∀ result, Async.resolve order trioConfig calls = .ok result → result.ip = trioTruth.1 := by
  have exactly := @consensus_truthful_iff trioConfig 2 rfl (by omega) one_ne_zero
    (List.cons_ne_nil _ _) (List.cons_ne_nil _ _) trioTruth
  exact ⟨(exactly.2 {0} (by decide)).mpr (by decide),
    fun safe => absurd ((exactly.1 {0, 1} (by decide)).mp safe) (by decide)⟩

/--
The honest always get their answer through exactly if they are enough, and more than the liars.

They return the truth, to the blocking resolver within the timeout and to both in any order. The
liars return what they like, when they like, or cannot be started at all.
-/
theorem consensus_reaches_truth_iff (selected : config.strategy = .consensus minAgree)
    (positive : 1 ≤ minAgree) (nonzero : config.timeout ≠ 0)
    (some_match : Async.matchingProviders config ≠ []) (truth : Fitting config.version) :
    (∀ liars ⊆ Async.voters config,
      (∀ order calls,
        Outspoken (Async.voters config) liars truth (Async.ballot config calls) →
        ∃ result, Async.resolve order config calls = .ok result ∧ result.ip = truth.1) ↔
      minAgree ≤ (Async.matchingProviders config).length - liars.card ∧
        liars.card < (Async.matchingProviders config).length - liars.card) ∧
    ∀ liars ⊆ Blocking.voters config,
      (∀ clock orders script start state answer, start + config.timeout ≤ clock.maxInstant →
        Blocking.Undelayed.Reaches clock config orders (.consensus minAgree) script start state →
        Blocking.Undelayed.Prompt config script liars truth → state.phase = .done answer →
        ∃ result, answer = .ok result ∧ result.ip = truth.1) ↔
      minAgree ≤ (Blocking.matchingProviders config).length - liars.card ∧
        liars.card < (Blocking.matchingProviders config).length - liars.card := by
  -- The honest are those who are left without the liars.
  have left {count : Nat} {liars : Finset Nat} (inside : liars ⊆ Finset.range count) :
      (Finset.range count \ liars).card = count - liars.card := by
    rw [Finset.card_sdiff_of_subset inside, Finset.card_range]
  refine ⟨fun liars inside => ?_, fun liars inside => ?_⟩
  · rw [Async.reaches_truth_iff selected positive some_match nonzero inside, left inside]
  · rw [Blocking.reaches_truth_iff positive nonzero inside, left inside]

/-- Two honest providers get their answer through against one liar, and one against two does not. -/
theorem consensus_reaches_truth_trio :
    (∀ order calls,
      Outspoken (Async.voters trioConfig) {0} trioTruth (Async.ballot trioConfig calls) →
      ∃ result, Async.resolve order trioConfig calls = .ok result ∧ result.ip = trioTruth.1) ∧
    ¬ ∀ order calls,
      Outspoken (Async.voters trioConfig) {0, 1} trioTruth (Async.ballot trioConfig calls) →
      ∃ result, Async.resolve order trioConfig calls = .ok result ∧ result.ip = trioTruth.1 := by
  have exactly := @consensus_reaches_truth_iff trioConfig 2 rfl (by omega) one_ne_zero
    (List.cons_ne_nil _ _) trioTruth
  exact ⟨(exactly.1 {0} (by decide)).mpr (by decide),
    fun reaches => absurd ((exactly.1 {0, 1} (by decide)).mp reaches) (by decide)⟩

end IpDiscovery
