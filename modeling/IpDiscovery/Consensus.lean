import IpDiscovery.Types
import IpDiscovery.Base.Plurality

/-! How both resolvers choose an address from the outcomes of their providers. -/

namespace IpDiscovery

/-- What one provider contributes to a resolution. -/
abbrev Outcome := Except ProviderError ProviderResult

/-! ## The code -/

/-- The results of a resolution by address. -/
abbrev IpResults := HashMap IpAddr (List ProviderResult)

/-- `for result in all_results`, sorting the outcomes into `ip_results` and `errors`. -/
def tally (allResults : List Outcome) : IpResults × List ProviderError :=
  allResults.foldl
    (fun (ipResults, errors) result =>
      match result with
      | .ok pr => (ipResults.push pr.ip pr, errors)
      | .error e => (ipResults, errors ++ [e]))
    (.empty, [])

/-- What both `resolve_consensus` do with the groups of results once they are complete. -/
def selectConsensus (order : HashOrder IpAddr (List ProviderResult)) (minAgree : Nat)
    (ipResults : IpResults) (errors : List ProviderError) : Except Error ProviderResult :=
  match bestLoop minAgree (order.visit ipResults) with
  -- The group of the winner is removed from the map, and then its fastest result.
  | some (ip, _) =>
    match (ipResults.get? ip).bind (minByKey ProviderResult.latency) with
    | some fastest => .ok fastest
    -- This arm reports no agreement at all, although a winner was found.
    | none => .error (.consensusNotReached minAgree 0 errors)
  | none =>
    let maxAgreement := ((order.values ipResults).map List.length).max?.getD 0
    .error (.consensusNotReached minAgree maxAgreement errors)

/-! ## Plurality with a threshold -/

/-- The results among some outcomes. -/
def successes (outcomes : List Outcome) : List ProviderResult :=
  outcomes.filterMap fun outcome => outcome.toOption

/-- The errors among some outcomes. -/
def failures (outcomes : List Outcome) : List ProviderError :=
  outcomes.filterMap fun outcome =>
    match outcome with
    | .ok _ => none
    | .error e => some e

/-- The results that name one address. -/
def agreeing (outcomes : List Outcome) (ip : IpAddr) : List ProviderResult :=
  (successes outcomes).filter fun result => result.ip = ip

/-- How many outcomes name one address. -/
def support (outcomes : List Outcome) (ip : IpAddr) : Nat := (agreeing outcomes ip).length

/--
The answer is exactly plurality with a threshold.

An address is answered where one has enough support. It is then one with the most support, by
the fastest of its supporters. Otherwise the largest support and all errors are reported.
-/
structure Plurality (minAgree : Nat) (outcomes : List Outcome)
    (answer : Except Error ProviderResult) : Prop where
  answered : (∃ result, answer = .ok result) ↔ ∃ ip, minAgree ≤ support outcomes ip
  winner : ∀ result, answer = .ok result →
    .ok result ∈ outcomes ∧ (∀ ip, support outcomes ip ≤ support outcomes result.ip) ∧
      ∀ other, .ok other ∈ outcomes → other.ip = result.ip → result.latency ≤ other.latency
  refused : (∀ result, answer ≠ .ok result) →
    ∃ got, answer = .error (.consensusNotReached minAgree got (failures outcomes)) ∧
      got < minAgree ∧ (∀ ip, support outcomes ip ≤ got) ∧ ∃ ip, support outcomes ip = got

/-! ## The loops -/

/-- The results among the successes are those that succeeded. -/
theorem mem_successes {outcomes : List Outcome} {result : ProviderResult} :
    result ∈ successes outcomes ↔ .ok result ∈ outcomes := by
  -- Only a success has a result.
  rw [successes, List.mem_filterMap]
  constructor
  · intro found
    obtain ⟨outcome, member, same⟩ := found
    cases outcome with
    | error e => cases same
    | ok other => cases same; exact member
  · intro member
    exact ⟨.ok result, member, rfl⟩

/-- Successes of a concatenation are those of its parts. -/
@[simp] theorem successes_append (left right : List Outcome) :
    successes (left ++ right) = successes left ++ successes right :=
  -- A filter of a concatenation.
  List.filterMap_append

/-- Failures of a concatenation are those of its parts. -/
@[simp] theorem failures_append (left right : List Outcome) :
    failures (left ++ right) = failures left ++ failures right :=
  List.filterMap_append

/-- The tally is the groups of the successes, and the failures in order. -/
theorem tally_eq (outcomes : List Outcome) :
    tally outcomes = (groupVotes ProviderResult.ip (successes outcomes), failures outcomes) := by
  -- The induction records the outcomes from the last one backwards.
  induction outcomes using List.reverseRecOn with
  | nil => rfl
  | append_singleton outcomes outcome ih =>
    rw [tally, List.foldl_append, ← tally, ih, successes_append, failures_append]
    cases outcome with
    | error e => simp [successes, failures, Except.toOption]
    | ok result =>
      simp only [List.foldl_cons, List.foldl_nil, failures, List.filterMap_cons_none,
        List.filterMap_nil, List.append_nil]
      rw [← groupVotes_concat]
      rfl

section Selection

variable (order : HashOrder IpAddr (List ProviderResult)) (minAgree : Nat)
  (outcomes : List Outcome)

/-- The groups the selection sees, in the order it visits them. -/
def visited : List (IpAddr × List ProviderResult) := order.visit (tally outcomes).1

/-- Every group is the results that name its address, and there are some. -/
theorem mem_visited {ip : IpAddr} {group : List ProviderResult} :
    (ip, group) ∈ visited order outcomes ↔ group = agreeing outcomes ip ∧ group ≠ [] := by
  rw [visited, order.mem_visit, tally_eq, mem_groupVotes]
  rfl

/-- A bound on all groups is a bound on the support of every address. -/
theorem support_le {bound : Nat}
    (bounded : ∀ entry ∈ visited order outcomes, entry.2.length ≤ bound) (ip : IpAddr) :
    support outcomes ip ≤ bound := by
  -- An address without a group has no support.
  by_cases grouped : agreeing outcomes ip = []
  · rw [support, grouped]
    exact Nat.zero_le bound
  · exact bounded (ip, agreeing outcomes ip) ((mem_visited order outcomes).mpr ⟨rfl, grouped⟩)

/-- The selection over the groups and errors of a list of outcomes. -/
def consensusOf : Except Error ProviderResult :=
  selectConsensus order minAgree (tally outcomes).1 (tally outcomes).2

/-- The arm that answers `got: 0` after a winner was found is dead. -/
theorem winner_has_fastest {ip : IpAddr} {count : Nat}
    (best : bestLoop minAgree (visited order outcomes) = some (ip, count)) :
    ∃ fastest, ((tally outcomes).1.get? ip).bind (minByKey ProviderResult.latency) = some fastest ∧
      consensusOf order minAgree outcomes = .ok fastest ∧ fastest.ip = ip := by
  -- A best group is one that was visited, so it is there and holds a result.
  have found := bestLoop_found minAgree (visited order outcomes)
  rw [best] at found
  obtain ⟨group, member, _⟩ := found.seen
  have nonempty := ((mem_visited order outcomes).mp member).2
  -- A group that is not empty has a fastest result.
  obtain ⟨fastest, least⟩ := @minByKey_isSome _ ProviderResult.latency group nonempty
  have present := HashMap.get?_eq_some.mpr (order.mem_visit.mp member)
  dsimp only at present
  have selected : ((tally outcomes).1.get? ip).bind (minByKey ProviderResult.latency) =
      some fastest := by
    rw [present]
    exact least
  refine ⟨fastest, selected, ?_, ?_⟩
  · rw [visited] at best
    simp only [consensusOf, selectConsensus, best, selected]
  · -- All results of the group name its address.
    have inside := (minByKey_spec least).1
    rw [((mem_visited order outcomes).mp member).1, agreeing, List.mem_filter] at inside
    simpa using inside.2

/-- The winner is the fastest result of a group that no other group exceeds. -/
theorem consensusOf_eq_ok {result : ProviderResult}
    (chosen : consensusOf order minAgree outcomes = .ok result) :
    minAgree ≤ support outcomes result.ip ∧ .ok result ∈ outcomes ∧
      (∀ ip, support outcomes ip ≤ support outcomes result.ip) ∧
      ∀ other, .ok other ∈ outcomes → other.ip = result.ip → result.latency ≤ other.latency := by
  -- The answer can only come from the group of the winner.
  have found := bestLoop_found minAgree (visited order outcomes)
  cases best : bestLoop minAgree (visited order outcomes) with
  | none =>
    rw [visited] at best
    simp only [consensusOf, selectConsensus, best] at chosen
    cases chosen
  | some leader =>
    obtain ⟨ip, count⟩ := leader
    obtain ⟨fastest, selected, same, _⟩ := winner_has_fastest order minAgree outcomes best
    rw [same] at chosen
    cases chosen
    rw [best] at found
    obtain ⟨⟨group, member, sized⟩, reaches, largest⟩ := found
    dsimp only at member sized reaches largest
    have present := HashMap.get?_eq_some.mpr (order.mem_visit.mp member)
    rw [present] at selected
    obtain ⟨inside, least⟩ := minByKey_spec selected
    have shape := ((mem_visited order outcomes).mp member).1
    rw [shape, agreeing, List.mem_filter, mem_successes, decide_eq_true_eq] at inside
    -- The size of the group is the support of its address.
    have counted : count = support outcomes result.ip := by
      rw [← sized, shape, inside.2]
      rfl
    rw [counted] at reaches largest
    refine ⟨reaches, inside.1, support_le order outcomes largest, ?_⟩
    intro other among agrees
    apply least
    rw [shape, agreeing, List.mem_filter, mem_successes, decide_eq_true_eq]
    exact ⟨among, agrees.trans inside.2⟩

/-- An address with some support, and enough of it, leads to an answer. -/
theorem consensusOf_answers {ip : IpAddr} (supported : 0 < support outcomes ip)
    (enough : minAgree ≤ support outcomes ip) :
    ∃ result, consensusOf order minAgree outcomes = .ok result := by
  have found := bestLoop_found minAgree (visited order outcomes)
  cases best : bestLoop minAgree (visited order outcomes) with
  | none =>
    -- The group of the address was visited, and is large enough.
    rw [best] at found
    have member : (ip, agreeing outcomes ip) ∈ visited order outcomes :=
      (mem_visited order outcomes).mpr ⟨rfl, List.ne_nil_of_length_pos supported⟩
    have small : (agreeing outcomes ip).length < minAgree := found _ member
    rw [support] at enough
    omega
  | some leader =>
    obtain ⟨fastest, _, chosen, _⟩ := winner_has_fastest order minAgree outcomes best
    exact ⟨fastest, chosen⟩

/-- Some groups never lead to the arm that answers `got: 0` after a winner was found. -/
def FallbackDead (ipResults : IpResults) : Prop :=
  ∀ ip count, bestLoop minAgree (order.visit ipResults) = some (ip, count) →
    ∃ fastest, (ipResults.get? ip).bind (minByKey ProviderResult.latency) = some fastest

/-- On the groups of a tally, the arm that answers `got: 0` is dead. -/
theorem tally_fallbackDead : FallbackDead order minAgree (tally outcomes).1 := by
  -- The winner's group is visited, so it is there and not empty.
  intro ip count best
  obtain ⟨fastest, selected, _⟩ := winner_has_fastest order minAgree outcomes best
  exact ⟨fastest, selected⟩

/-- A selection that fails reports a consensus that was not reached. -/
theorem consensusOf_eq_error {e : Error} (failed : consensusOf order minAgree outcomes = .error e) :
    ∃ got, e = .consensusNotReached minAgree got (failures outcomes) := by
  -- Two arms fail, with the same kind of error.
  rw [consensusOf, tally_eq, selectConsensus] at failed
  split at failed
  · split at failed
    · cases failed
    · cases failed
      exact ⟨0, rfl⟩
  · cases failed
    exact ⟨_, rfl⟩

/-- Where no group is large enough, the largest support and the failures are reported. -/
theorem consensusOf_unanswered (refused : bestLoop minAgree (visited order outcomes) = none) :
    ∃ got, consensusOf order minAgree outcomes =
        .error (.consensusNotReached minAgree got (failures outcomes)) ∧
      (∀ ip, support outcomes ip ≤ got) ∧ ∃ ip, support outcomes ip = got := by
  -- The largest group attains the maximum, or there is no group at all.
  obtain ⟨bound, attained⟩ :=
    max?_getD_spec ((visited order outcomes).map fun entry => entry.2.length)
  generalize most : ((visited order outcomes).map fun entry => entry.2.length).max?.getD 0 = got
    at bound attained
  have largest : ∀ entry ∈ visited order outcomes, entry.2.length ≤ got := by
    intro entry member
    exact bound _ (List.mem_map.mpr ⟨entry, member, rfl⟩)
  have supported := support_le order outcomes largest
  refine ⟨got, ?_, supported, ?_⟩
  · rw [visited] at refused
    simp only [consensusOf, selectConsensus, refused, HashOrder.values, List.map_map]
    rw [← most, visited, tally_eq]
    rfl
  · rcases attained with zero | member
    · exact ⟨ipv4 0 0 0 0, by have := supported (ipv4 0 0 0 0); omega⟩
    · obtain ⟨entry, member, same⟩ := List.mem_map.mp member
      have shape := ((mem_visited order outcomes).mp member).1
      exact ⟨entry.1, by rw [support, ← shape]; exact same⟩

/-- The largest support is then below the threshold. -/
theorem consensusOf_refused (positive : 1 ≤ minAgree)
    (refused : bestLoop minAgree (visited order outcomes) = none) :
    ∃ got, consensusOf order minAgree outcomes =
        .error (.consensusNotReached minAgree got (failures outcomes)) ∧
      got < minAgree ∧ (∀ ip, support outcomes ip ≤ got) ∧ ∃ ip, support outcomes ip = got := by
  obtain ⟨got, answer, supported, ip, attained⟩ := consensusOf_unanswered order minAgree outcomes
    refused
  refine ⟨got, answer, ?_, supported, ip, attained⟩
  by_contra large
  -- An address with enough support would have led to an answer.
  obtain ⟨result, answered⟩ := @consensusOf_answers order minAgree outcomes ip (by omega) (by omega)
  rw [answered] at answer
  cases answer

/-- The selection is plurality with a threshold, whatever order the groups are visited in. -/
theorem consensusOf_plurality (positive : 1 ≤ minAgree) :
    Plurality minAgree outcomes (consensusOf order minAgree outcomes) := by
  -- Each part is what one way through the selection leaves.
  refine ⟨⟨?_, ?_⟩, ?_, ?_⟩
  · -- An answer has enough support.
    intro answered
    obtain ⟨result, chosen⟩ := answered
    exact ⟨result.ip, (consensusOf_eq_ok order minAgree outcomes chosen).1⟩
  · intro reached
    obtain ⟨ip, enough⟩ := reached
    exact consensusOf_answers order minAgree outcomes (by omega) enough
  · -- An answer is the fastest of a largest group.
    intro result chosen
    exact (consensusOf_eq_ok order minAgree outcomes chosen).2
  · -- A refusal means that no group was large enough.
    intro refused
    cases best : bestLoop minAgree (visited order outcomes) with
    | none => exact consensusOf_refused order minAgree outcomes positive best
    | some leader =>
      obtain ⟨fastest, _, chosen, _⟩ := winner_has_fastest order minAgree outcomes best
      exact absurd chosen (refused fastest)

end Selection

/-! ## Ties -/

/-- Two answers name the same address, or report the same failure. -/
def SameAnswer : Except Error ProviderResult → Except Error ProviderResult → Prop
  | .ok left, .ok right => left.ip = right.ip
  | .error left, .error right => left = right
  | _, _ => False

/-- An address with at least as much support as any other. -/
def Leads (outcomes : List Outcome) (ip : IpAddr) : Prop :=
  ∀ other, support outcomes other ≤ support outcomes ip

/-- Visiting the group of a leading address first makes that address the winner. -/
theorem consensusOf_preferring {minAgree : Nat} {outcomes : List Outcome} {ip : IpAddr}
    (positive : 1 ≤ minAgree) (reaches : minAgree ≤ support outcomes ip)
    (leads : Leads outcomes ip) :
    ∃ result, consensusOf (.preferring fun other => other = ip) minAgree outcomes = .ok result ∧
      result.ip = ip := by
  -- The order opens with the group of the address, and no other group exceeds it.
  let order : HashOrder IpAddr (List ProviderResult) := .preferring fun other => other = ip
  -- The address has some support, so it has a group.
  have nonempty : agreeing outcomes ip ≠ [] := by
    intro empty
    rw [support, empty, List.length_nil] at reaches
    omega
  have grouped := (order.mem_visit).mp ((mem_visited order outcomes).mpr ⟨rfl, nonempty⟩)
  have opens : ∃ rest, visited order outcomes = (ip, agreeing outcomes ip) :: rest := by
    cases first : (tally outcomes).1.entries.filter fun entry => decide (entry.1 = ip) with
    | nil => simpa using List.filter_eq_nil_iff.mp first _ grouped
    | cons entry rest =>
      have member :
          entry ∈ (tally outcomes).1.entries.filter fun entry => decide (entry.1 = ip) := by
        rw [first]
        exact List.mem_cons_self
      obtain ⟨inside, keyed⟩ := List.mem_filter.mp member
      have keyed : entry.1 = ip := by simpa using keyed
      have shape := ((mem_visited order outcomes).mp
        (order.mem_visit.mpr (show (entry.1, entry.2) ∈ _ from inside))).1
      refine ⟨rest ++ (tally outcomes).1.entries.filter fun entry => !decide (entry.1 = ip), ?_⟩
      simp only [visited, order, HashOrder.preferring, first, List.cons_append]
      rw [← keyed, ← shape]
  obtain ⟨rest, shape⟩ := opens
  -- The first group of the largest size is kept.
  have best : bestLoop minAgree (visited order outcomes) =
      some (ip, (agreeing outcomes ip).length) := by
    rw [shape]
    apply bestLoop_first reaches
    intro entry member
    have among : (entry.1, entry.2) ∈ visited order outcomes := by
      rw [shape]
      exact List.mem_cons_of_mem _ member
    rw [((mem_visited order outcomes).mp among).1]
    exact leads entry.1
  obtain ⟨fastest, _, chosen, same⟩ := winner_has_fastest order minAgree outcomes best
  exact ⟨fastest, chosen, same⟩

/-- Two orders that both refuse report the same failure. -/
theorem Plurality.refused_same {minAgree : Nat} {outcomes : List Outcome}
    {left right : Except Error ProviderResult} (first : Plurality minAgree outcomes left)
    (second : Plurality minAgree outcomes right) (none_left : ∀ result, left ≠ .ok result)
    (none_right : ∀ result, right ≠ .ok result) : left = right := by
  -- The largest support bounds itself from both sides.
  obtain ⟨got, same, _, bound, ip, attained⟩ := first.refused none_left
  obtain ⟨got', same', _, bound', ip', attained'⟩ := second.refused none_right
  have below := bound ip'
  have above := bound' ip
  have equal : got = got' := by omega
  rw [same, same', equal]

/-- Two IPv4 and two IPv6 answers, which leave the winner to the iteration order. -/
def tiedOutcomes : List Outcome :=
  [.ok ⟨ipv4 203 0 113 7, "A", .dns, 5⟩, .ok ⟨ipv4 203 0 113 7, "B", .stun, 6⟩,
    .ok ⟨.v6 ⟨[0x20, 0x01, 0x0D, 0xB8, 0, 0, 0, 0, 0, 0, 0, 0, 0, 0, 0, 1], rfl⟩, "C", .stun, 7⟩,
    .ok ⟨.v6 ⟨[0x20, 0x01, 0x0D, 0xB8, 0, 0, 0, 0, 0, 0, 0, 0, 0, 0, 0, 1], rfl⟩, "D", .dns, 8⟩]

/--
The answer is determined by the outcomes exactly when no address has enough support, or a single
address has the most.
-/
theorem consensusOf_determined_iff (outcomes : List Outcome) (minAgree : Nat)
    (atLeastTwo : 2 ≤ minAgree) :
    (∀ order order', SameAnswer (consensusOf order minAgree outcomes)
        (consensusOf order' minAgree outcomes)) ↔
      (∀ ip, support outcomes ip < minAgree) ∨
        ∀ ip ip', Leads outcomes ip → Leads outcomes ip' → ip = ip' := by
  -- If two addresses lead, two orders tell them apart, and otherwise none do.
  have positive : 1 ≤ minAgree := by omega
  constructor
  · intro determined
    by_cases few : ∀ ip, support outcomes ip < minAgree
    · exact Or.inl few
    · right
      intro ip ip' leads leads'
      -- Each of two leading addresses wins under the order that visits it first.
      obtain ⟨enough, reaches⟩ := not_forall.mp few
      have above := leads enough
      have above' := leads' enough
      obtain ⟨result, chosen, same⟩ := consensusOf_preferring positive (by omega) leads
      obtain ⟨result', chosen', same'⟩ := consensusOf_preferring positive (by omega) leads'
      have agree := determined (.preferring fun other => other = ip)
        (.preferring fun other => other = ip')
      rw [chosen, chosen'] at agree
      exact same.symm.trans ((show result.ip = result'.ip from agree).trans same')
  · intro condition order order'
    have first := consensusOf_plurality order minAgree outcomes positive
    have second := consensusOf_plurality order' minAgree outcomes positive
    -- Both orders answer, or both refuse.
    by_cases enough : ∃ ip, minAgree ≤ support outcomes ip
    · obtain ⟨result, chosen⟩ := first.answered.mpr enough
      obtain ⟨result', chosen'⟩ := second.answered.mpr enough
      rcases condition with few | unique
      · obtain ⟨ip, reaches⟩ := enough
        have short := few ip
        omega
      · rw [chosen, chosen']
        exact unique _ _ (first.winner result chosen).2.1 (second.winner result' chosen').2.1
    · -- Two refusals report the same numbers and errors.
      have refused : ∀ result, consensusOf order minAgree outcomes ≠ .ok result :=
        fun result chosen => enough (first.answered.mp ⟨result, chosen⟩)
      have refused' : ∀ result, consensusOf order' minAgree outcomes ≠ .ok result :=
        fun result chosen => enough (second.answered.mp ⟨result, chosen⟩)
      rw [first.refused_same second refused refused']
      cases reported : consensusOf order' minAgree outcomes with
      | ok result => exact absurd reported (refused' result)
      | error e => rfl

/-- A third IPv4 answer breaks the tie. -/
def ledOutcomes : List Outcome := tiedOutcomes ++ [.ok ⟨ipv4 203 0 113 7, "E", .http, 9⟩]

/-- The three answers that agree lead before the two. -/
theorem ledOutcomes_leader {ip : IpAddr} (leads : Leads ledOutcomes ip) :
    ip = ipv4 203 0 113 7 := by
  by_contra other
  have most := leads (ipv4 203 0 113 7)
  have three : support ledOutcomes (ipv4 203 0 113 7) = 3 := by decide
  -- The others are for one IPv6 address.
  have voted : ∀ result ∈ successes ledOutcomes, result.ip = ipv4 203 0 113 7 ∨
      result.ip = .v6 ⟨[0x20, 0x01, 0x0D, 0xB8, 0, 0, 0, 0, 0, 0, 0, 0, 0, 0, 0, 1], rfl⟩ := by
    decide
  have two : support ledOutcomes ip ≤ 2 := by
    by_cases six : ip = .v6 ⟨[0x20, 0x01, 0x0D, 0xB8, 0, 0, 0, 0, 0, 0, 0, 0, 0, 0, 0, 1], rfl⟩
    · rw [six]
      decide
    · have nobody : agreeing ledOutcomes ip = [] := by
        rw [agreeing, List.filter_eq_nil_iff]
        intro result member
        rcases voted result member with same | same <;> simp [same, Ne.symm other, Ne.symm six]
      rw [support, nobody]
      exact Nat.zero_le 2
  omega

/-- Both groups have enough answers for a threshold of two, and every order finds the larger one. -/
theorem consensusOf_determined_led :
    SameAnswer (consensusOf .inserted 2 ledOutcomes)
        (consensusOf (.preferring IpAddr.isIpv6) 2 ledOutcomes) ∧
      ∀ order order', SameAnswer (consensusOf order 2 ledOutcomes)
        (consensusOf order' 2 ledOutcomes) := by
  have determined := (consensusOf_determined_iff ledOutcomes 2 (by omega)).mpr <| .inr fun _ _ leads
    leads' => (ledOutcomes_leader leads).trans (ledOutcomes_leader leads').symm
  exact ⟨determined _ _, determined⟩

/-- The tied outcomes are answered by one family or the other. -/
theorem consensusOf_tied :
    ¬ ∀ (outcomes : List Outcome) (minAgree : Nat), 2 ≤ minAgree → ∀ order order',
      SameAnswer (consensusOf order minAgree outcomes) (consensusOf order' minAgree outcomes) := by
  -- The order of insertion finds the IPv4 group first, and the other order the IPv6 group.
  intro determined
  have agree := determined tiedOutcomes 2 (by omega) .inserted (.preferring IpAddr.isIpv6)
  have first : consensusOf .inserted 2 tiedOutcomes =
      .ok ⟨ipv4 203 0 113 7, "A", .dns, 5⟩ := by decide
  have second : consensusOf (.preferring IpAddr.isIpv6) 2 tiedOutcomes =
      .ok ⟨.v6 ⟨[0x20, 0x01, 0x0D, 0xB8, 0, 0, 0, 0, 0, 0, 0, 0, 0, 0, 0, 1], rfl⟩, "C", .stun,
        7⟩ := by
    decide
  rw [first, second] at agree
  cases agree

end IpDiscovery
