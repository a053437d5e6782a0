import IpDiscovery.Agreement
import IpDiscovery.Base.Quorum
import IpDiscovery.Blocking.Deadline

/-! Consensus as an election: the calls of the providers as votes for addresses. -/

namespace IpDiscovery

open Quorum Relation

/-- An address of a version. -/
abbrev Fitting (version : IpVersion) : Type := { ip : IpAddr // version.matches ip = true }

/-- The vote of a provider that returns an address, which counts only if the address fits. -/
def voteFor (version : IpVersion) (ip : IpAddr) : Option (Fitting version) :=
  if family : version.matches ip = true then some ⟨ip, family⟩ else none

/-- A vote is for an address exactly where the address fits the version. -/
theorem voteFor_eq_some {version : IpVersion} {ip : IpAddr} {choice : Fitting version} :
    voteFor version ip = some choice ↔ ip = choice.1 := by
  unfold voteFor
  split
  · rw [Option.some.injEq]
    exact ⟨fun same => congrArg Subtype.val same, fun same => Subtype.ext same⟩
  · rename_i other
    refine ⟨nofun, fun same => absurd choice.2 ?_⟩
    rwa [← same]

/-- There is always another address to vote for. -/
theorem exists_other {version : IpVersion} (truth : Fitting version) :
    ∃ lie : Fitting version, lie ≠ truth := by
  -- Both families have two addresses at least, and one of them is not the truth.
  have two : ∃ left right : Fitting version, left ≠ right := by
    cases version with
    | v4 => exact ⟨⟨ipv4 0 0 0 1, rfl⟩, ⟨ipv4 0 0 0 2, rfl⟩, by decide⟩
    | v6 =>
      exact ⟨⟨.v6 ⟨List.replicate 16 1, rfl⟩, rfl⟩, ⟨.v6 ⟨List.replicate 16 2, rfl⟩, rfl⟩,
        by decide⟩
    | any => exact ⟨⟨ipv4 0 0 0 1, rfl⟩, ⟨ipv4 0 0 0 2, rfl⟩, by decide⟩
  obtain ⟨left, right, apart⟩ := two
  by_cases same : left = truth
  · exact ⟨right, fun other => apart (same.trans other.symm)⟩
  · exact ⟨left, same⟩

/-- Renaming errors changes no success. -/
theorem mapError_eq_ok {ε δ α : Type} {rename : ε → δ} {run : Except ε α} {value : α} :
    run.mapError rename = .ok value ↔ run = .ok value := by
  cases run <;> simp [Except.mapError]

/-! ## Settled outcomes as votes -/

section Settled

variable {settled : List (Nat × Outcome)} {count : Nat} {version : IpVersion}
  {vote : Nat → Option (Fitting version)}

/-- Settled outcomes say what the voters below a count vote for. -/
structure Counted (settled : List (Nat × Outcome)) (count : Nat) (version : IpVersion)
    (vote : Nat → Option (Fitting version)) : Prop where
  once : (settled.map Prod.fst).Nodup
  voted : ∀ position ip, (∃ result, (position, .ok result) ∈ settled ∧ result.ip = ip) ↔
    position < count ∧ ∃ choice, vote position = some choice ∧ choice.1 = ip

/-- The support of an address is the number of its backers. -/
theorem Counted.support_eq (counted : Counted settled count version vote)
    (choice : Fitting version) : support (settled.map Prod.snd) choice.1 =
      (backers (Finset.range count) vote choice).card := by
  -- Nobody is counted twice among the supporters.
  have distinct : (supporters settled choice.1).Nodup :=
    counted.once.sublist (List.Sublist.map _ List.filter_sublist)
  rw [← supporters_length, ← List.toFinset_card_of_nodup distinct]
  congr 1
  ext position
  rw [List.mem_toFinset, mem_supporters, counted.voted, mem_backers, Finset.mem_range]
  constructor
  · intro ⟨inside, other, voted, same⟩
    exact ⟨inside, voted.trans (congrArg some (Subtype.ext same))⟩
  · intro ⟨inside, voted⟩
    exact ⟨inside, choice, voted, rfl⟩

/-- Only an address of the version has support. -/
theorem Counted.fits (counted : Counted settled count version vote) {ip : IpAddr}
    (supported : 0 < support (settled.map Prod.snd) ip) : version.matches ip = true := by
  -- Whoever supports an address votes for it.
  rw [← supporters_length] at supported
  obtain ⟨position, member⟩ := List.exists_mem_of_length_pos supported
  obtain ⟨_, choice, _, same⟩ := (counted.voted position ip).mp (mem_supporters.mp member)
  exact same ▸ choice.2

/-- The selection over settled outcomes answers with an elected address. -/
theorem Counted.elected (counted : Counted settled count version vote)
    {order : HashOrder IpAddr (List ProviderResult)} {minAgree : Nat} (positive : 1 ≤ minAgree)
    {result : ProviderResult}
    (answered : consensusOf order minAgree (settled.map Prod.snd) = .ok result) :
    ∃ choice, Elected (Finset.range count) minAgree vote choice ∧ choice.1 = result.ip := by
  obtain ⟨enough, _, leads, _⟩ := consensusOf_eq_ok order minAgree _ answered
  have family := counted.fits (by omega : 0 < support (settled.map Prod.snd) result.ip)
  refine ⟨⟨result.ip, family⟩, ⟨?_, fun other => ?_⟩, rfl⟩
  · -- The support counts the same providers as the votes do.
    rwa [← counted.support_eq ⟨result.ip, family⟩]
  · rw [← counted.support_eq other, ← counted.support_eq ⟨result.ip, family⟩]
    exact leads other.1

/-- Where an address is elected the selection answers, and in some order with that address. -/
theorem Counted.answers (counted : Counted settled count version vote) {minAgree : Nat}
    (positive : 1 ≤ minAgree) {choice : Fitting version}
    (elected : Elected (Finset.range count) minAgree vote choice) :
    (∀ order, ∃ result, consensusOf order minAgree (settled.map Prod.snd) = .ok result) ∧
      ∃ result, consensusOf (.preferring fun other => other = choice.1) minAgree
        (settled.map Prod.snd) = .ok result ∧ result.ip = choice.1 := by
  have enough : minAgree ≤ support (settled.map Prod.snd) choice.1 := by
    rw [counted.support_eq]
    exact elected.enough
  refine ⟨fun order => consensusOf_answers order minAgree _ (by omega) enough,
    consensusOf_preferring positive enough fun other => ?_⟩
  -- What has no support at all does not lead.
  by_cases supported : 0 < support (settled.map Prod.snd) other
  · rw [counted.support_eq choice, counted.support_eq ⟨other, counted.fits supported⟩]
    exact elected.most _
  · omega

end Settled

/-! ## The asynchronous resolver -/

namespace Async

/-- What the provider at a position votes for. -/
def ballot (config : Config) (calls : Calls) (position : Nat) : Option (Fitting config.version) :=
  match (calls position).result with
  | .returned (.ok ip) => voteFor config.version ip
  | _ => none

/-- Calls in which everybody returns what they are to vote for. -/
def callsFor {version : IpVersion} (vote : Nat → Option (Fitting version)) (position : Nat) :
    Call :=
  match vote position with
  | some choice => ⟨0, .returned (.ok choice.1), 0⟩
  | none => ⟨0, .elapsed, 0⟩

/-- A position votes exactly for the fitting address that its call has returned. -/
theorem ballot_eq_some {config : Config} {calls : Calls} {position : Nat}
    {choice : Fitting config.version} :
    ballot config calls position = some choice ↔
      (calls position).result = .returned (.ok choice.1) := by
  unfold ballot
  split
  · rename_i ip returned
    rw [voteFor_eq_some, returned]
    simp
  · rename_i unreturned
    exact ⟨nofun, fun returned => absurd returned (unreturned _)⟩

/-- The calls that are made up for given votes have them as their ballots. -/
theorem ballot_callsFor {config : Config} (vote : Nat → Option (Fitting config.version)) :
    ballot config (callsFor vote) = vote := by
  funext position
  cases voted : vote position with
  | none => simp [ballot, callsFor, voted]
  | some choice => exact ballot_eq_some.mpr (by simp [callsFor, voted])

/-- The outcomes of an asynchronous run say what the providers vote for. -/
theorem settled_counted {config : Config} (nonzero : config.timeout ≠ 0) (calls : Calls) :
    Counted (settled config calls) (matchingProviders config).length config.version
      (ballot config calls) where
  once := by
    rw [settled_ids]
    exact List.nodup_range
  voted := by
    intro position ip
    constructor
    · -- A success is an address of the version, as a provider returned it.
      intro ⟨result, member, same⟩
      obtain ⟨provider, located, succeeded⟩ := mem_settled.mp member
      obtain ⟨_, returned, family, _⟩ := outcomeOf_eq_ok succeeded.symm
      exact ⟨(List.getElem?_eq_some_iff.mp located).1, ⟨result.ip, family⟩,
        ballot_eq_some.mpr returned, same⟩
    · -- There is time for every call, so every vote makes a success.
      intro ⟨inside, choice, voted, same⟩
      have located := List.getElem?_eq_getElem inside
      exact ⟨_, mem_settled.mpr ⟨_, located,
        (outcomeOf_returned nonzero (ballot_eq_some.mp voted) choice.2 _).symm⟩, same⟩

section Consensus

variable {config : Config} {minAgree : Nat} (selected : config.strategy = .consensus minAgree)
  (some_match : matchingProviders config ≠ [])

include selected some_match in
/-- The asynchronous consensus is the selection over the settled outcomes. -/
theorem resolve_settled (order : HashOrder IpAddr (List ProviderResult)) (calls : Calls) :
    resolve order config calls =
      (consensusOf order minAgree ((settled config calls).map Prod.snd)).mapError Fault.err := by
  rw [settled_outcomes, resolve, if_neg some_match, selected]
  exact resolveConsensus_eq order minAgree some_match

variable (positive : 1 ≤ minAgree) (nonzero : config.timeout ≠ 0)

include selected some_match positive nonzero in
/-- An address that is answered is elected. -/
theorem elected_of_answer {order : HashOrder IpAddr (List ProviderResult)} {calls : Calls}
    {result : ProviderResult} (answered : resolve order config calls = .ok result) :
    ∃ choice, Elected (Finset.range (matchingProviders config).length) minAgree
      (ballot config calls) choice ∧ choice.1 = result.ip := by
  rw [resolve_settled selected some_match] at answered
  exact (settled_counted nonzero calls).elected positive (mapError_eq_ok.mp answered)

include selected some_match positive nonzero in
/-- Where an address is elected there is an answer, and in some order with that address. -/
theorem answer_of_elected {calls : Calls} {choice : Fitting config.version}
    (elected : Elected (Finset.range (matchingProviders config).length) minAgree
      (ballot config calls) choice) :
    (∀ order, ∃ result, resolve order config calls = .ok result) ∧
      ∃ order result, resolve order config calls = .ok result ∧ result.ip = choice.1 := by
  obtain ⟨always, result, preferred, same⟩ :=
    (settled_counted nonzero calls).answers positive elected
  simp only [resolve_settled selected some_match, mapError_eq_ok]
  exact ⟨always, _, result, preferred, same⟩

end Consensus

end Async

/-! ## The blocking resolver -/

namespace Blocking

/-- What the provider at a position votes for, if it is heard. -/
def ballot (config : Config) (calls : Calls) (position : Nat) : Option (Fitting config.version) :=
  match calls position with
  | .returned (.ok ip) => voteFor config.version ip
  | _ => none

/-- Calls in which everybody returns what they are to vote for. -/
def callsFor {version : IpVersion} (vote : Nat → Option (Fitting version)) : Calls :=
  fun position =>
    match vote position with
    | some choice => .returned (.ok choice.1)
    | none => .panicked

/-- A position votes exactly for the fitting address that its call has returned. -/
theorem ballot_eq_some {config : Config} {calls : Calls} {position : Nat}
    {choice : Fitting config.version} :
    ballot config calls position = some choice ↔ calls position = .returned (.ok choice.1) := by
  unfold ballot
  split
  · rename_i ip returned
    rw [voteFor_eq_some, returned]
    simp
  · rename_i unreturned
    exact ⟨nofun, fun returned => absurd returned (unreturned _)⟩

/-- The calls that are made up for given votes have them as their ballots. -/
theorem ballot_callsFor {config : Config} (vote : Nat → Option (Fitting config.version)) :
    ballot config (callsFor vote) = vote := by
  funext position
  cases voted : vote position with
  | none => simp [ballot, callsFor, voted]
  | some choice => exact ballot_eq_some.mpr (by simp [callsFor, voted])

section Collecting

variable {clock : Clock} {config : Config} {calls : Calls} {orders : Orders} {minAgree : Nat}
  {state : Collect}

/-- The votes that have been heard in a run. -/
def Collect.ballot (config : Config) (calls : Calls) (state : Collect) (position : Nat) :
    Option (Fitting config.version) :=
  if position ∈ state.received.map WorkerMessage.id then Blocking.ballot config calls position
  else none

/-- A state counts the votes of those calls alone that it has heard of. -/
theorem Collect.ballot_eq_some {position : Nat} {choice : Fitting config.version} :
    state.ballot config calls position = some choice ↔
      position ∈ state.received.map WorkerMessage.id ∧
        calls position = .returned (.ok choice.1) := by
  unfold Collect.ballot
  split
  · rename_i heard
    rw [Blocking.ballot_eq_some]
    exact ⟨fun returned => ⟨heard, returned⟩, And.right⟩
  · rename_i unheard
    exact ⟨nofun, fun both => absurd both.1 unheard⟩

/-- The outcomes of a run are the votes that have been heard. -/
theorem Collect.Tracked.settled_counted (tracked : state.Tracked config calls)
    (started : state.phase.todo = []) (orders : Orders) :
    Counted (state.settled config orders) (matchingProviders config).length config.version
      (state.ballot config calls) where
  once := (tracked.settled_ids started orders).nodup_iff.mpr List.nodup_range
  voted := by
    intro position ip
    constructor
    · -- A success is the outcome of a message that was received.
      intro ⟨result, member, same⟩
      obtain ⟨message, received, named, validated⟩ := Collect.mem_settled_ok.mp member
      obtain ⟨reported, family, _⟩ := WorkerMessage.outcome_eq_ok validated
      obtain ⟨provider, located, _, _, returned⟩ :=
        (tracked.genuine received).returned reported
      rw [named] at located returned
      exact ⟨(List.getElem?_eq_some_iff.mp located).1, ⟨result.ip, family⟩,
        Collect.ballot_eq_some.mpr ⟨List.mem_map.mpr ⟨message, received, named⟩, returned⟩, same⟩
    · -- A vote that was heard makes a success.
      intro ⟨inside, choice, voted, same⟩
      obtain ⟨heard, returned⟩ := Collect.ballot_eq_some.mp voted
      obtain ⟨message, received, named⟩ := List.mem_map.mp heard
      obtain ⟨result, validated, address⟩ :=
        (tracked.genuine received).validates (by rw [named]; exact returned) choice.2
      exact ⟨result, Collect.mem_settled_ok.mpr ⟨message, received, named, validated⟩,
        address.trans same⟩

/-- A run that answers has heard its address be elected. -/
theorem Collect.elected_of_answer
    (reached : CollectReaches clock config calls orders (.consensus minAgree) state)
    (positive : 1 ≤ minAgree) {result : ProviderResult}
    (ended : state.phase = .done (.ok result)) :
    ∃ choice, Elected (Finset.range (matchingProviders config).length) minAgree
      (state.ballot config calls) choice ∧ choice.1 = result.ip := by
  obtain ⟨now, run⟩ := reached
  obtain ⟨tracked, recorded⟩ := laws_of_run run
  have counted := tracked.settled_counted (by rw [ended]; rfl) orders
  exact counted.elected positive (recorded.consensus_answer ended).symm

/-- A run that has heard an address be elected answers, and in some order with that address. -/
theorem Collect.answer_of_elected
    (reached : CollectReaches clock config calls orders (.consensus minAgree) state)
    (positive : 1 ≤ minAgree) {answer : Except Error ProviderResult}
    (ended : state.phase = .done answer) {choice : Fitting config.version}
    (elected : Elected (Finset.range (matchingProviders config).length) minAgree
      (state.ballot config calls) choice) :
    (∃ result, answer = .ok result) ∧
      ((orders.ipResults = .preferring fun other => other = choice.1) →
        ∃ result, answer = .ok result ∧ result.ip = choice.1) := by
  obtain ⟨now, run⟩ := reached
  obtain ⟨tracked, recorded⟩ := laws_of_run run
  have counted := tracked.settled_counted (by rw [ended]; rfl) orders
  obtain ⟨always, preferred⟩ := counted.answers positive elected
  rw [recorded.consensus_answer ended]
  -- The selection goes through the addresses in the order of the run.
  refine ⟨always orders.ipResults, fun prefers => ?_⟩
  rw [prefers]
  exact preferred

end Collecting

end Blocking

end IpDiscovery
