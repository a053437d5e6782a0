import IpDiscovery.Base.HashMap

/-! Votes grouped by key, and the running maximum over the groups in any order. -/

namespace IpDiscovery

section Grouping

variable {κ ν : Type} [DecidableEq κ] (key : ν → κ)

/-- The votes for one choice, in the order they were cast. -/
def votesFor (votes : List ν) (choice : κ) : List ν := votes.filter fun vote => key vote = choice

/-- All votes, each pushed onto the group of its key. -/
def groupVotes (votes : List ν) : HashMap κ (List ν) :=
  votes.foldl (fun groups vote => groups.push (key vote) vote) .empty

/-- One more vote is one more push. -/
theorem groupVotes_concat (votes : List ν) (vote : ν) :
    groupVotes key (votes ++ [vote]) = (groupVotes key votes).push (key vote) vote := by
  -- The fold pushes the votes from left to right.
  simp [groupVotes]

/-- A choice has a group exactly when somebody voted for it. -/
theorem get?_groupVotes (votes : List ν) (choice : κ) :
    (groupVotes key votes).get? choice =
      if votesFor key votes choice = [] then none else some (votesFor key votes choice) := by
  -- The induction casts the votes from the last one backwards.
  induction votes using List.reverseRecOn with
  | nil => simp [groupVotes, votesFor]
  | append_singleton votes vote ih =>
    rw [groupVotes_concat, HashMap.push, HashMap.get?_alter]
    -- The last vote changes one group, its own.
    by_cases same : choice = key vote
    · subst same
      rw [if_pos rfl, ih]
      split <;> simp_all [votesFor]
    · rw [if_neg same, ih]
      simp [votesFor, Ne.symm same]

/-- A choice has a group exactly where it has votes, and the group holds them all. -/
theorem mem_groupVotes {votes : List ν} {choice : κ} {group : List ν} :
    (choice, group) ∈ (groupVotes key votes).entries ↔
      group = votesFor key votes choice ∧ group ≠ [] := by
  -- A group is found under its key exactly when it is an entry.
  rw [← HashMap.get?_eq_some, get?_groupVotes]
  split
  · rename_i none_voted
    constructor
    · intro impossible
      cases impossible
    · intro grouped
      exact absurd (grouped.1.trans none_voted) grouped.2
  · rename_i some_voted
    constructor
    · intro same
      cases same
      exact ⟨rfl, some_voted⟩
    · intro grouped
      rw [grouped.1]

/-- How many values all groups hold together. -/
def HashMap.total (groups : HashMap κ (List ν)) : Nat :=
  (groups.entries.map fun entry => entry.2.length).sum

/-- A push adds one value to one group. -/
theorem HashMap.push_total (groups : HashMap κ (List ν)) (choice : κ) (vote : ν) :
    (groups.push choice vote).total = groups.total + 1 := by
  -- The induction follows the search for the group.
  have general (entries : List (κ × List ν)) :
      ((alterEntries choice (fun values => values.getD [] ++ [vote]) entries).map
        fun entry => entry.2.length).sum = (entries.map fun entry => entry.2.length).sum + 1 := by
    induction entries with
    | nil => rfl
    | cons entry rest ih =>
      by_cases here : entry.1 = choice
      · simp only [alterEntries, if_pos here, List.map_cons, List.sum_cons, Option.getD_some,
          List.length_append, List.length_singleton]
        omega
      · simp only [alterEntries, if_neg here, List.map_cons, List.sum_cons, ih]
        omega
  exact general groups.entries

/-- Every vote is in one group. -/
theorem groupVotes_total (votes : List ν) : (groupVotes key votes).total = votes.length := by
  induction votes using List.reverseRecOn with
  | nil => rfl
  | append_singleton votes vote ih =>
    rw [groupVotes_concat, HashMap.push_total, ih, List.length_append, List.length_singleton]

end Grouping

section Maximum

variable {κ ν : Type}

/-- One group of the loop below, which replaces the best so far only by a larger one. -/
def bestStep (threshold : Nat) (best : Option (κ × Nat)) (entry : κ × List ν) : Option (κ × Nat) :=
  if entry.2.length ≥ threshold then
    match best with
    | none => some (entry.1, entry.2.length)
    | some (leader, currentLen) =>
      if entry.2.length > currentLen then some (entry.1, entry.2.length)
      else some (leader, currentLen)
  else best

/-- `for (choice, group) in groups`, keeping the first largest group that reaches a threshold. -/
def bestLoop (threshold : Nat) (groups : List (κ × List ν)) : Option (κ × Nat) :=
  groups.foldl (bestStep threshold) none

/-- The best so far is a group that was seen, reaches the threshold, and is not exceeded. -/
structure BestOf (threshold : Nat) (groups : List (κ × List ν)) (best : κ × Nat) : Prop where
  seen : ∃ group, (best.1, group) ∈ groups ∧ group.length = best.2
  reaches : threshold ≤ best.2
  largest : ∀ entry ∈ groups, entry.2.length ≤ best.2

/-- What the loop has found after some groups. -/
def BestFound (threshold : Nat) (groups : List (κ × List ν)) : Option (κ × Nat) → Prop
  | some best => BestOf threshold groups best
  | none => ∀ entry ∈ groups, entry.2.length < threshold

/-- A bound on the groups that were seen and on the next one bounds all of them. -/
theorem bounded_concat {groups : List (κ × List ν)} {next : κ × List ν} {bound : Nat}
    (before : ∀ entry ∈ groups, entry.2.length ≤ bound) (last : next.2.length ≤ bound) :
    ∀ entry ∈ groups ++ [next], entry.2.length ≤ bound := by
  -- An entry is an earlier one, or the next one.
  intro entry member
  rcases List.mem_append.mp member with earlier | final
  · exact before entry earlier
  · rw [List.mem_singleton.mp final]
    exact last

/-- One more group keeps the best of all groups seen. -/
theorem bestStep_found {threshold : Nat} {groups : List (κ × List ν)} {best : Option (κ × Nat)}
    (found : BestFound threshold groups best) (entry : κ × List ν) :
    BestFound threshold (groups ++ [entry]) (bestStep threshold best entry) := by
  -- The step depends on whether there is a best group already.
  cases best with
  -- The first group that reaches the threshold is the best so far.
  | none =>
    unfold bestStep
    split
    · rename_i reaches
      refine ⟨⟨entry.2, by simp, rfl⟩, reaches, bounded_concat ?_ (Nat.le_refl _)⟩
      intro other member
      have small := found other member
      omega
    · rename_i small
      intro other member
      rcases List.mem_append.mp member with earlier | final
      · exact found other earlier
      · rw [List.mem_singleton.mp final]
        omega
  -- A later group has to exceed the best so far.
  | some best =>
    obtain ⟨leader, currentLen⟩ := best
    obtain ⟨⟨first, member, sized⟩, reached, largest⟩ := found
    dsimp only at member sized reached largest
    -- Where the leader stays, the new group is not larger.
    have stays (smaller : entry.2.length ≤ currentLen) :
        BestOf threshold (groups ++ [entry]) (leader, currentLen) :=
      ⟨⟨first, by simp [member], sized⟩, reached, bounded_concat largest smaller⟩
    unfold bestStep
    dsimp only
    split
    · rename_i reaches
      split
      · rename_i exceeds
        refine ⟨⟨entry.2, by simp, rfl⟩, reaches, bounded_concat ?_ (Nat.le_refl _)⟩
        intro other inside
        have bounded := largest other inside
        omega
      · exact stays (by omega)
    · exact stays (by omega)

/-- The whole loop finds the best of all groups. -/
theorem bestLoop_found (threshold : Nat) (groups : List (κ × List ν)) :
    BestFound threshold groups (bestLoop threshold groups) := by
  -- The induction visits the groups from the last one backwards.
  induction groups using List.reverseRecOn with
  | nil =>
    intro entry member
    cases member
  | append_singleton groups entry ih =>
    rw [bestLoop, List.foldl_append]
    -- One more group is one more step.
    exact bestStep_found ih entry

/-- The first group to reach the largest size is the one that is kept. -/
theorem bestLoop_first {threshold : Nat} {choice : κ} {group : List ν} {rest : List (κ × List ν)}
    (reaches : threshold ≤ group.length) (largest : ∀ entry ∈ rest, entry.2.length ≤ group.length) :
    bestLoop threshold ((choice, group) :: rest) = some (choice, group.length) := by
  -- No later group exceeds the first one.
  have opened : bestStep threshold none (choice, group) = some (choice, group.length) :=
    if_pos reaches
  rw [bestLoop, List.foldl_cons, opened]
  induction rest with
  | nil => rfl
  | cons entry rest ih =>
    have small := largest entry List.mem_cons_self
    -- A group that is not larger is passed over.
    have kept : bestStep threshold (some (choice, group.length)) entry =
        some (choice, group.length) := by
      simp only [bestStep, if_neg (show ¬ entry.2.length > group.length by omega), ite_self]
    rw [List.foldl_cons, kept]
    exact ih fun other member => largest other (List.mem_cons_of_mem _ member)

/-- `Iterator::min_by_key`, which returns the first of several minima. -/
def minByKey (measure : ν → Nat) : List ν → Option ν
  | [] => none
  | first :: rest =>
    some (rest.foldl (fun best next => if measure next < measure best then next else best) first)

/-- A minimum is one of the values, and none is below it. -/
theorem minByKey_spec {measure : ν → Nat} {values : List ν} {best : ν}
    (found : minByKey measure values = some best) :
    best ∈ values ∧ ∀ value ∈ values, measure best ≤ measure value := by
  -- The fold keeps a value it has seen, below all it has seen.
  have general (rest : List ν) : ∀ first : ν,
      let best := rest.foldl (fun best next => if measure next < measure best then next else best)
        first
      (best = first ∨ best ∈ rest) ∧ measure best ≤ measure first ∧
        ∀ value ∈ rest, measure best ≤ measure value := by
    induction rest with
    | nil =>
      intro first
      simp
    -- The next value replaces the best, or is no smaller.
    | cons next rest ih =>
      intro first
      obtain ⟨origin, below, lowest⟩ := ih (if measure next < measure first then next else first)
      simp only [List.foldl_cons, List.mem_cons]
      split at below <;> rename_i order <;>
        simp only [order, if_true, if_false] at origin below lowest ⊢
      all_goals refine ⟨by tauto, by omega, ?_⟩
      all_goals
        intro value member
        rcases member with rfl | later
        · omega
        · exact lowest value later
  -- The first value starts the fold.
  cases values with
  | nil => cases found
  | cons first rest =>
    cases found
    obtain ⟨origin, below, lowest⟩ := general rest first
    constructor
    · rcases origin with same | later
      · rw [same]
        exact List.mem_cons_self
      · exact List.mem_cons_of_mem _ later
    · intro value member
      rcases List.mem_cons.mp member with rfl | later
      · exact below
      · exact lowest value later

/-- A list with values has a minimum. -/
theorem minByKey_isSome {measure : ν → Nat} {values : List ν} (nonempty : values ≠ []) :
    ∃ best, minByKey measure values = some best := by
  -- The first value is a candidate.
  cases values with
  | nil => exact absurd rfl nonempty
  | cons first rest => exact ⟨_, rfl⟩

/-- The largest of some numbers, or zero, is an upper bound of them that is zero or attained. -/
theorem max?_getD_spec (numbers : List Nat) :
    (∀ number ∈ numbers, number ≤ numbers.max?.getD 0) ∧
      (numbers.max?.getD 0 = 0 ∨ numbers.max?.getD 0 ∈ numbers) := by
  -- Without numbers the maximum is the default.
  cases largest : numbers.max? with
  | none =>
    rw [List.max?_eq_none_iff] at largest
    simp [largest]
  | some number =>
    obtain ⟨member, bound⟩ := List.max?_eq_some_iff.mp largest
    exact ⟨bound, Or.inr member⟩

end Maximum

end IpDiscovery
