import IpDiscovery.Async.Race

/-! `join_all_vec` between its wake-ups: which slots are filled, and what the counter counts. -/

namespace IpDiscovery.Async

open Relation

variable {α : Type}

/-- How many slots are filled. -/
def filledSlots (slots : List (Slot α)) : Nat := slots.countP fun slot => slot.2.isSome

/-- `joinRound` with a log of the positions whose futures it polls. -/
def joinRoundLogged : (index : Nat) → List (Slot α) → (done : Nat) →
    Except (Fault Error) (List (Slot α) × Nat × List Nat)
  | _, [], done => .ok ([], done, [])
  | index, (future, some output) :: rest, done => do
    let (rest, done, log) ← joinRoundLogged (index + 1) rest done
    return ((future, some output) :: rest, done, log)
  | index, (future, none) :: rest, done => do
    let (ready, future) ← future.poll
    let (rest, done, log) ←
      joinRoundLogged (index + 1) rest (if ready.isSome then done + 1 else done)
    return ((future, ready) :: rest, done, index :: log)

/-- The local variables of `join_all_vec` between two wake-ups, and whether it is ready. -/
structure Join (α : Type) where
  slots : List (Slot α)
  done : Nat
  ready : Bool

namespace Join

/-- The join before its first wake-up. -/
def start (futures : List (Future α)) : Join α where
  slots := futures.map fun future => (future, none)
  done := 0
  ready := false

/-- What a wake-up does, which is one round over all slots. -/
inductive Wake (total : Nat) : Join α → Join α → Prop where
  | pending {join : Join α} {slots : List (Slot α)} {done : Nat} (running : join.ready = false)
      (round : (joinRound join.slots join.done : Except (Fault Error) _) = .ok (slots, done))
      (some_left : done ≠ total) : Wake total join { slots, done, ready := false }
  | complete {join : Join α} {slots : List (Slot α)} {done : Nat} (running : join.ready = false)
      (round : (joinRound join.slots join.done : Except (Fault Error) _) = .ok (slots, done))
      (all_done : done = total) : Wake total join { slots, done, ready := true }

/-- A wake-up, or a change of when the futures are going to be ready. -/
inductive Step (total : Nat) : Join α → Join α → Prop where
  | wake {join join' : Join α} (woken : Wake total join join') : Step total join join'
  | schedule {join : Join α} {slots : List (Slot α)}
      (same : List.Forall₂ (fun before after =>
        before.1.output? = after.1.output? ∧ before.2 = after.2) join.slots slots) :
      Step total join { join with slots }

/-- Every slot waits for its own output or holds it, and the counter counts those that hold one. -/
structure Kept (outputs : List α) (join : Join α) : Prop where
  joins : Joins join.slots outputs
  counted : join.done = filledSlots join.slots
  ready : join.ready = true → emptySlots join.slots = 0
  running : join.ready = false → join.slots ≠ [] → 0 < emptySlots join.slots

end Join

/-! ## Rounds -/

/-- Every slot is filled or empty. -/
theorem filledSlots_add (slots : List (Slot α)) :
    filledSlots slots + emptySlots slots = slots.length := by
  induction slots with
  | nil => rfl
  | cons slot rest ih =>
    obtain ⟨future, result⟩ := slot
    cases result <;> simp [filledSlots, emptySlots] at ih ⊢ <;> omega

/-- Without the log, the logged round is the round. -/
theorem joinRoundLogged_erase (slots : List (Slot α)) : ∀ index done : Nat,
    (joinRoundLogged index slots done).map (fun result => (result.1, result.2.1)) =
      joinRound slots done := by
  -- Both rounds make the same polls, one slot at a time.
  induction slots with
  | nil =>
    intro index done
    rfl
  | cons slot rest ih =>
    intro index done
    obtain ⟨future, result⟩ := slot
    cases result with
    | some output =>
      rw [joinRoundLogged, joinRound, ← ih (index + 1) done]
      cases joinRoundLogged (index + 1) rest done <;> rfl
    | none =>
      rw [joinRoundLogged, joinRound]
      cases (future.poll : Except (Fault Error) _) with
      | error fault => rfl
      | ok polled =>
        obtain ⟨ready, next⟩ := polled
        rw [ok_bind, ok_bind]
        dsimp only
        rw [← ih (index + 1)]
        cases joinRoundLogged (index + 1) rest (if ready.isSome then done + 1 else done) <;> rfl

/-- The positions that a round polls are those of empty slots. -/
theorem joinRoundLogged_empty {slots polled : List (Slot α)} {log : List Nat} :
    ∀ {index done done' : Nat}, joinRoundLogged index slots done = .ok (polled, done', log) →
      ∀ position ∈ log, index ≤ position ∧
        ∃ future, slots[position - index]? = some (future, none) := by
  induction slots generalizing polled log with
  | nil =>
    intro index done done' ran position polledAt
    cases ran
    cases polledAt
  | cons slot rest ih =>
    intro index done done' ran position polledAt
    obtain ⟨future, result⟩ := slot
    -- A position behind the first slot is one less in the rest.
    have behind {log : List Nat} {others : List (Slot α)} {count count' : Nat}
        (ranRest : joinRoundLogged (index + 1) rest count = .ok (others, count', log))
        (later : position ∈ log) :
        index ≤ position ∧ ∃ next, ((future, result) :: rest)[position - index]? =
          some (next, none) := by
      obtain ⟨after, next, found⟩ := ih ranRest position later
      refine ⟨by omega, next, ?_⟩
      rw [show position - index = position - (index + 1) + 1 by omega, List.getElem?_cons_succ]
      exact found
    cases result with
    | some output =>
      obtain ⟨⟨others, count, later⟩, ranRest, same⟩ := bind_eq_ok ran
      cases same
      exact behind ranRest polledAt
    | none =>
      obtain ⟨⟨ready, next⟩, _, more⟩ := bind_eq_ok ran
      obtain ⟨⟨others, count, later⟩, ranRest, same⟩ := bind_eq_ok more
      cases same
      rcases List.mem_cons.mp polledAt with rfl | afterwards
      · exact ⟨Nat.le_refl _, future, by rw [Nat.sub_self, List.getElem?_cons_zero]⟩
      · exact behind ranRest afterwards

/-- A round leaves a filled slot as it is. -/
theorem joinRound_filled {slots polled : List (Slot α)} {future : Future α} {output : α} :
    ∀ {done done' position : Nat},
      (joinRound slots done : Except (Fault Error) _) = .ok (polled, done') →
        slots[position]? = some (future, some output) →
          polled[position]? = some (future, some output) := by
  induction slots generalizing polled with
  | nil =>
    intro done done' position _ found
    cases found
  | cons slot rest ih =>
    intro done done' position ran found
    obtain ⟨first, result⟩ := slot
    cases result with
    | some held =>
      obtain ⟨⟨others, count⟩, ranRest, same⟩ := bind_eq_ok ran
      cases same
      cases position with
      | zero => exact found
      | succ position =>
        rw [List.getElem?_cons_succ] at found ⊢
        exact ih ranRest found
    | none =>
      obtain ⟨⟨ready, next⟩, _, more⟩ := bind_eq_ok ran
      obtain ⟨⟨others, count⟩, ranRest, same⟩ := bind_eq_ok more
      cases same
      cases position with
      -- The first slot is empty, so it is not the filled one.
      | zero => cases found
      | succ position =>
        rw [List.getElem?_cons_succ] at found ⊢
        exact ih ranRest found

/-! ## Runs -/

namespace Join

section Laws

variable {total : Nat} {outputs : List α} {join join' : Join α}

/-- At the start every future is to be polled, and no slot is filled. -/
theorem start_kept {futures : List (Future α)} (live : Awaits futures outputs) :
    (start futures).Kept outputs where
  joins := live.joins
  counted := by
    -- At the start no slot is filled.
    have all := filledSlots_add (start futures).slots
    simp [start] at all ⊢
    omega
  ready := by
    intro impossible
    cases impossible
  running := by
    intro _ nonempty
    rw [start, emptySlots_start]
    exact List.length_pos_iff.mpr fun empty => nonempty (by rw [start, empty]; rfl)

/-- What a round over such slots does: nobody is polled who was ready, and the count stays true. -/
theorem Kept.round (kept : join.Kept outputs) :
    ∃ slots, joinRound join.slots join.done =
        (.ok (slots, filledSlots slots) : Except (Fault Error) _) ∧
      Joins slots outputs ∧ filledSlots slots + emptySlots slots = outputs.length := by
  -- What the round filled is what is filled now, since slots only fill up.
  obtain ⟨slots, done, round, still, balance, _⟩ := @joinRound_spec Error _ _ _ kept.joins join.done
  have before := filledSlots_add join.slots
  have after := filledSlots_add slots
  have counted := kept.counted
  have lengths := List.Forall₂.length_eq kept.joins
  have lengths' := List.Forall₂.length_eq still
  obtain rfl : done = filledSlots slots := by omega
  exact ⟨slots, round, still, by omega⟩

/-- A wake-up completes the join exactly when it leaves no slot empty. -/
theorem Kept.wake (kept : join.Kept outputs) (woken : Wake outputs.length join join') :
    join'.Kept outputs ∧ (join'.ready = true ↔ emptySlots join'.slots = 0) := by
  obtain ⟨slots, round, still, all⟩ := kept.round
  -- The result of a round is known, so it is the one the executor has seen.
  cases woken with
  | pending running ran some_left =>
    rw [round] at ran
    cases ran
    have left : 0 < emptySlots slots := by omega
    refine ⟨⟨still, rfl, ?_, fun _ _ => left⟩, ?_⟩
    · intro impossible
      cases impossible
    · constructor
      · intro impossible
        cases impossible
      · intro none_left
        dsimp only at none_left
        omega
  | complete running ran all_done =>
    rw [round] at ran
    cases ran
    have none_left : emptySlots slots = 0 := by omega
    refine ⟨⟨still, rfl, fun _ => none_left, ?_⟩, fun _ => none_left, fun _ => rfl⟩
    intro impossible
    cases impossible

/-- Whenever the futures are going to be ready, the slots get the same outputs. -/
theorem joins_of_same {before after : List (Slot α)}
    (same : List.Forall₂ (fun left right =>
      left.1.output? = right.1.output? ∧ left.2 = right.2) before after) :
    ∀ {outputs : List α}, Joins before outputs → Joins after outputs := by
  induction same with
  | nil =>
    intro outputs joins
    exact joins
  | @cons left right before after here _ ih =>
    intro outputs joins
    cases joins with
    | cons awaits others =>
      refine .cons ?_ (ih others)
      obtain ⟨future, result⟩ := right
      obtain ⟨promised, held⟩ := here
      rcases awaits with ⟨polls, rfl⟩ | rfl
      · -- A future that has an output is waiting for it.
        cases held
        cases future with
        | finished => cases promised
        | waiting polls' output =>
          cases promised
          exact Or.inl ⟨polls', rfl⟩
      · cases held
        cases future with
        | finished => exact Or.inr rfl
        | waiting polls' output => cases promised

/-- Rescheduling leaves the results of the slots as they are. -/
theorem results_of_same {before after : List (Slot α)}
    (same : List.Forall₂ (fun left right =>
      left.1.output? = right.1.output? ∧ left.2 = right.2) before after) :
    filledSlots after = filledSlots before ∧ emptySlots after = emptySlots before := by
  -- Slots are counted by what they hold, and that stays the same.
  have results : after.map Prod.snd = before.map Prod.snd := by
    induction same with
    | nil => rfl
    | cons here _ ih => rw [List.map_cons, List.map_cons, ih, here.2]
  have filled := congrArg (List.countP Option.isSome) results
  have empty := congrArg (List.countP Option.isNone) results
  rw [List.countP_map, List.countP_map] at filled empty
  exact ⟨filled, empty⟩

/-- Every step keeps the slots and the count. -/
theorem Kept.step (kept : join.Kept outputs) (moved : Step outputs.length join join') :
    join'.Kept outputs := by
  cases moved with
  | wake woken => exact (kept.wake woken).1
  -- Time passes for the futures, and no slot is filled or emptied.
  | @schedule slots same =>
    obtain ⟨filled, empty⟩ := results_of_same same
    refine ⟨joins_of_same same kept.joins, kept.counted.trans filled.symm, ?_, ?_⟩
    · intro ended
      exact empty.trans (kept.ready ended)
    · intro running nonempty
      have before : join.slots ≠ [] := by
        intro none_before
        rw [none_before] at same
        cases same
        exact nonempty rfl
      exact Nat.lt_of_lt_of_eq (kept.running running before) empty.symm

/-- No step touches a slot that is filled. -/
theorem Kept.filled (kept : join.Kept outputs) (moved : Step outputs.length join join')
    {position : Nat} {future : Future α} {output : α}
    (held : join.slots[position]? = some (future, some output)) :
    join'.slots[position]? = some (future, some output) := by
  cases moved with
  | wake woken =>
    cases woken with
    | pending _ round _ => exact joinRound_filled round held
    | complete _ round _ => exact joinRound_filled round held
  | @schedule slots same =>
    -- The future of a filled slot has finished, and stays so.
    obtain ⟨inside, here⟩ := List.getElem?_eq_some_iff.mp held
    have inside' : position < slots.length := (List.Forall₂.length_eq same) ▸ inside
    have bound : position < outputs.length := (List.Forall₂.length_eq kept.joins) ▸ inside
    have awaits := List.Forall₂.get kept.joins inside bound
    have next := List.Forall₂.get same inside inside'
    simp only [List.get_eq_getElem, here] at awaits next
    rw [List.getElem?_eq_getElem inside']
    rcases awaits with ⟨polls, impossible⟩ | ended
    · cases impossible
    · cases ended
      generalize slots[position] = slot at next ⊢
      obtain ⟨future, result⟩ := slot
      obtain ⟨promised, same_result⟩ := next
      cases same_result
      cases future with
      | finished => rfl
      | waiting polls value => cases promised

/-- Wherever the polls have come, every output is in its slot or still to come. -/
theorem kept_of_run {futures : List (Future α)} (live : Awaits futures outputs)
    (run : ReflTransGen (Step outputs.length) (start futures) join) : join.Kept outputs :=
  @invariant_of_run _ _ (Kept outputs) (fun kept moved => kept.step moved) _ _ (start_kept live) run

/-- A join that is not ready can be woken. -/
theorem Kept.progress (kept : join.Kept outputs) (running : join.ready = false) :
    ∃ join', Wake outputs.length join join' := by
  obtain ⟨slots, round, _⟩ := kept.round
  by_cases all : filledSlots slots = outputs.length
  · exact ⟨_, .complete running round all⟩
  · exact ⟨_, .pending running round all⟩

/-- Wake-ups alone bring every join to its end. -/
theorem Kept.ends (kept : join.Kept outputs) :
    ∃ last, ReflTransGen (Wake outputs.length) join last ∧ last.ready = true := by
  -- Each round polls the future of an empty slot, until the last round fills the last one.
  refine run_ends (fun join : Join α => slotsRemaining join.slots + (if join.ready then 0 else 1))
    (fun kept woken => (Kept.wake kept woken).1) ?_ join kept
  intro join kept unready
  have running : join.ready = false := by simpa using unready
  obtain ⟨next, woken⟩ := kept.progress running
  refine ⟨next, woken, ?_⟩
  cases woken with
  | pending running round some_left =>
    have fewer := joinRound_remaining round
    obtain ⟨slots, same, _, all⟩ := kept.round
    rw [same] at round
    cases round
    have some_slots : join.slots ≠ [] := by
      intro none
      have lengths := List.Forall₂.length_eq kept.joins
      rw [none, List.length_nil] at lengths
      omega
    have polled := kept.running running some_slots
    simp only [running]
    omega
  | complete running round _ =>
    have fewer := joinRound_remaining round
    simp only [running]
    simp
    omega

/-! ## The loop of the code -/

/-- What the code makes of a join from here on. -/
def value (total : Nat) (join : Join α) : Except (Fault Error) (List α) :=
  (if join.ready then .ok join.slots else joinLoop total join.slots join.done) >>= expectAll

/-- A wake-up is what the code does. -/
theorem Kept.wake_value (kept : join.Kept outputs) (woken : Wake outputs.length join join') :
    value outputs.length join' = value outputs.length join := by
  obtain ⟨slots, same, _, all⟩ := kept.round
  cases woken with
  | pending running round some_left =>
    -- The count is not the total, so some slot was empty before the round as well.
    have some_empty : emptySlots join.slots ≠ 0 := by
      intro none
      have before := filledSlots_add join.slots
      have lengths := List.Forall₂.length_eq kept.joins
      obtain ⟨_, _, again, _, balance, fewer⟩ :=
        @joinRound_spec Error _ _ _ kept.joins join.done
      have counted := kept.counted
      rw [round] at again
      cases again
      omega
    unfold value
    rw [running, if_neg Bool.false_ne_true, if_neg Bool.false_ne_true,
      joinLoop_eq outputs.length join.slots, round]
    dsimp only
    rw [if_neg some_left, if_neg some_empty]
  | complete running round all_done =>
    unfold value
    rw [running, if_neg Bool.false_ne_true, joinLoop_eq outputs.length join.slots, round]
    dsimp only
    rw [if_pos all_done]
    rfl

/-- So a run of wake-ups is what the code does. -/
theorem value_of_run (kept : join.Kept outputs)
    (run : ReflTransGen (Wake outputs.length) join join') :
    join'.Kept outputs ∧ value outputs.length join' = value outputs.length join := by
  induction run with
  | refl => exact ⟨kept, rfl⟩
  | tail _ woken ih =>
    obtain ⟨before, same⟩ := ih
    exact ⟨(before.wake woken).1, (before.wake_value woken).trans same⟩

end Laws

end Join

/--
Joining futures returns every output at the position of its future, and polls none that finished.

After every round of every schedule the counter counts the filled slots, a filled slot is neither
polled nor changed again, and the join is ready exactly when no slot is empty. The wake-ups are the
rounds of the code, which expects nothing in vain.
-/
theorem join_loses_nothing {futures : List (Future α)} {outputs : List α}
    (live : Awaits futures outputs) :
    (∀ join, ReflTransGen (Join.Step futures.length) (Join.start futures) join →
      join.done = filledSlots join.slots ∧
      (∃ slots done log,
        (joinRound join.slots join.done : Except (Fault Error) _) = .ok (slots, done) ∧
        joinRoundLogged 0 join.slots join.done = .ok (slots, done, log) ∧
        ∀ position ∈ log, ∃ future : Future α, join.slots[position]? = some (future, none)) ∧
      (∀ join', Join.Step futures.length join join' →
        ∀ (position : Nat) (future : Future α) (output : α),
        join.slots[position]? = some (future, some output) →
          join'.slots[position]? = some (future, some output)) ∧
      (join.ready = false → (futures = [] ∨ 0 < emptySlots join.slots) ∧
        ∃ join', Join.Wake futures.length join join') ∧
      (∀ join', Join.Wake futures.length join join' →
        (join'.ready = true ↔ emptySlots join'.slots = 0)) ∧
      (join.ready = true → (expectAll join.slots : Except (Fault Error) (List α)) = .ok outputs) ∧
      ∃ last, ReflTransGen (Join.Wake futures.length) join last ∧ last.ready = true) ∧
    (∀ join, ReflTransGen (Join.Wake futures.length) (Join.start futures) join →
      join.ready = true →
        (joinAllVec futures : Except (Fault Error) (List α)) = expectAll join.slots) ∧
    (joinAllVec futures : Except (Fault Error) (List α)) = .ok outputs ∧
    outputs.length = futures.length := by
  have lengths := live.length_eq
  rw [lengths]
  refine ⟨?_, ?_, joinAllVec_spec live, rfl⟩
  · intro join run
    have kept := Join.kept_of_run live run
    obtain ⟨slots, round, _⟩ := kept.round
    refine ⟨kept.counted, ?_, fun join' moved _ _ _ => kept.filled moved, ?_,
      fun join' woken => (kept.wake woken).2, fun ended => kept.joins.expectAll (kept.ready ended),
      kept.ends⟩
    · -- The round with its log is the round without it.
      have erased := joinRoundLogged_erase join.slots 0 join.done
      cases logged : joinRoundLogged 0 join.slots join.done with
      | error fault =>
        rw [logged, round] at erased
        cases erased
      | ok result =>
        obtain ⟨slots', done, log⟩ := result
        rw [logged] at erased
        exact ⟨slots', done, log, erased.symm, rfl, fun position polledAt =>
          (joinRoundLogged_empty logged position polledAt).2⟩
    · intro running
      refine ⟨?_, kept.progress running⟩
      rcases List.eq_nil_or_concat futures with rfl | ⟨front, last, rfl⟩
      · exact Or.inl rfl
      · right
        apply kept.running running
        intro empty
        have sizes := List.Forall₂.length_eq kept.joins
        rw [empty, ← lengths] at sizes
        simp at sizes
  · intro join run ended
    obtain ⟨_, same⟩ := Join.value_of_run (Join.start_kept live) run
    rw [joinAllVec_eq, lengths]
    unfold Join.value at same
    rw [ended] at same
    exact same.symm

/-- Two futures, the first of which is ready a round later. -/
theorem join_loses_nothing_two :
    (joinAllVec [.waiting 1 10, .waiting 0 20] : Except (Fault Error) (List Nat)) =
      .ok [10, 20] :=
  (@join_loses_nothing Nat [.waiting 1 10, .waiting 0 20] [10, 20]
    (.cons ⟨1, rfl⟩ (.cons ⟨0, rfl⟩ .nil))).2.2.1

end IpDiscovery.Async
