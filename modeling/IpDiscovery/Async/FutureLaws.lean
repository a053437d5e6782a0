import IpDiscovery.Async.Futures

/-! Driving several futures loses no output, and never polls a future that was ready. -/

namespace IpDiscovery.Async

variable {ε α : Type}

/-- Futures that have not been ready yet, and the outputs they are going to have. -/
def Awaits (futures : List (Future α)) (outputs : List α) : Prop :=
  List.Forall₂ (fun future output => ∃ polls, future = .waiting polls output) futures outputs

/-- There are as many outputs as futures. -/
theorem Awaits.length_eq {futures : List (Future α)} {outputs : List α}
    (live : Awaits futures outputs) : futures.length = outputs.length := List.Forall₂.length_eq live

/-- Two live vectors stay live when they are put together. -/
theorem Awaits.append {front back : List (Future α)} {frontOutputs backOutputs : List α}
    (first : Awaits front frontOutputs) (second : Awaits back backOutputs) :
    Awaits (front ++ back) (frontOutputs ++ backOutputs) := List.rel_append first second

/-- Awaiting a live future gives its output. -/
theorem await_waiting (polls : Nat) (output : α) :
    ((Future.waiting polls output).await : Except (Fault ε) α) = .ok output := by
  -- Each poll brings the output one poll nearer.
  induction polls with
  | zero => rw [Future.await]
  | succ polls ih => rw [Future.await, ih]

/-! ## The first of several futures -/

/-- A round leaves all futures live, or takes the output of one and leaves the others live. -/
theorem selectRound_spec {futures : List (Future α)} {outputs : List α}
    (live : Awaits futures outputs) : ∀ index : Nat,
      (∃ polled, (selectRound index futures : Except (Fault ε) _) = .ok (none, polled) ∧
        Awaits polled outputs) ∨
      ∃ front back output frontOutputs backOutputs,
        (selectRound index futures : Except (Fault ε) _) =
          .ok (some (output, index + front.length), front ++ .finished :: back) ∧
        Awaits front frontOutputs ∧ Awaits back backOutputs ∧
        outputs = frontOutputs ++ output :: backOutputs := by
  -- The induction follows the round, which stops at the first ready future.
  induction live with
  | nil =>
    intro index
    exact Or.inl ⟨[], rfl, .nil⟩
  | @cons future output rest outputs waiting others ih =>
    intro index
    obtain ⟨polls, rfl⟩ := waiting
    cases polls with
    -- This future is ready, and the round ends here.
    | zero => exact Or.inr ⟨[], rest, output, [], outputs, rfl, .nil, others, rfl⟩
    -- This future is pending, and the round goes on.
    | succ polls =>
      rcases ih (index + 1) with pending | ready
      · obtain ⟨polled, round, still⟩ := pending
        left
        refine ⟨.waiting polls output :: polled, ?_, .cons ⟨polls, rfl⟩ still⟩
        simp only [selectRound, Future.poll, ok_bind, round]
        rfl
      · obtain ⟨front, back, found, frontOutputs, backOutputs, round, before, after, same⟩ := ready
        right
        refine ⟨.waiting polls output :: front, back, found, output :: frontOutputs, backOutputs,
          ?_, .cons ⟨polls, rfl⟩ before, after, by rw [same, List.cons_append]⟩
        simp only [selectRound, Future.poll, ok_bind, round, List.length_cons,
          Nat.add_assoc, Nat.add_comm 1]
        rfl

/-- Removing an element moves the last one into its place. -/
theorem swapRemove_middle (front : List α) (removed : α) (back : List α) :
    (swapRemove (front ++ removed :: back) front.length : Except (Fault ε) _) =
      .ok (front ++ (back.getLast?.toList ++ back.dropLast)) := by
  -- Behind the removed element stands nothing, or a last element.
  rcases List.eq_nil_or_concat back with rfl | ⟨init, last, rfl⟩
  · simp [swapRemove]
  · -- The last element moves into the gap.
    have opened : (front ++ removed :: (init ++ [last])).getLast? = some last := by
      rw [← List.cons_append, ← List.append_assoc, List.getLast?_concat]
    have moved : (front ++ removed :: (init ++ [last])).set front.length last =
        (front ++ last :: init) ++ [last] := by
      simp
    simp only [swapRemove, List.concat_eq_append, opened, moved, List.dropLast_concat,
      List.getLast?_concat, Option.toList_some]
    rw [if_pos (by simp)]
    rfl

/-- Moving the last future to the front keeps the vector live. -/
theorem Awaits.rotate {back : List (Future α)} {outputs : List α} (live : Awaits back outputs) :
    Awaits (back.getLast?.toList ++ back.dropLast)
      (outputs.getLast?.toList ++ outputs.dropLast) := by
  -- The last future has the last output.
  rcases List.eq_nil_or_concat back with rfl | ⟨init, last, rfl⟩
  · cases live
    exact .nil
  · rcases List.eq_nil_or_concat outputs with rfl | ⟨initOutputs, lastOutput, rfl⟩
    · have lengths := live.length_eq
      simp at lengths
    · simp only [List.concat_eq_append] at live ⊢
      have lengths := live.length_eq
      simp only [List.length_append, List.length_singleton, Nat.add_right_cancel_iff] at lengths
      have starts := List.forall₂_take_append _ _ _ live
      have ends := List.forall₂_drop_append _ _ _ live
      rw [← lengths, List.take_left] at starts
      rw [← lengths, List.drop_left] at ends
      simpa using Awaits.append ends starts

/-- Moving the last value to the front loses none. -/
theorem rotate_perm (values : List α) :
    (values.getLast?.toList ++ values.dropLast).Perm values := by
  -- Only the place of the last element has changed.
  rcases List.eq_nil_or_concat values with rfl | ⟨init, last, rfl⟩
  · exact .nil
  · simpa using (List.perm_append_singleton last init).symm

/--
`select_first` takes one output off a live vector.

What it leaves is live again, and together with the output it is a permutation of the vector.
-/
theorem selectFirst_spec {futures : List (Future α)} :
    ∀ {outputs : List α}, Awaits futures outputs → futures ≠ [] →
      ∃ output index remaining remainingOutputs,
        (selectFirst futures : Except (Fault ε) _) = .ok (output, index, remaining) ∧
        Awaits remaining remainingOutputs ∧ (output :: remainingOutputs).Perm outputs := by
  -- The induction follows the rounds, each of which has fewer polls left.
  induction futures using selectFirst.induct (ε := ε) with
  | case1 futures fault failed =>
    intro outputs live _
    rcases @selectRound_spec ε α _ _ live 0 with ⟨_, round, _⟩ | ⟨_, _, _, _, _, round, _⟩ <;>
      · rw [round] at failed
        cases failed
  -- A ready future is taken out, and the others stay live.
  | case2 futures output index polled found =>
    intro outputs live _
    rcases @selectRound_spec ε α _ _ live 0 with ⟨_, round, _⟩ |
      ⟨front, back, ready, frontOutputs, backOutputs, round, before, after, same⟩
    · rw [round] at found
      cases found
    · rw [round] at found
      cases found
      refine ⟨output, 0 + front.length, _, frontOutputs ++ _, ?_, before.append after.rotate, ?_⟩
      · rw [selectFirst_eq, round]
        dsimp only
        rw [Nat.zero_add, swapRemove_middle]
        rfl
      · rw [same]
        exact ((List.Perm.append_left frontOutputs (rotate_perm backOutputs)).cons output).trans
          List.perm_middle.symm
  | case3 polled pending =>
    intro outputs _ nonempty
    exact absurd rfl nonempty
  -- A pending round leaves all futures live.
  | case4 futures polled pending nonempty ih =>
    intro outputs live _
    rcases @selectRound_spec ε α _ _ live 0 with ⟨still, round, waiting⟩ | ⟨_, _, _, _, _, round, _⟩
    · rw [round] at pending
      cases pending
      have again : polled ≠ [] := by
        intro empty
        have lengths := waiting.length_eq
        rw [empty, ← live.length_eq] at lengths
        exact nonempty (List.length_eq_zero_iff.mp lengths.symm)
      obtain ⟨output, index, remaining, remainingOutputs, chosen, left⟩ := ih waiting again
      refine ⟨output, index, remaining, remainingOutputs, ?_, left⟩
      rw [selectFirst_eq, round]
      dsimp only
      rw [if_neg nonempty, chosen]
    · rw [round] at pending
      cases pending

/-! ## All of several futures -/

/-- A slot whose future is still live and empty, or which holds the output of its future. -/
def SlotAwaits (slot : Slot α) (output : α) : Prop :=
  (∃ polls, slot = (.waiting polls output, none)) ∨ slot = (.finished, some output)

/-- Slots that are going to hold some outputs. -/
def Joins (slots : List (Slot α)) (outputs : List α) : Prop :=
  List.Forall₂ SlotAwaits slots outputs

/-- A round keeps the outputs of all slots, and counts the slots it fills. -/
theorem joinRound_spec {slots : List (Slot α)} {outputs : List α} (joins : Joins slots outputs) :
    ∀ done : Nat, ∃ polled done',
      (joinRound slots done : Except (Fault ε) _) = .ok (polled, done') ∧ Joins polled outputs ∧
      done' + emptySlots polled = done + emptySlots slots ∧
      emptySlots polled ≤ emptySlots slots := by
  -- The induction follows the round, one slot at a time.
  induction joins with
  | nil =>
    intro done
    exact ⟨[], done, rfl, .nil, rfl, Nat.le_refl _⟩
  | @cons slot output rest outputs here others ih =>
    intro done
    rcases here with ⟨polls, rfl⟩ | rfl
    · cases polls with
      -- This slot is filled now.
      | zero =>
        obtain ⟨polled, done', round, still, counted, fewer⟩ := ih (done + 1)
        refine ⟨(.finished, some output) :: polled, done', ?_, .cons (Or.inr rfl) still, ?_, ?_⟩
        · simp only [joinRound, Future.poll, ok_bind, Option.isSome_some, if_true, round]
          rfl
        · simp [emptySlots] at counted ⊢
          omega
        · simp [emptySlots] at fewer ⊢
          omega
      -- This slot stays empty.
      | succ polls =>
        obtain ⟨polled, done', round, still, counted, fewer⟩ := ih done
        refine ⟨(.waiting polls output, none) :: polled, done', ?_,
          .cons (Or.inl ⟨polls, rfl⟩) still, ?_, ?_⟩
        · simp only [joinRound, Future.poll, ok_bind, Option.isSome_none, Bool.false_eq_true,
            if_false, round]
          rfl
        · simp [emptySlots] at counted ⊢
          omega
        · simp [emptySlots] at fewer ⊢
          omega
    · obtain ⟨polled, done', round, still, counted, fewer⟩ := ih done
      refine ⟨(.finished, some output) :: polled, done', ?_, .cons (Or.inr rfl) still, ?_, ?_⟩
      · simp only [joinRound, round, ok_bind]
        rfl
      · simpa [emptySlots] using counted
      · simpa [emptySlots] using fewer

/-- The loop fills every slot with the output of its future. -/
theorem joinLoop_spec {total : Nat} (slots : List (Slot α)) (done : Nat) :
    ∀ {outputs : List α}, Joins slots outputs → done + emptySlots slots = total →
      ∃ filled, (joinLoop total slots done : Except (Fault ε) _) = .ok filled ∧
        Joins filled outputs ∧ emptySlots filled = 0 := by
  -- The count of filled slots tells exactly when the last one is filled.
  induction slots, done using joinLoop.induct (ε := ε) total with
  | case1 slots done fault failed =>
    intro outputs joins _
    obtain ⟨_, _, round, _⟩ := @joinRound_spec ε α _ _ joins done
    rw [round] at failed
    cases failed
  -- The count has reached the total, so no slot is empty.
  | case2 slots done polled ran =>
    intro outputs joins counted
    obtain ⟨_, _, round, still, balance, _⟩ := @joinRound_spec ε α _ _ joins done
    rw [round] at ran
    cases ran
    refine ⟨polled, ?_, still, by omega⟩
    rw [joinLoop_eq, round]
    dsimp only
    rw [if_pos rfl]
  -- Without an empty slot the count would have reached the total.
  | case3 slots done polled done' ran unfinished full =>
    intro outputs joins counted
    obtain ⟨_, _, round, _, balance, fewer⟩ := @joinRound_spec ε α _ _ joins done
    rw [round] at ran
    cases ran
    omega
  | case4 slots done polled done' ran unfinished some_empty ih =>
    intro outputs joins counted
    obtain ⟨_, _, round, still, balance, _⟩ := @joinRound_spec ε α _ _ joins done
    rw [round] at ran
    cases ran
    obtain ⟨filled, looped, kept⟩ := ih still (by omega)
    refine ⟨filled, ?_, kept⟩
    rw [joinLoop_eq, round]
    dsimp only
    rw [if_neg unfinished, if_neg some_empty, looped]

/-- The outputs of the slots, each of which is expected to be there. -/
def expectAll (slots : List (Slot α)) : Except (Fault ε) (List α) :=
  slots.mapM fun slot => slot.2.elim (.error .panic) .ok

/-- `join_all_vec` is its loop over empty slots, and takes the slots' values at the end. -/
theorem joinAllVec_eq (futures : List (Future α)) :
    (joinAllVec futures : Except (Fault ε) _) =
      (joinLoop futures.length (futures.map fun future => (future, none)) 0 >>= expectAll) := by
  -- The two ways to open an option agree.
  unfold joinAllVec expectAll
  congr
  funext slots
  congr
  funext slot
  obtain ⟨future, result⟩ := slot
  cases result <;> rfl

/-- At the start every slot is empty, and waits for the output of its future. -/
theorem Awaits.joins {futures : List (Future α)} {outputs : List α} (live : Awaits futures outputs) :
    Joins (futures.map fun future => (future, none)) outputs := by
  rw [Joins, List.forall₂_map_left_iff]
  refine List.Forall₂.imp ?_ live
  intro future output waiting
  obtain ⟨polls, rfl⟩ := waiting
  exact Or.inl ⟨polls, rfl⟩

/-- At the start all slots are empty. -/
@[simp] theorem emptySlots_start (futures : List (Future α)) :
    emptySlots (futures.map fun future => (future, (none : Option α))) = futures.length := by
  simp [emptySlots, List.countP_map, Function.comp_def]

/-- Where no slot is empty, none is expected in vain. -/
theorem Joins.expectAll {slots : List (Slot α)} {outputs : List α} (joins : Joins slots outputs)
    (full : emptySlots slots = 0) :
    (Async.expectAll slots : Except (Fault ε) (List α)) = .ok outputs := by
  unfold Async.expectAll
  induction joins with
  | nil => rfl
  | @cons slot output rest outputs here others ih =>
    rcases here with ⟨polls, rfl⟩ | rfl
    · -- A slot that still waits would count as empty.
      simp [emptySlots] at full
    · have others_full : emptySlots rest = 0 := by simpa [emptySlots] using full
      rw [List.mapM_cons, ih others_full]
      rfl

/-- `join_all_vec` returns every output at the position of its future. -/
theorem joinAllVec_spec {futures : List (Future α)} {outputs : List α}
    (live : Awaits futures outputs) :
    (joinAllVec futures : Except (Fault ε) _) = .ok outputs := by
  -- The loop starts from empty slots, and leaves none.
  obtain ⟨filled, looped, joins, full⟩ :=
    @joinLoop_spec ε α futures.length _ 0 _ live.joins (by simp)
  rw [joinAllVec_eq, looped, ok_bind]
  exact joins.expectAll full

end IpDiscovery.Async
