import IpDiscovery.Base.Machine

/-! Futures as poll machines, and the two helpers that drive a whole vector of them. -/

namespace IpDiscovery.Async

variable {ε α : Type}

/-- A future that is ready with its output after some more polls. -/
inductive Future (α : Type) where
  | waiting (polls : Nat) (output : α)
  | finished
deriving DecidableEq, Repr

/-- `Future::poll`, which panics on a future that has already been ready. -/
def Future.poll : Future α → Except (Fault ε) (Option α × Future α)
  | .waiting 0 output => .ok (some output, .finished)
  | .waiting (polls + 1) output => .ok (none, .waiting polls output)
  | .finished => .error .panic

/-- `.await`, which polls until the future is ready. -/
def Future.await : Future α → Except (Fault ε) α
  | .waiting 0 output => .ok output
  | .waiting (polls + 1) output => Future.await (.waiting polls output)
  | .finished => .error .panic

/-- How often a future can still be polled. -/
def Future.remaining : Future α → Nat
  | .waiting polls _ => polls + 1
  | .finished => 0

/-! ## The first of several futures -/

/-- One poll of the closure in `select_first`, over the futures from `index` on. -/
def selectRound : (index : Nat) → List (Future α) →
    Except (Fault ε) (Option (α × Nat) × List (Future α))
  | _, [] => .ok (none, [])
  | index, future :: rest => do
    let (ready, future) ← future.poll
    match ready with
    -- The first ready future ends the round, and the later ones are not polled.
    | some output => return (some (output, index), future :: rest)
    | none =>
      let (found, rest) ← selectRound (index + 1) rest
      return (found, future :: rest)

/-- `Vec::swap_remove`, which fills the gap with the last element. -/
def swapRemove (values : List α) (index : Nat) : Except (Fault ε) (List α) :=
  match values.getLast? with
  -- The last element takes the place of the removed one.
  | some last =>
    if index < values.length then .ok (values.set index last).dropLast else .error .panic
  | none => .error .panic

/-- How often all futures together can still be polled. -/
def totalRemaining (futures : List (Future α)) : Nat := (futures.map Future.remaining).sum

/-- A round without a ready future has polled each of them once. -/
theorem selectRound_none {futures polled : List (Future α)} {index : Nat}
    (pending : (selectRound index futures : Except (Fault ε) _) = .ok (none, polled)) :
    totalRemaining polled + futures.length = totalRemaining futures := by
  -- The induction follows the round, one poll at a time.
  induction futures generalizing index polled with
  | nil =>
    cases pending
    rfl
  | cons future rest ih =>
    cases future with
    | finished => cases pending
    | waiting polls output =>
      cases polls with
      | zero => cases pending
      | succ polls =>
        obtain ⟨⟨ready, next⟩, once, more⟩ := bind_eq_ok pending
        cases once
        obtain ⟨⟨found, others⟩, polledRest, same⟩ := bind_eq_ok more
        cases same
        have fewer := ih polledRest
        simp only [totalRemaining, List.map_cons, List.sum_cons, Future.remaining,
          List.length_cons] at fewer ⊢
        omega

/-- `select_first`: the first ready output, its index, and the futures that remain. -/
def selectFirst (futures : List (Future α)) : Except (Fault ε) (α × Nat × List (Future α)) :=
  match _round : selectRound 0 futures with
  | .error fault => .error fault
  -- The ready future is taken out of the vector.
  | .ok (some (output, index), polled) =>
    (swapRemove polled index).map fun remaining => (output, index, remaining)
  | .ok (none, polled) =>
    -- The closure is polled again, and over no futures it stays pending for ever.
    if futures = [] then .error .hang else selectFirst polled
termination_by totalRemaining futures
decreasing_by
  have fewer := selectRound_none _round
  have some_futures := List.length_pos_of_ne_nil (by assumption)
  omega

/-- A round keeps the number of futures. -/
theorem selectRound_length {futures polled : List (Future α)} {index : Nat}
    {found : Option (α × Nat)}
    (ran : (selectRound index futures : Except (Fault ε) _) = .ok (found, polled)) :
    polled.length = futures.length := by
  -- The induction follows the round, which replaces each future by its next state.
  induction futures generalizing index found polled with
  | nil =>
    cases ran
    rfl
  | cons future rest ih =>
    obtain ⟨⟨ready, next⟩, _, more⟩ := bind_eq_ok ran
    cases ready with
    | some output =>
      cases more
      rfl
    | none =>
      obtain ⟨⟨later, others⟩, ranRest, same⟩ := bind_eq_ok more
      cases same
      rw [List.length_cons, List.length_cons, ih ranRest]

/-- Removing one value leaves fewer. -/
theorem swapRemove_length {values remaining : List α} {index : Nat}
    (removed : (swapRemove values index : Except (Fault ε) _) = .ok remaining) :
    remaining.length < values.length := by
  -- Only an index inside the vector removes something.
  unfold swapRemove at removed
  split at removed
  · split at removed
    · rename_i inside
      cases removed
      rw [List.length_dropLast, List.length_set]
      omega
    · cases removed
  · cases removed

/-- One round of `select_first`, and the rounds after it. -/
theorem selectFirst_eq (futures : List (Future α)) :
    (selectFirst futures : Except (Fault ε) _) =
      match selectRound 0 futures with
      | .error fault => .error fault
      | .ok (some (output, index), polled) =>
        (swapRemove polled index).map fun remaining => (output, index, remaining)
      | .ok (none, polled) => if futures = [] then .error .hang else selectFirst polled := by
  -- The recursive call is the only difference to the definition.
  rw [selectFirst]
  split <;> rename_i round <;> rw [round]

/-- The future that was ready does not remain. -/
theorem selectFirst_length {futures remaining : List (Future α)} {output : α} {index : Nat}
    (chosen : (selectFirst futures : Except (Fault ε) _) = .ok (output, index, remaining)) :
    remaining.length < futures.length := by
  -- The induction follows the rounds, which keep the number of futures.
  induction futures using selectFirst.induct (ε := ε) with
  | case1 futures fault failed =>
    rw [selectFirst_eq, failed] at chosen
    cases chosen
  -- A ready future is removed.
  | case2 futures found place polled ran =>
    rw [selectFirst_eq, ran] at chosen
    dsimp only at chosen
    cases removed : (swapRemove polled place : Except (Fault ε) _) with
    | error fault =>
      rw [removed] at chosen
      cases chosen
    | ok others =>
      rw [removed] at chosen
      cases chosen
      rw [← selectRound_length ran]
      exact swapRemove_length removed
  | case3 polled pending =>
    rw [selectFirst_eq, pending] at chosen
    cases chosen
  -- A pending round keeps all futures.
  | case4 futures polled pending nonempty ih =>
    rw [selectFirst_eq, pending] at chosen
    dsimp only at chosen
    rw [if_neg nonempty] at chosen
    rw [← selectRound_length pending]
    exact ih chosen

/-! ## All of several futures -/

/-- A future beside its result slot, which is empty until the future is ready. -/
abbrev Slot (α : Type) := Future α × Option α

/-- One poll of the closure in `join_all_vec`, which passes over the filled slots. -/
def joinRound : List (Slot α) → (done : Nat) → Except (Fault ε) (List (Slot α) × Nat)
  | [], done => .ok ([], done)
  -- A filled slot is passed over, because its future has finished.
  | (future, some output) :: rest, done => do
    let (rest, done) ← joinRound rest done
    return ((future, some output) :: rest, done)
  | (future, none) :: rest, done => do
    let (ready, future) ← future.poll
    let (rest, done) ← joinRound rest (if ready.isSome then done + 1 else done)
    return ((future, ready) :: rest, done)

/-- How often the futures of the empty slots can still be polled. -/
def slotsRemaining : List (Slot α) → Nat
  | [] => 0
  | (_, some _) :: rest => slotsRemaining rest
  | (future, none) :: rest => future.remaining + slotsRemaining rest

/-- How many slots are empty. -/
def emptySlots (slots : List (Slot α)) : Nat := slots.countP fun slot => slot.2.isNone

/-- A round polls the future of every empty slot once. -/
theorem joinRound_remaining {slots polled : List (Slot α)} {done done' : Nat}
    (ran : (joinRound slots done : Except (Fault ε) _) = .ok (polled, done')) :
    slotsRemaining polled + emptySlots slots = slotsRemaining slots := by
  -- The induction follows the round, one slot at a time.
  induction slots generalizing done polled with
  | nil =>
    cases ran
    rfl
  | cons slot rest ih =>
    obtain ⟨future, result⟩ := slot
    cases result with
    -- A filled slot counts on neither side.
    | some output =>
      obtain ⟨⟨others, count⟩, ranRest, same⟩ := bind_eq_ok ran
      cases same
      have fewer := ih ranRest
      simpa [slotsRemaining, emptySlots] using fewer
    -- An empty slot loses one poll.
    | none =>
      obtain ⟨⟨ready, next⟩, once, more⟩ := bind_eq_ok ran
      obtain ⟨⟨others, count⟩, ranRest, same⟩ := bind_eq_ok more
      cases same
      have fewer := ih ranRest
      cases future with
      | finished => cases once
      | waiting polls output =>
        cases polls with
        | zero =>
          cases once
          simp [slotsRemaining, emptySlots, Future.remaining] at fewer ⊢
          omega
        | succ polls =>
          cases once
          simp [slotsRemaining, emptySlots, Future.remaining] at fewer ⊢
          omega

/-- The polls of `join_all_vec` until all of its futures are done. -/
def joinLoop (total : Nat) (slots : List (Slot α)) (done : Nat) :
    Except (Fault ε) (List (Slot α)) :=
  match _round : joinRound slots done with
  | .error fault => .error fault
  | .ok (polled, done') =>
    if done' = total then .ok polled
    -- With no future left to wake it, the closure would stay pending for ever.
    else if emptySlots slots = 0 then .error .hang
    else joinLoop total polled done'
termination_by slotsRemaining slots
decreasing_by
  have fewer := joinRound_remaining _round
  omega

/-- One round of `join_all_vec`, and the rounds after it. -/
theorem joinLoop_eq (total : Nat) (slots : List (Slot α)) (done : Nat) :
    (joinLoop total slots done : Except (Fault ε) _) =
      match joinRound slots done with
      | .error fault => .error fault
      | .ok (polled, done') =>
        if done' = total then .ok polled
        else if emptySlots slots = 0 then .error .hang
        else joinLoop total polled done' := by
  -- The recursive call is the only difference to the definition.
  rw [joinLoop]
  split <;> rename_i round <;> rw [round]

/-- `join_all_vec`, which expects every slot to be filled in the end. -/
def joinAllVec (futures : List (Future α)) : Except (Fault ε) (List α) := do
  let slots ← joinLoop futures.length (futures.map fun future => (future, none)) 0
  slots.mapM fun slot =>
    match slot.2 with
    | some output => .ok output
    | none => .error .panic

end IpDiscovery.Async
