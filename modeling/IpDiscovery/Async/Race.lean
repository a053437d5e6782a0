import IpDiscovery.Async.Resolver
import IpDiscovery.Base.Runs

/-! The race between its wake-ups: which futures are held, which have failed, and who has won. -/

namespace IpDiscovery.Async

open Relation

/--
The local variables of `resolve_race` between two wake-ups.

The last three fields are its history, in which every future is known by its first position.
-/
structure Race where
  futures : List (Future Outcome)
  errors : List ProviderError
  answer : Option (Except Error ProviderResult)
  held : List Nat
  failed : List Nat
  winner : Option Nat

/-- The output a future is going to have. -/
def Future.output? {α : Type} : Future α → Option α
  | .waiting _ output => some output
  | .finished => none

namespace Race

/-- The race before its first wake-up. -/
def start (futures : List (Future Outcome)) : Race where
  futures
  errors := []
  answer := none
  held := List.range futures.length
  failed := []
  winner := none

/-- What a wake-up does. -/
inductive Wake : Race → Race → Prop where
  | exhausted {race : Race} (running : race.answer = none) (empty : race.futures = []) :
      Wake race { race with answer := some (.error (.allProvidersFailed race.errors)) }
  -- Nobody is ready, and all have been polled once.
  | pending {race : Race} {polled : List (Future Outcome)} (running : race.answer = none)
      (nonempty : race.futures ≠ [])
      (round : (selectRound 0 race.futures : Except (Fault Error) _) = .ok (none, polled)) :
      Wake race { race with futures := polled }
  -- The future that is ready leaves the vector, and so does its position.
  | fail {race : Race} {polled remaining : List (Future Outcome)} {e : ProviderError}
      {index position : Nat} {held : List Nat} (running : race.answer = none)
      (round : (selectRound 0 race.futures : Except (Fault Error) _) =
        .ok (some (.error e, index), polled))
      (removed : (swapRemove polled index : Except (Fault Error) _) = .ok remaining)
      (who : race.held[index]? = some position)
      (left : (swapRemove race.held index : Except (Fault Error) _) = .ok held) :
      Wake race { race with
        futures := remaining
        errors := race.errors ++ [e]
        held
        failed := race.failed ++ [position] }
  | win {race : Race} {polled remaining : List (Future Outcome)} {result : ProviderResult}
      {index position : Nat} {held : List Nat} (running : race.answer = none)
      (round : (selectRound 0 race.futures : Except (Fault Error) _) =
        .ok (some (.ok result, index), polled))
      (removed : (swapRemove polled index : Except (Fault Error) _) = .ok remaining)
      (who : race.held[index]? = some position)
      (left : (swapRemove race.held index : Except (Fault Error) _) = .ok held) :
      Wake race { race with
        futures := remaining
        answer := some (.ok result)
        held
        winner := some position }

/-- A wake-up, or a change of when the futures are going to be ready. -/
inductive Step : Race → Race → Prop where
  | wake {race race' : Race} (woken : Wake race race') : Step race race'
  | schedule {race : Race} {futures : List (Future Outcome)}
      (same : List.Forall₂ (fun before after => before.output? = after.output?)
        race.futures futures) : Step race { race with futures }

/-- Every position is held, has failed or has won, each by the output of its own future. -/
structure Kept (output : Nat → Outcome) (count : Nat) (race : Race) : Prop where
  live : Awaits race.futures (race.held.map output)
  everyone : (race.held ++ race.failed ++ race.winner.toList).Perm (List.range count)
  errors : race.failed.map output = race.errors.map .error
  running : race.answer = none → race.winner = none
  answer : ∀ answer, race.answer = some answer →
    (∃ position result, race.winner = some position ∧ output position = .ok result ∧
      answer = .ok result) ∨
    race.held = [] ∧ race.winner = none ∧ answer = .error (.allProvidersFailed race.errors)

section Laws

variable {output : Nat → Outcome} {count : Nat} {race race' : Race}

/-- At the start all futures are in the race, each at its own position. -/
theorem start_kept {futures : List (Future Outcome)}
    (live : Awaits futures ((List.range futures.length).map output)) :
    (start futures).Kept output futures.length where
  -- All positions are held.
  live := live
  everyone := by simp [start]
  errors := rfl
  running := fun _ => rfl
  answer := by
    intro answer ended
    cases ended

/-- A round over live futures never polls one that has been ready. -/
theorem Kept.unfaulted (kept : race.Kept output count) (fault : Fault Error) :
    selectRound 0 race.futures ≠ .error fault := by
  intro failed
  -- A round over live futures finds nobody ready, or somebody.
  rcases @selectRound_spec Error _ _ _ kept.live 0 with ⟨_, round, _⟩ | ⟨_, _, _, _, _, round, _⟩
  · rw [round] at failed
    cases failed
  · rw [round] at failed
    cases failed

/-- The future that is found ready is the one at its position, and the others stay live. -/
theorem Kept.ready (kept : race.Kept output count) {outcome : Outcome} {index : Nat}
    {polled : List (Future Outcome)}
    (round : (selectRound 0 race.futures : Except (Fault Error) _) =
      .ok (some (outcome, index), polled)) :
    ∃ remaining position held,
      (swapRemove polled index : Except (Fault Error) _) = .ok remaining ∧
      race.held[index]? = some position ∧
      (swapRemove race.held index : Except (Fault Error) _) = .ok held ∧
      output position = outcome ∧ Awaits remaining (held.map output) ∧
      (position :: held).Perm race.held := by
  rcases @selectRound_spec Error _ _ _ kept.live 0 with ⟨_, pending, _⟩ |
    ⟨front, back, found, frontOutputs, backOutputs, ready, before, after, same⟩
  · rw [pending] at round
    cases round
  · rw [ready] at round
    cases round
    -- The positions are split where the futures are.
    obtain ⟨frontIds, rest, shape, fronts, rests⟩ := List.map_eq_append_iff.mp same
    obtain ⟨position, backIds, restShape, here, backs⟩ := List.map_eq_cons_iff.mp rests
    have lengths := before.length_eq
    rw [← fronts, List.length_map] at lengths
    subst restShape
    rw [Nat.zero_add, shape, lengths]
    -- The last future takes the place of the one that is removed.
    refine ⟨front ++ (back.getLast?.toList ++ back.dropLast), position,
      frontIds ++ (backIds.getLast?.toList ++ backIds.dropLast), ?_, by simp,
      swapRemove_middle frontIds position backIds, here, ?_, ?_⟩
    · rw [← lengths]
      exact swapRemove_middle front _ back
    · have moved := before.append after.rotate
      rw [← fronts, ← backs] at moved
      simpa [List.map_dropLast, List.getLast?_map, Option.toList_map] using moved
    · exact ((List.Perm.append_left frontIds (rotate_perm backIds)).cons position).trans
        List.perm_middle.symm

/-- The position found ready leaves those held, with its output, and none is lost. -/
theorem Kept.leaves (kept : race.Kept output count) (running : race.answer = none)
    {outcome : Outcome} {index position : Nat} {polled remaining : List (Future Outcome)}
    {held : List Nat}
    (round : (selectRound 0 race.futures : Except (Fault Error) _) =
      .ok (some (outcome, index), polled))
    (removed : (swapRemove polled index : Except (Fault Error) _) = .ok remaining)
    (who : race.held[index]? = some position)
    (left : (swapRemove race.held index : Except (Fault Error) _) = .ok held) :
    output position = outcome ∧ Awaits remaining (held.map output) ∧
      (held ++ race.failed ++ [position]).Perm (List.range count) := by
  obtain ⟨_, _, _, taken, here, gone, own, live, same⟩ := kept.ready round
  rw [taken] at removed
  rw [here] at who
  rw [gone] at left
  cases removed
  cases who
  cases left
  -- Nobody has won yet, so all positions are held or have failed.
  have everyone := kept.everyone
  rw [kept.running running, Option.toList_none, List.append_nil] at everyone
  refine ⟨own, live, (List.perm_append_singleton _ _).trans ?_⟩
  exact (same.append_right race.failed).trans everyone

/-- Every wake-up keeps all positions. -/
theorem Kept.wake (kept : race.Kept output count) (woken : Wake race race') :
    race'.Kept output count := by
  cases woken with
  | exhausted running empty =>
    -- There are as many positions held as futures.
    have none_held : race.held = [] := by
      have lengths := kept.live.length_eq
      rw [empty, List.length_nil, List.length_map] at lengths
      exact List.length_eq_zero_iff.mp lengths.symm
    refine { kept with running := ?_, answer := ?_ }
    · intro impossible
      cases impossible
    · intro answer ended
      cases ended
      exact Or.inr ⟨none_held, kept.running running, rfl⟩
  | @pending polled running nonempty round =>
    -- Nobody was ready, and the futures are one poll further on.
    rcases @selectRound_spec Error _ _ _ kept.live 0 with ⟨still, same, live⟩ |
      ⟨_, _, _, _, _, ready, _⟩
    · rw [same] at round
      cases round
      exact { kept with live }
    · rw [ready] at round
      cases round
  | fail running round removed who left =>
    obtain ⟨outcome, live, everyone⟩ := kept.leaves running round removed who left
    refine ⟨live, ?_, ?_, kept.running, ?_⟩
    · -- The position moves from those held to those failed.
      rw [kept.running running, Option.toList_none, List.append_nil, ← List.append_assoc]
      exact everyone
    · rw [List.map_append, kept.errors, List.map_append, List.map_singleton, outcome,
        List.map_singleton]
    · intro answer ended
      rw [running] at ended
      cases ended
  | win running round removed who left =>
    -- The position moves from those held to the winner.
    obtain ⟨outcome, live, everyone⟩ := kept.leaves running round removed who left
    refine ⟨live, everyone, kept.errors, ?_, ?_⟩
    · intro impossible
      cases impossible
    · intro answer ended
      cases ended
      exact Or.inl ⟨_, _, rfl, outcome, rfl⟩

/-- Whenever the futures are going to be ready, they have the same outputs. -/
theorem awaits_of_same {before after : List (Future Outcome)}
    (same : List.Forall₂ (fun left right => left.output? = right.output?) before after) :
    ∀ {outputs : List Outcome}, Awaits before outputs → Awaits after outputs := by
  induction same with
  | nil =>
    intro outputs live
    exact live
  | @cons left right before after here _ ih =>
    intro outputs live
    cases live with
    | cons waiting others =>
      -- A future that still waits has become one that waits, perhaps for longer.
      obtain ⟨polls, shape⟩ := waiting
      refine .cons ?_ (ih others)
      subst shape
      cases right with
      | finished => cases here
      | waiting polls' output =>
        cases here
        exact ⟨polls', rfl⟩

/-- Wherever the race has come, each future is in it or has been taken out of it once. -/
theorem kept_of_run {futures : List (Future Outcome)}
    (live : Awaits futures ((List.range futures.length).map output))
    (run : ReflTransGen Step (start futures) race) : race.Kept output futures.length := by
  have step {before after : Race} (kept : before.Kept output futures.length)
      (moved : Step before after) : after.Kept output futures.length := by
    cases moved with
    | wake woken => exact kept.wake woken
    -- Rescheduling leaves the positions and the outputs as they are.
    | schedule same => exact { kept with live := awaits_of_same same kept.live }
  exact @invariant_of_run _ _ (Kept output futures.length) step _ _ (start_kept live) run

/-- A race without an answer wakes up to something. -/
theorem Kept.progress (kept : race.Kept output count) (running : race.answer = none) :
    ∃ race', Wake race race' := by
  by_cases empty : race.futures = []
  · exact ⟨_, .exhausted running empty⟩
  · -- A round over some futures ends in one of three ways.
    cases round : (selectRound 0 race.futures : Except (Fault Error) _) with
    | error fault => exact absurd round (kept.unfaulted fault)
    | ok found =>
      obtain ⟨ready, polled⟩ := found
      cases ready with
      | none => exact ⟨_, .pending running empty round⟩
      | some ready =>
        obtain ⟨outcome, index⟩ := ready
        obtain ⟨_, _, _, taken, here, gone, _⟩ := kept.ready round
        cases outcome with
        | ok result => exact ⟨_, .win running round taken here gone⟩
        | error e => exact ⟨_, .fail running round taken here gone⟩

/-! ## The loop of the code -/

/-- What the code makes of a race from here on. -/
def value (race : Race) : Except (Fault Error) ProviderResult :=
  match race.answer with
  | some answer => answer.mapError Fault.err
  | none => raceLoop race.futures race.errors

/-- A future that is found ready was among those polled. -/
theorem nonempty_of_ready {outcome : Outcome} {index : Nat} {polled : List (Future Outcome)}
    (round : (selectRound 0 race.futures : Except (Fault Error) _) =
      .ok (some (outcome, index), polled)) : race.futures ≠ [] := by
  intro empty
  rw [empty] at round
  cases round

/-- The future that is found ready is the one selected. -/
theorem selectFirst_ready {outcome : Outcome} {index : Nat}
    {polled remaining : List (Future Outcome)}
    (round : (selectRound 0 race.futures : Except (Fault Error) _) =
      .ok (some (outcome, index), polled))
    (removed : (swapRemove polled index : Except (Fault Error) _) = .ok remaining) :
    (selectFirst race.futures : Except (Fault Error) _) = .ok (outcome, index, remaining) := by
  rw [selectFirst_eq, round]
  dsimp only
  rw [removed]
  rfl

/-- A wake-up is what the code does. -/
theorem wake_value (woken : Wake race race') : race'.value = race.value := by
  unfold value
  cases woken with
  -- The loop ends with all errors.
  | exhausted running empty => rw [running, empty, raceLoop_eq, if_pos rfl]; rfl
  | pending running nonempty round =>
    -- The futures are polled again, and there are as many.
    have again : ∀ polled : List (Future Outcome),
        (selectRound 0 race.futures : Except (Fault Error) _) = .ok (none, polled) →
        polled ≠ [] := by
      intro polled pending empty
      have lengths := selectRound_length pending
      rw [empty] at lengths
      exact nonempty (List.length_eq_zero_iff.mp lengths.symm)
    rw [running]
    dsimp only
    rw [raceLoop_eq, if_neg (again _ round), raceLoop_eq race.futures, if_neg nonempty,
      selectFirst_eq race.futures, round]
    dsimp only
    rw [if_neg nonempty]
  -- An error goes on with the futures that are left.
  | fail running round removed who left =>
    rw [running]
    dsimp only
    rw [raceLoop_eq race.futures, if_neg (nonempty_of_ready round),
      selectFirst_ready round removed]
  -- A success ends the loop.
  | win running round removed who left =>
    rw [running]
    dsimp only
    rw [raceLoop_eq race.futures, if_neg (nonempty_of_ready round),
      selectFirst_ready round removed]
    rfl

/-- Waking up changes nothing of the value of a race. -/
theorem value_of_run (run : ReflTransGen Wake race race') : race'.value = race.value := by
  induction run with
  | refl => rfl
  | tail _ woken ih => exact (wake_value woken).trans ih

end Laws

end Race

/-- What a race over some outputs answers: one of its successes, or all of its errors. -/
structure RaceAnswer (outputs : List Outcome) (answer : Except (Fault Error) ProviderResult) :
    Prop where
  answered : (∃ result, answer = .ok result) ↔ ∃ result, .ok result ∈ outputs
  own : ∀ result, answer = .ok result → .ok result ∈ outputs
  failed : (∀ result, answer ≠ .ok result) → ∃ errors : List ProviderError,
    answer = .error (.err (.allProvidersFailed errors)) ∧ errors.length = outputs.length ∧
      (errors.map .error).Perm outputs

/-- The loop of the code answers so, whatever the futures are waiting for. -/
theorem raceLoop_answer {futures : List (Future Outcome)} {outputs : List Outcome}
    (live : Awaits futures outputs) : RaceAnswer outputs (raceLoop futures []) := by
  -- Either somebody won, or the errors of all are collected.
  rcases raceLoop_spec futures [] live with ⟨result, member, answered⟩ | ⟨more, answered, same⟩
  · rw [answered]
    refine ⟨⟨fun _ => ⟨result, member⟩, fun _ => ⟨result, rfl⟩⟩, ?_, ?_⟩
    · intro other won
      cases won
      exact member
    · intro unwon
      exact absurd rfl (unwon result)
  · rw [answered, List.nil_append]
    have failures (result : ProviderResult) : .ok result ∉ outputs := by
      intro member
      obtain ⟨e, _, impossible⟩ := List.mem_map.mp (same.subset member)
      cases impossible
    refine ⟨⟨?_, ?_⟩, ?_, ?_⟩
    · intro impossible
      obtain ⟨result, impossible⟩ := impossible
      cases impossible
    · intro succeeded
      obtain ⟨result, member⟩ := succeeded
      exact absurd member (failures result)
    · intro result impossible
      cases impossible
    · intro _
      have lengths := same.length_eq
      rw [List.length_map] at lengths
      exact ⟨more, rfl, lengths.symm, same.symm⟩

/-- So does the resolver, over the outcomes of all matching providers. -/
theorem resolveRace_answer {config : Config} (calls : Calls)
    (some_match : matchingProviders config ≠ []) :
    RaceAnswer (outcomes config calls) (resolveRace config calls) := by
  rw [resolveRace, if_neg fun empty => some_match (providerFutures_eq_nil.mp empty)]
  exact raceLoop_answer (providerFutures_awaits config calls)

/--
A race loses and duplicates nothing.

Between any two wake-ups the positions held, those that have failed and the winner are all
positions, no future that was ready is polled again, and the race can go on. The code takes these
steps, and answers with a success where there is one, and with all errors where there is none.
-/
theorem race_loses_nothing :
    (∀ (output : Nat → Outcome) (futures : List (Future Outcome)),
      Awaits futures ((List.range futures.length).map output) →
      (∀ race, ReflTransGen Race.Step (Race.start futures) race →
        race.Kept output futures.length ∧
        (∀ fault : Fault Error, selectRound 0 race.futures ≠ .error fault) ∧
        (race.answer = none → ∃ race', Race.Wake race race')) ∧
      (∀ race answer, ReflTransGen Race.Wake (Race.start futures) race →
        race.answer = some answer → raceLoop futures [] = answer.mapError Fault.err) ∧
      RaceAnswer ((List.range futures.length).map output) (raceLoop futures [])) ∧
    ∀ config calls, matchingProviders config ≠ [] →
      RaceAnswer (outcomes config calls) (resolveRace config calls) := by
  -- The invariant covers the states of a run, and its value is the answer of the loop.
  refine ⟨?_, ?_⟩
  · intro output futures live
    refine ⟨?_, ?_, raceLoop_answer live⟩
    · intro race run
      have kept := Race.kept_of_run live run
      exact ⟨kept, kept.unfaulted, kept.progress⟩
    · intro race answer run ended
      have same := Race.value_of_run run
      unfold Race.value at same
      rw [ended] at same
      exact same.symm
  · intro config calls some_match
    exact resolveRace_answer calls some_match

end IpDiscovery.Async
