import IpDiscovery.Base.Runs

/-! Runs in which one party takes turns among others: how many it takes, and where it ends. -/

namespace IpDiscovery.Turns

open Relation

variable {σ : Type} {main beside : σ → σ → Prop}

/-- A run with the number of turns that the party has taken in it. -/
inductive Counted (main beside : σ → σ → Prop) (start : σ) : Nat → σ → Prop where
  | refl : Counted main beside start 0 start
  | main {count : Nat} {s s' : σ} (before : Counted main beside start count s)
      (moved : main s s') : Counted main beside start (count + 1) s'
  | beside {count : Nat} {s s' : σ} (before : Counted main beside start count s)
      (moved : beside s s') : Counted main beside start count s'

/-- An endless run, in which the party and the others take one step after the other. -/
def Endless (main beside : σ → σ → Prop) (run : Nat → σ) : Prop :=
  ∀ time, main (run time) (run (time + 1)) ∨ beside (run time) (run (time + 1))

/-- The party is not kept waiting forever while it has something to do. -/
def Fair (main : σ → σ → Prop) (run : Nat → σ) : Prop :=
  ∀ time, (∀ later ≥ time, ∃ s', main (run later) s') →
    ∃ later ≥ time, main (run later) (run (later + 1))

/--
Every turn of the party leaves less to do, and nobody else adds anything to it.

This is asked of the states that satisfy an invariant, which every step keeps.
-/
structure Descends (main beside : σ → σ → Prop) (invariant : σ → Prop) (left : σ → Nat) :
    Prop where
  kept : ∀ {s s'}, invariant s → main s s' ∨ beside s s' → invariant s'
  less : ∀ {s s'}, invariant s → main s s' → left s' < left s
  steady : ∀ {s s'}, invariant s → beside s s' → left s' ≤ left s

variable {invariant : σ → Prop} {left : σ → Nat}

/-- An invariant of all steps holds wherever a run has come to. -/
theorem Counted.holds (descends : Descends main beside invariant left) {start s : σ}
    {count : Nat} (initially : invariant start) (run : Counted main beside start count s) :
    invariant s := by
  -- The induction takes the run one step further each time.
  induction run with
  | refl => exact initially
  | main _ moved ih => exact descends.kept ih (.inl moved)
  | beside _ moved ih => exact descends.kept ih (.inr moved)

/-- The turns that were taken and what is left to do are no more than there was at the start. -/
theorem Counted.bounded (descends : Descends main beside invariant left) {start s : σ}
    {count : Nat} (initially : invariant start) (run : Counted main beside start count s) :
    count + left s ≤ left start := by
  -- The induction takes the run one step further each time.
  induction run with
  | refl => omega
  | main before moved ih =>
    have fewer := descends.less (before.holds descends initially) moved
    omega
  | beside before moved ih =>
    have same := descends.steady (before.holds descends initially) moved
    omega

section Endless

variable {run : Nat → σ}

/-- An invariant of all steps holds at every time of an endless run. -/
theorem Endless.holds (descends : Descends main beside invariant left)
    (endless : Endless main beside run) (initially : invariant (run 0)) (time : Nat) :
    invariant (run time) := by
  induction time with
  | zero => exact initially
  | succ time ih => exact descends.kept ih (endless time)

/-- There is never more left to do than before. -/
theorem Endless.antitone (descends : Descends main beside invariant left)
    (endless : Endless main beside run) (initially : invariant (run 0)) {time later : Nat}
    (order : time ≤ later) : left (run later) ≤ left (run time) := by
  -- No step in between adds anything to what is left.
  induction order with
  | refl => exact le_rfl
  | step order ih =>
    have here := endless.holds descends initially
    refine le_trans ?_ ih
    obtain moved | moved := endless _
    · exact (descends.less (here _) moved).le
    · exact descends.steady (here _) moved

/-- While the party takes no turn, the others go on without it. -/
theorem Endless.idle (endless : Endless main beside run) {time : Nat}
    (idle : ∀ later ≥ time, ¬ main (run later) (run (later + 1))) {later : Nat}
    (order : time ≤ later) : ReflTransGen beside (run time) (run later) := by
  -- Whoever takes a step in between is not the party.
  induction order with
  | refl => exact .refl
  | step order ih =>
    obtain moved | moved := endless _
    · exact absurd moved (idle _ order)
    · exact ih.tail moved

/--
A fair run ends, if the party is never stuck.

Where it takes no turn although it has not ended, it has to have something to do at some time, and
from then on.
-/
theorem Fair.ends (descends : Descends main beside invariant left)
    (endless : Endless main beside run) (initially : invariant (run 0)) (fair : Fair main run)
    (final : σ → Prop)
    (ready : ∀ time, ¬ final (run time) →
      (∀ later ≥ time, ¬ main (run later) (run (later + 1))) →
        ∃ later ≥ time, ∀ further ≥ later, ∃ s', main (run further) s') :
    ∃ time, final (run time) := by
  by_contra endlessly
  have running (time : Nat) : ¬ final (run time) := fun ended => endlessly ⟨time, ended⟩
  -- From any time on the party takes another turn, after which less is left to do.
  have turn (time : Nat) : ∃ later, left (run later) < left (run time) := by
    by_contra none_less
    have idle : ∀ later ≥ time, ¬ main (run later) (run (later + 1)) := by
      intro later order moved
      have fewer := descends.less (endless.holds descends initially later) moved
      exact none_less ⟨later + 1, fewer.trans_le (endless.antitone descends initially order)⟩
    -- Then it is ready at last, and fairness gives it a turn.
    obtain ⟨later, order, enabled⟩ := ready time (running time) idle
    obtain ⟨further, beyond, moved⟩ := fair later enabled
    exact idle further (order.trans beyond) moved
  -- That cannot go on forever.
  have descent : ∀ bound time, left (run time) ≠ bound := by
    intro bound
    induction bound using Nat.strongRecOn with
    | ind bound ih =>
      intro time same
      obtain ⟨later, fewer⟩ := turn time
      exact ih (left (run later)) (same ▸ fewer) later rfl
  exact descent _ 0 rfl

end Endless

end IpDiscovery.Turns
