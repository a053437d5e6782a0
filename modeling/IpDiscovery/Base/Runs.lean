import Mathlib

/-! Runs of a transition system: invariants they keep, and when they come to an end. -/

namespace IpDiscovery

open Relation

variable {σ : Type} {step : σ → σ → Prop}

/-- What holds at the start and survives every step holds wherever a run arrives. -/
theorem invariant_of_run {invariant : σ → Prop}
    (kept : ∀ {s s' : σ}, invariant s → step s s' → invariant s') {s s' : σ}
    (start : invariant s) (run : ReflTransGen step s s') : invariant s' := by
  -- The induction takes the run one step further each time.
  induction run with
  | refl => exact start
  | tail _ moved ih => exact kept ih moved

/-- A run that arrives at something new has a step that leads to it. -/
theorem run_crosses {arrived : σ → Prop} {s s' : σ} (before : ¬ arrived s) (after : arrived s')
    (run : ReflTransGen step s s') :
    ∃ last next, ReflTransGen step s last ∧ ¬ arrived last ∧ step last next ∧ arrived next := by
  induction run with
  | refl => exact absurd after before
  | @tail last next earlier moved ih =>
    -- The crossing is the last step, or it has been made before.
    by_cases already : arrived last
    · exact ih already
    · exact ⟨last, next, earlier, already, moved, after⟩

/-- A run of one system is a run of another where its steps are. -/
theorem run_of_run {step' : σ → σ → Prop} (simulated : ∀ {s s' : σ}, step s s' → step' s s')
    {s s' : σ} (run : ReflTransGen step s s') : ReflTransGen step' s s' :=
  -- Each step is replaced by its counterpart.
  ReflTransGen.mono (fun _ _ => simulated) _ _ run

/-- A system that can go on, with less and less to do, until it is final has a run to the end. -/
theorem run_ends {invariant final : σ → Prop} (measure : σ → Nat)
    (kept : ∀ {s s' : σ}, invariant s → step s s' → invariant s')
    (progress : ∀ {s : σ}, invariant s → ¬ final s → ∃ s', step s s' ∧ measure s' < measure s)
    (s : σ) (start : invariant s) : ∃ s', ReflTransGen step s s' ∧ final s' := by
  -- The induction is on what is left to do.
  induction left : measure s using Nat.strongRecOn generalizing s with
  | ind left' ih =>
    -- A state that is not final has a next state with less to do.
    by_cases ended : final s
    · exact ⟨s, .refl, ended⟩
    · obtain ⟨next, moved, less⟩ := progress start ended
      obtain ⟨last, run, arrived⟩ := ih (measure next) (by omega) next (kept start moved) rfl
      exact ⟨last, .head moved run, arrived⟩

end IpDiscovery
