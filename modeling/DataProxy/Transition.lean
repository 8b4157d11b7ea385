/-
  DataProxy formalization — tasks that take labelled steps: a run of a list of
  steps, and the states reachable from a state.

  * `runSteps`: the steps of a list, in order, and `runSteps_append`, a run
    of two lists is the run of the second from where the first ends;
  * `Reaches`: reachability, with `Reaches.invariant` (what every step keeps
    holds in every reachable state) and `exists_reaches_of_runSteps` (a run
    that is checked to end where a property holds reaches such a state);
  * `Reaches.mono`: what a step relation that allows fewer steps reaches, the
    larger one reaches too.
-/
import Mathlib.Data.Option.Basic

namespace DataProxy

variable {σ ℓ : Type} {step : σ → ℓ → Option σ}

/-- The steps of a list, in order; `none` where a step is not enabled. -/
def runSteps (step : σ → ℓ → Option σ) : σ → List ℓ → Option σ
  | s, [] => some s
  | s, l :: ls => (step s l).bind (runSteps step · ls)

/-- The states that steps lead to from `s`. -/
inductive Reaches (step : σ → ℓ → Option σ) (s : σ) : σ → Prop where
  | refl : Reaches step s s
  | step {t t' : σ} {l : ℓ} : Reaches step s t → step t l = some t' → Reaches step s t'

theorem Reaches.trans {s t u : σ} (h₁ : Reaches step s t) (h₂ : Reaches step t u) :
    Reaches step s u := by
  induction h₂ with
  | refl => exact h₁
  | step _ hl ih => exact .step ih hl

/-- The run of `l₁ ++ l₂` is the run of `l₂` from where the run of `l₁` ends. -/
theorem runSteps_append (s : σ) (l₁ l₂ : List ℓ) :
    runSteps step s (l₁ ++ l₂) = (runSteps step s l₁).bind (runSteps step · l₂) := by
  induction l₁ generalizing s with
  | nil => rfl
  | cons l ls ih =>
    simp only [List.cons_append, runSteps, Option.bind_assoc]
    congr 1
    funext s'
    exact ih s'

theorem runSteps_cons_of_step {s s' : σ} {l : ℓ} {ls : List ℓ} (h : step s l = some s') :
    runSteps step s (l :: ls) = runSteps step s' ls := by
  rw [runSteps, h, Option.some_bind]

theorem runSteps_append_of {s s' : σ} {l₁ l₂ : List ℓ} (h : runSteps step s l₁ = some s') :
    runSteps step s (l₁ ++ l₂) = runSteps step s' l₂ := by
  rw [runSteps_append, h, Option.some_bind]

theorem reaches_of_runSteps :
    ∀ {s t : σ} {ls : List ℓ}, runSteps step s ls = some t → Reaches step s t
  | _, _, [], h => by cases h; exact .refl
  | _, _, _ :: _, h => by
    obtain ⟨s', hs', h⟩ := Option.bind_eq_some.1 h
    exact (Reaches.step .refl hs').trans (reaches_of_runSteps h)

/-- What every step keeps holds in every state a run reaches. -/
theorem Reaches.invariant {inv : σ → Prop} (hstep : ∀ t l t', inv t → step t l = some t' → inv t')
    {s t : σ} (hs : inv s) (h : Reaches step s t) : inv t := by
  induction h with
  | refl => exact hs
  | step _ hl ih => exact hstep _ _ _ ih hl

/-- A run that is checked to end where `p` holds ends in a state where it holds. -/
theorem exists_runSteps_of_map (f : σ → ℓ → Option σ) (s : σ) (ls : List ℓ) {p : σ → Bool}
    (h : (runSteps f s ls).map p = some true) : ∃ t, runSteps f s ls = some t ∧ p t = true := by
  cases hr : runSteps f s ls with
  | none => simp [hr] at h
  | some t => exact ⟨t, rfl, by simpa [hr] using h⟩

/-- A run that ends where `p` holds: such a state is reachable. -/
theorem exists_reaches_of_runSteps (f : σ → ℓ → Option σ) (s : σ) (ls : List ℓ) {p : σ → Bool}
    (h : (runSteps f s ls).map p = some true) : ∃ t, Reaches f s t ∧ p t = true :=
  let ⟨t, hr, hp⟩ := exists_runSteps_of_map f s ls h
  ⟨t, reaches_of_runSteps hr, hp⟩

/-! ## A step relation that allows fewer steps -/

section Mono

variable {step' : σ → ℓ → Option σ} (hle : ∀ s l t, step' s l = some t → step s l = some t)
include hle

/-- A state reached by steps that are also steps of `step` is reached by `step`. -/
theorem Reaches.mono {s t : σ} (h : Reaches step' s t) : Reaches step s t := by
  induction h with
  | refl => exact .refl
  | step _ hl ih => exact .step ih (hle _ _ _ hl)

end Mono

end DataProxy
