/-
**Partial labelled machines and their runs.**

A machine is a partial step function `step : σ → ℓ → Option σ`: a label carries every choice the
environment makes at that step, and `none` says that the label is not enabled. Any interleaving of
concurrent tasks is then one list of labels.

* `Reach step allowed s t` — `t` is reached from `s` by steps each of which `allowed` admits at the
  state it is taken from; `Reach step always` is plain reachability.
* `Reach.invariant` — what every admitted step keeps holds in every reached state; `Reach.monotone`
  — what no admitted step decreases grows along a run.
-/

import Mathlib.Order.Basic

namespace Execution

variable {σ ℓ : Type*} {step : σ → ℓ → Option σ} {allowed : σ → ℓ → Prop}

/-- The discipline that admits every step. -/
def always : σ → ℓ → Prop := fun _ _ => True

/-- **The states reached from `s`** by steps that `allowed` admits where they are taken. -/
inductive Reach (step : σ → ℓ → Option σ) (allowed : σ → ℓ → Prop) (s : σ) : σ → Prop
  | refl : Reach step allowed s s
  | tail {t u : σ} {label : ℓ} : Reach step allowed s t → allowed t label →
      step t label = some u → Reach step allowed s u

variable {s t : σ}

namespace Reach

/-- **The invariant rule.** -/
theorem invariant {I : σ → Prop} (reach : Reach step allowed s t) (start : I s)
    (keep : ∀ t label u, I t → allowed t label → step t label = some u → I u) : I t := by
  induction reach with
  | refl => exact start
  | tail _ admitted taken ih => exact keep _ _ _ ih admitted taken

theorem trans {u : σ} (first : Reach step allowed s t) (second : Reach step allowed t u) :
    Reach step allowed s u := by
  induction second with
  | refl => exact first
  | tail _ admitted taken ih => exact ih.tail admitted taken

theorem mono {other : σ → ℓ → Prop} (reach : Reach step allowed s t)
    (weaker : ∀ t label, allowed t label → other t label) : Reach step other s t := by
  induction reach with
  | refl => exact .refl
  | tail _ admitted taken ih => exact ih.tail (weaker _ _ admitted) taken

theorem single {label : ℓ} (admitted : allowed s label) (taken : step s label = some t) :
    Reach step allowed s t :=
  Reach.refl.tail admitted taken

/-- **The growth rule**: a quantity that no admitted step decreases where the invariant holds. -/
theorem monotone {I : σ → Prop} {α : Type*} [Preorder α] (measure : σ → α)
    (reach : Reach step allowed s t) (start : I s)
    (keep : ∀ t label u, I t → allowed t label → step t label = some u → I u ∧ measure t ≤ measure u) :
    measure s ≤ measure t := by
  have grown : I t ∧ measure s ≤ measure t := by
    refine reach.invariant (I := fun t => I t ∧ measure s ≤ measure t) ⟨start, le_rfl⟩ ?_
    intro t label u ⟨holds, below⟩ admitted taken
    obtain ⟨kept, grows⟩ := keep t label u holds admitted taken
    exact ⟨kept, le_trans below grows⟩
  exact grown.2

end Reach

/-- Run a list of labels; `none` when one of them is not enabled. -/
def run (step : σ → ℓ → Option σ) : σ → List ℓ → Option σ
  | s, [] => some s
  | s, label :: rest => (step s label).bind fun t => run step t rest

theorem run_reach {labels : List ℓ} (ran : run step s labels = some t) :
    Reach step always s t := by
  induction labels generalizing s with
  | nil =>
    cases ran
    exact .refl
  | cons label rest ih =>
    obtain ⟨middle, taken, ran⟩ := Option.bind_eq_some_iff.mp ran
    exact (Reach.single trivial taken).trans (ih ran)

/-- Run a list of labels, each of which passes a check where it is taken. -/
def runChecked (check : σ → ℓ → Bool) (step : σ → ℓ → Option σ) : σ → List ℓ → Option σ :=
  run fun s label => if check s label then step s label else none

/-- A check that is sound where an invariant holds which the checked steps keep. -/
theorem runChecked_reach_of {I : σ → Prop} {check : σ → ℓ → Bool} {labels : List ℓ}
    (ran : runChecked check step s labels = some t) (start : I s)
    (keep : ∀ s label u, I s → check s label → step s label = some u → I u)
    (sound : ∀ s label, I s → check s label → allowed s label) :
    Reach step allowed s t := by
  induction labels generalizing s with
  | nil =>
    cases ran
    exact .refl
  | cons label rest ih =>
    obtain ⟨middle, taken, ran⟩ := Option.bind_eq_some_iff.mp ran
    simp only at taken
    split at taken
    next passed =>
      exact (Reach.single (sound s label start passed) taken).trans
        (ih ran (keep s label middle start passed taken))
    · cases taken

theorem run_of_runChecked {check : σ → ℓ → Bool} {labels : List ℓ}
    (ran : runChecked check step s labels = some t) : run step s labels = some t := by
  induction labels generalizing s with
  | nil => exact ran
  | cons label rest ih =>
    obtain ⟨middle, taken, ran⟩ := Option.bind_eq_some_iff.mp ran
    simp only at taken
    split at taken
    · exact Option.bind_eq_some_iff.mpr ⟨middle, taken, ih ran⟩
    · cases taken

theorem runChecked_reach {check : σ → ℓ → Bool} {labels : List ℓ}
    (ran : runChecked check step s labels = some t)
    (sound : ∀ s label, check s label → allowed s label) :
    Reach step allowed s t :=
  runChecked_reach_of (I := fun _ => True) ran trivial (fun _ _ _ _ _ _ => trivial)
    fun s label _ => sound s label

end Execution
