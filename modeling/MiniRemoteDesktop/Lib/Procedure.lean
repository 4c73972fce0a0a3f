/-
**Methods that change a state and may stop with an error.**

`Procedure σ ε α` is a method of an object with state `σ`: it leaves a state and answers a value or an
error. An error does not undo anything: what the method did before it stays done.

* `Procedure.Moves R m` — wherever `m` starts, it leaves a state related to the first one by `R`. An
  invariant is the relation `Keeping I`, a frame condition the relation `Framing f`.
* `Moves.bind`, `Moves.forEach` and the other rules — how `Moves` composes, for every preorder `R`.
-/

import Mathlib.Order.Defs.Unbundled

/-- **A method**: the state it leaves, and what it answers. -/
def Procedure (σ ε α : Type) := σ → σ × Except ε α

namespace Procedure

variable {σ ε α β : Type}

/-! ### Building methods -/

/-- Do `m`; on success go on with its value. -/
def andThen (m : Procedure σ ε α) (next : α → Procedure σ ε β) : Procedure σ ε β := fun s =>
  match m s with
  | (t, .ok value) => next value t
  | (t, .error error) => (t, .error error)

instance : Monad (Procedure σ ε) where
  pure value := fun s => (s, .ok value)
  bind := andThen

/-- Read the state. -/
def read : Procedure σ ε σ := fun s => (s, .ok s)

/-- Change the state. -/
def change (f : σ → σ) : Procedure σ ε Unit := fun s => (f s, .ok ())

/-- Stop with an error. -/
def fail (error : ε) : Procedure σ ε α := fun s => (s, .error error)

/-- Do `m` where a condition holds. -/
def when (condition : Prop) [Decidable condition] (m : Procedure σ ε Unit) : Procedure σ ε Unit :=
  if condition then m else pure ()

/-- Stop with an error where a condition holds. -/
def refuse (condition : Prop) [Decidable condition] (error : ε) : Procedure σ ε Unit :=
  when condition (fail error)

/-- Do `m` and hand its answer on, whether it is a value or an error. -/
def attempt (m : Procedure σ ε α) : Procedure σ ε (Except ε α) := fun s => ((m s).1, .ok (m s).2)

/-- Do `body` for each element in turn, collecting a value; stop at the first error. -/
def forEach (body : β → α → Procedure σ ε α) : List β → α → Procedure σ ε α
  | [], value => pure value
  | item :: rest, value => do
    let value ← body item value
    forEach body rest value

/-- Do `body` for every element, going on after an error; answer the first error there was. -/
def sweep (body : β → Procedure σ ε Unit) : List β → Procedure σ ε Unit
  | [] => pure ()
  | item :: rest => fun s =>
    let first := body item s
    let later := sweep body rest first.1
    (later.1, first.2.bind fun _ => later.2)

/-! ### What a method can do to its state -/

/-- **`m` moves along `R`**: the state it leaves is related to the state it found. -/
def Moves (R : σ → σ → Prop) (m : Procedure σ ε α) : Prop := ∀ s, R s (m s).1

variable {body : β → Procedure σ ε Unit}

namespace Moves

variable {R : σ → σ → Prop} [IsPreorder σ R]

theorem pure (value : α) : Moves R (pure value : Procedure σ ε α) := fun s => refl_of R s

theorem read : Moves R (read : Procedure σ ε σ) := fun s => refl_of R s

theorem fail (error : ε) : Moves R (fail error : Procedure σ ε α) := fun s => refl_of R s

omit [IsPreorder σ R] in
theorem change {f : σ → σ} (related : ∀ s, R s (f s)) : Moves R (change f : Procedure σ ε Unit) :=
  related

variable {m : Procedure σ ε α}

omit [IsPreorder σ R] in
theorem attempt (moves : Moves R m) : Moves R m.attempt := moves

theorem when {condition : Prop} [Decidable condition] {m : Procedure σ ε Unit}
    (moves : condition → Moves R m) : Moves R (when condition m) := by
  unfold Procedure.when
  split
  next holds =>
    exact moves holds
  · exact pure ()

theorem refuse (condition : Prop) [Decidable condition] (error : ε) :
    Moves R (refuse condition error : Procedure σ ε Unit) :=
  when fun _ => fail error

omit [IsPreorder σ R] in
theorem ite {condition : Prop} [Decidable condition] {first second : Procedure σ ε α}
    (left : condition → Moves R first) (right : ¬ condition → Moves R second) :
    Moves R (if condition then first else second) := by
  split
  next holds =>
    exact left holds
  next fails =>
    exact right fails

theorem bind {next : α → Procedure σ ε β} (first : Moves R m) (second : ∀ value, Moves R (next value)) :
    Moves R (m >>= next) := by
  intro s
  show R s (andThen m next s).1
  unfold andThen
  have related := first s
  split
  next t value answered =>
    rw [answered] at related
    exact trans_of R related (second value t)
  next t error answered =>
    simpa [answered] using related

theorem forEach {body : β → α → Procedure σ ε α} (each : ∀ item value, Moves R (body item value))
    (items : List β) (value : α) : Moves R (forEach body items value) := by
  induction items generalizing value with
  | nil => exact pure value
  | cons item rest ih => exact bind (each item value) ih

theorem sweep {items : List β} (each : ∀ item ∈ items, Moves R (body item)) :
    Moves R (sweep body items) := by
  induction items with
  | nil => exact pure ()
  | cons item rest ih =>
    intro s
    have first := each item (.head _) s
    have later := ih (List.forall_mem_cons.mp each).2
    exact trans_of R first (later _)

end Moves

/-- A sweep without an error had none at its first element, nor at the others. -/
theorem sweep_ok {item : β} {rest : List β} {s : σ}
    (succeeded : (sweep body (item :: rest) s).2 = .ok ()) :
    (body item s).2 = .ok () ∧ (sweep body rest (body item s).1).2 = .ok () := by
  have bound : (body item s).2.bind (fun _ => (sweep body rest (body item s).1).2) = .ok () :=
    succeeded
  cases first : (body item s).2 with
  | error error =>
    rw [first] at bound
    cases bound
  | ok =>
    rw [first] at bound
    exact ⟨rfl, bound⟩

/-- The relation of an invariant. -/
def Keeping (I : σ → Prop) (s t : σ) : Prop := I s → I t

instance (I : σ → Prop) : IsPreorder σ (Keeping I) where
  refl _ := id
  trans _ _ _ first second := second ∘ first

/-- The relation of a frame condition. -/
def Framing (f : σ → β) (s t : σ) : Prop := f t = f s

instance (f : σ → β) : IsPreorder σ (Framing f) where
  refl _ := rfl
  trans _ _ _ first second := second.trans first

end Procedure
