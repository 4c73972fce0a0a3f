/-
**What a method does from one state.**

`Meets m s Q E` — started in `s`, the method `m` answers a value and leaves a state with `Q`, or stops
with an error and leaves a state with `E`. A contract is a statement of this form about every state
with some property. The rules follow the way methods are built; `Moves.meets` brings in what every
run of a method keeps.

`Composes K` — the property `K` of methods holds of whatever is built from methods that have it. What a
long method does can then be told once, for every such `K`: for `Moves R`, and for `Keeps I`, which
says that `I` survives every call that succeeds.

* `Succeeds m s Q` — started in `s`, the body either stops or answers a value with `Q`: an error inside
  a transaction leaves nothing behind, so that nothing has to be said about it.
* `Succeeds.transaction` — **a transaction does what its body does, or nothing.**
-/

import MiniRemoteDesktop.Lib.Procedure

namespace Procedure

variable {σ ε α β : Type}

/-- **The contract of one call.** -/
def Meets (m : Procedure σ ε α) (s : σ) (Q : α → σ → Prop) (E : ε → σ → Prop) : Prop :=
  match m s with
  | (t, .ok value) => Q value t
  | (t, .error error) => E error t

variable {condition : Prop} {m : Procedure σ ε α}

variable {body : β → α → Procedure σ ε α}

namespace Meets

variable {s : σ} {Q R : α → σ → Prop} {E F : ε → σ → Prop}

theorem pure {value : α} (holds : Q value s) : Meets (pure value : Procedure σ ε α) s Q E := holds

theorem read {Q : σ → σ → Prop} (holds : Q s s) : Meets (read : Procedure σ ε σ) s Q E := holds

theorem change {f : σ → σ} {Q : Unit → σ → Prop} (holds : Q () (f s)) :
    Meets (change f : Procedure σ ε Unit) s Q E := holds

theorem fail {error : ε} (holds : E error s) : Meets (fail error : Procedure σ ε α) s Q E := holds

theorem when [Decidable condition] {m : Procedure σ ε Unit} {Q : Unit → σ → Prop}
    (meets : condition → Meets m s Q E) (holds : ¬ condition → Q () s) :
    Meets (when condition m) s Q E := by
  unfold Procedure.when
  split
  next given =>
    exact meets given
  next missing =>
    exact pure (holds missing)

theorem refuse [Decidable condition] {error : ε} {Q : Unit → σ → Prop}
    (refused : condition → E error s) (holds : ¬ condition → Q () s) :
    Meets (refuse condition error) s Q E :=
  when (fun given => fail (refused given)) holds

theorem ite [Decidable condition] {first second : Procedure σ ε α}
    (left : condition → Meets first s Q E) (right : ¬ condition → Meets second s Q E) :
    Meets (if condition then first else second) s Q E := by
  split
  next given =>
    exact left given
  next missing =>
    exact right missing

variable {P : β → σ → Prop}

theorem bind {next : α → Procedure σ ε β} (first : Meets m s R E)
    (second : ∀ value t, R value t → Meets (next value) t P E) :
    Meets (m >>= next) s P E := by
  show match andThen m next s with
    | (t, .ok value) => P value t
    | (t, .error error) => E error t
  unfold Meets at first
  unfold andThen
  rcases outcome : m s with ⟨t, error | value⟩
  · simpa [outcome] using first
  · rw [outcome] at first
    exact second value t first

theorem reads {next : σ → Procedure σ ε β} (rest : Meets (next s) s P E) :
    Meets (Procedure.read >>= next) s P E := rest

theorem changes {f : σ → σ} {next : Unit → Procedure σ ε β} (rest : Meets (next ()) (f s) P E) :
    Meets (Procedure.change f >>= next) s P E := rest

theorem refuses [Decidable condition] {error : ε} {next : Unit → Procedure σ ε β}
    (refused : condition → E error s) (rest : ¬ condition → Meets (next ()) s P E) :
    Meets (Procedure.refuse condition error >>= next) s P E :=
  bind (R := fun _ t => t = s ∧ ¬ condition) (refuse refused fun holds => ⟨rfl, holds⟩)
    fun _ _ same => same.1 ▸ rest same.2

theorem conseq (meets : Meets m s Q E) (value : ∀ value t, Q value t → R value t)
    (error : ∀ error t, E error t → F error t) :
    Meets m s R F := by
  unfold Meets at meets ⊢
  rcases outcome : m s with ⟨t, failed | done⟩
  · rw [outcome] at meets
    exact error failed t meets
  · rw [outcome] at meets
    exact value done t meets

theorem mono (meets : Meets m s Q E) (value : ∀ value t, Q value t → R value t) : Meets m s R E :=
  meets.conseq value fun _ _ => id

theorem forEach {I : α → σ → Prop} {items : List β} {value : α} (start : I value s)
    (each : ∀ item ∈ items, ∀ value t, I value t → Meets (body item value) t I E) :
    Meets (Procedure.forEach body items value) s I E := by
  induction items generalizing value s with
  | nil => exact start
  | cons item rest ih =>
    refine bind (each item (.head _) value s start) fun later t holds => ?_
    exact ih holds (List.forall_mem_cons.mp each).2

/-- The value a successful call answers, with what it leaves. -/
theorem ok {t : σ} {value : α} (meets : Meets m s Q E) (done : m s = (t, .ok value)) : Q value t := by
  simpa [Meets, done] using meets

theorem error {t : σ} {error : ε} (meets : Meets m s Q E) (failed : m s = (t, .error error)) :
    E error t := by
  simpa [Meets, failed] using meets

/-- **A call that cannot fail** answers a value. -/
theorem total (meets : Meets m s Q fun _ _ => False) :
    ∃ t value, m s = (t, .ok value) ∧ Q value t := by
  unfold Meets at meets
  rcases outcome : m s with ⟨t, failed | done⟩
  · simp [outcome] at meets
  · rw [outcome] at meets
    exact ⟨t, done, rfl, meets⟩

/-- What holds after every outcome holds of the state that is left. -/
theorem left {I : σ → Prop} (meets : Meets m s (fun _ => I) fun _ => I) :
    I (m s).1 := by
  unfold Meets at meets
  rcases outcome : m s with ⟨t, failed | done⟩ <;> rw [outcome] at meets <;> exact meets

theorem of_left {I : σ → Prop} (holds : I (m s).1) :
    Meets m s (fun _ => I) fun _ => I := by
  unfold Meets
  rcases outcome : m s with ⟨t, failed | done⟩ <;> rw [outcome] at holds <;> exact holds

end Meets

/-- What every run of a method does to its state, as a contract. -/
theorem Moves.meets {R : σ → σ → Prop} (moves : Moves R m) (s : σ) :
    Meets m s (fun _ => R s) fun _ => R s :=
  .of_left (moves s)

/-! ### Properties that compose -/

/-- **A property of methods that survives composition**, and allows these errors. -/
structure Composes (allowed : ε → Prop) (K : {α : Type} → Procedure σ ε α → Prop) : Prop where
  pure : ∀ {α : Type} (value : α), K (pure value : Procedure σ ε α)
  read : K (read : Procedure σ ε σ)
  fail : ∀ {α : Type} (error : ε), allowed error → K (fail error : Procedure σ ε α)
  bind : ∀ {α β : Type} {m : Procedure σ ε α} {next : α → Procedure σ ε β},
    K m → (∀ value, K (next value)) → K (m >>= next)

namespace Composes

variable {allowed : ε → Prop} {K : {α : Type} → Procedure σ ε α → Prop}

theorem when (composes : Composes allowed K) [Decidable condition] {m : Procedure σ ε Unit}
    (holds : K m) : K (when condition m) := by
  unfold Procedure.when
  split
  · exact holds
  · exact composes.pure ()

theorem refuse (composes : Composes allowed K) (condition : Prop) [Decidable condition] (error : ε)
    (harmless : allowed error) : K (refuse condition error : Procedure σ ε Unit) :=
  composes.when (composes.fail error harmless)

theorem forEach (composes : Composes allowed K) (each : ∀ item value, K (body item value))
    (items : List β) (value : α) :
    K (Procedure.forEach body items value) := by
  induction items generalizing value with
  | nil => exact composes.pure value
  | cons item rest ih => exact composes.bind (each item value) ih

end Composes

theorem Moves.composes (allowed : ε → Prop) (R : σ → σ → Prop) [IsPreorder σ R] :
    Composes allowed fun {α} (m : Procedure σ ε α) => Moves R m where
  pure := .pure
  read := .read
  fail error _ := .fail error
  bind := .bind

/-! ### Transactions -/

section

variable {σ ε α β : Type}

/-- A result that does not depend on the state. -/
def of (result : Except ε α) : Procedure σ ε α := fun s => (s, result)

/-- Read something off the state. -/
def query (f : σ → Except ε α) : Procedure σ ε α := fun s => (s, f s)

/-- **A body that is rolled back when it stops.** -/
def transaction (m : Procedure σ ε α) : Procedure σ ε α := fun s =>
  match m s with
  | (t, .ok value) => (t, .ok value)
  | (_, .error error) => (s, .error error)

/-- The body stops, or its answer satisfies `Q`. -/
def Succeeds (m : Procedure σ ε α) (s : σ) (Q : α → σ → Prop) : Prop :=
  Meets m s Q fun _ _ => True

namespace Succeeds

variable {s : σ} {Q R : α → σ → Prop} {P : β → σ → Prop}

theorem pure {value : α} (holds : Q value s) : Succeeds (pure value : Procedure σ ε α) s Q := holds

theorem fail {error : ε} : Succeeds (fail error : Procedure σ ε α) s Q := trivial

variable {result : Except ε α}

theorem of (holds : ∀ value, result = .ok value → Q value s) :
    Succeeds (of result) s Q := by
  cases result with
  | error _ => exact trivial
  | ok value => exact holds value rfl

theorem query {f : σ → Except ε α} (holds : ∀ value, f s = .ok value → Q value s) :
    Succeeds (query f) s Q := by
  unfold Succeeds Meets Procedure.query
  rcases answer : f s with _ | value
  · exact trivial
  · exact holds value answer

variable {next : α → Procedure σ ε β} {m : Procedure σ ε α}

theorem bind (first : Succeeds m s R) (second : ∀ value t, R value t → Succeeds (next value) t P) :
    Succeeds (m >>= next) s P :=
  Meets.bind first second

theorem given (rest : ∀ value, result = .ok value → Succeeds (next value) s P) :
    Succeeds (Procedure.of result >>= next) s P :=
  bind (R := fun value t => t = s ∧ result = .ok value) (of fun _ same => ⟨rfl, same⟩)
    fun value _ reached => reached.1 ▸ rest value reached.2

theorem queried {f : σ → Except ε α} (rest : ∀ value, f s = .ok value → Succeeds (next value) s P) :
    Succeeds (Procedure.query f >>= next) s P :=
  bind (R := fun value t => t = s ∧ f s = .ok value) (query fun _ same => ⟨rfl, same⟩)
    fun value _ reached => reached.1 ▸ rest value reached.2

theorem passed {condition : Prop} [Decidable condition] {error : ε} {next : Unit → Procedure σ ε β}
    (rest : ¬ condition → Succeeds (next ()) s P) :
    Succeeds (Procedure.refuse condition error >>= next) s P :=
  Meets.refuses (fun _ => trivial) rest

theorem change {f : σ → σ} {Q : Unit → σ → Prop} (holds : Q () (f s)) :
    Succeeds (change f : Procedure σ ε Unit) s Q := holds

theorem mono (succeeds : Succeeds m s Q) (weaker : ∀ value t, Q value t → R value t) : Succeeds m s R :=
  Meets.mono succeeds weaker

/-- **A transaction does what its body does, or nothing.** -/
theorem transaction (succeeds : Succeeds m s Q) :
    Meets m.transaction s Q fun _ t => t = s := by
  unfold Succeeds Meets at succeeds
  unfold Meets Procedure.transaction
  rcases outcome : m s with ⟨t, error | value⟩
  · rfl
  · simpa [outcome] using succeeds

end Succeeds

end

end Procedure
