/-
**Checked code.**

A method of the source that may fail is a `do` block in `Except`. What it answers when it succeeds
is read off its steps one after the other: `bind_ok` for a call, `guard_ok` and `guarded_ok` for an
early return, `required_ok` for a value that must be there, `check_ok` for a function that is
nothing but a check, `refused_ok` and `arm_ok` for a chain of tests, and `foldlM_ok` for a loop with
an accumulator. `mapM_ok` goes the other way, for a loop whose every round succeeds.
-/

import Mathlib.Data.List.Forall2

namespace Checked

variable {ε α β : Type}

variable {first : Except ε α}

theorem bind_ok {next : α → Except ε β} {value : β} (passed : (first >>= next) = .ok value) :
    ∃ middle, first = .ok middle ∧ next middle = .ok value := by
  cases first with
  | error _ => cases passed
  | ok middle => exact ⟨middle, rfl, passed⟩

variable {value : α} {condition : Prop} {error : ε}

variable {next : Unit → Except ε α}

theorem guard_ok [Decidable condition]
    (passed : (if condition then (do let done ← (.error error : Except ε Unit); next done) else
      next ()) = .ok value) :
    next () = .ok value := by
  split at passed
  · cases passed
  · exact passed

theorem guarded_ok [Decidable condition]
    (passed : (if condition then (do let done ← (.error error : Except ε Unit); next done) else
      next ()) = .ok value) :
    ¬ condition ∧ next () = .ok value := by
  refine ⟨fun holds => ?_, guard_ok passed⟩
  rw [if_pos holds] at passed
  cases passed

theorem bind_eq_ok {next : α → Except ε β} {value : β} :
    (first >>= next) = .ok value ↔ ∃ middle, first = .ok middle ∧ next middle = .ok value := by
  refine ⟨bind_ok, fun ⟨middle, done, later⟩ => ?_⟩
  rw [done]
  exact later

theorem guarded_eq_ok [Decidable condition] :
    (if condition then (do let done ← (.error error : Except ε Unit); next done)
      else next ()) = .ok value ↔ ¬ condition ∧ next () = .ok value :=
  ⟨guarded_ok, fun ⟨fails, later⟩ => by rw [if_neg fails, later]⟩

theorem map_ok {f : α → β} {value : β} (done : first.map f = .ok value) :
    ∃ result, first = .ok result ∧ f result = value := by
  cases first with
  | error _ => cases done
  | ok result => exact ⟨result, rfl, Except.ok.inj done⟩

variable {result : Except ε α}

theorem ok_of_mapError {ε' : Type} {f : ε → ε'} (done : result.mapError f = .ok value) :
    result = .ok value := by
  cases result with
  | error _ => cases done
  | ok _ => exact congrArg Except.ok (Except.ok.inj done)

theorem ok_of_toOption (there : result.toOption = some value) :
    result = .ok value := by
  cases result with
  | error _ => cases there
  | ok _ => exact congrArg Except.ok (Option.some.inj there)

theorem exists_unit {property : Unit → Prop} : (∃ done, property done) ↔ property () :=
  ⟨fun ⟨_, holds⟩ => holds, fun holds => ⟨(), holds⟩⟩

theorem check_ok [Decidable condition] :
    (if condition then .error error else .ok value : Except ε α) = .ok value ↔ ¬ condition := by
  by_cases fails : condition
  · simp
  · simp

theorem refused_ok [Decidable condition] {rest : Except ε α}
    (passed : (if condition then .error error else rest) = .ok value) :
    ¬ condition ∧ rest = .ok value := by
  by_cases holds : condition
  · simp [holds] at passed
  · rw [if_neg holds] at passed
    exact ⟨holds, passed⟩

theorem required_ok {found : Option α}
    (passed : (found.elim (.error error) .ok : Except ε α) = .ok value) : found = some value := by
  cases found with
  | none => cases passed
  | some other => exact congrArg some (Except.ok.inj passed)

theorem required_eq_ok {found : Option α} :
    (found.elim (.error error) .ok : Except ε α) = .ok value ↔ found = some value :=
  ⟨required_ok, fun there => by rw [there]; rfl⟩

theorem arm_ok [Decidable condition] {first : α} {rest : Except ε α}
    (chosen : (if condition then .ok first else rest) = .ok value) :
    (condition ∧ first = value) ∨ rest = .ok value := by
  by_cases holds : condition
  · rw [if_pos holds] at chosen
    exact .inl ⟨holds, Except.ok.inj chosen⟩
  · rw [if_neg holds] at chosen
    exact .inr chosen

variable {elements : List α} {f : α → Except ε β}

/-- A check of every element of a list succeeds when each does. -/
theorem mapM_ok {g : α → β} (each : ∀ element ∈ elements, f element = .ok (g element)) :
    elements.mapM f = .ok (elements.map g) := by
  induction elements with
  | nil => rfl
  | cons element rest ih =>
    rw [List.mapM_cons, each element (.head _), ih fun later member => each later (.tail _ member)]
    rfl

variable {results : List β}

/-- The results of a loop come from its elements, one each. -/
theorem mapM_eq_ok :
    elements.mapM f = .ok results ↔
      List.Forall₂ (fun element result => f element = .ok result) elements results := by
  induction elements generalizing results with
  | nil =>
    simpa using ⟨fun same => (Except.ok.inj same).symm, fun same => same ▸ rfl⟩
  | cons element rest ih =>
    rw [List.mapM_cons, bind_eq_ok]
    simp only [bind_eq_ok, ih, List.forall₂_cons_left_iff]
    constructor
    · rintro ⟨first, done, others, each, same⟩
      exact ⟨first, others, done, each, (Except.ok.inj same).symm⟩
    · rintro ⟨first, others, done, each, same⟩
      exact ⟨first, done, others, each, same ▸ rfl⟩

/-- A loop whose rounds succeed on some elements, each with a known result. -/
theorem mapM_eq_ok_iff {P : α → Prop} {g : α → β}
    (each : ∀ element ∈ elements, ∀ result, f element = .ok result ↔ P element ∧ result = g element) :
    elements.mapM f = .ok results ↔ (∀ element ∈ elements, P element) ∧ results = elements.map g := by
  rw [mapM_eq_ok]
  induction elements generalizing results with
  | nil =>
    simp
  | cons element rest ih =>
    have first := each element (.head _)
    have others := fun {results} =>
      @ih results (List.forall_mem_cons.mp each).2
    simp only [List.forall₂_cons_left_iff, first, others, List.forall_mem_cons, List.map_cons]
    constructor
    · rintro ⟨_, _, ⟨holds, rfl⟩, ⟨all, rfl⟩, rfl⟩
      exact ⟨⟨holds, all⟩, rfl⟩
    · rintro ⟨⟨holds, all⟩, rfl⟩
      exact ⟨_, _, ⟨holds, rfl⟩, ⟨all, rfl⟩, rfl⟩

/-- Related lists: every element on the right has one on the left. -/
theorem exists_left {R : α → β → Prop} {lefts : List α} {rights : List β} {right : β}
    (each : List.Forall₂ R lefts rights) (member : right ∈ rights) : ∃ left ∈ lefts, R left right := by
  induction each with
  | nil => cases member
  | cons related _ ih =>
    rcases List.mem_cons.mp member with rfl | later
    · exact ⟨_, (.head _), related⟩
    · obtain ⟨left, listed, same⟩ := ih later
      exact ⟨left, .tail _ listed, same⟩

theorem exists_right {R : α → β → Prop} {lefts : List α} {rights : List β} {left : α}
    (each : List.Forall₂ R lefts rights) (member : left ∈ lefts) : ∃ right ∈ rights, R left right := by
  obtain ⟨right, listed, related⟩ := exists_left each.flip member
  exact ⟨right, listed, related⟩

theorem mem_of_mapM {result : β} (ran : elements.mapM f = .ok results) (member : result ∈ results) :
    ∃ element ∈ elements, f element = .ok result :=
  exists_left (R := fun element result => f element = .ok result) (mapM_eq_ok.mp ran) member

theorem mem_results_of_mem {element : α} (ran : elements.mapM f = .ok results)
    (member : element ∈ elements) :
    ∃ result ∈ results, f element = .ok result :=
  exists_right (R := fun element result => f element = .ok result) (mapM_eq_ok.mp ran) member

theorem exists_mapM_ok (each : ∀ element ∈ elements, ∃ result, f element = .ok result) :
    ∃ results, elements.mapM f = .ok results := by
  induction elements with
  | nil => exact ⟨[], rfl⟩
  | cons element rest ih =>
    obtain ⟨first, done⟩ := each element (.head _)
    obtain ⟨others, ran⟩ := ih (List.forall_mem_cons.mp each).2
    exact ⟨first :: others, by rw [List.mapM_cons, done, ran]; rfl⟩

theorem mapM_eq_some {f : α → Option β} :
    elements.mapM f = some results ↔
      List.Forall₂ (fun element result => f element = some result) elements results := by
  induction elements generalizing results with
  | nil =>
    simp
  | cons element rest ih =>
    rw [List.mapM_cons, Option.bind_eq_bind, Option.bind_eq_some_iff]
    simp only [Option.bind_eq_bind, Option.bind_eq_some_iff, ih, List.forall₂_cons_left_iff]
    constructor
    · rintro ⟨first, done, others, each, same⟩
      exact ⟨first, others, done, each, (Option.some.inj same).symm⟩
    · rintro ⟨first, others, done, each, same⟩
      exact ⟨first, done, others, each, same ▸ rfl⟩

theorem mem_of_mapM_some {f : α → Option β} {result : β} (ran : elements.mapM f = some results)
    (member : result ∈ results) :
    ∃ element ∈ elements, f element = some result :=
  exists_left (R := fun element result => f element = some result) (mapM_eq_some.mp ran) member

theorem foldlM_ok {I : β → Prop} {round : β → α → Except ε β} {start last : β}
    (ran : elements.foldlM round start = .ok last) (holds : I start)
    (keeps : ∀ before element after, round before element = .ok after → I before → I after) :
    I last := by
  induction elements generalizing start with
  | nil =>
    cases ran
    exact holds
  | cons element rest ih =>
    obtain ⟨middle, first, later⟩ := bind_ok ran
    exact ih later (keeps start element middle first holds)

end Checked
