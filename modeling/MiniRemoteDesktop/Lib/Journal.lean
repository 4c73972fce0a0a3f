/-
**Journals.**

A journal is a list of entries, newest first.

* `Journal.Justified P` — every entry is justified, by `P`, by the entries before it.
* `Journal.Lasts gives ends` — some entry gave something, and no entry since ended it.
-/

import Mathlib.Data.List.Basic

namespace Journal

variable {α : Type*} {P : α → List α → Prop} {gives ends : α → Prop} {log new : List α}

/-! ### Justified entries -/

/-- **Every entry is justified by those before it.** -/
def Justified (P : α → List α → Prop) : List α → Prop
  | [] => True
  | entry :: earlier => P entry earlier ∧ Justified P earlier

variable {entry : α}

theorem Justified.split {later earlier : List α} (justified : Justified P (later ++ entry :: earlier)) :
    P entry earlier := by
  induction later with
  | nil => exact justified.1
  | cons other rest ih => exact ih justified.2

theorem Justified.of_mem (justified : Justified P log) (listed : entry ∈ log) :
    ∃ earlier, P entry earlier := by
  obtain ⟨later, earlier, rfl⟩ := List.append_of_mem listed
  exact ⟨earlier, justified.split⟩

/-- New entries are justified if each is, whichever of them come before it. -/
theorem Justified.append (justified : Justified P log)
    (each : ∀ entry ∈ new, ∀ between, (∀ other ∈ between, other ∈ new) → P entry (between ++ log)) :
    Justified P (new ++ log) := by
  induction new with
  | nil => exact justified
  | cons entry rest ih =>
    refine ⟨each entry (.head _) rest fun other => List.mem_cons_of_mem _, ih ?_⟩
    intro other listed between among
    exact each other (.tail _ listed) between fun probe here =>
      .tail _ (among probe here)

/-! ### What lasts -/

/-- **Something was given, and nothing since ended it.** -/
def Lasts (gives ends : α → Prop) (log : List α) : Prop :=
  ∃ newer entry older, log = newer ++ entry :: older ∧ gives entry ∧ ∀ later ∈ newer, ¬ ends later

theorem Lasts.given (given : gives entry) : Lasts gives ends (entry :: log) :=
  ⟨[], entry, log, rfl, given, fun _ listed => absurd listed List.not_mem_nil⟩

theorem Lasts.append (lasts : Lasts gives ends log) (harmless : ∀ entry ∈ new, ¬ ends entry) :
    Lasts gives ends (new ++ log) := by
  obtain ⟨newer, entry, older, rfl, given, kept⟩ := lasts
  refine ⟨new ++ newer, entry, older, (List.append_assoc _ _ _).symm, given, fun later listed => ?_⟩
  exact (List.mem_append.mp listed).elim (harmless later) (kept later)

theorem Lasts.source (lasts : Lasts gives ends log) : ∃ entry ∈ log, gives entry := by
  obtain ⟨newer, entry, older, rfl, given, -⟩ := lasts
  exact ⟨entry, List.mem_append_right _ (.head _), given⟩

end Journal
