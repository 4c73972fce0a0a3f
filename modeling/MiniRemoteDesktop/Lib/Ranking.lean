/-
**Sorting by a comparison, and one representative of each class.**

A source program sorts by a comparison function and then keeps the first element of each class it
meets. Over an arbitrary type:

* `sortBy` — the stable sort by a comparison; `pairwise_sortBy`, and `sortBy_eq_of_perm`: **a sort
  of elements that no comparison identifies does not depend on their order**.
* `firstOfEach` — the first element of each class, in order. `exists_firstOfEach`: every element is
  represented by an element that stands at or before it.
-/

import Mathlib.Data.List.Sort

namespace Ranking

open Std (OrientedCmp TransCmp)

variable {α κ : Type*}

/-! ### Sorting -/

/-- The comparison does not put the first element after the second. -/
def NotAfter (cmp : α → α → Ordering) (left right : α) : Prop := (cmp left right).isLE

instance (cmp : α → α → Ordering) : DecidableRel (NotAfter cmp) :=
  fun left right => inferInstanceAs (Decidable ((cmp left right).isLE = true))

/-- The stable sort by a comparison: an element is put before the ones it is equal to. -/
def sortBy (cmp : α → α → Ordering) (list : List α) : List α := list.insertionSort (NotAfter cmp)

/-- The comparison puts the first element strictly before the second. -/
def Before (cmp : α → α → Ordering) (left right : α) : Prop := cmp left right = .lt

/-- No comparison identifies two elements of the list. -/
def Distinct (cmp : α → α → Ordering) (list : List α) : Prop :=
  list.Pairwise fun left right => cmp left right ≠ .eq

variable {cmp : α → α → Ordering} {list other : List α}

theorem sortBy_perm (cmp : α → α → Ordering) (list : List α) : (sortBy cmp list).Perm list :=
  List.perm_insertionSort _ _

variable {a : α}

theorem mem_sortBy : a ∈ sortBy cmp list ↔ a ∈ list :=
  (sortBy_perm cmp list).mem_iff

instance [TransCmp cmp] : IsTrans α (NotAfter cmp) where
  trans _ _ _ := TransCmp.isLE_trans

instance [OrientedCmp cmp] : Std.Total (NotAfter cmp) where
  total a b := by
    have oriented : cmp a b = (cmp b a).swap := OrientedCmp.eq_swap
    simp only [NotAfter, oriented]
    cases cmp b a with
    | lt | eq | gt => simp

theorem Before.trans [TransCmp cmp] {b c : α} (first : Before cmp a b) (second : Before cmp b c) :
    Before cmp a c :=
  TransCmp.lt_trans first second

theorem Before.irrefl [TransCmp cmp] (a : α) : ¬ Before cmp a a := by
  intro before
  have same : cmp a a = .eq := Std.ReflCmp.compare_self
  cases same.symm.trans before

theorem Before.asymm [TransCmp cmp] {b : α} (first : Before cmp a b) : ¬ Before cmp b a :=
  fun second => Before.irrefl a (first.trans second)

theorem Distinct.perm [OrientedCmp cmp] (distinct : Distinct cmp list) (perm : list.Perm other) :
    Distinct cmp other := by
  refine (perm.pairwise_iff ?_).mp distinct
  intro left right differ same
  exact differ (OrientedCmp.eq_comm.mp same)

/-- **A sort puts its elements strictly in order**, when no comparison identifies two of them. -/
theorem pairwise_sortBy [TransCmp cmp] (distinct : Distinct cmp list) :
    (sortBy cmp list).Pairwise (Before cmp) := by
  have sorted := List.pairwise_insertionSort (NotAfter cmp) list
  have different := distinct.perm (sortBy_perm cmp list).symm
  refine (sorted.and different).imp ?_
  rintro left right ⟨ordered, differ⟩
  cases compared : cmp left right with
  | lt => exact compared
  | eq => exact (differ compared).elim
  | gt =>
    simp [NotAfter, compared] at ordered

/-- **The order of the elements does not matter to a sort** that tells them all apart. -/
theorem sortBy_eq_of_perm [TransCmp cmp] (distinct : Distinct cmp list) (perm : list.Perm other) :
    sortBy cmp list = sortBy cmp other := by
  have same := ((sortBy_perm cmp list).trans perm).trans (sortBy_perm cmp other).symm
  refine same.eq_of_pairwise ?_ (pairwise_sortBy distinct) (pairwise_sortBy (distinct.perm perm))
  intro a b _ _ first second
  exact (Before.asymm first second).elim

theorem sortBy_of_pairwise (sorted : list.Pairwise (Before cmp)) : sortBy cmp list = list := by
  refine List.Pairwise.insertionSort_eq (sorted.imp fun before => ?_)
  rw [NotAfter, before]
  rfl

/-- Nor to a sort by an order that only identifies what is equal. -/
theorem sortBy_eq_of_perm_of_lawful [TransCmp cmp] [Std.LawfulEqCmp cmp] (perm : list.Perm other) :
    sortBy cmp list = sortBy cmp other := by
  have same := ((sortBy_perm cmp list).trans perm).trans (sortBy_perm cmp other).symm
  refine same.eq_of_pairwise ?_ (List.pairwise_insertionSort _ _) (List.pairwise_insertionSort _ _)
  intro a b _ _ first second
  have equal : cmp a b = .eq → a = b := Std.LawfulEqCmp.eq_of_compare
  have oriented : cmp b a = (cmp a b).swap := OrientedCmp.eq_swap
  refine equal ?_
  unfold NotAfter at first second
  rw [oriented] at second
  cases compared : cmp a b with
  | lt | gt => simp [compared] at first second
  | eq => rfl

/-- **A list without repetitions that is its own sort** is strictly in order. -/
theorem sortBy_eq_and_nodup [TransCmp cmp] [Std.LawfulEqCmp cmp] :
    list = sortBy cmp list ∧ list.Nodup ↔ list.Pairwise (Before cmp) := by
  constructor
  · rintro ⟨sorted, nodup⟩
    have distinct : Distinct cmp list := nodup.imp fun differ same =>
      differ (Std.LawfulEqCmp.eq_of_compare same)
    exact sorted ▸ pairwise_sortBy distinct
  · intro ordered
    refine ⟨(sortBy_of_pairwise ordered).symm, ordered.imp ?_⟩
    rintro a _ before rfl
    exact Before.irrefl a before

/-! ### Inserting where the order has it -/

section Inserting

variable {R : α → α → Prop} [DecidableRel R] {p : α → Bool} {a : α}

/-- What is inserted is not found by a search for something else. -/
theorem find?_orderedInsert_of_not (other : p a = false) :
    (list.orderedInsert R a).find? p = list.find? p := by
  induction list with
  | nil => rw [List.orderedInsert, List.find?_cons_of_neg (by rw [other]; decide)]
  | cons b rest ih =>
    rw [List.orderedInsert]
    split
    · rw [List.find?_cons_of_neg (by rw [other]; decide)]
    · simp [List.find?_cons, ih]

theorem find?_orderedInsert (fits : p a = true) (first : ∀ b ∈ list, p b = false) :
    (list.orderedInsert R a).find? p = some a := by
  induction list with
  | nil => rw [List.orderedInsert, List.find?_cons_of_pos fits]
  | cons b rest ih =>
    rw [List.orderedInsert]
    split
    · rw [List.find?_cons_of_pos fits]
    · rw [List.find?_cons_of_neg (by rw [first b List.mem_cons_self]; decide),
        ih fun c member => first c (.tail _ member)]

theorem filter_orderedInsert_of_not (other : p a = false) :
    (list.orderedInsert R a).filter p = list.filter p := by
  induction list with
  | nil => rw [List.orderedInsert, List.filter_cons_of_neg (by rw [other]; decide)]
  | cons b rest ih =>
    rw [List.orderedInsert]
    split
    · rw [List.filter_cons_of_neg (by rw [other]; decide)]
    · simp [List.filter_cons, ih]

end Inserting

/-! ### One representative of each class -/

variable [DecidableEq κ]

/-- The first element of each class that was not seen before. -/
def firstOfEach (key : α → κ) : List κ → List α → List α
  | _, [] => []
  | seen, a :: rest =>
    if key a ∈ seen then firstOfEach key seen rest else a :: firstOfEach key (key a :: seen) rest

variable {key : α → κ} {seen : List κ} {R : α → α → Prop}

theorem firstOfEach_cons {a : α} {rest : List α} : firstOfEach key seen (a :: rest) =
    if key a ∈ seen then firstOfEach key seen rest else a :: firstOfEach key (key a :: seen) rest := rfl

theorem firstOfEach_sublist (key : α → κ) (seen : List κ) (list : List α) :
    (firstOfEach key seen list).Sublist list := by
  induction list generalizing seen with
  | nil => exact List.Sublist.refl _
  | cons a rest ih =>
    rw [firstOfEach_cons]
    split
    · exact (ih seen).cons a
    · exact (ih _).cons_cons a

theorem key_firstOfEach (member : a ∈ firstOfEach key seen list) : key a ∉ seen := by
  induction list generalizing seen with
  | nil => cases member
  | cons b rest ih =>
    rw [firstOfEach_cons] at member
    split at member
    · exact ih member
    next fresh =>
      rcases List.mem_cons.mp member with rfl | member
      · exact fresh
      · exact fun old => ih member (.tail _ old)

/-- **The representatives are in different classes.** -/
theorem nodup_firstOfEach (key : α → κ) (seen : List κ) (list : List α) :
    ((firstOfEach key seen list).map key).Nodup := by
  induction list generalizing seen with
  | nil => exact List.nodup_nil
  | cons a rest ih =>
    rw [firstOfEach_cons]
    split
    · exact ih seen
    · refine List.nodup_cons.mpr ⟨?_, ih _⟩
      intro again
      obtain ⟨b, member, same⟩ := List.mem_map.mp again
      exact key_firstOfEach member (same ▸ (.head _))

/-- **Every element of a new class is represented** by an element that is not after it. -/
theorem exists_firstOfEach (ordered : list.Pairwise R) (member : a ∈ list) (fresh : key a ∉ seen) :
    ∃ b ∈ firstOfEach key seen list, key b = key a ∧ (b = a ∨ R b a) := by
  induction list generalizing seen with
  | nil => cases member
  | cons c rest ih =>
    obtain ⟨before, ordered⟩ := List.pairwise_cons.mp ordered
    rw [firstOfEach_cons]
    by_cases same : key c = key a
    · rw [if_neg (same ▸ fresh)]
      refine ⟨c, (.head _), same, ?_⟩
      exact (List.mem_cons.mp member).imp Eq.symm (before a)
    · have member : a ∈ rest := by
        rcases List.mem_cons.mp member with rfl | member
        · exact (same rfl).elim
        · exact member
      split
      · exact ih ordered member fresh
      · have fresh : key a ∉ key c :: seen :=
          fun old => (List.mem_cons.mp old).elim (fun equal => same equal.symm) fresh
        obtain ⟨b, chosen, found⟩ := ih ordered member fresh
        exact ⟨b, .tail _ chosen, found⟩

/-- **A representative is not after any element of its class.** -/
theorem best_firstOfEach (ordered : list.Pairwise R) {b : α} (chosen : b ∈ firstOfEach key seen list)
    (member : a ∈ list) (same : key a = key b) :
    b = a ∨ R b a := by
  obtain ⟨c, other, equal, before⟩ :=
    exists_firstOfEach ordered member (same ▸ key_firstOfEach chosen)
  have alone : c = b := List.inj_on_of_nodup_map (nodup_firstOfEach key seen list) other chosen
    (equal.trans same)
  exact alone ▸ before

/-- **Why an element is missing** from the first representatives: its class is represented by an
element before it, or there are `limit` of them and they all stand before it. -/
theorem left_out [IsTrans α R] (ordered : list.Pairwise R) (member : a ∈ list) (fresh : key a ∉ seen)
    {limit : Nat} (missing : a ∉ (firstOfEach key seen list).take limit) :
    (∃ b ∈ (firstOfEach key seen list).take limit, key b = key a ∧ R b a) ∨
      ((firstOfEach key seen list).take limit).length = limit ∧
        ∀ b ∈ (firstOfEach key seen list).take limit, R b a := by
  obtain ⟨b, chosen, same, before⟩ := exists_firstOfEach ordered member fresh
  have inOrder := ordered.sublist (firstOfEach_sublist key seen list)
  rw [← List.take_append_drop limit (firstOfEach key seen list)] at chosen inOrder
  rcases List.mem_append.mp chosen with taken | dropped
  · refine .inl ⟨b, taken, same, before.resolve_left ?_⟩
    rintro rfl
    exact missing taken
  · refine .inr ⟨?_, fun c taken => ?_⟩
    · have positive := List.length_pos_of_mem dropped
      rw [List.length_drop] at positive
      rw [List.length_take]
      omega
    · have ahead := (List.pairwise_append.mp inOrder).2.2 c taken b dropped
      rcases before with rfl | before
      · exact ahead
      · exact IsTrans.trans c b a ahead before

end Ranking
