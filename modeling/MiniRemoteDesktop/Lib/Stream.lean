/-
**Bytes that arrive in pieces.**

* `Incoming α` — what a reader has still to read, in pieces of any sizes; a read that gets nothing means
  the end, so no piece is empty.
* `readExact_meets`, `readExact_answers` — only the bytes matter, and not how they were cut.
-/

import MiniRemoteDesktop.Lib.Contract

namespace Stream

variable {α ε : Type}

/-- **What is still to come**, in the pieces in which it arrives. -/
structure Incoming (α : Type) where
  pieces : List (List α)
  filled : ∀ piece ∈ pieces, piece ≠ []

/-- All that is still to come. -/
def Incoming.bytes (incoming : Incoming α) : List α := incoming.pieces.flatten

/-- Read up to `count` elements: what was got, and the pieces that are left. -/
def gather : Nat → List (List α) → List α × List (List α)
  | 0, pieces => ([], pieces)
  | _ + 1, [] => ([], [])
  | count + 1, piece :: rest =>
    if piece.length ≤ count + 1 then
      let later := gather (count + 1 - piece.length) rest
      (piece ++ later.1, later.2)
    else (piece.take (count + 1), piece.drop (count + 1) :: rest)

theorem gather_spec (count : Nat) (pieces : List (List α)) :
    (gather count pieces).1 = pieces.flatten.take count ∧
      (gather count pieces).2.flatten = pieces.flatten.drop count := by
  induction pieces generalizing count with
  | nil => cases count <;> simp [gather]
  | cons piece rest ih =>
    cases count with
    | zero => simp [gather]
    | succ count =>
      unfold gather
      split
      next short =>
        obtain ⟨got, left⟩ := ih (count + 1 - piece.length)
        rw [List.flatten_cons, List.take_append, List.drop_append, List.take_of_length_le short,
          List.drop_eq_nil_of_le short, List.nil_append]
        exact ⟨congrArg _ got, left⟩
      next long =>
        rw [List.flatten_cons, List.flatten_cons, List.take_append_of_le_length (by omega),
          List.drop_append_of_le_length (by omega)]
        exact ⟨rfl, rfl⟩

variable {count : Nat}

theorem gather_filled {pieces : List (List α)} (filled : ∀ piece ∈ pieces, piece ≠ []) :
    ∀ piece ∈ (gather count pieces).2, piece ≠ [] := by
  induction pieces generalizing count with
  | nil =>
    cases count <;> exact filled
  | cons piece rest ih =>
    cases count with
    | zero => exact filled
    | succ count =>
      unfold gather
      split
      · exact ih (List.forall_mem_cons.mp filled).2
      next long =>
        intro other listed
        rcases List.mem_cons.mp listed with rfl | listed
        · intro empty
          rw [List.drop_eq_nil_iff] at empty
          omega
        · exact filled other (.tail _ listed)

/-- **Fill a buffer of `count` elements**; at the end of the stream, stop with an error. -/
def readExact (ended : ε) (count : Nat) : Procedure (Incoming α) ε (List α) := fun incoming =>
  ({ pieces := (gather count incoming.pieces).2, filled := gather_filled incoming.filled },
    if (gather count incoming.pieces).1.length < count then .error ended
    else .ok (gather count incoming.pieces).1)

variable {incoming : Incoming α}

variable {front : List α}

/-- **A read that finds enough** takes it from the front. -/
theorem readExact_ok (ended : ε) {back : List α} (arrives : incoming.bytes = front ++ back)
    (whole : front.length = count) :
    ∃ rest, readExact ended count incoming = (rest, .ok front) ∧ rest.bytes = back := by
  obtain ⟨got, left⟩ := gather_spec count incoming.pieces
  rw [show incoming.pieces.flatten = front ++ back from arrives, ← whole, List.take_left] at got
  rw [show incoming.pieces.flatten = front ++ back from arrives, ← whole, List.drop_left] at left
  rw [whole] at got left
  refine ⟨⟨(gather count incoming.pieces).2, gather_filled incoming.filled⟩, ?_, left⟩
  unfold readExact
  rw [got, if_neg (by omega)]

/-- **A read that finds too little** stops. -/
theorem readExact_end (ended : ε) (short : incoming.bytes.length < count) :
    (readExact ended count incoming).2 = .error ended := by
  have got : (gather count incoming.pieces).1 = incoming.bytes := by
    rw [(gather_spec count incoming.pieces).1]
    exact List.take_of_length_le (Nat.le_of_lt short)
  simp [readExact, got, if_pos short]

theorem readExact_answer {ended : ε} {rest : Incoming α}
    (read : readExact ended count incoming = (rest, .ok front)) :
    incoming.bytes = front ++ rest.bytes ∧ front.length = count := by
  by_cases enough : count ≤ incoming.bytes.length
  · have split : incoming.bytes = incoming.bytes.take count ++ incoming.bytes.drop count :=
      (List.take_append_drop _ _).symm
    have whole : (incoming.bytes.take count).length = count := by
      rw [List.length_take]
      omega
    obtain ⟨other, again, bytes⟩ := readExact_ok ended split whole
    rw [read] at again
    cases again
    exact ⟨bytes ▸ split, whole⟩
  · have stopped := readExact_end ended (Nat.lt_of_not_le enough)
    simp [read] at stopped

theorem readExact_meets (ended : ε) {back : List α} (arrives : incoming.bytes = front ++ back)
    (whole : front.length = count) :
    Procedure.Meets (readExact ended count) incoming (fun got rest => got = front ∧ rest.bytes = back)
      (fun _ _ => False) := by
  obtain ⟨rest, read, left⟩ := readExact_ok ended arrives whole
  unfold Procedure.Meets
  rw [read]
  exact ⟨rfl, left⟩

theorem readExact_answers (ended : ε) (count : Nat) (incoming : Incoming α) :
    Procedure.Meets (readExact ended count) incoming
      (fun got rest => incoming.bytes = got ++ rest.bytes ∧ got.length = count) (fun _ _ => True) := by
  unfold Procedure.Meets
  split
  next read =>
    exact readExact_answer read
  · trivial

end Stream
