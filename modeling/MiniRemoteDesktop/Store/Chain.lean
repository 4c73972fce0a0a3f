/-
**The audit chain** (`mrd-store-sqlite`, `audit_store.rs`).

* `verifyEvents_cons`, `verifyEvents_append` — the loop over the events, one event at a time.
* `verifyChain_extended` — **an accepted chain stays accepted** when the next event is put at its end
  and the head is moved there.
-/

import MiniRemoteDesktop.Store.Operations

namespace MiniRemoteDesktop.Store

open Checked

variable {primitives : Primitives} {key : Blob}

/-- One event of an accepted chain. -/
structure Linked (primitives : Primitives) (key : Blob) (row : AuditRow) (expected : Nat)
    (previousHash : Blob) (draft : AuditDraft) : Prop where
  parses : row.draft primitives = some draft
  numbered : row.sequence.value = expected
  linked : row.previousHash = previousHash
  authentic : auditHash primitives key expected previousHash draft = row.eventHash

variable {previousHash : Blob} {last : Nat × Blob}

variable {expected : Nat}

theorem verifyEvents_cons {row : AuditRow} {rest : List AuditRow} :
    verifyEvents primitives key (row :: rest) expected previousHash = .ok last ↔
      (∃ draft, Linked primitives key row expected previousHash draft) ∧
        checkedAdd expected 1 = some (expected + 1) ∧
          verifyEvents primitives key rest (expected + 1) row.eventHash = .ok last := by
  simp only [verifyEvents, bind_eq_ok, guarded_eq_ok, required_eq_ok, not_or, not_not,
    primitives.verifyHmac_eq_true]
  constructor
  · rintro ⟨draft, parses, ⟨numbered, linked, authentic⟩, following, added, later⟩
    obtain rfl := checkedAdd_eq_some added
    exact ⟨⟨draft, parses, numbered, linked, numbered ▸ authentic⟩, added, later⟩
  · rintro ⟨⟨draft, parses, numbered, linked, authentic⟩, added, later⟩
    refine ⟨draft, parses, ⟨numbered, linked, ?_⟩, expected + 1, added, later⟩
    rw [numbered]
    exact authentic

theorem verifyEvents_append {front back : List AuditRow} :
    verifyEvents primitives key (front ++ back) expected previousHash = .ok last ↔
      ∃ middle, verifyEvents primitives key front expected previousHash = .ok middle ∧
        verifyEvents primitives key back middle.1 middle.2 = .ok last := by
  induction front generalizing expected previousHash with
  | nil =>
    constructor
    · intro passed
      exact ⟨_, rfl, passed⟩
    · rintro ⟨middle, ⟨⟩, passed⟩
      exact passed
  | cons row rest ih =>
    rw [List.cons_append, verifyEvents_cons, ih]
    simp only [verifyEvents_cons]
    constructor
    · rintro ⟨linked, added, middle, first, later⟩
      exact ⟨middle, ⟨linked, added, first⟩, later⟩
    · rintro ⟨middle, ⟨linked, added, first⟩, later⟩
      exact ⟨linked, added, middle, first, later⟩

variable {events : List AuditRow}

/-- **The events are numbered without a gap.** -/
theorem verifyEvents_sequences
    (passed : verifyEvents primitives key events expected previousHash = .ok last) :
    last.1 = expected + events.length ∧
      events.map (fun row => row.sequence.value) = List.range' expected events.length := by
  induction events generalizing expected previousHash with
  | nil =>
    cases passed
    exact ⟨rfl, rfl⟩
  | cons row rest ih =>
    obtain ⟨⟨draft, linked⟩, _, later⟩ := verifyEvents_cons.mp passed
    obtain ⟨counted, numbered⟩ := ih later
    rw [List.length_cons, List.map_cons, List.range'_succ, numbered, linked.numbered]
    exact ⟨by omega, rfl⟩

theorem verifyEvents_below
    (passed : verifyEvents primitives key events expected previousHash = .ok last) :
    ∀ row ∈ events, row.sequence.value < last.1 := by
  intro row member
  obtain ⟨counted, numbered⟩ := verifyEvents_sequences passed
  have listed : row.sequence.value ∈ List.range' expected events.length :=
    numbered ▸ List.mem_map_of_mem member
  rw [List.mem_range'_1] at listed
  omega

theorem orderedInsert_last {row : AuditRow}
    (below : ∀ other ∈ events, other.sequence.value < row.sequence.value) :
    events.orderedInsert AuditRow.NotAfter row = events ++ [row] := by
  induction events with
  | nil => rfl
  | cons other rest ih =>
    have later : ¬ AuditRow.NotAfter row other := Nat.not_le.mpr (below other (.head _))
    simp [List.orderedInsert, later, ih fun next member => below next (.tail _ member)]

variable {timestampMs : SqlInteger}

theorem draft_auditRow {sequence : SqlInteger} {draft : AuditDraft} {eventHash : Blob}
    (bound : timestampMs.value = draft.timestampMs) :
    (auditRow primitives sequence timestampMs draft previousHash eventHash).draft primitives =
      some draft := by
  simp [AuditRow.draft, auditRow, primitives.parse_detailsJson, bound]

theorem verifyChain_ok {tables : Tables} : verifyChain primitives key tables = .ok () ↔
    ∃ head, tables.auditHead = some head ∧
      headSealFor primitives key head.nextSequence.value head.headHash = head.headSeal ∧
        verifyEvents primitives key tables.auditEvents 1 [] =
          .ok (head.nextSequence.value, head.headHash) := by
  simp only [verifyChain, bind_eq_ok, guarded_eq_ok, required_eq_ok, check_ok, not_or, not_not,
    primitives.verifyHmac_eq_true, headSealFor]
  constructor
  · rintro ⟨head, there, authentic, last, passed, counted, same⟩
    exact ⟨head, there, authentic, by rw [passed, ← counted, ← same]⟩
  · rintro ⟨head, there, authentic, passed⟩
    exact ⟨head, there, authentic, _, passed, rfl, rfl⟩

/-- The tables with one more event at the end of the chain. -/
def Tables.audited (primitives : Primitives) (key : Blob) (tables : Tables) (head : AuditHead)
    (timestampMs nextSequence : SqlInteger) (draft : AuditDraft) : Tables :=
  let eventHash := auditHash primitives key head.nextSequence.value head.headHash draft
  { tables with
    auditEvents := tables.auditEvents ++
      [auditRow primitives head.nextSequence timestampMs draft head.headHash eventHash]
    auditHead := some
      ⟨nextSequence, eventHash, headSealFor primitives key nextSequence.value eventHash⟩ }

/-- **An accepted chain stays accepted.** -/
theorem verifyChain_extended {tables : Tables} {head : AuditHead} {nextSequence : SqlInteger}
    {draft : AuditDraft} (chain : verifyChain primitives key tables = .ok ())
    (there : tables.auditHead = some head) (bound : timestampMs.value = draft.timestampMs)
    (following : nextSequence.value = head.nextSequence.value + 1) :
    verifyChain primitives key
      (tables.audited primitives key head timestampMs nextSequence draft) = .ok () := by
  obtain ⟨other, same, _, passed⟩ := verifyChain_ok.mp chain
  cases there.symm.trans same
  refine verifyChain_ok.mpr ⟨_, rfl, rfl, verifyEvents_append.mpr ⟨_, passed, ?_⟩⟩
  have fits : checkedAdd head.nextSequence.value 1 = some (head.nextSequence.value + 1) := by
    have small := nextSequence.fits
    unfold i64Max at small
    unfold checkedAdd u64Max
    rw [if_pos (by omega)]
  refine verifyEvents_cons.mpr ⟨⟨draft, draft_auditRow bound, rfl, rfl, rfl⟩, fits, ?_⟩
  rw [verifyEvents, following]
  rfl

end MiniRemoteDesktop.Store
