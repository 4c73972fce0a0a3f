/-
**What an admission comes to** (`app/services/relay_repository.py`, `reserve_capacity`).

* `reserveCapacity_named` — the reservations that a call returns are on nodes it was given.
* `Inserted` — a table that has lost nothing but expired rows and has gained one row for each of some
  nodes. `reserveCapacity_fresh`: under a generation that the session has no reservations of, that is what
  a call makes of the table, after it has superseded the other generations.
-/

import MiniRemoteDesktop.Relay.Reservations

namespace MiniRemoteDesktop.Relay.Server

open List (find?_some map_append map_nil mem_append mem_cons mem_filter mem_singleton not_mem_nil)
open Checked

variable {maxReservations : Nat} {request : ReservationRequest} {locked : Locked}
  {table : List RelayReservation} {newId nodeId : String} {admission : Admission}
  {outcome : List Write × Admission} {newIds : String → String} {writes : List Write}
  {nodeIds : List String}

/-! ### The nodes of the reservations -/

/-- **What a round adds to the result** is on its node. -/
theorem Round.named (filed : ∀ row ∈ admission.existing nodeId, row.nodeId = nodeId)
    (round : Round request locked table newId nodeId admission outcome) :
    (∀ other, other ≠ nodeId → outcome.2.existing other = admission.existing other) ∧
      ∀ row ∈ outcome.2.result, row ∈ admission.result ∨ row.nodeId = nodeId := by
  cases round with
  | passed => exact ⟨fun _ _ => rfl, fun _ => .inl⟩
  | givenUp _ _ _ _ result elsewhere => exact ⟨elsewhere, fun _ member => .inl (result ▸ member)⟩
  | returned held _ result elsewhere =>
    obtain ⟨row, slot, result⟩ := result
    refine ⟨elsewhere, fun other member => ?_⟩
    rw [result] at member
    refine (mem_append.mp member).imp_right fun last => ?_
    rw [mem_singleton.mp last]
    exact (congrArg Slot.nodeId slot).trans (filed _ held)
  | inserted _ _ _ result _ elsewhere =>
    refine ⟨elsewhere, fun other member => ?_⟩
    rw [result] at member
    refine (mem_append.mp member).imp_right fun last => ?_
    rw [mem_singleton.mp last]
    rfl

theorem admitAll_named (distinct : nodeIds.Nodup)
    (filed : ∀ nodeId ∈ nodeIds, ∀ row ∈ admission.existing nodeId, row.nodeId = nodeId)
    (done : admitAll maxReservations request locked table newIds writes admission nodeIds = .ok outcome) :
    ∀ row ∈ outcome.2.result, row ∈ admission.result ∨ row.nodeId ∈ nodeIds := by
  induction nodeIds generalizing writes admission with
  | nil =>
    cases done
    exact fun _ => .inl
  | cons nodeId rest ih =>
    obtain ⟨⟨more, next⟩, round, later⟩ := bind_ok done
    obtain ⟨fresh, distinct⟩ := List.nodup_cons.mp distinct
    obtain ⟨elsewhere, named⟩ := (admitCandidate_round round).named (filed nodeId (.head _))
    have still : ∀ other ∈ rest, ∀ row ∈ next.existing other, row.nodeId = other := by
      intro other member row there
      rw [elsewhere other fun same => fresh (same ▸ member)] at there
      exact filed other (.tail _ member) row there
    intro row member
    rcases ih distinct still later row member with before | after
    · refine (named row before).imp_right fun on => ?_
      simp [on]
    · exact .inr (.tail _ after)

theorem mem_fromKeys {key : String} {keys : List String} : key ∈ fromKeys keys ↔ key ∈ keys := by
  induction keys with
  | nil => rfl
  | cons first rest ih =>
    rw [fromKeys, mem_cons, mem_cons, mem_filter, ih]
    by_cases same : key = first
    · simp [same]
    · simp [same]

variable {rows : List RelayReservation}

theorem existingOf_named {row : RelayReservation} (found : existingOf request rows nodeId = some row) :
    row ∈ rows ∧ row.nodeId = nodeId := by
  have listed := List.mem_reverse.mp (List.mem_of_find?_eq_some found)
  exact ⟨(mem_filter.mp listed).1, by simpa using find?_some found⟩

variable {result : List Write × List RelayReservation} {registrations : List RelayNodeRegistration}

variable {nodes : List RelayNode}

theorem reserveCapacity_ok
    (done : reserveCapacity maxReservations request nodes registrations table newIds = .ok result) :
    request.check = .ok () ∧ ((fromKeys request.orderedNodeIds = [] ∧ result = ([], [])) ∨
      ∃ admission outcome, begin request (replay table (supersedes request)) = .ok admission ∧
        admitAll maxReservations request (lockRows nodes registrations (fromKeys request.orderedNodeIds))
          table newIds (supersedes request) admission (fromKeys request.orderedNodeIds) = .ok outcome ∧
        result = (outcome.1, outcome.2.result)) := by
  obtain ⟨_, checked, done⟩ := bind_ok done
  refine ⟨checked, ?_⟩
  dsimp only at done
  split at done
  next none =>
    cases done
    exact .inl ⟨none, rfl⟩
  · obtain ⟨admission, began, done⟩ := bind_ok done
    obtain ⟨outcome, ran, ⟨⟩⟩ := bind_ok done
    exact .inr ⟨admission, outcome, began, ran, rfl⟩

theorem begin_ok (began : begin request rows = .ok admission) :
    admission = ⟨rows.filter fun row => row.sessionId = request.sessionId ∧ request.now < row.expiresAt,
      existingOf request (rows.filter fun row =>
        row.sessionId = request.sessionId ∧ request.now < row.expiresAt), [], none⟩ := by
  unfold begin at began
  dsimp only at began
  split at began
  · cases began
  · exact (Except.ok.inj began).symm

theorem check_spec (checked : request.check = .ok ()) :
    request.now < request.expiresAt ∧ 0 < request.resultLimit ∧
      ∀ nodeId ∈ request.orderedNodeIds, validGeneralId nodeId = true := by
  unfold ReservationRequest.check at checked
  have checked := guard_ok (guard_ok checked)
  obtain ⟨ttl, checked⟩ := guarded_ok checked
  obtain ⟨limit, checked⟩ := guarded_ok checked
  obtain ⟨identifiers, _⟩ := guarded_ok (guard_ok checked)
  refine ⟨(not_not.mp ttl).1, (not_not.mp limit).1, fun nodeId member => ?_⟩
  by_contra invalid
  refine identifiers (List.any_eq_true.mpr ⟨nodeId, member, decide_eq_true ?_⟩)
  exact Bool.not_eq_true _ ▸ invalid

/-- **The reservations that a call returns** are on nodes that it was given. -/
theorem reserveCapacity_named
    (done : reserveCapacity maxReservations request nodes registrations table newIds = .ok result) :
    ∀ row ∈ result.2, row.nodeId ∈ request.orderedNodeIds := by
  obtain ⟨_, ⟨none, rfl⟩ | ⟨admission, outcome, began, ran, rfl⟩⟩ := reserveCapacity_ok done
  · exact nofun
  · cases begin_ok began
    intro row member
    have named := admitAll_named (nodup_fromKeys _) (fun _ _ _ there => (existingOf_named there).2) ran
    rcases named row member with before | listed
    · cases before
    · exact mem_fromKeys.mp listed

/-! ### Under a new generation -/

/-- **A table that has gained rows** for the nodes in `chosen`, and lost nothing but expired rows. -/
structure Inserted (request : ReservationRequest) (newIds : String → String)
    (before after : List RelayReservation) (chosen : List String) : Prop where
  rows : ∀ row ∈ after, (row ∈ before ∧ row.id ∉ chosen.map newIds) ∨
    ∃ nodeId ∈ chosen, row = newReservation request (newIds nodeId) nodeId
  kept : ∀ row ∈ before, request.now < row.expiresAt → row ∈ after
  apart : ∀ row ∈ before, request.now < row.expiresAt → row.id ∉ chosen.map newIds

theorem Inserted.trans {first second third : List RelayReservation} {earlier later : List String}
    (one : Inserted request newIds first second earlier)
    (two : Inserted request newIds second third later) :
    Inserted request newIds first third (earlier ++ later) := by
  refine ⟨fun row member => ?_, fun row member unexpired => ?_, fun row member unexpired listed => ?_⟩
  · rcases two.rows row member with ⟨inside, other⟩ | ⟨nodeId, listed, same⟩
    · rcases one.rows row inside with ⟨before, another⟩ | ⟨nodeId, listed, same⟩
      · refine .inl ⟨before, fun named => ?_⟩
        rw [map_append, mem_append] at named
        exact named.elim another other
      · exact .inr ⟨nodeId, List.mem_append_left _ listed, same⟩
    · exact .inr ⟨nodeId, List.mem_append_right _ listed, same⟩
  · exact two.kept row (one.kept row member unexpired) unexpired
  · rw [map_append, mem_append] at listed
    rcases listed with before | after
    · exact one.apart row member unexpired before
    · exact two.apart row (one.kept row member unexpired) unexpired after

theorem Inserted.refl (rows : List RelayReservation) :
    Inserted request newIds rows rows [] :=
  ⟨fun _ member => .inl ⟨member, not_mem_nil⟩, fun _ member _ => member, fun _ _ _ => not_mem_nil⟩

theorem inserted_purges (purges : ∀ write ∈ writes, write = .purge nodeId request.now) :
    Inserted request newIds table (replay table writes) [] := by
  induction writes generalizing table with
  | nil => exact .refl table
  | cons write rest ih =>
    have first : Inserted request newIds table (write.apply table) [] := by
      rw [purges write List.mem_cons_self]
      refine ⟨fun row member => .inl ⟨(mem_filter.mp member).1, not_mem_nil⟩,
        fun row member unexpired => ?_, fun _ _ _ => not_mem_nil⟩
      exact mem_filter.mpr ⟨member, decide_eq_true fun both => Nat.not_le_of_lt unexpired both.2⟩
    exact first.trans (ih fun other member => purges other (.tail _ member))

/-- **The round of a node without a reservation at hand**: it is passed over, or one is inserted. -/
theorem admitCandidate_free (free : admission.existing nodeId = none)
    (done : admitCandidate maxReservations request locked table newId admission nodeId = .ok outcome) :
    ((∀ write ∈ outcome.1, write = .purge nodeId request.now) ∧ outcome.2 = admission) ∨
      (outcome.1 = [.purge nodeId request.now, .insert (newReservation request newId nodeId)] ∧
        outcome.2.result = admission.result ++ [newReservation request newId nodeId] ∧
        (∀ row ∈ (Write.purge nodeId request.now).apply table, row.id ≠ newId) ∧
        ∀ other, other ≠ nodeId → outcome.2.existing other = admission.existing other) := by
  cases admitCandidate_round done with
  | passed purges => exact .inl ⟨purges, rfl⟩
  | givenUp _ _ _ held => cases free.symm.trans held
  | returned held => cases free.symm.trans held
  | inserted _ _ _ result fresh elsewhere => exact .inr ⟨rfl, result, fresh, elsewhere⟩

theorem inserted_of_free (free : admission.existing nodeId = none)
    (done : admitCandidate maxReservations request locked table (newIds nodeId) admission nodeId =
      .ok outcome) :
    ∃ chosen, Inserted request newIds table (replay table outcome.1) chosen ∧
      outcome.2.result = admission.result ++
        chosen.map (fun nodeId => newReservation request (newIds nodeId) nodeId) ∧
      ∀ other, other ≠ nodeId → outcome.2.existing other = admission.existing other := by
  rcases admitCandidate_free free done with ⟨purges, same⟩ | ⟨writes, result, fresh, others⟩
  · refine ⟨[], inserted_purges purges, ?_, fun other _ => by rw [same]⟩
    simp [same]
  · refine ⟨[nodeId], ?_, result, others⟩
    have purged : Inserted request newIds table (replay table [.purge nodeId request.now]) [] :=
      inserted_purges fun write member => mem_singleton.mp member
    have inserted : Inserted request newIds ((Write.purge nodeId request.now).apply table)
        (replay table outcome.1) [nodeId] := by
      rw [writes]
      refine ⟨fun row member => ?_, fun row member _ => ?_, fun row member _ listed => ?_⟩
      · rcases mem_append.mp member with before | last
        · refine .inl ⟨before, fun listed => fresh row before ?_⟩
          exact mem_singleton.mp listed
        · exact .inr ⟨nodeId, List.mem_singleton_self _, mem_singleton.mp last⟩
      · exact List.mem_append_left _ member
      · exact fresh row member (mem_singleton.mp listed)
    exact purged.trans inserted

theorem inserted_admitAll (distinct : nodeIds.Nodup)
    (free : ∀ nodeId ∈ nodeIds, admission.existing nodeId = none)
    (done : admitAll maxReservations request locked table newIds writes admission nodeIds = .ok outcome) :
    ∃ chosen, Inserted request newIds (replay table writes) (replay table outcome.1) chosen ∧
      outcome.2.result = admission.result ++
        chosen.map fun nodeId => newReservation request (newIds nodeId) nodeId := by
  induction nodeIds generalizing writes admission with
  | nil =>
    cases done
    refine ⟨[], .refl _, ?_⟩
    simp
  | cons nodeId rest ih =>
    obtain ⟨⟨more, next⟩, round, later⟩ := bind_ok done
    rw [List.nodup_cons] at distinct
    obtain ⟨first, inserted, result, others⟩ := inserted_of_free (free nodeId (.head _)) round
    have still : ∀ other ∈ rest, next.existing other = none := by
      intro other member
      have differs : other ≠ nodeId := fun same => distinct.1 (same ▸ member)
      exact (others other differs).trans (free other (.tail _ member))
    obtain ⟨second, following, total⟩ := ih distinct.2 still later
    rw [replay_append] at following
    refine ⟨first ++ second, inserted.trans following, ?_⟩
    rw [total, result, map_append, List.append_assoc]

/-- **A call under a new generation**: it supersedes the other generations of the session, and then only
inserts reservations, which it returns. -/
theorem reserveCapacity_fresh {generation : String}
    (under : request.directoryGeneration = some generation)
    (overlap : request.preserveGenerationOverlap = true)
    (fresh : ∀ row ∈ table, row.sessionId = request.sessionId → row.directoryGeneration ≠ generation)
    (nonempty : result.2 ≠ [])
    (done : reserveCapacity maxReservations request nodes registrations table newIds = .ok result) :
    ∃ chosen, Inserted request newIds (table.map (superseded request.sessionId generation request.now))
        (replay table result.1) chosen ∧
      result.2 = chosen.map fun nodeId => newReservation request (newIds nodeId) nodeId := by
  obtain ⟨_, ⟨none, rfl⟩ | ⟨admission, outcome, began, ran, rfl⟩⟩ := reserveCapacity_ok done
  · exact absurd rfl nonempty
  have first : replay table (supersedes request) =
      table.map (superseded request.sessionId generation request.now) := by
    unfold supersedes
    rw [under]
    rfl
  have begun := begin_ok began
  rw [first] at begun
  have free : ∀ nodeId, admission.existing nodeId = none := by
    intro nodeId
    rw [begun]
    show existingOf request _ nodeId = none
    unfold existingOf
    rw [List.find?_eq_none]
    intro row member
    exfalso
    obtain ⟨current, generations⟩ := mem_filter.mp (List.mem_reverse.mp member)
    obtain ⟨listed, own⟩ := mem_filter.mp current
    obtain ⟨old, there, rfl⟩ := List.mem_map.mp listed
    have mine := (of_decide_eq_true own).1
    have same : (superseded request.sessionId generation request.now old).sessionId = old.sessionId ∧
        (superseded request.sessionId generation request.now old).directoryGeneration =
          old.directoryGeneration := by
      unfold superseded
      split <;> exact ⟨rfl, rfl⟩
    rw [same.1] at mine
    rcases of_decide_eq_true generations with apart | equal
    · simp [overlap] at apart
    · rw [under, same.2] at equal
      exact fresh old there mine (Option.some.inj equal)
  obtain ⟨chosen, inserted, total⟩ := inserted_admitAll (nodup_fromKeys _) (fun nodeId _ => free nodeId) ran
  rw [first] at inserted
  refine ⟨chosen, inserted, ?_⟩
  simpa [begun] using total

end MiniRemoteDesktop.Relay.Server
