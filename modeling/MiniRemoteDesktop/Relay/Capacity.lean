/-
**Relay capacity under concurrent calls** (`app/services/relay_repository.py`).

Calls of `reserve_capacity` run as transactions beside one another, beside heartbeats and beside
releases. A call holds the lock of its session and the locks of the node rows that it read until its
transaction ends; its statements are seen by itself at once and by the others when it commits, and a
call that fails leaves nothing behind.

* `Deed.Sound` — what every superseding, every return, every insertion and every commit has to be.
* `never_oversold` — **no run oversells a node**, and what was granted stays until it expires, unless it
  is released.
-/

import MiniRemoteDesktop.Lib.Execution
import MiniRemoteDesktop.Lib.Table
import MiniRemoteDesktop.Relay.Reservations

namespace MiniRemoteDesktop.Relay.Server

open List (any_eq_true filter_filter find?_some mem_append mem_cons mem_filter mem_map mem_singleton)
open Execution

/-! ### Calls beside one another -/

/-- A transaction in progress. -/
structure Call where
  request : ReservationRequest
  locked : Locked
  remaining : List String
  writes : List Write
  admission : Admission

/-- **What happened**, with the tables that the call saw before and after it. -/
inductive Deed
  /-- A call superseded the other generations of its session. -/
  | superseded (before after : List RelayReservation)
  /-- A call returned a reservation that its session had. -/
  | returned (now : Nat) (before after : List RelayReservation)
  /-- A call inserted a reservation for a node; `node` is the row of the database. -/
  | inserted (now : Nat) (node : Option RelayNode) (after : List RelayReservation)
  /-- A call committed the reservations that it inserted for some nodes. -/
  | committed (now : Nat) (nodes : List RelayNode) (inserted : List String)
      (after : List RelayReservation)

structure World where
  now : Nat
  nodes : List RelayNode
  registrations : List RelayNodeRegistration
  reservations : List RelayReservation
  /-- The directories of the generations that are committed. -/
  generations : List String
  calls : AList fun _ : Nat => Call
  /-- History: what happened. -/
  deeds : List Deed
  /-- History: every reservation that was ever committed. -/
  granted : List Slot
  /-- History: the reservations that were released, or given up on a node that was not eligible. -/
  freed : List Slot

def World.empty : World := ⟨0, [], [], [], [], ∅, [], [], []⟩

inductive Event
  | tick (elapsed : Nat)
  | enroll (node : RelayNode)
  /-- A heartbeat, or any other update of a node row. -/
  | heartbeat (node : RelayNode)
  | register (registration : RelayNodeRegistration)
  | start (id : Nat) (request : ReservationRequest)
  | round (id : Nat) (newId : String)
  | commit (id : Nat)
  | fail (id : Nat)
  | persist (directoryGeneration : String)
  | release (sessionId directoryGeneration : String) (reservationIds : Option (List String))

def World.node? (world : World) (nodeId : String) : Option RelayNode :=
  world.nodes.find? fun node => node.nodeId = nodeId

/-- Some call has the row of the node locked. -/
def World.isLocked (world : World) (nodeId : String) : Bool :=
  world.calls.entries.any fun entry => entry.2.locked.nodes.any fun node => node.nodeId = nodeId

/-- Some call has the session locked. -/
def World.isBusy (world : World) (sessionId : String) : Bool :=
  world.calls.entries.any fun entry => entry.2.request.sessionId = sessionId

/-- The reservations that the statements insert. -/
def insertedRows (writes : List Write) : List RelayReservation :=
  writes.filterMap fun write => match write with
    | .insert reservation => some reservation
    | _ => none

/-- The identifiers that the statements remove. -/
def removedIds (writes : List Write) : List String :=
  writes.filterMap fun write => match write with
    | .remove id => some id
    | _ => none

/-- What a round did. -/
def deedsOf (request : ReservationRequest) (node : Option RelayNode) (before after : List RelayReservation)
    (writes : List Write) (admission next : Admission) : List Deed :=
  if insertedRows writes ≠ [] then [.inserted request.now node after]
  else if admission.result.length < next.result.length then [.returned request.now before after]
  else []

/-- `release_uncommitted_generation`: the reservations that are left. -/
def releaseUncommittedGeneration (generations : List String) (table : List RelayReservation)
    (sessionId directoryGeneration : String) (reservationIds : Option (List String)) :
    List RelayReservation :=
  if directoryGeneration ∈ generations then table
  else table.filter fun row => ¬ (row.sessionId = sessionId ∧
    row.directoryGeneration = directoryGeneration ∧ reservationIds.all fun ids => row.id ∈ ids)

/-- The database after a call has committed. -/
def World.committed (world : World) (id : Nat) (call : Call) : World :=
  let after := replay world.reservations call.writes
  let inserted := insertedRows call.writes
  let slots := world.reservations.map (·.slot) ++ inserted.map (·.slot)
  { world with
    reservations := after, calls := world.calls.erase id
    deeds := .committed call.request.now world.nodes (inserted.map (·.nodeId)) after :: world.deeds
    granted := inserted.map (·.slot) ++ world.granted
    freed := (slots.filter fun slot => slot.id ∈ removedIds call.writes) ++ world.freed }

/-- One step. A call that raises is rolled back. -/
def step (maxReservations : Nat) (world : World) : Event → Option World
  | .tick elapsed => some { world with now := world.now + elapsed }
  | .enroll node =>
    if (world.node? node.nodeId).isSome then none else some { world with nodes := world.nodes ++ [node] }
  | .heartbeat node =>
    if world.isLocked node.nodeId then none
    else some { world with
      nodes := world.nodes.map fun row => if row.nodeId = node.nodeId then node else row }
  | .register registration =>
    some { world with registrations := registration ::
      world.registrations.filter fun row => row.nodeId ≠ registration.nodeId }
  | .start id request =>
    let locked := lockRows world.nodes world.registrations (fromKeys request.orderedNodeIds)
    if (world.calls.lookup id).isSome ∨ world.isBusy request.sessionId ∨ world.now < request.now ∨
        locked.nodes.any fun node => world.isLocked node.nodeId then none
    else
      match request.check with
      | .error _ => some world
      | .ok () =>
        if fromKeys request.orderedNodeIds = [] then some world else
        let table := replay world.reservations (supersedes request)
        match begin request table with
        | .error _ => some world
        | .ok admission => some { world with
            calls := world.calls.insert id
              ⟨request, locked, fromKeys request.orderedNodeIds, supersedes request, admission⟩
            deeds := .superseded world.reservations table :: world.deeds }
  | .round id newId =>
    match world.calls.lookup id with
    | none => none
    | some call =>
      match call.remaining with
      | [] => none
      | nodeId :: rest =>
        let before := replay world.reservations call.writes
        match admitCandidate maxReservations call.request call.locked before newId call.admission nodeId with
        | .error _ => some { world with calls := world.calls.erase id }
        | .ok (writes, admission) => some { world with
            calls := world.calls.insert id
              { call with remaining := rest, writes := call.writes ++ writes, admission }
            deeds := deedsOf call.request (world.node? nodeId) before (replay before writes) writes
              call.admission admission ++ world.deeds }
  | .commit id =>
    match world.calls.lookup id with
    | none => none
    | some call =>
      if call.remaining ≠ [] then none else some (world.committed id call)
  | .fail id =>
    if (world.calls.lookup id).isSome then some { world with calls := world.calls.erase id } else none
  | .persist directoryGeneration =>
    some { world with generations := directoryGeneration :: world.generations }
  | .release sessionId directoryGeneration reservationIds =>
    let left := releaseUncommittedGeneration world.generations world.reservations sessionId
      directoryGeneration reservationIds
    some { world with
      reservations := left
      freed := (world.reservations.filter fun row => row ∉ left).map (·.slot) ++ world.freed }

/-! ### What every deed has to be -/

/-- **The node is not oversold**: neither its allocations nor its egress. -/
structure Within (node : RelayNode) (now : Nat) (table : List RelayReservation) : Prop where
  allocations : node.activeAllocations + (usage table node.nodeId now).1 ≤ node.maxAllocations
  egress : node.currentEgressBps + (usage table node.nodeId now).2 ≤ node.maxEgressBps

/-- **What a deed has to be.** -/
def Deed.Sound : Deed → Prop
  | superseded before after => ∀ nodeId instant, usage after nodeId instant = usage before nodeId instant
  | returned now before after => ∀ nodeId instant, now ≤ instant →
      usage after nodeId instant = usage before nodeId instant
  | inserted now node after => ∃ row, node = some row ∧ Within row now after
  | committed now nodes nodeIds after => ∀ nodeId ∈ nodeIds,
      ∃ row, nodes.find? (fun node => node.nodeId = nodeId) = some row ∧ Within row now after

/-! ### Rounds and usage -/

variable {maxReservations : Nat} {request : ReservationRequest} {locked : Locked}
  {table : List RelayReservation} {newId nodeId : String} {admission : Admission}

variable {instant : Nat}

theorem usage_apply_of_slots {write : Write} {nodeId : String}
    (same : ((write.onSlots (table.map (·.slot))).filter fun slot => slot.nodeId = nodeId).filter
      (fun slot => instant < slot.expiresAt) = (slotsOn nodeId table).filter fun slot => instant <
        slot.expiresAt) :
    usage (write.apply table) nodeId instant = usage table nodeId instant := by
  simp [usage_eq, slotsOn_apply, same]

theorem usage_supersede (table : List RelayReservation) (sessionId generation nodeId : String)
    (now instant : Nat) :
    usage ((Write.supersede sessionId generation now).apply table) nodeId instant =
      usage table nodeId instant :=
  usage_apply_of_slots rfl

theorem usage_revive (table : List RelayReservation) (id generation nodeId : String) (instant : Nat) :
    usage ((Write.revive id generation).apply table) nodeId instant = usage table nodeId instant :=
  usage_apply_of_slots rfl

variable {now : Nat}

/-- Deleting what has expired changes no usage from then on. -/
theorem usage_purge (table : List RelayReservation) (purged nodeId : String) (later : now ≤ instant) :
    usage ((Write.purge purged now).apply table) nodeId instant = usage table nodeId instant := by
  refine usage_apply_of_slots ?_
  unfold slotsOn Write.onSlots
  rw [filter_filter, filter_filter, filter_filter]
  refine List.filter_congr fun slot _ => ?_
  by_cases lives : instant < slot.expiresAt
  · have : ¬ slot.expiresAt ≤ now := by omega
    simp [this]
  · simp [lives]

theorem usage_insert (table : List RelayReservation) (row : RelayReservation)
    (lives : instant < row.expiresAt) :
    usage ((Write.insert row).apply table) row.nodeId instant = ((usage table row.nodeId instant).1 + 1,
        (usage table row.nodeId instant).2 + row.reservedEgressBps) := by
  have added : pending (table ++ [row]) row.nodeId instant =
      pending table row.nodeId instant ++ [row] := by
    unfold pending
    rw [List.filter_append]
    refine congrArg _ (List.filter_eq_self.mpr fun other member => ?_)
    cases mem_singleton.mp member
    exact decide_eq_true ⟨rfl, lives⟩
  show usage (table ++ [row]) row.nodeId instant = _
  simp [usage, added]

variable {node : RelayNode}

theorem Within.mono {table other : List RelayReservation} (within : Within node now other)
    (fewer : (slotsOn node.nodeId table).Sublist (slotsOn node.nodeId other)) :
    Within node now table := by
  obtain ⟨count, egress⟩ := usage_le now fewer
  have allocations := within.allocations
  have bandwidth := within.egress
  constructor <;> omega

/-- **Room is what an insertion needs.** -/
theorem within_of_hasRoom {id : String} (lives : request.now < request.expiresAt)
    (room : hasRoom request node table = true) :
    Within node request.now ((Write.insert (newReservation request id node.nodeId)).apply table) := by
  unfold hasRoom at room
  dsimp only at room
  split at room
  · cases room
  split at room
  · cases room
  split at room
  · cases room
  have taken := usage_insert table (newReservation request id node.nodeId) lives
  have first := congrArg Prod.fst taken
  have second := congrArg Prod.snd taken
  dsimp only [newReservation] at first second
  constructor
  · show node.activeAllocations + ((usage _ node.nodeId request.now).1 : Int) ≤ _
    unfold newReservation
    rw [first]
    omega
  · show node.currentEgressBps + ((usage _ node.nodeId request.now).2 : Int) ≤ _
    unfold newReservation
    rw [second]
    omega

/-! ### What a round inserts -/

variable {outcome : List Write × Admission}

variable {writes : List Write}

theorem mem_insertedRows {row : RelayReservation} :
    row ∈ insertedRows writes ↔ .insert row ∈ writes := by
  unfold insertedRows
  rw [List.mem_filterMap]
  constructor
  · rintro ⟨write, member, kept⟩
    cases write with
    | insert other =>
      cases kept
      exact member
    | supersede | purge | remove | revive => cases kept
  · exact fun member => ⟨_, member, rfl⟩

theorem insertedRows_append (first second : List Write) :
    insertedRows (first ++ second) = insertedRows first ++ insertedRows second :=
  List.filterMap_append

theorem quiet_of_insertedRows {nodeId : String}
    (elsewhere : ∀ row ∈ insertedRows writes, row.nodeId ≠ nodeId) :
    ∀ write ∈ writes, write.Quiet nodeId := by
  intro write member
  cases write with
  | insert row => exact elsewhere row (mem_insertedRows.mpr member)
  | supersede | purge | remove | revive => exact trivial

/-- A round inserts at most one reservation, on its own node, and only if that has room. -/
theorem Round.inserts (round : Round request locked table newId nodeId admission outcome)
    (lives : request.now < request.expiresAt) :
    insertedRows outcome.1 = [] ∨ ∃ node,
      locked.nodes.find? (fun node => node.nodeId = nodeId) = some node ∧
      insertedRows outcome.1 = [newReservation request newId nodeId] ∧
      Within node request.now (replay table outcome.1) := by
  cases round with
  | passed purges =>
    refine .inl (List.eq_nil_iff_forall_not_mem.mpr fun row member => ?_)
    cases purges _ (mem_insertedRows.mp member)
  | givenUp => exact .inl rfl
  | returned held revives =>
    refine .inl (List.eq_nil_iff_forall_not_mem.mpr fun row member => ?_)
    rcases mem_cons.mp (mem_insertedRows.mp member) with same | member
    · cases same
    · obtain ⟨_, ⟨⟩⟩ := revives _ member
  | @inserted node next found eligible room =>
    have named : node.nodeId = nodeId := by simpa using find?_some found
    subst named
    exact .inr ⟨node, found, rfl, within_of_hasRoom lives room⟩

/-- Statements on existing rows that only revive change no usage. -/
theorem usage_replay_revives {id : String} (nodeId : String) (instant : Nat)
    (revives : ∀ write ∈ writes, ∃ generation, write = .revive id generation)
    (table : List RelayReservation) :
    usage (replay table writes) nodeId instant = usage table nodeId instant := by
  induction writes generalizing table with
  | nil => rfl
  | cons write rest ih =>
    obtain ⟨generation, rfl⟩ := revives write (.head _)
    show usage (replay _ rest) nodeId instant = _
    rw [ih (List.forall_mem_cons.mp revives).2, usage_revive]

/-- **The deeds of a round are sound**, if the row that the call has locked is the row of the database. -/
theorem Round.sound {node : Option RelayNode}
    (round : Round request locked table newId nodeId admission outcome)
    (lives : request.now < request.expiresAt)
    (current : ∀ row, locked.nodes.find? (fun node => node.nodeId = nodeId) = some row →
      node = some row) :
    ∀ deed ∈ deedsOf request node table (replay table outcome.1) outcome.1 admission outcome.2,
      deed.Sound := by
  intro deed happened
  unfold deedsOf at happened
  split at happened
  next inserts =>
    cases mem_singleton.mp happened
    rcases round.inserts lives with none | ⟨row, found, _, within⟩
    · exact (inserts none).elim
    · exact ⟨row, current row found, within⟩
  rename_i nothing
  split at happened
  next grown =>
    cases mem_singleton.mp happened
    intro other instant later
    cases round with
    | passed => exact (Nat.lt_irrefl _ grown).elim
    | givenUp legacy found ineligible held result =>
      rw [result] at grown
      exact (Nat.lt_irrefl _ grown).elim
    | returned held revives =>
      exact (usage_replay_revives other instant revives _).trans (usage_purge _ _ _ later)
    | inserted =>
      exact (nothing (List.cons_ne_nil _ _)).elim
  · cases happened

/-! ### What the locks keep -/

/-- **What is true of a call in progress.** -/
structure Call.Held (call : Call) (world : World) : Prop where
  /-- The rows that it has locked are the rows of the database. -/
  current : ∀ node ∈ call.locked.nodes, world.node? node.nodeId = some node
  lives : call.request.now < call.request.expiresAt
  started : call.request.now ≤ world.now
  remaining : call.remaining.Nodup
  /-- Nothing was inserted on the nodes that are still to come. -/
  ahead : ∀ row ∈ insertedRows call.writes, row.nodeId ∉ call.remaining
  /-- What was inserted is on a locked node, and the node is not oversold. -/
  within : ∀ row ∈ insertedRows call.writes, ∃ node ∈ call.locked.nodes, node.nodeId = row.nodeId ∧
    Within node call.request.now (replay world.reservations call.writes)
  purges : ∀ nodeId now, .purge nodeId now ∈ call.writes → now ≤ world.now

/-- Two calls lock different rows. -/
def Apart (call other : Call) : Prop :=
  ∀ node ∈ call.locked.nodes, ∀ row ∈ other.locked.nodes, node.nodeId ≠ row.nodeId

/-- What was granted is still there, has expired, or was freed. -/
def World.Accounted (world : World) : Prop :=
  ∀ slot ∈ world.granted, slot ∈ world.reservations.map (·.slot) ∨ slot.expiresAt ≤ world.now ∨
    slot ∈ world.freed

/-- **The invariant.** -/
structure Held (world : World) : Prop where
  nodes : (world.nodes.map (·.nodeId)).Nodup
  calls : ∀ id call, world.calls.lookup id = some call → call.Held world
  apart : ∀ id call other entry, world.calls.lookup id = some call →
    world.calls.lookup other = some entry → id ≠ other → Apart call entry
  sound : ∀ deed ∈ world.deeds, deed.Sound
  accounted : world.Accounted

theorem held_empty : Held World.empty where
  nodes := List.nodup_nil
  calls id call found := by cases (AList.lookup_empty id).symm.trans found
  apart id call other entry found := by cases (AList.lookup_empty id).symm.trans found
  sound := List.forall_mem_nil _
  accounted := List.forall_mem_nil _

variable {world next : World} {call : Call}

/-- What the other steps may do to a call in progress: they leave its rows alone and add no slots to its
nodes. -/
theorem Call.Held.keep (held : call.Held world) (later : world.now ≤ next.now)
    (nodes : ∀ node ∈ call.locked.nodes, next.node? node.nodeId = world.node? node.nodeId)
    (fewer : ∀ node ∈ call.locked.nodes, (slotsOn node.nodeId next.reservations).Sublist
      (slotsOn node.nodeId world.reservations)) : call.Held next where
  current node member := (nodes node member).trans (held.current node member)
  lives := held.lives
  started := held.started.trans later
  remaining := held.remaining
  ahead := held.ahead
  within row inserted := by
    obtain ⟨node, member, named, within⟩ := held.within row inserted
    exact ⟨node, member, named, within.mono (slotsOn_replay_sublist (fewer node member) _)⟩
  purges nodeId now member := (held.purges nodeId now member).trans later

variable {id : Nat}

theorem isLocked_of_call (found : world.calls.lookup id = some call)
    (member : node ∈ call.locked.nodes) : world.isLocked node.nodeId = true := by
  unfold World.isLocked
  rw [any_eq_true]
  refine ⟨⟨id, call⟩, (Table.mem_entries_alist _ _ _).mpr found, ?_⟩
  exact any_eq_true.mpr ⟨node, member, decide_eq_true rfl⟩

/-- A step that changes neither the calls nor what they have locked. -/
theorem Held.keep (held : Held world) (nodes : (next.nodes.map (·.nodeId)).Nodup)
    (calls : ∀ id call, next.calls.lookup id = some call → world.calls.lookup id = some call)
    (later : world.now ≤ next.now)
    (rows : ∀ nodeId, world.isLocked nodeId = true → next.node? nodeId = world.node? nodeId)
    (fewer : ∀ nodeId, world.isLocked nodeId = true → (slotsOn nodeId next.reservations).Sublist
      (slotsOn nodeId world.reservations))
    (sound : ∀ deed ∈ next.deeds, deed ∈ world.deeds ∨ deed.Sound) (accounted : next.Accounted) :
    Held next where
  nodes := nodes
  calls id call found :=
    have before := calls id call found
    (held.calls id call before).keep later
      (fun node member => rows node.nodeId (isLocked_of_call before member))
      fun node member => fewer node.nodeId (isLocked_of_call before member)
  apart id call other entry found known :=
    held.apart id call other entry (calls id call found) (calls other entry known)
  sound deed member := (sound deed member).elim (held.sound deed) id
  accounted := accounted

theorem World.Accounted.mono (accounted : world.Accounted) (later : world.now ≤ next.now)
    (granted : next.granted = world.granted)
    (kept : ∀ slot ∈ world.reservations.map (·.slot), slot ∈ next.reservations.map (·.slot) ∨
      slot ∈ next.freed)
    (freed : ∀ slot ∈ world.freed, slot ∈ next.freed) : next.Accounted := by
  intro slot member
  rw [granted] at member
  rcases accounted slot member with there | expired | gone
  · exact (kept slot there).imp_right .inr
  · exact .inr (.inl (expired.trans later))
  · exact .inr (.inr (freed slot gone))

theorem Held.keep_reservations (held : Held world) (nodes : (next.nodes.map (·.nodeId)).Nodup)
    (calls : ∀ id call, next.calls.lookup id = some call → world.calls.lookup id = some call)
    (later : world.now ≤ next.now)
    (rows : ∀ nodeId, world.isLocked nodeId = true → next.node? nodeId = world.node? nodeId)
    (reservations : next.reservations = world.reservations) (deeds : next.deeds = world.deeds)
    (granted : next.granted = world.granted) (freed : next.freed = world.freed) : Held next := by
  refine held.keep nodes calls later rows (fun nodeId _ => ?_) (fun deed member => ?_) ?_
  · rw [reservations]
  · exact .inl (deeds ▸ member)
  · refine held.accounted.mono later granted (fun slot member => ?_) fun slot member => ?_
    · exact .inl (reservations ▸ member)
    · exact freed ▸ member

theorem Held.fewer_calls (held : Held world) (id : Nat) :
    Held { world with calls := world.calls.erase id } := by
  refine held.keep_reservations held.nodes (fun other call found => ?_) le_rfl (fun _ _ => rfl) rfl rfl
    rfl rfl
  rw [Table.lookup_erase_alist] at found
  split at found
  · cases found
  · exact found

/-! ### The steps -/

theorem exists_of_isLocked {nodeId : String} (isLocked : world.isLocked nodeId = true) :
    ∃ id call node, world.calls.lookup id = some call ∧ node ∈ call.locked.nodes ∧
      node.nodeId = nodeId := by
  obtain ⟨⟨id, call⟩, member, locked⟩ := any_eq_true.mp isLocked
  obtain ⟨node, inside, named⟩ := any_eq_true.mp locked
  exact ⟨id, call, node, (Table.mem_entries_alist _ _ _).mp member, inside, of_decide_eq_true named⟩

theorem Held.enroll (held : Held world) (new : (world.node? node.nodeId).isSome = false) :
    Held { world with nodes := world.nodes ++ [node] } := by
  have absent : ∀ row ∈ world.nodes, row.nodeId ≠ node.nodeId := by
    intro row member same
    have none := List.find?_eq_none.mp (Option.isSome_eq_false_iff.mp new |> Option.isNone_iff_eq_none.mp)
    exact none row member (decide_eq_true same)
  refine held.keep_reservations ?_ (fun _ _ found => found) le_rfl (fun nodeId isLocked => ?_) rfl rfl
    rfl rfl
  · show ((world.nodes ++ [node]).map (·.nodeId)).Nodup
    rw [List.map_append]
    refine List.nodup_append.mpr ⟨held.nodes, List.nodup_singleton _, ?_⟩
    intro named member other last same
    obtain ⟨row, inside, rfl⟩ := mem_map.mp member
    exact absent row inside (same.trans (mem_singleton.mp last))
  · obtain ⟨id, call, row, found, member, rfl⟩ := exists_of_isLocked isLocked
    have current := (held.calls id call found).current row member
    rw [current]
    show (world.nodes ++ [node]).find? _ = _
    rw [List.find?_append]
    unfold World.node? at current
    simp [current]

theorem Held.heartbeat (held : Held world) (free : world.isLocked node.nodeId = false) :
    Held { world with
      nodes := world.nodes.map fun row => if row.nodeId = node.nodeId then node else row } := by
  have named : ∀ row : RelayNode,
      (if row.nodeId = node.nodeId then node else row).nodeId = row.nodeId := by
    intro row
    split
    · exact Eq.symm ‹_›
    · rfl
  refine held.keep_reservations ?_ (fun _ _ found => found) le_rfl (fun nodeId isLocked => ?_) rfl rfl
    rfl rfl
  · show ((world.nodes.map _).map _).Nodup
    rw [List.map_map]
    have same : ((·.nodeId) ∘ fun row : RelayNode =>
        if row.nodeId = node.nodeId then node else row) = (·.nodeId) := funext named
    simp [same, held.nodes]
  · have other : nodeId ≠ node.nodeId := by
      rintro rfl
      cases free.symm.trans isLocked
    show (world.nodes.map _).find? _ = world.nodes.find? _
    rw [List.find?_map]
    have same : ((fun row : RelayNode => decide (row.nodeId = nodeId)) ∘ fun row : RelayNode =>
        if row.nodeId = node.nodeId then node else row) = fun row => decide (row.nodeId = nodeId) := by
      funext row
      simp [named]
    rw [same]
    cases found : world.nodes.find? fun row => decide (row.nodeId = nodeId) with
    | none => rfl
    | some row =>
      have : row.nodeId = nodeId := by simpa using find?_some found
      simp [this ▸ other]

theorem Held.release (held : Held world) (sessionId directoryGeneration : String)
    (reservationIds : Option (List String)) {left : List RelayReservation}
    (released : left = releaseUncommittedGeneration world.generations world.reservations sessionId
      directoryGeneration reservationIds) :
    Held { world with
      reservations := left
      freed := (world.reservations.filter fun row => row ∉ left).map (·.slot) ++ world.freed } := by
  have part : left.Sublist world.reservations := by
    rw [released]
    unfold releaseUncommittedGeneration
    split
    · exact List.Sublist.refl _
    · exact List.filter_sublist
  refine held.keep held.nodes (fun _ _ found => found) le_rfl (fun _ _ => rfl)
    (fun nodeId _ => (part.map _).filter _) (fun _ member => .inl member) ?_
  refine held.accounted.mono le_rfl rfl (fun slot member => ?_) fun slot member =>
    List.mem_append_right _ member
  obtain ⟨row, inside, rfl⟩ := mem_map.mp member
  by_cases kept : row ∈ left
  · exact .inl (List.mem_map_of_mem kept)
  · refine .inr (List.mem_append_left _ (List.mem_map_of_mem (mem_filter.mpr ⟨inside, ?_⟩)))
    exact decide_eq_true kept

theorem Call.Held.found (held : call.Held world) {nodeId : String} {row : RelayNode}
    (found : call.locked.nodes.find? (fun node => node.nodeId = nodeId) = some row) :
    world.node? nodeId = some row := by
  have named : row.nodeId = nodeId := by simpa using find?_some found
  subst named
  exact held.current row (List.mem_of_find?_eq_some found)

theorem insertedRows_supersedes (request : ReservationRequest) :
    insertedRows (supersedes request) = [] := by
  unfold supersedes
  split <;> rfl

theorem usage_supersedes (request : ReservationRequest) (table : List RelayReservation)
    (nodeId : String) (instant : Nat) :
    usage (replay table (supersedes request)) nodeId instant = usage table nodeId instant := by
  unfold supersedes
  split
  · exact usage_supersede _ _ _ _ _ _
  · rfl

/-- Another entry of a table into which one was inserted. -/
theorem lookup_insert_cases {calls : AList fun _ : Nat => Call} {other : Nat} {entry : Call}
    (found : (calls.insert id call).lookup other = some entry) :
    other = id ∧ call = entry ∨ other ≠ id ∧ calls.lookup other = some entry := by
  rw [Table.lookup_insert_alist] at found
  by_cases same : other = id
  · rw [if_pos same] at found
    exact .inl ⟨same, Option.some.inj found⟩
  · rw [if_neg same] at found
    exact .inr ⟨same, found⟩

theorem Apart.symm {other : Call} (apart : Apart call other) : Apart other call :=
  fun row member node inside same => apart node inside row member same.symm

/-- One call is put into its place; the rest of the database stays. -/
theorem Held.insert (held : Held world) {deeds : List Deed} (mine : call.Held world)
    (apart : ∀ other entry, world.calls.lookup other = some entry → other ≠ id → Apart call entry)
    (sound : ∀ deed ∈ deeds, deed.Sound) :
    Held { world with calls := world.calls.insert id call, deeds := deeds ++ world.deeds } where
  nodes := held.nodes
  calls other entry found := by
    have kept : ∀ entry : Call, entry.Held world → entry.Held { world with
        calls := world.calls.insert id call, deeds := deeds ++ world.deeds } :=
      fun entry before => before.keep le_rfl (fun _ _ => rfl) fun _ _ => List.Sublist.refl _
    rcases lookup_insert_cases found with ⟨_, rfl⟩ | ⟨_, found⟩
    · exact kept _ mine
    · exact kept _ (held.calls other entry found)
  apart first entry second another found known differ := by
    rcases lookup_insert_cases found with ⟨rfl, rfl⟩ | ⟨_, found⟩
    · rcases lookup_insert_cases known with ⟨rfl, rfl⟩ | ⟨elsewhere, known⟩
      · exact (differ rfl).elim
      · exact apart second another known elsewhere
    · rcases lookup_insert_cases known with ⟨rfl, rfl⟩ | ⟨_, known⟩
      · exact (apart first entry ‹_› differ).symm
      · exact held.apart first entry second another ‹_› known differ
  sound deed member := (mem_append.mp member).elim (sound deed) (held.sound deed)
  accounted := held.accounted

theorem ReservationRequest.lives_of_check (passed : request.check = .ok ()) :
    request.now < request.expiresAt := by
  unfold check at passed
  exact (not_not.mp (Checked.guarded_ok (Checked.guard_ok (Checked.guard_ok passed))).1).1

/-- A row of a table whose keys are distinct is the one that is found by its key. -/
theorem node?_of_mem (distinct : (world.nodes.map (·.nodeId)).Nodup) (member : node ∈ world.nodes) :
    world.node? node.nodeId = some node := by
  unfold World.node?
  cases found : world.nodes.find? fun row => decide (row.nodeId = node.nodeId) with
  | none => exact (List.find?_eq_none.mp found node member (decide_eq_true rfl)).elim
  | some row =>
    have named : row.nodeId = node.nodeId := by simpa using find?_some found
    rw [List.inj_on_of_nodup_map distinct (List.mem_of_find?_eq_some found) member named]

theorem Held.start (held : Held world) (passed : request.check = .ok ())
    (began : request.now ≤ world.now)
    (free : (lockRows world.nodes world.registrations (fromKeys request.orderedNodeIds)).nodes.any
      (fun node => world.isLocked node.nodeId) = false) :
    Held { world with
      calls := world.calls.insert id
        ⟨request, lockRows world.nodes world.registrations (fromKeys request.orderedNodeIds),
          fromKeys request.orderedNodeIds, supersedes request, admission⟩
      deeds := .superseded world.reservations (replay world.reservations (supersedes request)) ::
        world.deeds } := by
  refine @Held.insert _ _ id held [_] ?_ (fun other entry found _ node member row inside same => ?_)
    fun deed member => ?_
  · refine ⟨fun node member => ?_, request.lives_of_check passed, began, nodup_fromKeys _, ?_, ?_, ?_⟩
    · exact node?_of_mem held.nodes (mem_filter.mp member).1
    · exact fun row inserted => by rw [insertedRows_supersedes] at inserted; cases inserted
    · exact fun row inserted => by rw [insertedRows_supersedes] at inserted; cases inserted
    · intro nodeId now member
      unfold supersedes at member
      split at member
      · cases mem_singleton.mp member
      · cases member
  · have taken := isLocked_of_call found inside
    rw [← same] at taken
    exact List.any_eq_false.mp free node member taken
  · cases mem_singleton.mp member
    exact fun nodeId instant => usage_supersedes request _ nodeId instant

/-- The only purge of a round is at the time of its call. -/
theorem Round.purges (round : Round request locked table newId nodeId admission outcome)
    {purged : String} (member : .purge purged now ∈ outcome.1) : now = request.now := by
  cases round with
  | passed purges =>
    cases purges _ member
    rfl
  | givenUp | inserted =>
    rcases mem_cons.mp member with same | member
    · cases same
      rfl
    · cases mem_singleton.mp member
  | returned held revives =>
    rcases mem_cons.mp member with same | member
    · cases same
      rfl
    · obtain ⟨_, ⟨⟩⟩ := revives _ member

theorem Call.Held.round {rest : List String} (held : call.Held world)
    (ahead : call.remaining = nodeId :: rest)
    (round : Round call.request call.locked (replay world.reservations call.writes) newId nodeId
      call.admission outcome) :
    Call.Held { call with
      remaining := rest, writes := call.writes ++ outcome.1, admission := outcome.2 } world := by
  have nodup := held.remaining
  rw [ahead] at nodup
  obtain ⟨fresh, nodup⟩ := List.nodup_cons.mp nodup
  have inserts := round.inserts held.lives
  have mine : ∀ row ∈ insertedRows outcome.1, row.nodeId = nodeId := by
    intro row member
    rcases inserts with none | ⟨_, _, one, _⟩
    · simp [none] at member
    · rw [one] at member
      cases mem_singleton.mp member
      rfl
  refine ⟨held.current, held.lives, held.started, nodup, ?_, ?_, ?_⟩
  · intro row member
    rw [insertedRows_append] at member
    rcases mem_append.mp member with before | now
    · have := held.ahead row before
      rw [ahead] at this
      exact fun later => this (.tail _ later)
    · exact mine row now ▸ fresh
  · intro row member
    rw [insertedRows_append] at member
    show ∃ node ∈ call.locked.nodes, _ ∧ Within node call.request.now (replay _ (call.writes ++ _))
    rw [replay_append]
    rcases mem_append.mp member with before | now
    · obtain ⟨node, inside, named, within⟩ := held.within row before
      have elsewhere : node.nodeId ≠ nodeId := by
        have := held.ahead row before
        rw [ahead, ← named] at this
        exact fun same => this (same ▸ (.head _))
      refine ⟨node, inside, named, within.mono (slotsOn_quiet_replay (quiet_of_insertedRows ?_) _)⟩
      intro other later same
      exact elsewhere (same.symm.trans (mine other later))
    · rcases inserts with none | ⟨node, found, _, within⟩
      · simp [none] at now
      · refine ⟨node, List.mem_of_find?_eq_some found, ?_, within⟩
        rw [mine row now]
        simpa using find?_some found
  · intro purged now member
    rcases mem_append.mp member with before | later
    · exact held.purges purged now before
    · exact (round.purges later).le.trans held.started

/-- **A slot is lost to a purge or a removal**, and to nothing else. -/
theorem slot_replay {slots : List Slot}
    (purges : ∀ nodeId instant, .purge nodeId instant ∈ writes → instant ≤ now) {slot : Slot}
    (known : slot ∈ slots ∨ slot ∈ (insertedRows writes).map (·.slot)) :
    slot ∈ writes.foldl Write.onSlots slots ∨ slot.expiresAt ≤ now ∨ slot.id ∈ removedIds writes := by
  induction writes generalizing slots with
  | nil => exact .inl (known.resolve_right List.not_mem_nil)
  | cons write rest ih =>
    have purges' := fun nodeId instant member => purges nodeId instant (.tail _ member)
    have later : slot ∈ write.onSlots slots ∨ slot ∈ (insertedRows rest).map (·.slot) →
        slot ∈ (write :: rest).foldl Write.onSlots slots ∨ slot.expiresAt ≤ now ∨
          slot.id ∈ removedIds (write :: rest) := by
      intro known
      refine (ih purges' known).imp_right (Or.imp_right fun removed => ?_)
      unfold removedIds
      rw [List.filterMap_cons]
      split
      · exact removed
      · exact .tail _ removed
    cases write with
    | supersede | revive => exact later known
    | insert row =>
      refine later ?_
      rcases known with there | inserted
      · exact .inl (List.mem_append_left _ there)
      · rcases mem_cons.mp inserted with rfl | inserted
        · exact .inl (List.mem_append_right _ (.head _))
        · exact .inr inserted
    | purge nodeId instant =>
      rcases known with there | inserted
      · by_cases expired : slot.nodeId = nodeId ∧ slot.expiresAt ≤ instant
        · exact .inr (.inl (expired.2.trans (purges nodeId instant (.head _))))
        · exact later (.inl (mem_filter.mpr ⟨there, decide_eq_true expired⟩))
      · exact later (.inr inserted)
    | remove id =>
      rcases known with there | inserted
      · by_cases same : slot.id = id
        · exact .inr (.inr (same ▸ (.head _)))
        · exact later (.inl (mem_filter.mpr ⟨there, decide_eq_true same⟩))
      · exact later (.inr inserted)

theorem Held.commit (held : Held world) (found : world.calls.lookup id = some call) :
    Held (world.committed id call) := by
  have mine := held.calls id call found
  have others : ∀ other entry, (world.committed id call).calls.lookup other = some entry →
      other ≠ id ∧ world.calls.lookup other = some entry := by
    intro other entry known
    have known : (world.calls.erase id).lookup other = some entry := known
    rw [Table.lookup_erase_alist] at known
    split at known
    · cases known
    · exact ⟨‹_›, known⟩
  refine ⟨held.nodes, fun other entry known => ?_, fun first entry second another one two differ => ?_,
    fun deed member => ?_, fun slot member => ?_⟩
  · obtain ⟨differ, known⟩ := others other entry known
    refine (held.calls other entry known).keep le_rfl (fun _ _ => rfl) fun node inside => ?_
    refine slotsOn_quiet_replay (quiet_of_insertedRows fun row inserted same => ?_) _
    obtain ⟨locked, member, named, _⟩ := mine.within row inserted
    exact held.apart id call other entry found known differ.symm locked member node inside
      (named.trans same)
  · exact held.apart first entry second another (others first entry one).2 (others second another two).2
      differ
  · rcases mem_cons.mp member with rfl | before
    · intro nodeId inserted
      obtain ⟨row, listed, rfl⟩ := mem_map.mp inserted
      obtain ⟨node, inside, named, within⟩ := mine.within row listed
      exact ⟨node, named ▸ mine.current node inside, within⟩
    · exact held.sound deed before
  · show slot ∈ (replay world.reservations call.writes).map (·.slot) ∨ slot.expiresAt ≤ world.now ∨
      slot ∈ (world.committed id call).freed
    rw [slots_replay]
    have kept : slot ∈ world.reservations.map (·.slot) ∨ slot ∈ (insertedRows call.writes).map (·.slot) →
        slot ∈ call.writes.foldl Write.onSlots (world.reservations.map (·.slot)) ∨
          slot.expiresAt ≤ world.now ∨ slot ∈ (world.committed id call).freed := by
      intro known
      refine (slot_replay mine.purges known).imp_right (Or.imp_right fun removed => ?_)
      refine List.mem_append_left _ (mem_filter.mpr ⟨mem_append.mpr known, ?_⟩)
      exact decide_eq_true removed
    rcases mem_append.mp member with new | old
    · exact kept (.inr new)
    · rcases held.accounted slot old with there | expired | gone
      · exact kept (.inl there)
      · exact .inr (.inl expired)
      · exact .inr (.inr (List.mem_append_right _ gone))

/-- **Every step keeps the invariant.** -/
theorem step_held {event : Event} (held : Held world)
    (taken : step maxReservations world event = some next) : Held next := by
  cases event with
  | tick elapsed =>
    cases taken
    exact held.keep_reservations held.nodes (fun _ _ found => found) (Nat.le_add_right _ _)
      (fun _ _ => rfl) rfl rfl rfl rfl
  | enroll node =>
    unfold step at taken
    dsimp only at taken
    split at taken
    · cases taken
    · cases taken
      exact held.enroll (Bool.eq_false_iff.mpr ‹_›)
  | heartbeat node =>
    unfold step at taken
    dsimp only at taken
    split at taken
    · cases taken
    · cases taken
      exact held.heartbeat (Bool.eq_false_iff.mpr ‹_›)
  | register registration | persist directoryGeneration =>
    cases taken
    exact held.keep_reservations held.nodes (fun _ _ found => found) le_rfl (fun _ _ => rfl) rfl rfl rfl
      rfl
  | start id request =>
    unfold step at taken
    dsimp only at taken
    split at taken
    · cases taken
    rename_i free
    rw [not_or, not_or, not_or] at free
    split at taken
    · cases taken
      exact held
    rename_i passed
    split at taken
    · cases taken
      exact held
    split at taken
    · cases taken
      exact held
    · cases taken
      exact held.start passed (Nat.le_of_not_lt free.2.2.1) (Bool.eq_false_iff.mpr free.2.2.2)
  | round id newId =>
    unfold step at taken
    dsimp only at taken
    split at taken
    · cases taken
    rename_i call found
    split at taken
    · cases taken
    rename_i nodeId rest ahead
    split at taken
    · cases taken
      exact held.fewer_calls id
    rename_i writes admission done
    cases taken
    have mine := held.calls id call found
    have round := admitCandidate_round done
    refine held.insert (mine.round ahead round) (fun other entry known differ => ?_) ?_
    · exact held.apart id call other entry found known differ.symm
    · exact round.sound mine.lives fun row known => mine.found known
  | commit id =>
    unfold step at taken
    dsimp only at taken
    split at taken
    · cases taken
    rename_i call found
    split at taken
    · cases taken
    · cases taken
      exact held.commit found
  | fail id =>
    unfold step at taken
    dsimp only at taken
    split at taken
    · cases taken
      exact held.fewer_calls id
    · cases taken
  | release sessionId directoryGeneration reservationIds =>
    cases taken
    exact held.release sessionId directoryGeneration reservationIds rfl

theorem held_of_reach (reached : Reach (step maxReservations) always World.empty world) : Held world :=
  reached.invariant held_empty fun _ _ _ held _ taken => step_held held taken

/-- **No run oversells a node.** In every run, an insertion found room on the row of the database, and
so did every commit; a reservation that is returned takes nothing more, and superseding frees nothing.
What was granted stays until it expires, unless it is released. -/
theorem never_oversold (reached : Reach (step maxReservations) always World.empty world) :
    (∀ deed ∈ world.deeds, deed.Sound) ∧ world.Accounted :=
  ⟨(held_of_reach reached).sound, (held_of_reach reached).accounted⟩

/-! ### Two sessions and one slot -/

/-- A node with two slots, one of them in use. -/
def sampleRelay : RelayNode where
  nodeId := "relay-1"
  region := "eu"
  failureDomain := "rack-1"
  physicalHostId := some "host-1"
  state := .available
  endpoints := []
  encryptedTurnSecret := []
  maxAllocations := 2
  activeAllocations := 1
  maxEgressBps := 100
  currentEgressBps := 10
  measuredRttMs := none
  recentFailureBps := 0
  leaseExpiresAt := some 15000000
  revokedAt := none

def sampleRequest (sessionId directoryGeneration : String) : ReservationRequest where
  sessionId
  userId := "user"
  orderedNodeIds := ["relay-1"]
  now := 1000000
  expiresAt := 31000000
  directoryGeneration := some directoryGeneration
  requiredEgressBps := 5
  preserveGenerationOverlap := true
  requireRegistration := false
  requireDistinctTopology := false
  resultLimit := 1

/-- The second session waits for the lock of the node and finds its last slot taken; the first one
fetches a new generation and finds it taken by its own superseded reservation. -/
def sampleEvents : List Event :=
  [.tick 1000000, .enroll sampleRelay,
    .start 1 (sampleRequest "session-1" "directory-1"), .round 1 "a", .commit 1,
    .start 2 (sampleRequest "session-2" "directory-2"), .round 2 "b", .commit 2,
    .start 3 (sampleRequest "session-1" "directory-3"), .round 3 "c", .commit 3]

theorem never_oversold_sample : ∃ world, run (step 2) World.empty sampleEvents = some world ∧
    world.reservations.map (·.id) = ["a"] ∧ world.granted.map (·.id) = ["a"] ∧
    (∀ deed ∈ world.deeds, deed.Sound) ∧ world.Accounted := by
  have ran : (run (step 2) World.empty sampleEvents).map (fun world =>
      (world.reservations.map (·.id), world.granted.map (·.id))) = some (["a"], ["a"]) := by
    decide
  obtain ⟨world, ran, view⟩ := Option.map_eq_some_iff.mp ran
  obtain ⟨reservations, granted⟩ := Prod.mk.inj view
  exact ⟨world, ran, reservations, granted, never_oversold (run_reach ran)⟩

/-- A call that holds the lock of the node keeps the other one waiting. -/
example : run (step 2) World.empty [.tick 1000000, .enroll sampleRelay,
    .start 1 (sampleRequest "session-1" "directory-1"),
    .start 2 (sampleRequest "session-2" "directory-2")] = none := by rfl

end MiniRemoteDesktop.Relay.Server
