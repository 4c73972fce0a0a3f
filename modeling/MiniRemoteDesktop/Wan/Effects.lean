/-
**How the coordinator's shared state may change.**

* `Later` — every entry evolves, and an entry that was evicted is never registered again.
* `Effect`, `CleanupEffect` — everything an action and a step of a clean-up can do to the shared
  state; both only lead to later states.
-/

import MiniRemoteDesktop.Wan.Evolution
import MiniRemoteDesktop.Wan.Methods

namespace MiniRemoteDesktop.Wan

namespace WanSessionCoordinator

open Coordinator (Cleanup)

/-! ### The shared state -/

/-- The entry is one of this session. -/
def Shared.owns (shared : Shared) (sessionId : SessionId) (id : EntryId) : Prop :=
  ∃ entry, shared.entries[id]? = some entry ∧ entry.sessionId = sessionId

/-- The registry lists the entry. -/
def Shared.registered (shared : Shared) (id : EntryId) : Prop :=
  ∃ entry, shared.entries[id]? = some entry ∧ shared.registry.sessions.lookup entry.sessionId = some id

/-- The clean-up of the entry was started. -/
def Shared.cleaning (shared : Shared) (id : EntryId) : Prop :=
  ∃ entry, shared.entries[id]? = some entry ∧ entry.cleanupReceipt.isSome

def Shared.setEntry (shared : Shared) (id : EntryId) (entry : SessionEntry) : Shared :=
  { shared with entries := shared.entries.set id entry }

variable {id : EntryId} {entry : SessionEntry}

theorem getElem?_setEntry {s : Shared} (found : s.entries[id]? = some entry) (next : SessionEntry) :
    (s.setEntry id next).entries[id]? = some next :=
  List.getElem?_set_self (List.getElem?_eq_some_iff.mp found).1

/-- **One shared state comes after another.** -/
structure Later (s t : Shared) : Prop where
  evolves : ∀ (id : EntryId) (before : SessionEntry), s.entries[id]? = some before →
    ∃ after, t.entries[id]? = some after ∧ before.state.Evolves after.state
  /-- An entry that is not registered any more stays so. -/
  evicted : ∀ (id : EntryId) (before : SessionEntry), s.entries[id]? = some before → t.registered id →
    s.registered id

namespace Later

variable {s t u : Shared}

theorem refl (s : Shared) : Later s s where
  evolves _ before found := ⟨before, found, .refl _⟩
  evicted _ _ _ registered := registered

theorem trans (first : Later s t) (second : Later t u) : Later s u where
  evolves id before found := by
    obtain ⟨middle, there, early⟩ := first.evolves id before found
    obtain ⟨after, last, late⟩ := second.evolves id middle there
    exact ⟨after, last, early.trans late⟩
  evicted id before found registered := by
    obtain ⟨middle, there, -⟩ := first.evolves id before found
    exact first.evicted id before found (second.evicted id middle there registered)

theorem sessionId {before after : SessionEntry} (evolves : before.state.Evolves after.state) :
    after.sessionId = before.sessionId :=
  congrArg WanSessionBinding.sessionId evolves.parties.2.1

theorem owns {sessionId : SessionId} (later : Later s t) (owned : s.owns sessionId id) :
    t.owns sessionId id := by
  obtain ⟨before, found, same⟩ := owned
  obtain ⟨after, there, evolves⟩ := later.evolves id before found
  exact ⟨after, there, (Later.sessionId evolves).trans same⟩

/-- A step that keeps the entries and lists none of them anew. -/
theorem of_entries (evolves : ∀ (id : EntryId) (before : SessionEntry), s.entries[id]? = some before →
      ∃ after, t.entries[id]? = some after ∧ before.state.Evolves after.state)
    (listed : ∀ (id : EntryId) (before : SessionEntry), s.entries[id]? = some before → ∀ sessionId,
      t.registry.sessions.lookup sessionId = some id →
        s.registry.sessions.lookup sessionId = some id) : Later s t where
  evolves := evolves
  evicted id before found := by
    rintro ⟨after, there, registered⟩
    obtain ⟨other, same, evolved⟩ := evolves id before found
    rw [same] at there
    cases there
    rw [Later.sessionId evolved] at registered
    exact ⟨before, found, listed id before found _ registered⟩

end Later

variable {next : SessionEntry}

theorem evolves_set {entries : List SessionEntry} (found : entries[id]? = some entry)
    (evolves : entry.state.Evolves next.state) (place : EntryId) (before : SessionEntry)
    (there : entries[place]? = some before) :
    ∃ after, (entries.set id next)[place]? = some after ∧ before.state.Evolves after.state := by
  by_cases same : id = place
  · subst same
    rw [found] at there
    cases there
    refine ⟨next, ?_, evolves⟩
    rw [List.getElem?_set_self (List.getElem?_eq_some_iff.mp found).1]
  · refine ⟨before, ?_, .refl _⟩
    simp [List.getElem?_set_ne same, there]

/-- A clean-up that was started stays so when an entry is replaced by one that keeps its receipt. -/
theorem cleaning_set {s t : Shared} (found : s.entries[id]? = some entry)
    (entries : t.entries = s.entries.set id next)
    (kept : entry.cleanupReceipt.isSome → next.cleanupReceipt.isSome) {place : EntryId}
    (cleaning : s.cleaning place) : t.cleaning place := by
  obtain ⟨other, there, started⟩ := cleaning
  unfold Shared.cleaning
  rw [entries]
  by_cases same : id = place
  · subst same
    rw [found] at there
    cases there
    exact ⟨next, List.getElem?_set_self (List.getElem?_eq_some_iff.mp found).1, kept started⟩
  · refine ⟨other, ?_, started⟩
    simp [List.getElem?_set_ne same, there]

/-! ### What the actions do -/

/-- `begin` registers a new session. -/
def Shared.register (shared : Shared) (state : WanSessionState) : Shared :=
  { shared with
    entries := shared.entries ++ [⟨state, none⟩]
    registry.sessions := shared.registry.sessions.insert state.identity.binding.sessionId
      shared.entries.length
    registry.activeSessions := shared.registry.activeSessions + 1 }

/-- A clean-up that has not made a call yet. -/
def CleanupReceipt.new (sessionId : SessionId) (failed : Bool) : CleanupReceipt :=
  ⟨sessionId, failed, cleanupCalls failed, none, false, none⟩

/-- **Everything an action can do to the shared state.** -/
inductive Effect (config : WanSessionCoordinatorConfig) (s : Shared) : Action → Shared → Prop
  | unchanged (action : Action) : Effect config s action s
  | begun (state : WanSessionState) (built : state.Built) :
      s.registry.sessions.lookup state.identity.binding.sessionId = none →
      s.registry.activeSessions < config.maxSessions →
      Effect config s (.begin state built) (s.register state)
  | evolved (action : Action) (id : EntryId) (entry : SessionEntry) (state : WanSessionState) :
      s.entries[id]? = some entry → entry.state.Evolves state →
      Effect config s action (s.setEntry id { entry with state := state })
  | finalized (sessionId : SessionId) (id : EntryId) (failed : Bool) (entry : SessionEntry) :
      s.entries[id]? = some entry → entry.cleanupReceipt = none →
      Effect config s (.finalize sessionId id failed)
        (s.setEntry id { entry with cleanupReceipt := some (.new sessionId failed) })

variable {digest : WanSessionRequest → String} {config : WanSessionCoordinatorConfig} {s t : Shared}

/-- **The registry section of `begin`**, for a session that is listed and for one that is not. -/
theorem begin_cases {state : WanSessionState} {reply : Except WanSessionCoordinatorError Begun}
    (ran : s.begin config state = some (reply, t)) :
    (∃ id entry, s.registry.sessions.lookup state.identity.binding.sessionId = some id ∧
      s.entries[id]? = some entry ∧ t = s ∧
      reply = if entry.state.role = state.role ∧ entry.state.identity = state.identity then
        .ok ⟨.duplicate, id⟩ else .error .sessionConflict) ∨
    (s.registry.sessions.lookup state.identity.binding.sessionId = none ∧
      ((t = s ∧ reply = .error .capacityExceeded) ∨
        (s.registry.activeSessions < config.maxSessions ∧ t = s.register state ∧
          reply = .ok ⟨.applied, s.entries.length⟩))) := by
  simp only [Shared.begin] at ran
  cases listed : s.registry.sessions.lookup state.identity.binding.sessionId with
  | some id =>
    rw [listed] at ran
    obtain ⟨entry, found, same⟩ := Option.map_eq_some_iff.mp ran
    refine .inl ⟨id, entry, rfl, found, ?_⟩
    split at same
    next same' =>
      cases same
      exact ⟨rfl, (if_pos same').symm⟩
    next differs =>
      cases same
      exact ⟨rfl, (if_neg differs).symm⟩
  | none =>
    rw [listed] at ran
    refine .inr ⟨rfl, ?_⟩
    simp only at ran
    split at ran
    · cases ran
      exact .inl ⟨rfl, rfl⟩
    next room =>
      cases ran
      exact .inr ⟨Nat.lt_of_not_le room, rfl, rfl⟩

theorem update_cases {α : Type} {body : WanSessionState → WanSessionState × α} {reply : α}
    (ran : s.update id body = some (reply, t)) :
    ∃ entry, s.entries[id]? = some entry ∧ reply = (body entry.state).2 ∧
      t = s.setEntry id { entry with state := (body entry.state).1 } := by
  obtain ⟨entry, found, ⟨⟩⟩ := Option.map_eq_some_iff.mp ran
  exact ⟨entry, found, rfl, rfl⟩

theorem update_effect {α : Type} {body : WanSessionState → WanSessionState × α} {reply : α}
    (action : Action) (evolves : ∀ state : WanSessionState, state.Evolves (body state).1)
    (ran : s.update id body = some (reply, t)) : Effect config s action t := by
  obtain ⟨entry, found, -, rfl⟩ := update_cases ran
  exact .evolved action id entry _ found (evolves entry.state)

variable {action : Action}

theorem exec_effect {oracle : Oracle digest} {reply : action.Reply digest}
    (ran : exec config s action oracle = some (reply, t)) : Effect config s action t := by
  cases action with
  | begin state built =>
    rcases begin_cases ran with ⟨_, _, _, _, rfl, _⟩ | ⟨missing, ⟨rfl, _⟩ | ⟨room, rfl, _⟩⟩
    · exact .unchanged _
    · exact .unchanged _
    · exact .begun state built missing room
  | apply id event nowUnixMs =>
    refine update_effect _ ?_ ran
    exact fun state => .perform state (.apply event nowUnixMs)
  | failInstall id nowUnixMs =>
    refine update_effect _ ?_ ran
    exact fun state => .perform state (.apply (.failed .transport) nowUnixMs)
  | revalidate id commit nowUnixMs =>
    refine update_effect _ ?_ ran
    exact fun state => .perform state (.apply (commit.eventAt nowUnixMs state) nowUnixMs)
  | bindControllerTargetKey id fingerprint =>
    have ran : s.update id (fun state => state.bindControllerTargetKey fingerprint) =
      some (reply, t) := ran
    exact update_effect _ (fun state => .perform state (.bindControllerTargetKey fingerprint)) ran
  | finalize sessionId id failed =>
    obtain ⟨entry, found, same⟩ := Option.map_eq_some_iff.mp ran
    split at same
    · cases same
      exact .unchanged _
    next fresh =>
      cases same
      exact .finalized sessionId id failed entry found fresh
  | entry _ | sessions =>
    cases ran
    exact .unchanged _
  | read id =>
    obtain ⟨entry, found, ⟨⟩⟩ := Option.map_eq_some_iff.mp ran
    exact .unchanged _
  | cleanupResult id =>
    simp only [exec] at ran
    split at ran
    · obtain ⟨result, -, ⟨⟩⟩ := Option.map_eq_some_iff.mp ran
      exact .unchanged _
    · cases ran
      exact .unchanged _
    · cases ran
  | now | install _ | create _ _ | inspect _ _ | approve _ _ _ | accessGenerationZero _ _ _
  | sendIntent _ _ _ _ | sendGrantWithCommitment _ _ _ _ _ | publishAttendedRequest _ _ _
  | loadAttendedApproval _ _ =>
    simp only [exec] at ran
    split at ran
    · cases ran
      exact .unchanged _
    · cases ran

theorem Effect.later (effect : Effect config s action t) : Later s t := by
  cases effect with
  | unchanged => exact .refl _
  | begun state built missing room =>
    refine .of_entries ?_ ?_
    · intro id before found
      refine ⟨before, ?_, .refl _⟩
      exact (List.getElem?_append_left (List.getElem?_eq_some_iff.mp found).1).trans found
    · intro id before found sessionId listed
      have listed := (Table.lookup_insert_alist s.registry.sessions _ sessionId _).symm.trans listed
      split at listed
      · cases listed
        simp at found
      · exact listed
  | evolved _ id entry state found evolves =>
    exact .of_entries (evolves_set found evolves) fun _ _ _ _ listed => listed
  | finalized sessionId id failed entry found fresh =>
    exact .of_entries (evolves_set found (.refl _)) fun _ _ _ _ listed => listed

theorem Effect.cleaning (effect : Effect config s action t) (cleaning : s.cleaning id) :
    t.cleaning id := by
  cases effect with
  | unchanged => exact cleaning
  | begun state built missing room =>
    obtain ⟨entry, found, started⟩ := cleaning
    refine ⟨entry, ?_, started⟩
    exact (List.getElem?_append_left (List.getElem?_eq_some_iff.mp found).1).trans found
  | evolved _ place entry state found evolves =>
    refine cleaning_set found rfl ?_ cleaning
    exact fun kept => kept
  | finalized sessionId place failed entry found fresh =>
    exact cleaning_set found rfl (fun _ => rfl) cleaning

/-- **Finalizing starts the clean-up.** -/
theorem finalize_cleaning {sessionId : SessionId} {failed : Bool} {reply : Unit}
    (ran : s.finalize sessionId id failed = some (reply, t)) : t.cleaning id := by
  obtain ⟨entry, found, same⟩ := Option.map_eq_some_iff.mp ran
  split at same
  next receipt started =>
    cases same
    exact ⟨entry, found, started ▸ rfl⟩
  · cases same
    exact ⟨_, List.getElem?_set_self (List.getElem?_eq_some_iff.mp found).1, rfl⟩

/-! ### What a clean-up does -/

variable (config : WanSessionCoordinatorConfig) (s : Shared) (id : EntryId) (entry : SessionEntry)
  (receipt : CleanupReceipt) in
/-- **Everything a step of a clean-up can do to the shared state.** -/
inductive CleanupEffect : Shared → Prop
  | called (call : CleanupCall) (rest : List CleanupCall)
      (firstError : Option WanSessionCoordinatorError) : receipt.pending = call :: rest →
      CleanupEffect
        { s.setReceipt id entry { receipt with pending := rest, firstError := firstError } with
          calls := s.calls ++ [(id, call)] }
  | noted (firstError : Option WanSessionCoordinatorError) (result : Option Cleanup) :
      CleanupEffect
        (s.setReceipt id entry { receipt with firstError := firstError, result := result })
  | retired : receipt.pending = [] → receipt.recorded = false → CleanupEffect
      { s.setReceipt id entry { receipt with recorded := true } with
        registry := s.registry.retire config receipt.sessionId }

theorem background_effect {event : CleanupEvent} (ran : background config s event = some t) :
    ∃ (id : EntryId) (entry : SessionEntry) (receipt : CleanupReceipt), s.entries[id]? = some entry ∧
      entry.cleanupReceipt = some receipt ∧ CleanupEffect config s id entry receipt t := by
  obtain ⟨entry, found, ran⟩ := Option.bind_eq_some_iff.mp ran
  obtain ⟨receipt, started, ran⟩ := Option.bind_eq_some_iff.mp ran
  refine ⟨event.entry, entry, receipt, found, started, ?_⟩
  cases event with
  | called id result =>
    simp only [CleanupEvent.perform] at ran
    split at ran
    · cases ran
    next call rest pending =>
      cases ran
      exact .called call rest _ pending
  | joined id error =>
    simp only [CleanupEvent.perform] at ran
    split at ran
    · cases ran
      exact .noted _ receipt.result
    · cases ran
  | recorded id =>
    simp only [CleanupEvent.perform] at ran
    split at ran
    next due =>
      cases ran
      exact .retired due.1 due.2
    · cases ran
  | published id =>
    simp only [CleanupEvent.perform] at ran
    split at ran
    · cases ran
      exact .noted receipt.firstError _
    · cases ran

theorem lookup_evict {limit : Nat} {sessions : AList fun _ : SessionId => EntryId}
    {order : List SessionId} {sessionId : SessionId}
    (listed : (evict limit sessions order).1.lookup sessionId = some id) :
    sessions.lookup sessionId = some id := by
  induction order generalizing sessions with
  | nil => exact listed
  | cons expired rest ih =>
    rw [evict] at listed
    split at listed
    · have listed := ih listed
      rw [Table.lookup_erase_alist] at listed
      split at listed
      · cases listed
      · exact listed
    · exact listed

variable {receipt : CleanupReceipt}

theorem CleanupEffect.later (found : s.entries[id]? = some entry)
    (effect : CleanupEffect config s id entry receipt t) :
    Later s t := by
  cases effect with
  | called | noted => exact .of_entries (evolves_set found (.refl _)) fun _ _ _ _ listed => listed
  | retired => exact .of_entries (evolves_set found (.refl _)) fun _ _ _ _ listed => lookup_evict listed

theorem CleanupEffect.cleaning {place : EntryId} (found : s.entries[id]? = some entry)
    (effect : CleanupEffect config s id entry receipt t) (cleaning : s.cleaning place) :
    t.cleaning place := by
  cases effect with
  | called | noted | retired => exact cleaning_set found rfl (fun _ => rfl) cleaning

end WanSessionCoordinator

end MiniRemoteDesktop.Wan
