/-
**The accounting of the session registry.**

The registry counts the sessions whose clean-up is not recorded yet, and queues the others. It looks
at an entry through two facts only, so its invariant is stated over a `view` of the entries.

* `Registry.Ok` — the map, the counter and the queue agree with the view. `register` and `retire` are
  the only sections that change them, and both keep it.
* `EntryOk` — what an entry and its clean-up have done together.
-/

import MiniRemoteDesktop.Wan.Effects

namespace MiniRemoteDesktop.Wan

namespace WanSessionCoordinator

/-! ### The registry -/

/-- What the registry sees of the entries: whose they are, and whether their clean-up is recorded. -/
def view (entries : List SessionEntry) : List (SessionId × Bool) :=
  entries.map fun entry => (entry.sessionId, entry.retired)

/-- **The map, the counter and the queue agree.** -/
structure Registry.Ok (view : List (SessionId × Bool)) (registry : Registry) : Prop where
  listed : ∀ sessionId id, registry.sessions.lookup sessionId = some id →
    ∃ retired, view[id]? = some (sessionId, retired)
  present : ∀ sessionId id, view[id]? = some (sessionId, false) →
    registry.sessions.lookup sessionId = some id
  queued : ∀ sessionId, sessionId ∈ registry.terminalOrder ↔
    ∃ id, registry.sessions.lookup sessionId = some id ∧ view[id]? = some (sessionId, true)
  distinct : registry.terminalOrder.Nodup
  count : registry.sessions.entries.length = registry.activeSessions + registry.terminalOrder.length

namespace Registry.Ok

variable {view : List (SessionId × Bool)} {registry : Registry} {sessionId : SessionId} {id : EntryId}

theorem not_queued (ok : registry.Ok view) (live : view[id]? = some (sessionId, false)) :
    sessionId ∉ registry.terminalOrder := by
  intro queued
  obtain ⟨other, found, retired⟩ := (ok.queued sessionId).mp queued
  rw [ok.present sessionId id live] at found
  cases found
  simp [live] at retired

theorem register (ok : registry.Ok view) (missing : registry.sessions.lookup sessionId = none) :
    Registry.Ok (view ++ [(sessionId, false)]) { registry with
        sessions := registry.sessions.insert sessionId view.length
        activeSessions := registry.activeSessions + 1 } where
  listed other id found := by
    rw [Table.lookup_insert_alist] at found
    by_cases same : other = sessionId
    · rw [if_pos same] at found
      cases found
      simp [same]
    · rw [if_neg same] at found
      obtain ⟨retired, there⟩ := ok.listed other id found
      rw [List.getElem?_append_left (List.getElem?_eq_some_iff.mp there).1]
      exact ⟨retired, there⟩
  present other id there := by
    rw [Table.lookup_insert_alist]
    by_cases old : id < view.length
    · rw [List.getElem?_append_left old] at there
      have found := ok.present other id there
      rw [if_neg fun same => by rw [same, missing] at found; cases found]
      exact found
    · have place : id = view.length := by
        have inside := (List.getElem?_eq_some_iff.mp there).1
        rw [List.length_append, List.length_singleton] at inside
        exact Nat.le_antisymm (Nat.le_of_lt_succ inside) (Nat.le_of_not_lt old)
      rw [place, List.getElem?_concat_length] at there
      cases there
      simp [place]
  queued other := by
    rw [ok.queued]
    constructor
    · rintro ⟨id, found, there⟩
      refine ⟨id, ?_, ?_⟩
      · rw [Table.lookup_insert_alist, if_neg fun same => by rw [same, missing] at found; cases found]
        exact found
      · simp [List.getElem?_append_left (List.getElem?_eq_some_iff.mp there).1, there]
    · rintro ⟨id, found, there⟩
      rw [Table.lookup_insert_alist] at found
      by_cases same : other = sessionId
      · rw [if_pos same] at found
        cases found
        simp at there
      · rw [if_neg same] at found
        obtain ⟨retired, old⟩ := ok.listed other id found
        rw [List.getElem?_append_left (List.getElem?_eq_some_iff.mp old).1] at there
        exact ⟨id, found, there⟩
  distinct := ok.distinct
  count := by
    show (registry.sessions.insert sessionId view.length).entries.length =
      registry.activeSessions + 1 + registry.terminalOrder.length
    rw [Table.length_entries, Table.weigh_insert_new _ _ missing, ← Table.length_entries, ok.count]
    omega

/-- Recording a clean-up, before the queue is cut to its limit. -/
theorem record (ok : registry.Ok view) (live : view[id]? = some (sessionId, false)) :
    Registry.Ok (view.set id (sessionId, true))
      ⟨registry.sessions, registry.activeSessions - 1, registry.terminalOrder ++ [sessionId]⟩ := by
  have inside := (List.getElem?_eq_some_iff.mp live).1
  have here : (view.set id (sessionId, true))[id]? = some (sessionId, true) :=
    List.getElem?_set_self inside
  have elsewhere : ∀ place, id ≠ place → (view.set id (sessionId, true))[place]? = view[place]? :=
    fun place other => List.getElem?_set_ne other
  have found := ok.present sessionId id live
  have distinct : (registry.terminalOrder ++ [sessionId]).Nodup := by
    refine List.nodup_append.mpr ⟨ok.distinct, List.nodup_singleton _, ?_⟩
    rintro queued member _ last rfl
    exact ok.not_queued live (List.mem_singleton.mp last ▸ member)
  have queued : ∀ other, other ∈ registry.terminalOrder ++ [sessionId] ↔
      ∃ place, registry.sessions.lookup other = some place ∧
        (view.set id (sessionId, true))[place]? = some (other, true) := by
    intro other
    rw [List.mem_append, List.mem_singleton, ok.queued]
    constructor
    · rintro (⟨place, listed, there⟩ | rfl)
      · refine ⟨place, listed, ?_⟩
        rw [elsewhere place fun same => by rw [← same, live] at there; cases there]
        exact there
      · exact ⟨id, found, here⟩
    · rintro ⟨place, listed, there⟩
      by_cases same : id = place
      · subst same
        rw [here] at there
        cases there
        exact .inr rfl
      · rw [elsewhere place same] at there
        exact .inl ⟨place, listed, there⟩
  refine ⟨?_, ?_, queued, distinct, ?_⟩
  · intro other place listed
    obtain ⟨retired, there⟩ := ok.listed other place listed
    by_cases same : id = place
    · subst same
      rw [live] at there
      cases there
      exact ⟨true, here⟩
    · rw [elsewhere place same]
      exact ⟨retired, there⟩
  · intro other place there
    by_cases same : id = place
    · subst same
      simp [here] at there
    · rw [elsewhere place same] at there
      exact ok.present other place there
  · have keys : ∀ key ∈ registry.terminalOrder ++ [sessionId], key ∈ registry.sessions := by
      intro key member
      obtain ⟨place, listed, -⟩ := (queued key).mp member
      simp [← AList.lookup_isSome, listed]
    have enough := Table.length_keys_le distinct keys
    have count := ok.count
    show registry.sessions.entries.length =
      registry.activeSessions - 1 + (registry.terminalOrder ++ [sessionId]).length
    rw [List.length_append, List.length_singleton] at enough ⊢
    omega

variable {sessions : AList fun _ : SessionId => EntryId}

theorem pop {expired : SessionId} {rest : List SessionId} {active : Nat}
    (ok : Registry.Ok view ⟨sessions, active, expired :: rest⟩) :
    Registry.Ok view ⟨sessions.erase expired, active, rest⟩ := by
  obtain ⟨old, found, retired⟩ := (ok.queued expired).mp (.head _)
  obtain ⟨fresh, distinct⟩ := List.nodup_cons.mp ok.distinct
  have kept : ∀ sessionId id, (sessions.erase expired).lookup sessionId = some id ↔
      sessionId ≠ expired ∧ sessions.lookup sessionId = some id := by
    intro sessionId id
    rw [Table.lookup_erase_alist]
    by_cases same : sessionId = expired
    · simp
    · simp
  refine ⟨?_, ?_, ?_, distinct, ?_⟩
  · intro sessionId id listed
    exact ok.listed sessionId id ((kept sessionId id).mp listed).2
  · intro sessionId id live
    refine (kept sessionId id).mpr ⟨?_, ok.present sessionId id live⟩
    rintro rfl
    exact ok.not_queued live (.head _)
  · intro sessionId
    constructor
    · intro member
      obtain ⟨id, listed, there⟩ := (ok.queued sessionId).mp (.tail _ member)
      exact ⟨id, (kept sessionId id).mpr ⟨fun same => fresh (same ▸ member), listed⟩, there⟩
    · rintro ⟨id, listed, there⟩
      obtain ⟨other, listed⟩ := (kept sessionId id).mp listed
      exact (List.mem_cons.mp ((ok.queued sessionId).mpr ⟨id, listed, there⟩)).resolve_left other
  · have count : sessions.entries.length = active + (rest.length + 1) := ok.count
    have found : sessions.lookup expired = some old := found
    have weight := Table.weigh_erase (fun _ => 1) found
    show (sessions.erase expired).entries.length = active + rest.length
    rw [Table.length_entries] at count ⊢
    omega

/-- **Eviction** keeps the agreement and cuts the queue to its limit. -/
theorem evict {limit : Nat} {active : Nat} {order : List SessionId}
    (ok : Registry.Ok view ⟨sessions, active, order⟩) :
    Registry.Ok view ⟨(evict limit sessions order).1, active, (evict limit sessions order).2⟩ ∧
      (WanSessionCoordinator.evict limit sessions order).2.length ≤ limit := by
  induction order generalizing sessions with
  | nil => exact ⟨ok, Nat.zero_le _⟩
  | cons expired rest ih =>
    rw [WanSessionCoordinator.evict]
    split
    · exact ih ok.pop
    next within =>
      exact ⟨ok, Nat.le_of_not_lt within⟩

/-- **The registry section of a clean-up.** -/
theorem retire (config : WanSessionCoordinatorConfig) (ok : registry.Ok view)
    (live : view[id]? = some (sessionId, false)) :
    (registry.retire config sessionId).Ok (view.set id (sessionId, true)) ∧
      (registry.retire config sessionId).terminalOrder.length ≤ config.maxTerminalSessions :=
  (ok.record live).evict

end Registry.Ok

/-! ### Entries and their clean-ups -/

/-- The clean-up calls made for an entry so far. -/
def Shared.callsOf (shared : Shared) (id : EntryId) : List CleanupCall :=
  (shared.calls.filter fun call => call.1 = id).map Prod.snd

/-- **A clean-up that was started** is the one of its entry, and its calls are those of `run_cleanup`.
When the outcomes are looked at, it was started with the right one. -/
structure CleanupOk (flagged : Prop) (entry : SessionEntry) (receipt : CleanupReceipt)
    (calls : List CleanupCall) : Prop where
  session : receipt.sessionId = entry.sessionId
  terminal : entry.state.phase.isTerminal
  reported : flagged → (receipt.failed = true ↔ entry.state.phase = .failed)
  calls : calls ++ receipt.pending = cleanupCalls receipt.failed
  recorded : receipt.recorded = true → receipt.pending = []

structure EntryOk (flagged : Prop) (entry : SessionEntry) (calls : List CleanupCall) : Prop where
  built : entry.state.Built
  idle : entry.cleanupReceipt = none → calls = []
  started : ∀ receipt, entry.cleanupReceipt = some receipt → CleanupOk flagged entry receipt calls

/-- **The invariant of the shared state.** -/
structure Shared.Ok (config : WanSessionCoordinatorConfig) (flagged : Prop) (shared : Shared) :
    Prop where
  registry : shared.registry.Ok (view shared.entries)
  active : shared.registry.activeSessions ≤ config.maxSessions
  retained : shared.registry.terminalOrder.length ≤ config.maxTerminalSessions
  entries : ∀ (id : EntryId) (entry : SessionEntry), shared.entries[id]? = some entry →
    EntryOk flagged entry (shared.callsOf id)
  unborn : ∀ id, shared.entries.length ≤ id → shared.callsOf id = []

/-- What a method has to make sure of before it takes an action: it finalizes a session that is
terminal, with its outcome. Only a `loud` method begins a session. -/
def Required (flagged loud : Prop) (s : Shared) : Action → Prop
  | .finalize sessionId id failed => ∃ entry, s.entries[id]? = some entry ∧
      entry.sessionId = sessionId ∧ entry.state.phase.isTerminal ∧
      (flagged → (failed = true ↔ entry.state.phase = .failed))
  | .begin _ _ => loud
  | _ => True

variable {config : WanSessionCoordinatorConfig} {flagged loud : Prop} {s t : Shared} {id : EntryId}
  {entry next : SessionEntry}

theorem lookup_new (sessionId : SessionId) : Shared.new.registry.sessions.lookup sessionId = none :=
  AList.lookup_empty sessionId

theorem new_ok (config : WanSessionCoordinatorConfig) (flagged : Prop) :
    Shared.new.Ok config flagged where
  registry := by
    refine ⟨?_, ?_, ?_, List.nodup_nil, rfl⟩
    · intro sessionId id found
      simp [lookup_new] at found
    · rintro sessionId id ⟨⟩
    · intro sessionId
      refine ⟨fun member => (List.not_mem_nil member).elim, ?_⟩
      rintro ⟨id, found, -⟩
      simp [lookup_new] at found
  active := Nat.zero_le _
  retained := Nat.zero_le _
  entries id entry found := by cases found
  unborn _ _ := rfl

theorem getElem?_view (found : s.entries[id]? = some entry) :
    (view s.entries)[id]? = some (entry.sessionId, entry.retired) := by
  simp [view, found]

theorem view_set (entries : List SessionEntry) (id : EntryId) (next : SessionEntry) :
    view (entries.set id next) = (view entries).set id (next.sessionId, next.retired) :=
  List.map_set

/-- The registry does not see a change that keeps both facts it looks at. -/
theorem view_same (found : s.entries[id]? = some entry) (session : next.sessionId = entry.sessionId)
    (retired : next.retired = entry.retired) : view (s.entries.set id next) = view s.entries := by
  have here := getElem?_view found
  rw [view_set, session, retired]
  refine List.ext_getElem? fun place => ?_
  rw [List.getElem?_set]
  split
  next same =>
    rw [← same, here, if_pos (List.getElem?_eq_some_iff.mp here).1]
  · rfl

/-- One entry replaced, with the calls of the others as they were. -/
theorem entries_set (calls : EntryId → List CleanupCall) {after : EntryId → List CleanupCall}
    {entries : List SessionEntry}
    (ok : ∀ (id : EntryId) (entry : SessionEntry), entries[id]? = some entry →
      EntryOk flagged entry (calls id))
    (new : EntryOk flagged next (after id)) (others : ∀ place, id ≠ place → after place = calls place)
    (place : EntryId) (entry : SessionEntry) (found : (entries.set id next)[place]? = some entry) :
    EntryOk flagged entry (after place) := by
  rw [List.getElem?_set] at found
  split at found
  next same =>
    split at found
    · cases found
      exact same ▸ new
    · cases found
  next other =>
    rw [others place other]
    exact ok place entry found

theorem outside_of_set {place : EntryId} (outside : (s.entries.set id next).length ≤ place) :
    s.entries.length ≤ place := by
  simpa using outside

theorem Shared.Ok.setEntry (ok : s.Ok config flagged) (found : s.entries[id]? = some entry)
    (session : next.sessionId = entry.sessionId) (retired : next.retired = entry.retired)
    (new : EntryOk flagged next (s.callsOf id)) : (s.setEntry id next).Ok config flagged where
  registry := by
    show s.registry.Ok (view (s.entries.set id next))
    rw [view_same found session retired]
    exact ok.registry
  active := ok.active
  retained := ok.retained
  entries := entries_set s.callsOf ok.entries new fun _ _ => rfl
  unborn place outside := ok.unborn place (outside_of_set outside)

/-! ### Every step keeps the invariant -/

variable {state : WanSessionState}

theorem Shared.Ok.register (ok : s.Ok config flagged) (built : state.Built)
    (missing : s.registry.sessions.lookup state.identity.binding.sessionId = none)
    (room : s.registry.activeSessions < config.maxSessions) :
    (s.register state).Ok config flagged where
  registry := by
    have grown := ok.registry.register missing
    rw [view, List.length_map] at grown
    show Registry.Ok (view (s.entries ++ [⟨state, none⟩])) _
    rw [view, List.map_append]
    exact grown
  active := room
  retained := ok.retained
  entries id entry found := by
    by_cases old : id < s.entries.length
    · exact ok.entries id entry ((List.getElem?_append_left old).symm.trans found)
    · have idle := ok.unborn id (Nat.le_of_not_lt old)
      have found := (List.getElem?_append_right (Nat.le_of_not_lt old)).symm.trans found
      have new := List.mem_singleton.mp (List.mem_of_getElem? found)
      subst new
      exact ⟨built, fun _ => idle, fun _ running => absurd running (Option.some_ne_none _).symm⟩
  unborn id outside := by
    refine ok.unborn id (Nat.le_trans ?_ outside)
    show s.entries.length ≤ (s.entries ++ [_]).length
    simp

variable {receipt : CleanupReceipt}

/-- A clean-up runs in a state that does not change any more. -/
theorem CleanupOk.evolved {calls : List CleanupCall} (ok : CleanupOk flagged entry receipt calls)
    (evolves : entry.state.Evolves state) :
    CleanupOk flagged { entry with state := state } receipt calls := by
  cases evolves.terminal ok.terminal
  exact ok

/-- **An action keeps the invariant.** -/
theorem Effect.ok {action : Action} (effect : Effect config s action t) (ok : s.Ok config flagged)
    (required : Required flagged loud s action) : t.Ok config flagged := by
  cases effect with
  | unchanged => exact ok
  | begun state built missing room => exact ok.register built missing room
  | evolved _ id entry state found evolves =>
    have holds := ok.entries id entry found
    refine ok.setEntry found (Later.sessionId evolves) rfl ⟨evolves.built holds.built, holds.idle, ?_⟩
    intro receipt started
    exact (holds.started receipt started).evolved evolves
  | finalized sessionId id failed entry found fresh =>
    obtain ⟨other, same, session, terminal, reported⟩ := required
    rw [found] at same
    cases same
    have holds := ok.entries id entry found
    refine ok.setEntry found rfl ?_ ⟨holds.built, nofun, ?_⟩
    · rw [SessionEntry.retired, SessionEntry.retired, fresh]
      rfl
    · rintro receipt ⟨⟩
      refine ⟨session.symm, terminal, reported, ?_, nofun⟩
      rw [holds.idle fresh]
      rfl

theorem callsOf_append (calls : List (EntryId × CleanupCall)) (call : CleanupCall) (place : EntryId) :
    Shared.callsOf { s with calls := calls ++ [(id, call)] } place =
      Shared.callsOf { s with calls := calls } place ++ if id = place then [call] else [] := by
  unfold Shared.callsOf
  rw [List.filter_append, List.map_append]
  by_cases same : id = place
  · simp [same]
  · simp [same]

/-- **A step of a clean-up keeps the invariant.** -/
theorem CleanupEffect.ok (found : s.entries[id]? = some entry)
    (started : entry.cleanupReceipt = some receipt)
    (effect : CleanupEffect config s id entry receipt t) (ok : s.Ok config flagged) :
    t.Ok config flagged := by
  have holds := ok.entries id entry found
  have cleanup := holds.started receipt started
  cases effect with
  | called call rest firstError pending =>
    refine ⟨?_, ok.active, ok.retained, ?_, ?_⟩
    · show s.registry.Ok (view (s.entries.set id _))
      rw [view_same found]
      · exact ok.registry
      · rfl
      · simp [SessionEntry.retired, started]
    · refine entries_set s.callsOf ok.entries ⟨holds.built, nofun, ?_⟩ ?_
      · rintro next ⟨⟩
        refine ⟨cleanup.session, cleanup.terminal, cleanup.reported, ?_, fun recorded => ?_⟩
        · rw [callsOf_append, if_pos rfl, List.append_assoc, List.singleton_append, ← pending]
          exact cleanup.calls
        · simp [cleanup.recorded recorded] at pending
      · intro place other
        rw [callsOf_append, if_neg other, List.append_nil]
        rfl
    · intro place outside
      have outside : s.entries.length ≤ place := outside_of_set outside
      have other : id ≠ place := by
        rintro rfl
        simp [List.getElem?_eq_none outside] at found
      rw [callsOf_append, if_neg other, List.append_nil]
      exact ok.unborn place outside
  | noted firstError result =>
    refine ok.setEntry found rfl ?_ ⟨holds.built, nofun, ?_⟩
    · simp [SessionEntry.retired, started]
    · rintro next ⟨⟩
      exact ⟨cleanup.session, cleanup.terminal, cleanup.reported, cleanup.calls, cleanup.recorded⟩
  | retired complete fresh =>
    have live : (view s.entries)[id]? = some (receipt.sessionId, false) := by
      simp [getElem?_view found, cleanup.session, SessionEntry.retired, started, fresh]
    obtain ⟨registry, retained⟩ := ok.registry.retire config live
    refine ⟨?_, ?_, retained, ?_, ?_⟩
    · show Registry.Ok (view (s.entries.set id _)) _
      rw [view_set]
      show Registry.Ok ((view s.entries).set id (entry.sessionId, true)) _
      rw [← cleanup.session]
      exact registry
    · exact (Nat.sub_le _ 1).trans ok.active
    · refine entries_set s.callsOf ok.entries ⟨holds.built, nofun, ?_⟩ fun _ _ => rfl
      rintro next ⟨⟩
      exact ⟨cleanup.session, cleanup.terminal, cleanup.reported, cleanup.calls, fun _ => complete⟩
    · intro place outside
      exact ok.unborn place (outside_of_set outside)

end WanSessionCoordinator

end MiniRemoteDesktop.Wan
