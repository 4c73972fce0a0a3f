/-
**Coalescing of mouse moves.**

A registry drops a move that repeats the session's own last one. The cursor is shared by every
session: when another session has moved it in the meantime, the dropped move was not a repetition
for the cursor.

`SentMoves` reads the sent operations alone: who is frozen, the last move each session sent since
its pointer was released, and the last move anyone sent. A `Crossing` is a move of a session that
repeats its own last one while the last move of all was elsewhere.

* `performWith_tracks` — the registry's cache and freeze set are those of the sent operations, with
  or without coalescing.
* `performWith_cursor` — one call moves the cursor unless it drops the move.
-/

import MiniRemoteDesktop.Input.Holders

namespace MiniRemoteDesktop.Input

/-! ### What was sent -/

abbrev Point := Int32 × Int32

/-- **What the sent operations say about moves.** -/
structure SentMoves where
  frozen : Finset SessionId
  ownMove : SessionId → Option Point
  lastMove : Option Point

open SentMoves

namespace SentMoves

def start : SentMoves := ⟨∅, fun _ => none, none⟩

def forget (sent : SentMoves) (sessionId : SessionId) : SentMoves :=
  { sent with ownMove := Function.update sent.ownMove sessionId none }

def event (sent : SentMoves) (sessionId : SessionId) (event : ControlInputEvent)
    (releaseScope : Option ControlInputScope) : SentMoves :=
  match event with
  | .mouseMove x y =>
    if sessionId ∈ sent.frozen then sent
    else
      { sent with
        ownMove := Function.update sent.ownMove sessionId (some (x, y))
        lastMove := some (x, y) }
  | .releaseAll => if releaseScope = some .keyboard then sent else sent.forget sessionId
  | _ => sent

def observe (sent : SentMoves) : ControlInputRegistry.Operation → SentMoves
  | .handleSessionEvent sessionId event => sent.event sessionId event none
  | .handleAuthenticatedSessionEvent sessionId scope event => sent.event sessionId event (some scope)
  | .releaseSessionScope sessionId scope => if scope = .pointer then sent.forget sessionId else sent
  | .releaseSessionAll sessionId => sent.forget sessionId
  | .releaseAllSessions => { sent with ownMove := fun _ => none }
  | .freezeSessionForMigration sessionId =>
    { sent.forget sessionId with frozen := insert sessionId sent.frozen }
  | .thawSessionAfterMigration sessionId => { sent with frozen := sent.frozen.erase sessionId }

/-- The moves sent by a run of calls. -/
def ofCalls (calls : List (IterationOrder × ControlInputRegistry.Operation)) : SentMoves :=
  calls.foldl (fun sent call => sent.observe call.2) start

end SentMoves

/-- The move an operation sends, and who sends it. -/
def ControlInputRegistry.Operation.move? :
    ControlInputRegistry.Operation → Option (SessionId × Point)
  | .handleSessionEvent sessionId (.mouseMove x y)
  | .handleAuthenticatedSessionEvent sessionId _ (.mouseMove x y) => some (sessionId, (x, y))
  | _ => none

/-- **A crossing**: a session that is not frozen repeats its own last move, while the last move of
all sessions went elsewhere. -/
def Crossing (sent : SentMoves) (operation : ControlInputRegistry.Operation) : Prop :=
  ∃ sessionId point, operation.move? = some (sessionId, point) ∧ sessionId ∉ sent.frozen ∧
    sent.ownMove sessionId = some point ∧ sent.lastMove ≠ some point

/-- The coordinates of a mouse move. -/
def InputEvent.point? : InputEvent → Option Point
  | .mouseMove x y => some (x, y)
  | _ => none

namespace ControlInputRegistry

variable {σ : Type} (injector : InputInjector σ) (order : IterationOrder)

/-! ### The cursor -/

/-- **The cursor**: the coordinates of the last move the device accepted. -/
def cursor (registry : ControlInputRegistry σ) : Option Point :=
  registry.recorded.findSome? InputEvent.point?

/-- What releases leave alone: who is frozen, and the cursor. -/
def frozenAndCursor (registry : ControlInputRegistry σ) : Finset SessionId × Option Point :=
  (registry.migrationFrozenSessions, registry.cursor)

open Procedure

theorem transitionSession_frame (sessionId : SessionId) (input : HeldInput) (pressed : Bool)
    (registry : ControlInputRegistry σ) :
    frozenAndCursor (transitionSession injector sessionId input pressed registry).1 =
        frozenAndCursor registry ∧
      (transitionSession injector sessionId input pressed registry).1.lastRealtimeMouseMoveBySession =
        registry.lastRealtimeMouseMoveBySession := by
  have outcome := transitionSession_outcome injector registry sessionId input pressed
  generalize transitionSession injector sessionId input pressed registry = result at outcome
  cases outcome with
  | idle | refused => exact ⟨rfl, rfl⟩
  | moved device physical _ _ =>
    refine ⟨?_, rfl⟩
    cases physical <;> cases input <;> rfl

theorem resetInputIfIdle_frame (registry : ControlInputRegistry σ) :
    frozenAndCursor (resetInputIfIdle injector registry) = frozenAndCursor registry ∧
      (resetInputIfIdle injector registry).lastRealtimeMouseMoveBySession =
        registry.lastRealtimeMouseMoveBySession := by
  unfold resetInputIfIdle
  split <;> exact ⟨rfl, rfl⟩

theorem releaseSteps_frozenAndCursor : ReleaseSteps injector (Framing frozenAndCursor) where
  transition sessionId input pressed registry :=
    (transitionSession_frame injector sessionId input pressed registry).1
  reset registry := (resetInputIfIdle_frame injector registry).1
  forget _ _ := rfl

/-! ### The cache -/

/-- The cached move of a session. -/
def cached (registry : ControlInputRegistry σ) (sessionId : SessionId) : Option Point :=
  registry.lastRealtimeMouseMoveBySession.lookup sessionId

theorem heldSteps_cached : HeldSteps injector (Framing cached) where
  transition sessionId input pressed registry := by
    show cached _ = cached _
    unfold cached
    rw [(transitionSession_frame injector sessionId input pressed registry).2]
  reset registry := by
    show cached _ = cached _
    unfold cached
    rw [(resetInputIfIdle_frame injector registry).2]

theorem cached_forgetMouseMove (registry : ControlInputRegistry σ) (sessionId : SessionId) :
    cached (forgetMouseMove sessionId registry) = Function.update (cached registry) sessionId none := by
  funext probe
  unfold cached forgetMouseMove
  rw [Table.lookup_erase_eq, Function.update_apply]

theorem releaseSessionScope_cached (sessionId : SessionId) (scope : ControlInputScope)
    (registry : ControlInputRegistry σ) :
    cached (releaseSessionScope injector order sessionId scope registry).1 =
      if scope = .pointer then Function.update (cached registry) sessionId none
      else cached registry := by
  cases scope with
  | pointer =>
    rw [if_pos rfl, ← cached_forgetMouseMove]
    exact (heldSteps_cached injector).releaseHeld order sessionId .pointer _
  | keyboard =>
    rw [if_neg nofun]
    exact (heldSteps_cached injector).releaseHeld order sessionId .keyboard registry

theorem releaseSessionAll_cached (sessionId : SessionId) (registry : ControlInputRegistry σ) :
    cached (releaseSessionAll injector order sessionId registry).1 =
      Function.update (cached registry) sessionId none := by
  have pointer := releaseSessionScope_cached injector order sessionId .pointer registry
  rw [if_pos rfl] at pointer
  rw [← pointer]
  have rest : ∀ count, Moves (Framing cached) (do
      let keyboard ← releaseSessionScope injector order sessionId .keyboard
      return saturatingAdd32 count keyboard) := fun count =>
    .bind ((heldSteps_cached injector).releaseHeld order sessionId .keyboard) fun _ => .pure _
  unfold releaseSessionAll
  simp only [bind, andThen]
  rcases releaseSessionScope injector order sessionId .pointer registry with ⟨after, error | count⟩
  · rfl
  · exact rest count after

/-- A cached move stays or is forgotten. -/
def Shrinks (first second : ControlInputRegistry σ) : Prop :=
  ∀ sessionId, cached second sessionId = none ∨ cached second sessionId = cached first sessionId

instance : IsPreorder (ControlInputRegistry σ) Shrinks where
  refl _ _ := .inr rfl
  trans _ _ _ first second sessionId := by
    rcases second sessionId with gone | kept
    · exact .inl gone
    · simp [kept, first sessionId]

theorem releaseSteps_shrinks : ReleaseSteps injector Shrinks where
  transition sessionId input pressed registry probe :=
    .inr (congrFun ((heldSteps_cached injector).transition sessionId input pressed registry) probe)
  reset registry probe := .inr (congrFun ((heldSteps_cached injector).reset registry) probe)
  forget sessionId registry probe := by
    rw [cached_forgetMouseMove, Function.update_apply]
    split
    · exact .inl rfl
    · exact .inr rfl

/-- A round never stops, and forgets the move of every pending session. -/
theorem forEach_releasePending (pending : List SessionId) (round : ReleaseRound)
    (registry : ControlInputRegistry σ) :
    ∃ after round', Procedure.forEach (releasePending injector order) pending round registry =
        (after, .ok round') ∧ Shrinks registry after ∧
      ∀ sessionId ∈ pending, cached after sessionId = none := by
  induction pending generalizing round registry with
  | nil => exact ⟨registry, round, rfl, refl_of Shrinks registry, nofun⟩
  | cons sessionId rest ih =>
    have answered : ∃ round', releasePending injector order sessionId round registry =
        ((releaseSessionAll injector order sessionId registry).1, .ok round') := by
      unfold releasePending
      simp only [bind, andThen, attempt]
      cases (releaseSessionAll injector order sessionId registry).2 <;> exact ⟨_, rfl⟩
    obtain ⟨middle, answered⟩ := answered
    obtain ⟨after, round', ran, shrinks, forgotten⟩ :=
      ih middle (releaseSessionAll injector order sessionId registry).1
    have first := (releaseSteps_shrinks injector).releaseSessionAll order sessionId registry
    refine ⟨after, round', ?_, trans_of Shrinks first shrinks, ?_⟩
    · simp [Procedure.forEach, bind, andThen, answered, ran]
    · intro probe member
      rcases List.mem_cons.mp member with same | inRest
      · have gone : cached (releaseSessionAll injector order sessionId registry).1 probe = none := by
          simp [releaseSessionAll_cached, same]
        rcases shrinks probe with none | kept
        · exact none
        · rw [kept, gone]
      · exact forgotten probe inRest

theorem releaseAllSessions_cached (registry : ControlInputRegistry σ) (sessionId : SessionId) :
    cached (releaseAllSessions injector order registry).1 sessionId = none := by
  let pending := registry.pressedBySession.keys ∪ registry.lastRealtimeMouseMoveBySession.keys
  obtain ⟨after, round, ran, shrinks, forgotten⟩ := forEach_releasePending injector order
    (pending.sort (· ≤ ·)) ⟨0, none, []⟩ registry
  -- After the first round nothing is cached any more; the later rounds only forget.
  have first : cached after sessionId = none := by
    by_cases member : sessionId ∈ pending
    · exact forgotten sessionId ((Finset.mem_sort _).mpr member)
    · rcases shrinks sessionId with gone | kept
      · exact gone
      · rw [kept]
        refine Finmap.lookup_eq_none.mpr fun present => member ?_
        exact Finset.mem_union_right _ (Finmap.mem_keys.mpr present)
  have later : Moves Shrinks (if round.retry = [] then pure round.released
      else releaseRounds injector order 2 round.retry round.released round.lastError) := by
    split
    · exact .pure _
    · exact (releaseSteps_shrinks injector).releaseRounds order 2 _ _ _
  have rounds : (releaseAllSessions injector order registry).1 =
      ((if round.retry = [] then pure round.released
        else releaseRounds injector order 2 round.retry round.released round.lastError :
        Method σ Nat) after).1 := by
    simp only [releaseAllSessions, releaseRounds, bind, andThen, Procedure.read]
    rw [ran]
  rw [rounds]
  rcases later after sessionId with gone | kept
  · exact gone
  · rw [kept, first]

/-! ### Events -/

variable (lane : ControlInputLane) (coalescing : Bool)
  (count : ControlLaneCounters → ControlLaneCounters)

@[simp] theorem frozenAndCursor_countLane (registry : ControlInputRegistry σ) :
    frozenAndCursor (countLane lane count registry) = frozenAndCursor registry := by
  cases lane <;> rfl

@[simp] theorem cached_countLane (registry : ControlInputRegistry σ) :
    cached (countLane lane count registry) = cached registry := by
  cases lane <;> rfl

/-- The registry's cursor and cache after an event are the old ones. -/
def Unmoved (registry after : ControlInputRegistry σ) : Prop :=
  frozenAndCursor after = frozenAndCursor registry ∧ cached after = cached registry

instance : IsPreorder (ControlInputRegistry σ) Unmoved where
  refl _ := ⟨rfl, rfl⟩
  trans _ _ _ first second := ⟨second.1.trans first.1, second.2.trans first.2⟩

theorem countLane_unmoved (registry : ControlInputRegistry σ) :
    Unmoved registry (countLane lane count registry) :=
  ⟨frozenAndCursor_countLane .., cached_countLane ..⟩

theorem inject_unmoved {input : InputEvent} (pointless : input.point? = none) :
    Moves Unmoved (inject injector input) := by
  intro before
  unfold inject
  split
  · refine ⟨?_, rfl⟩
    simp [frozenAndCursor, cursor, pointless]
  · exact ⟨rfl, rfl⟩

theorem shouldCoalesce_mouseMove (registry : ControlInputRegistry σ) (sessionId : SessionId)
    (x y : Int32) : registry.shouldCoalesceRealtimeEvent (some sessionId) (.mouseMove x y) ↔
      cached registry sessionId = some (x, y) := by
  exact beq_iff_eq

variable {after : ControlInputRegistry σ}

/-- **A mouse move**: refused, dropped, or applied to the cursor and the cache. -/
theorem handleEventWith_mouseMove (succeeds : ∀ state event, (injector.inject state event).2 = .ok ())
    (coalescing : Bool) (registry : ControlInputRegistry σ) (sessionId : SessionId) (x y : Int32)
    (releaseScope : Option ControlInputScope)
    (left : (handleEventWith injector order coalescing (some sessionId) (.mouseMove x y)
      releaseScope registry).1 = after) :
    if sessionId ∈ registry.migrationFrozenSessions ∨
        (coalescing = true ∧ cached registry sessionId = some (x, y)) then Unmoved registry after
    else frozenAndCursor after = (registry.migrationFrozenSessions, some (x, y)) ∧
      cached after = Function.update (cached registry) sessionId (some (x, y)) := by
  have outcome := handleEventWith_outcome injector order coalescing registry sessionId
    (.mouseMove x y) releaseScope
  generalize handleEventWith injector order coalescing (some sessionId) (.mouseMove x y) releaseScope
    registry = result at outcome left
  subst left
  -- The device accepts the move, so dispatching it records it.
  have dispatched : ∀ before : ControlInputRegistry σ, ∃ device,
      dispatch injector order (some sessionId) (.mouseMove x y) releaseScope before =
        ({ before with injector := device, recorded := .mouseMove x y :: before.recorded }, .ok 1) := by
    intro before
    have accepted := succeeds before.injector (.mouseMove x y)
    simp only [dispatch, inputEventFromIpc, injectSessionInput, bind, andThen, inject]
    rcases answer : injector.inject before.injector (.mouseMove x y) with ⟨device, error | value⟩
    · simp [answer] at accepted
    · exact ⟨device, rfl⟩
  cases outcome with
  | frozen count _ frozen _ =>
    rw [if_pos (.inl frozen)]
    exact countLane_unmoved ..
  | coalesced count _ _ on should =>
    rw [if_pos (.inr ⟨on, (shouldCoalesce_mouseMove ..).mp should⟩)]
    exact countLane_unmoved ..
  | handled before count eventCount middle _ admitted fresh ran =>
    rw [shouldCoalesce_mouseMove] at fresh
    have free := admitted.resolve_right (by rintro ⟨⟩)
    rw [if_neg (not_or.mpr ⟨free, fresh⟩)]
    obtain ⟨device, run⟩ := dispatched (countLane (inputLane (.mouseMove x y)) before registry)
    rw [run] at ran
    cases ran
    refine ⟨frozenAndCursor_countLane .., ?_⟩
    rw [cached_countLane]
    funext probe
    unfold cached recordSuccessfulRealtimeEvent
    rw [Table.lookup_insert_eq, Function.update_apply]
    rfl
  | failed before _ _ _ _ _ ran =>
    obtain ⟨device, run⟩ := dispatched (countLane (inputLane (.mouseMove x y)) before registry)
    simp [run] at ran

theorem handleEventWith_releaseAll (registry : ControlInputRegistry σ) (sessionId : SessionId)
    (releaseScope : Option ControlInputScope)
    (left : (handleEventWith injector order coalescing (some sessionId) .releaseAll releaseScope
      registry).1 = after) :
    frozenAndCursor after = frozenAndCursor registry ∧
      cached after = if releaseScope = some .keyboard then cached registry
        else Function.update (cached registry) sessionId none := by
  have outcome := handleEventWith_outcome injector order coalescing registry sessionId .releaseAll
    releaseScope
  generalize handleEventWith injector order coalescing (some sessionId) .releaseAll releaseScope
    registry = result at outcome left
  subst left
  have dispatched : ∀ before : ControlInputRegistry σ,
      frozenAndCursor (dispatch injector order (some sessionId) .releaseAll releaseScope before).1 =
          frozenAndCursor before ∧
        cached (dispatch injector order (some sessionId) .releaseAll releaseScope before).1 =
          if releaseScope = some .keyboard then cached before
          else Function.update (cached before) sessionId none := by
    intro before
    rcases releaseScope with none | scope
    · refine ⟨(releaseSteps_frozenAndCursor injector).releaseSessionAll order sessionId before, ?_⟩
      exact releaseSessionAll_cached injector order sessionId before
    · refine ⟨(releaseSteps_frozenAndCursor injector).releaseSessionScope order sessionId scope before, ?_⟩
      have forgotten := releaseSessionScope_cached injector order sessionId scope before
      cases scope <;> exact forgotten
  have recorded : ∀ middle : ControlInputRegistry σ,
      frozenAndCursor (recordSuccessfulRealtimeEvent (some sessionId) .releaseAll releaseScope middle) =
          frozenAndCursor middle ∧
        cached (recordSuccessfulRealtimeEvent (some sessionId) .releaseAll releaseScope middle) =
          if releaseScope = some .keyboard then cached middle
          else Function.update (cached middle) sessionId none := by
    intro middle
    rcases releaseScope with none | _ | _
    · exact ⟨rfl, cached_forgetMouseMove ..⟩
    · exact ⟨rfl, cached_forgetMouseMove ..⟩
    · exact ⟨rfl, rfl⟩
  cases outcome with
  | frozen _ _ _ other => exact (other rfl).elim
  | coalesced _ _ _ _ should => cases should
  | handled before count eventCount middle _ _ _ ran =>
    have effect := dispatched (countLane (inputLane .releaseAll) before registry)
    rw [ran, frozenAndCursor_countLane, cached_countLane] at effect
    rw [frozenAndCursor_countLane, cached_countLane, (recorded middle).1, (recorded middle).2,
      effect.1, effect.2]
    refine ⟨rfl, ?_⟩
    split
    · rfl
    · simp
  | failed before count middle _ _ _ ran =>
    have effect := dispatched (countLane (inputLane .releaseAll) before registry)
    rw [ran, frozenAndCursor_countLane, cached_countLane] at effect
    simp [effect]

/-- An event that is neither a move nor a release leaves cursor and cache alone. -/
theorem handleEventWith_other (registry : ControlInputRegistry σ) (sessionId : SessionId)
    {event : ControlInputEvent} (releaseScope : Option ControlInputScope)
    (left : (handleEventWith injector order coalescing (some sessionId) event releaseScope
      registry).1 = after)
    (noMove : ∀ x y, event ≠ .mouseMove x y) (noRelease : event ≠ .releaseAll) :
    Unmoved registry after := by
  have outcome := handleEventWith_outcome injector order coalescing registry sessionId event
    releaseScope
  generalize handleEventWith injector order coalescing (some sessionId) event releaseScope
    registry = result at outcome left
  subst left
  have dispatched : Moves Unmoved (dispatch injector order (some sessionId) event releaseScope) := by
    cases event with
    | mouseMove x y => exact (noMove x y rfl).elim
    | releaseAll => exact (noRelease rfl).elim
    | mouseButton _ pressed | key _ pressed =>
      intro before
      refine ⟨(transitionSession_frame injector sessionId _ pressed before).1, ?_⟩
      exact (heldSteps_cached injector).transition sessionId _ pressed before
    | mouseWheel _ | mouseHorizontalWheel _ =>
      exact .bind (inject_unmoved injector rfl) fun _ => .pure _
  have recorded : ∀ middle : ControlInputRegistry σ,
      recordSuccessfulRealtimeEvent (some sessionId) event releaseScope middle = middle := by
    intro middle
    cases event with
    | mouseMove x y => exact (noMove x y rfl).elim
    | releaseAll => exact (noRelease rfl).elim
    | mouseButton _ _ | key _ _ | mouseWheel _ | mouseHorizontalWheel _ => rfl
  cases outcome with
  | frozen | coalesced => exact countLane_unmoved ..
  | handled before count eventCount middle _ _ _ ran =>
    have effect := dispatched (countLane (inputLane event) before registry)
    rw [ran] at effect
    rw [recorded]
    exact trans_of Unmoved (countLane_unmoved ..) (trans_of Unmoved effect (countLane_unmoved ..))
  | failed before count middle _ _ _ ran =>
    have effect := dispatched (countLane (inputLane event) before registry)
    rw [ran] at effect
    exact trans_of Unmoved (countLane_unmoved ..) (trans_of Unmoved effect (countLane_unmoved ..))

/-! ### The registry follows what was sent -/

/-- The registry's freeze set and cache are those of the sent operations. -/
structure Tracks (sent : SentMoves) (registry : ControlInputRegistry σ) : Prop where
  frozen : registry.migrationFrozenSessions = sent.frozen
  own : cached registry = sent.ownMove

/-- The move of an operation repeats the sender's own last one. -/
def Repeats (sent : SentMoves) (operation : Operation) : Prop :=
  ∃ sessionId point, operation.move? = some (sessionId, point) ∧ sessionId ∉ sent.frozen ∧
    sent.ownMove sessionId = some point

/-- Where an operation leaves a cursor, if its move is not dropped. -/
def moved (sent : SentMoves) (operation : Operation) (cursor : Option Point) : Option Point :=
  match operation.move? with
  | some (sessionId, point) => if sessionId ∈ sent.frozen then cursor else some point
  | none => cursor

/-- What one call must do to a registry that tracks `sent`. -/
def Follows (coalescing : Bool) (sent : SentMoves) (operation : Operation)
    (registry after : ControlInputRegistry σ) : Prop :=
  Tracks (sent.observe operation) after ∧
    (coalescing = true ∧ Repeats sent operation → after.cursor = registry.cursor) ∧
    (¬ (coalescing = true ∧ Repeats sent operation) →
      after.cursor = moved sent operation registry.cursor)

variable {registry : ControlInputRegistry σ}

variable {sent : SentMoves} {operation : Operation}

theorem follows_of_still {coalescing : Bool} (still : operation.move? = none)
    (tracks : Tracks (sent.observe operation) after) (same : after.cursor = registry.cursor) :
    Follows coalescing sent operation registry after := by
  refine ⟨tracks, fun _ => same, fun _ => ?_⟩
  simp [moved, still, same]

/-- The event of a session, for either way of sending it. -/
theorem follows_event (succeeds : ∀ state event, (injector.inject state event).2 = .ok ())
    (coalescing : Bool) (tracks : Tracks sent registry) (sessionId : SessionId)
    (event : ControlInputEvent) (releaseScope : Option ControlInputScope)
    (observed : sent.observe operation = sent.event sessionId event releaseScope)
    (move : ∀ x y, event = .mouseMove x y → operation.move? = some (sessionId, (x, y)))
    (still : (∀ x y, event ≠ .mouseMove x y) → operation.move? = none) :
    Follows coalescing sent operation registry
      (handleEventWith injector order coalescing (some sessionId) event releaseScope registry).1 := by
  generalize left :
    (handleEventWith injector order coalescing (some sessionId) event releaseScope registry).1 = after
  cases event with
  | mouseMove x y =>
    have effect := handleEventWith_mouseMove injector order succeeds coalescing registry sessionId x y
      releaseScope left
    have sends := move x y rfl
    have repeats : Repeats sent operation ↔ sessionId ∉ registry.migrationFrozenSessions ∧
        cached registry sessionId = some (x, y) := by
      rw [tracks.frozen, tracks.own]
      unfold Repeats
      rw [sends]
      constructor
      · rintro ⟨_, _, ⟨⟩, free, own⟩
        exact ⟨free, own⟩
      · rintro ⟨free, own⟩
        exact ⟨sessionId, (x, y), rfl, free, own⟩
    unfold Follows moved
    rw [observed, sends, repeats]
    unfold event
    simp only [← tracks.frozen]
    by_cases frozen : sessionId ∈ registry.migrationFrozenSessions
    · rw [if_pos (.inl frozen)] at effect
      simp only [frozen, if_true, not_true_eq_false, false_and, and_false, false_imp_iff,
        not_false_eq_true, true_imp_iff, true_and]
      obtain ⟨pair, cache⟩ := effect
      obtain ⟨sameFrozen, sameCursor⟩ := Prod.mk.inj pair
      exact ⟨⟨sameFrozen.trans tracks.frozen, cache.trans tracks.own⟩, sameCursor⟩
    · simp only [frozen, if_false, not_false_eq_true, true_and]
      by_cases dropped : coalescing = true ∧ cached registry sessionId = some (x, y)
      · rw [if_pos (.inr dropped)] at effect
        obtain ⟨pair, cache⟩ := effect
        obtain ⟨sameFrozen, sameCursor⟩ := Prod.mk.inj pair
        refine ⟨⟨sameFrozen, ?_⟩, fun _ => sameCursor, fun kept => (kept dropped).elim⟩
        rw [cache, tracks.own]
        exact (Function.update_eq_self_iff.mpr (by rw [← tracks.own, dropped.2])).symm
      · rw [if_neg (not_or.mpr ⟨frozen, dropped⟩)] at effect
        obtain ⟨pair, cache⟩ := effect
        obtain ⟨sameFrozen, newCursor⟩ := Prod.mk.inj pair
        refine ⟨⟨sameFrozen, ?_⟩, fun repeated => (dropped repeated).elim, fun _ => newCursor⟩
        rw [cache, tracks.own]
  | releaseAll =>
    obtain ⟨pair, cache⟩ := handleEventWith_releaseAll injector order coalescing registry sessionId
      releaseScope left
    obtain ⟨sameFrozen, sameCursor⟩ := Prod.mk.inj pair
    refine follows_of_still (still nofun) ?_ sameCursor
    rw [observed]
    unfold event
    simp only
    split
    next keyboard =>
      rw [if_pos keyboard] at cache
      exact ⟨sameFrozen.trans tracks.frozen, cache.trans tracks.own⟩
    next pointer =>
      rw [if_neg pointer] at cache
      exact ⟨sameFrozen.trans tracks.frozen, by rw [cache, tracks.own]; rfl⟩
  | mouseButton _ _ | key _ _ | mouseWheel _ | mouseHorizontalWheel _ =>
    obtain ⟨pair, cache⟩ := handleEventWith_other injector order coalescing registry sessionId
      releaseScope left nofun nofun
    obtain ⟨sameFrozen, sameCursor⟩ := Prod.mk.inj pair
    refine follows_of_still (still nofun) ?_ sameCursor
    rw [observed]
    exact ⟨sameFrozen.trans tracks.frozen, cache.trans tracks.own⟩

/-- **One call follows what was sent**, whatever it is. -/
theorem performWith_follows (succeeds : ∀ state event, (injector.inject state event).2 = .ok ())
    (coalescing : Bool) (tracks : Tracks sent registry) (operation : Operation) :
    Follows coalescing sent operation registry
      (performWith injector order coalescing registry operation) := by
  cases operation with
  | handleSessionEvent sessionId event =>
    refine follows_event injector order succeeds coalescing tracks sessionId event none rfl ?_ ?_
    · rintro x y rfl
      rfl
    · intro other
      cases event <;> first | rfl | exact (other _ _ rfl).elim
  | handleAuthenticatedSessionEvent sessionId scope event =>
    refine follows_event injector order succeeds coalescing tracks sessionId event (some scope) rfl ?_ ?_
    · rintro x y rfl
      rfl
    · intro other
      cases event <;> first | rfl | exact (other _ _ rfl).elim
  | releaseSessionScope sessionId scope =>
    have pair := (releaseSteps_frozenAndCursor injector).releaseSessionScope order sessionId scope registry
    have cache := releaseSessionScope_cached injector order sessionId scope registry
    obtain ⟨sameFrozen, sameCursor⟩ := Prod.mk.inj pair
    refine follows_of_still rfl ?_ sameCursor
    cases scope with
    | pointer =>
      rw [if_pos rfl, tracks.own] at cache
      exact ⟨sameFrozen.trans tracks.frozen, cache⟩
    | keyboard => exact ⟨sameFrozen.trans tracks.frozen, cache.trans tracks.own⟩
  | releaseSessionAll sessionId =>
    have pair := (releaseSteps_frozenAndCursor injector).releaseSessionAll order sessionId registry
    have cache := releaseSessionAll_cached injector order sessionId registry
    obtain ⟨sameFrozen, sameCursor⟩ := Prod.mk.inj pair
    refine follows_of_still rfl ⟨sameFrozen.trans tracks.frozen, ?_⟩ sameCursor
    rw [tracks.own] at cache
    exact cache
  | releaseAllSessions =>
    have pair := (releaseSteps_frozenAndCursor injector).releaseAllSessions order registry
    obtain ⟨sameFrozen, sameCursor⟩ := Prod.mk.inj pair
    refine follows_of_still rfl ⟨sameFrozen.trans tracks.frozen, ?_⟩ sameCursor
    funext sessionId
    exact releaseAllSessions_cached injector order registry sessionId
  | freezeSessionForMigration sessionId =>
    have pair := (releaseSteps_frozenAndCursor injector).releaseSessionAll order sessionId registry
    have cache := releaseSessionAll_cached injector order sessionId registry
    obtain ⟨sameFrozen, sameCursor⟩ := Prod.mk.inj pair
    rw [tracks.own] at cache
    have frozen : (freezeSessionForMigration injector order sessionId registry).1 =
        { (releaseSessionAll injector order sessionId registry).1 with
          migrationFrozenSessions := insert sessionId
            (releaseSessionAll injector order sessionId registry).1.migrationFrozenSessions } := by
      simp only [freezeSessionForMigration, bind, andThen, attempt, change]
      cases (releaseSessionAll injector order sessionId registry).2 <;> rfl
    rw [performWith, frozen]
    refine follows_of_still rfl ⟨?_, cache⟩ sameCursor
    show insert sessionId _ = insert sessionId _
    rw [sameFrozen, tracks.frozen]
  | thawSessionAfterMigration sessionId =>
    refine follows_of_still rfl ⟨?_, tracks.own⟩ rfl
    show registry.migrationFrozenSessions.erase sessionId = _
    rw [tracks.frozen]
    rfl

/-! ### Runs -/

theorem observe_lastMove (sent : SentMoves) (operation : Operation) :
    (sent.observe operation).lastMove = moved sent operation sent.lastMove := by
  have event : ∀ sessionId (event : ControlInputEvent) releaseScope,
      (sent.event sessionId event releaseScope).lastMove =
        moved sent (.handleSessionEvent sessionId event) sent.lastMove := by
    intro sessionId event releaseScope
    cases event with
    | mouseMove x y =>
      show (if sessionId ∈ sent.frozen then sent else _).lastMove =
        if sessionId ∈ sent.frozen then sent.lastMove else some (x, y)
      by_cases frozen : sessionId ∈ sent.frozen
      · simp [frozen]
      · simp [frozen]
    | releaseAll =>
      show (if releaseScope = some .keyboard then sent else sent.forget sessionId).lastMove =
        sent.lastMove
      by_cases keyboard : releaseScope = some .keyboard
      · simp [keyboard]
      · rw [if_neg keyboard]
        rfl
    | mouseButton _ _ | key _ _ | mouseWheel _ | mouseHorizontalWheel _ => rfl
  cases operation with
  | handleSessionEvent sessionId sentEvent =>
    exact event sessionId sentEvent none
  | handleAuthenticatedSessionEvent sessionId scope sentEvent =>
    refine (event sessionId sentEvent (some scope)).trans ?_
    cases sentEvent <;> rfl
  | releaseSessionScope sessionId scope => cases scope <;> rfl
  | releaseSessionAll _ | releaseAllSessions | freezeSessionForMigration _
  | thawSessionAfterMigration _ => rfl

theorem crossing_iff (repeats : Repeats sent operation) :
    Crossing sent operation ↔ moved sent operation sent.lastMove ≠ sent.lastMove := by
  obtain ⟨sessionId, point, sends, free, own⟩ := repeats
  unfold Crossing moved
  rw [sends]
  simp only [free, if_false]
  constructor
  · rintro ⟨_, _, ⟨⟩, _, _, elsewhere⟩
    exact elsewhere.symm
  · intro elsewhere
    exact ⟨sessionId, point, rfl, free, own, elsewhere.symm⟩

theorem start_tracks (device : σ) : Tracks .start (withInjector device) :=
  ⟨rfl, funext fun _ => rfl⟩

theorem runWith_snoc (registry : ControlInputRegistry σ) (calls : List (IterationOrder × Operation))
    (call : IterationOrder × Operation) :
    runWith injector coalescing registry (calls ++ [call]) =
      performWith injector call.1 coalescing (runWith injector coalescing registry calls) call.2 := by
  simp [runWith]

theorem ofCalls_snoc (calls : List (IterationOrder × Operation)) (call : IterationOrder × Operation) :
    ofCalls (calls ++ [call]) = (ofCalls calls).observe call.2 := by
  simp [ofCalls]

theorem runWith_tracks (succeeds : ∀ state event, (injector.inject state event).2 = .ok ())
    (coalescing : Bool) (device : σ) (calls : List (IterationOrder × Operation)) :
    Tracks (ofCalls calls) (runWith injector coalescing (withInjector device) calls) := by
  induction calls using List.reverseRecOn with
  | nil => exact start_tracks device
  | append_singleton calls call ih =>
    rw [runWith_snoc, ofCalls_snoc]
    exact (performWith_follows injector call.1 succeeds coalescing ih call.2).1

/-- Without coalescing the cursor is where the last move was sent. -/
theorem runWith_plain_cursor (succeeds : ∀ state event, (injector.inject state event).2 = .ok ())
    (device : σ) (calls : List (IterationOrder × Operation)) :
    (runWith injector false (withInjector device) calls).cursor = (ofCalls calls).lastMove := by
  induction calls using List.reverseRecOn with
  | nil => rfl
  | append_singleton calls call ih =>
    have tracks := runWith_tracks injector succeeds false device calls
    have follows := (performWith_follows injector call.1 succeeds false tracks call.2).2.2
    rw [runWith_snoc, ofCalls_snoc, observe_lastMove, follows nofun, ih]

/-- **Coalescing cannot be observed in a run**: after each of its calls the cursor is where the
registry without coalescing has it, and a move is dropped only onto the cursor. -/
structure Unobservable (device : σ) (calls : List (IterationOrder × Operation)) : Prop where
  cursor : ∀ before after, calls = before ++ after →
    (run injector (withInjector device) before).cursor =
      (runWith injector false (withInjector device) before).cursor
  dropped : ∀ before call after, calls = before ++ call :: after →
    ∀ sessionId x y, call.2.move? = some (sessionId, (x, y)) →
      let registry := run injector (withInjector device) before
      sessionId ∉ registry.migrationFrozenSessions →
      registry.shouldCoalesceRealtimeEvent (some sessionId) (.mouseMove x y) →
      registry.cursor = some (x, y)

/-- No call of a run is a crossing. -/
def NoCrossing (calls : List (IterationOrder × Operation)) : Prop :=
  ∀ before call after, calls = before ++ call :: after → ¬ Crossing (ofCalls before) call.2

/-- In a run without crossings the cursor is where the last move was sent. -/
theorem run_cursor (succeeds : ∀ state event, (injector.inject state event).2 = .ok ())
    (device : σ) {calls : List (IterationOrder × Operation)} (noCrossing : NoCrossing calls) :
    (run injector (withInjector device) calls).cursor = (ofCalls calls).lastMove := by
  induction calls using List.reverseRecOn with
  | nil => rfl
  | append_singleton calls call ih =>
    have earlier : NoCrossing calls := by
      intro before other after split
      exact noCrossing before other (after ++ [call]) (by rw [split, List.append_assoc]; rfl)
    have tracks := runWith_tracks injector succeeds true device calls
    obtain ⟨_, repeated, kept⟩ := performWith_follows injector call.1 succeeds true tracks call.2
    have ih := ih earlier
    unfold run at ih ⊢
    rw [runWith_snoc, ofCalls_snoc, observe_lastMove]
    by_cases repeats : Repeats (ofCalls calls) call.2
    · have same := not_not.mp (mt (crossing_iff repeats).mpr (noCrossing calls call [] rfl))
      rw [repeated ⟨rfl, repeats⟩, ih, same]
    · rw [kept fun both => repeats both.2, ih]

/-- **When coalescing cannot be observed.** With a device that always succeeds, exactly the runs
without a crossing are those in which dropping moves makes no difference. -/
theorem coalescing_unobservable_iff
    (succeeds : ∀ state event, (injector.inject state event).2 = .ok ()) (device : σ)
    (calls : List (IterationOrder × Operation)) :
    Unobservable injector device calls ↔ NoCrossing calls := by
  constructor
  · intro unobservable before call after split crossing
    obtain ⟨sessionId, point, sends, free, own, elsewhere⟩ := crossing
    have repeats : Repeats (ofCalls before) call.2 := ⟨sessionId, point, sends, free, own⟩
    have here := unobservable.cursor before (call :: after) split
    have next := unobservable.cursor (before ++ [call]) after (by rw [split, List.append_assoc]; rfl)
    have tracks := runWith_tracks injector succeeds true device before
    have dropped := (performWith_follows injector call.1 succeeds true tracks call.2).2.1 ⟨rfl, repeats⟩
    rw [runWith_plain_cursor injector succeeds] at here next
    rw [run, runWith_snoc, dropped, ofCalls_snoc, observe_lastMove] at next
    rw [run, next] at here
    exact (crossing_iff repeats).mp ⟨sessionId, point, sends, free, own, elsewhere⟩ here
  · intro noCrossing
    have earlier : ∀ before after, calls = before ++ after → NoCrossing before := by
      intro before after split first call rest inner
      exact noCrossing first call (rest ++ after) (by rw [split, inner, List.append_assoc]; rfl)
    refine ⟨fun before after split => ?_, ?_⟩
    · rw [run_cursor injector succeeds device (earlier before after split),
        runWith_plain_cursor injector succeeds]
    · intro before call after split sessionId x y sends registry free coalesces
      have tracks := runWith_tracks injector succeeds true device before
      rw [shouldCoalesce_mouseMove] at coalesces
      have own : (ofCalls before).ownMove sessionId = some (x, y) := by
        rw [← tracks.own]
        exact coalesces
      have admitted : sessionId ∉ (ofCalls before).frozen := by
        rw [← tracks.frozen]
        exact free
      by_contra elsewhere
      rw [run_cursor injector succeeds device (earlier before (call :: after) split)] at elsewhere
      exact noCrossing before call after split ⟨sessionId, (x, y), sends, admitted, own, elsewhere⟩

/-! ### Two sessions and one cursor -/

/-- `RecordingInputInjector::available`: every event succeeds. -/
def recordingInputInjector : InputInjector (List InputEvent) where
  inject recorded event := (recorded ++ [event], .ok ())
  resetIdleState recorded := recorded

/-- Some iteration order; a run of mouse moves iterates nothing. -/
noncomputable def someOrder : IterationOrder where
  buttons _ set := set.toList
  keys _ set := set.toList
  buttonsExact _ set := ⟨set.nodup_toList, fun _ => Finset.mem_toList⟩
  keysExact _ set := ⟨set.nodup_toList, fun _ => Finset.mem_toList⟩

/-- One session moves to `(10, 20)`, another to `(50, 50)`, and the first sends its move again. -/
noncomputable def crossingRun : List (IterationOrder × Operation) :=
  [(someOrder, .handleSessionEvent ⟨"first"⟩ (.mouseMove 10 20)),
    (someOrder, .handleSessionEvent ⟨"second"⟩ (.mouseMove 50 50)),
    (someOrder, .handleSessionEvent ⟨"first"⟩ (.mouseMove 10 20))]

theorem coalescing_unobservable_iff_crossingRun :
    (∀ state event, (recordingInputInjector.inject state event).2 = .ok ()) ∧
      (Unobservable recordingInputInjector [] crossingRun ↔ NoCrossing crossingRun) :=
  ⟨fun _ _ => rfl, coalescing_unobservable_iff recordingInputInjector (fun _ _ => rfl) [] crossingRun⟩

/-- **The third move is dropped** and the cursor stays at `(50, 50)`; without coalescing it returns
to `(10, 20)`. -/
theorem crossing_moves_cursor_apart :
    ¬ Unobservable recordingInputInjector [] crossingRun := by
  intro unobservable
  have same := unobservable.cursor crossingRun [] rfl
  have coalesced : (run recordingInputInjector (withInjector []) crossingRun).cursor =
      some (50, 50) := by decide
  have plain : (runWith recordingInputInjector false (withInjector []) crossingRun).cursor =
      some (10, 20) := by decide
  simp [coalesced, plain] at same

end ControlInputRegistry

end MiniRemoteDesktop.Input
