/-
**Streaming permits and the activity flag of the scheduler.**

`SessionSchedulerStats` documents `active_sessions` as the number of sessions that hold a streaming
permit. The flag behind it is one boolean that a grant sets, a destructor clears and
`update_session_state` overwrites, while a session may hold several permits.

* `ActivityIsPermit` — a session is active exactly when it holds a live permit of its generation.
* `KeepsActivity` — **the steps that keep it**: an update writes what the permits say, a destructor
  finds the lock free exactly when its permit is the last one, and a registration issues a
  generation that no live permit of the session carries.
-/

import MiniRemoteDesktop.Session.Scheduler

namespace MiniRemoteDesktop.Session

open Execution

namespace SessionScheduler

/-! ### Conservation of the permits -/

/-- Every permit of the semaphore is free, being handed out, or live. -/
def Conserves (maxConcurrentStreams : Nat) (scheduler : SessionScheduler) : Prop :=
  scheduler.availablePermits + scheduler.permits.length + scheduler.handedOut.length =
    maxConcurrentStreams

variable {scheduler : SessionScheduler}

variable {maxConcurrentStreams : Nat} {after : SessionScheduler} {label : SchedulerLabel}

theorem effect_conserves (conserves : Conserves maxConcurrentStreams scheduler)
    (effect : Effect scheduler label after) : Conserves maxConcurrentStreams after := by
  unfold Conserves at conserves ⊢
  cases effect with
  | obtained waits free =>
    simp only [obtainPermit, List.length_cons]
    omega
  | granted holds =>
    have fewer := List.length_erase_of_mem holds
    have positive := List.length_pos_of_mem holds
    simp only [List.length_cons]
    omega
  | rejected holds | gaveUpPermit holds =>
    have fewer := List.length_erase_of_mem holds
    have positive := List.length_pos_of_mem holds
    simp only [returnPermit]
    omega
  | released live | releasedAndMarked live =>
    have fewer := List.length_erase_of_mem live
    have positive := List.length_pos_of_mem live
    simp only
    omega
  | _ => exact conserves

theorem reach_conserves {idleTimeout : Nat} {allowed : SessionScheduler → SchedulerLabel → Prop}
    (reach : Reach step allowed (new maxConcurrentStreams idleTimeout) scheduler) :
    Conserves maxConcurrentStreams scheduler :=
  reach.invariant (I := Conserves maxConcurrentStreams) rfl
    fun _ _ _ conserves _ taken => effect_conserves conserves (step_effect taken)

/-! ### Activity -/

/-- A live permit of this registration of the session. -/
def HoldsPermit (permits : List StreamingPermit) (sessionId : SessionId) (generation : Nat) : Prop :=
  ∃ permit ∈ permits, permit.sessionId = sessionId ∧ permit.generation = generation

/-- **Active means holding a permit.** -/
def ActivityIsPermit (scheduler : SessionScheduler) : Prop :=
  ∀ sessionId session, scheduler.sessions.lookup sessionId = some session →
    (session.isActive = true ↔ HoldsPermit scheduler.permits sessionId session.generation)

/-- **The steps that keep the activity flags truthful.** -/
def KeepsActivity (scheduler : SessionScheduler) : SchedulerLabel → Prop
  | .registerSession sessionId _ =>
    scheduler.sessions.lookup sessionId = none →
      ¬ HoldsPermit scheduler.permits sessionId scheduler.nextSessionGeneration
  | .updateSessionState sessionId state _ =>
    ∀ session, scheduler.sessions.lookup sessionId = some session →
      (state = .streaming ↔ HoldsPermit scheduler.permits sessionId session.generation)
  | .dropPermit permit contended =>
    ∀ session, scheduler.sessions.lookup permit.sessionId = some session →
      session.generation = permit.generation →
      (contended = false ↔
        ¬ HoldsPermit (scheduler.permits.erase permit) permit.sessionId permit.generation)
  | _ => True

variable {permits : List StreamingPermit} {sessionId : SessionId}

variable {permit : StreamingPermit}

theorem holdsPermit_cons {generation : Nat} :
    HoldsPermit (permit :: permits) sessionId generation ↔
      (permit.sessionId = sessionId ∧ permit.generation = generation) ∨
        HoldsPermit permits sessionId generation := by
  simp [HoldsPermit]

/-- Taking a permit away changes nothing for the registrations it does not belong to. -/
theorem holdsPermit_erase_other {generation : Nat}
    (other : ¬ (permit.sessionId = sessionId ∧ permit.generation = generation)) :
    HoldsPermit (permits.erase permit) sessionId generation ↔
      HoldsPermit permits sessionId generation := by
  constructor
  · rintro ⟨held, member, same⟩
    exact ⟨held, List.mem_of_mem_erase member, same⟩
  · rintro ⟨held, member, same⟩
    refine ⟨held, (List.mem_erase_of_ne ?_).mpr member, same⟩
    rintro rfl
    exact other same

variable {session : ScheduledSession}

/-- **Writing one session** keeps the flags truthful exactly when what is written is. -/
theorem activity_insert {sessions : Sessions}
    (others : ∀ other entry, other ≠ sessionId → sessions.lookup other = some entry →
      (entry.isActive = true ↔ HoldsPermit permits other entry.generation))
    (written : scheduler.sessions = sessions.insert sessionId session)
    (live : scheduler.permits = permits) :
    ActivityIsPermit scheduler ↔
      (session.isActive = true ↔ HoldsPermit permits sessionId session.generation) := by
  constructor
  · intro truthful
    have entry := truthful sessionId session (by rw [written, AList.lookup_insert])
    rwa [live] at entry
  · intro entry probe value found
    rw [written, Table.lookup_insert_alist] at found
    rw [live]
    by_cases same : probe = sessionId
    · rw [if_pos same] at found
      cases found
      simp [same, entry]
    · rw [if_neg same] at found
      exact others probe value same found

/-- What stays registered, with the permits as they were, stays truthful. -/
theorem activity_shrinks (truthful : ActivityIsPermit scheduler)
    (live : after.permits = scheduler.permits)
    (kept : ∀ sessionId session, after.sessions.lookup sessionId = some session →
      scheduler.sessions.lookup sessionId = some session) :
    ActivityIsPermit after := by
  intro sessionId session found
  rw [live]
  exact truthful sessionId session (kept sessionId session found)

/-- A permit is dropped without a write: truthful exactly when the registration it belongs to, if it
is still there, holds another one. -/
theorem activity_released (truthful : ActivityIsPermit scheduler) (live : permit ∈ scheduler.permits) :
    ActivityIsPermit { scheduler with
          availablePermits := scheduler.availablePermits + 1
          permits := scheduler.permits.erase permit } ↔
      ∀ session, scheduler.sessions.lookup permit.sessionId = some session →
        session.generation = permit.generation →
        HoldsPermit (scheduler.permits.erase permit) permit.sessionId permit.generation := by
  constructor
  · intro after session found current
    have active := (truthful permit.sessionId session found).mpr ⟨permit, live, rfl, current.symm⟩
    rw [← current]
    exact (after permit.sessionId session found).mp active
  · intro another sessionId session found
    by_cases own : permit.sessionId = sessionId ∧ permit.generation = session.generation
    · obtain ⟨rfl, current⟩ := own
      have still := another session found current.symm
      rw [current] at still
      refine ⟨fun _ => still, fun _ => ?_⟩
      exact (truthful _ session found).mpr ⟨permit, live, rfl, current⟩
    · simpa [holdsPermit_erase_other own] using truthful sessionId session found

/-- **One step from a truthful state** is truthful exactly when it is one of `KeepsActivity`. -/
theorem effect_activity (truthful : ActivityIsPermit scheduler)
    (effect : Effect scheduler label after) :
    ActivityIsPermit after ↔ KeepsActivity scheduler label := by
  cases effect with
  | alreadyRegistered occupied =>
    refine iff_of_true truthful fun vacant => ?_
    simp [occupied] at vacant
  | updateRefused missing =>
    refine iff_of_true truthful fun session found => ?_
    simp [missing] at found
  | notRegistered | requestRefused => exact iff_of_true truthful trivial
  | registered vacant =>
    refine (activity_insert ?_ rfl rfl).trans ?_
    · exact fun other entry _ registered => truthful other entry registered
    · simp [ScheduledSession.new, KeepsActivity, vacant]
  | unregistered =>
    refine iff_of_true (activity_shrinks truthful rfl fun probe entry found => ?_) trivial
    rw [Table.lookup_erase_alist] at found
    exact (Option.ite_none_left_eq_some.mp found).2
  | @requested sessionId now session found =>
    refine iff_of_true ((activity_insert ?_ rfl rfl).mpr ?_) trivial
    · exact fun other entry _ registered => truthful other entry registered
    · exact truthful sessionId session found
  | obtained | rejected | gaveUpWaiting | gaveUpPermit =>
    exact iff_of_true (activity_shrinks truthful rfl fun _ _ found => found) trivial
  | @granted request session holds found current =>
    refine iff_of_true ((activity_insert ?_ rfl rfl).mpr ?_) trivial
    · intro other entry different registered
      rw [holdsPermit_cons, truthful other entry registered]
      exact ⟨.inr, fun held => held.resolve_left fun same => different same.1.symm⟩
    · rw [holdsPermit_cons]
      exact iff_of_true rfl (.inl ⟨rfl, current.symm⟩)
  | @released permit contended live silent =>
    rw [activity_released truthful live]
    constructor
    · intro another session found current
      have blocked : contended = true :=
        silent.resolve_right fun stale => stale session found current
      rw [blocked]
      exact iff_of_false (by decide) (not_not_intro (another session found current))
    · intro keeps session found current
      have blocked : contended = true :=
        silent.resolve_right fun stale => stale session found current
      by_contra last
      have free := (keeps session found current).mpr last
      simp [blocked] at free
  | @releasedAndMarked permit session live found current =>
    refine (activity_insert ?_ rfl rfl).trans ?_
    · intro other entry different registered
      rw [holdsPermit_erase_other fun same => different same.1.symm]
      exact truthful other entry registered
    · rw [current]
      constructor
      · intro entry other registered _
        exact iff_of_true rfl fun held => Bool.false_ne_true (entry.mpr held)
      · intro keeps
        exact iff_of_false Bool.false_ne_true ((keeps session found current).mp rfl)
  | @updated sessionId state now session found =>
    refine (activity_insert ?_ rfl rfl).trans ?_
    · exact fun other entry _ registered => truthful other entry registered
    · simp [KeepsActivity, found]
  | pruned =>
    refine iff_of_true (activity_shrinks truthful rfl fun probe entry found => ?_) trivial
    rw [Table.lookup_eraseAll] at found
    exact (Option.ite_none_left_eq_some.mp found).2

theorem reach_activity {idleTimeout : Nat}
    (reach : Reach step KeepsActivity (new maxConcurrentStreams idleTimeout) scheduler) :
    ActivityIsPermit scheduler := by
  refine reach.invariant ?_ fun _ _ _ truthful keeps taken =>
    (effect_activity truthful (step_effect taken)).mpr keeps
  intro sessionId session found
  simp [new] at found

/-! ### What truthful flags give -/

/-- **Pruning spares the holders of permits.** -/
theorem prune_spares_holders (truthful : ActivityIsPermit scheduler) {now : Nat}
    (found : scheduler.sessions.lookup sessionId = some session)
    (removed : sessionId ∈ (scheduler.pruneIdleSessions now).1) :
    ¬ HoldsPermit scheduler.permits sessionId session.generation := by
  obtain ⟨entry, registered, idle⟩ := mem_idleSessions.mp removed
  rw [found] at registered
  cases registered
  rw [← truthful sessionId session found]
  simp only [ScheduledSession.isIdle, Bool.and_eq_true, Bool.not_eq_true'] at idle
  simp [idle.1]

/-- **The active sessions are no more than the live permits.** -/
theorem streamingCount_le_permits (truthful : ActivityIsPermit scheduler) :
    scheduler.streamingCount ≤ scheduler.permits.length := by
  have distinct : scheduler.activeSessions.Nodup :=
    (List.filter_sublist.map Sigma.fst).nodup scheduler.sessions.keys_nodup
  have covered : scheduler.activeSessions ⊆ scheduler.permits.map StreamingPermit.sessionId := by
    intro sessionId member
    obtain ⟨⟨key, session⟩, listed, rfl⟩ := List.mem_map.mp member
    obtain ⟨listed, active⟩ := List.mem_filter.mp listed
    obtain ⟨permit, live, same, -⟩ :=
      (truthful key session ((Table.mem_entries_alist _ _ _).mp listed)).mp active
    exact List.mem_map.mpr ⟨permit, live, same⟩
  have fewer := (List.subperm_of_subset distinct covered).length_le
  rwa [activeSessions, List.length_map, List.length_map] at fewer

/-- **Activity of the scheduler.** The permits are conserved in every interleaving. Along a run whose
steps all keep the activity flags truthful, a session is active exactly when it holds a permit of
its generation, so that pruning removes no holder and the active sessions stay within the limit; and
the first step that is not of that kind leaves a flag that says otherwise. -/
theorem scheduler_activity (maxConcurrentStreams idleTimeout : Nat) :
    (∀ scheduler, Reach step always (new maxConcurrentStreams idleTimeout) scheduler →
      scheduler.availablePermits + scheduler.permits.length + scheduler.handedOut.length =
        maxConcurrentStreams) ∧
    ∀ scheduler, Reach step KeepsActivity (new maxConcurrentStreams idleTimeout) scheduler →
      ActivityIsPermit scheduler ∧
      (∀ now sessionId session, scheduler.sessions.lookup sessionId = some session →
        sessionId ∈ (scheduler.pruneIdleSessions now).1 →
        ¬ HoldsPermit scheduler.permits sessionId session.generation) ∧
      scheduler.stats.activeSessions ≤ maxConcurrentStreams ∧
      ∀ label after, step scheduler label = some after →
        (ActivityIsPermit after ↔ KeepsActivity scheduler label) := by
  refine ⟨fun scheduler reach => reach_conserves reach, fun scheduler reach => ?_⟩
  have truthful := reach_activity reach
  refine ⟨truthful, fun now sessionId session found removed =>
    prune_spares_holders truthful found removed, ?_, fun label after taken =>
    effect_activity truthful (step_effect taken)⟩
  have conserves := reach_conserves reach
  have fewer := streamingCount_le_permits truthful
  unfold Conserves at conserves
  simp only [stats]
  omega

/-- A session takes both permits; the first destructor finds the lock held, the second finds it free. -/
theorem scheduler_activity_of_one_session : ∃ scheduler,
    Reach step KeepsActivity (new 2 0) scheduler ∧ scheduler.availablePermits = 2 ∧
      ActivityIsPermit scheduler := by
  let session : SessionId := ⟨"s"⟩
  let permit : StreamingPermit := ⟨session, 0, 0⟩
  have next (label : SchedulerLabel) {before after : SessionScheduler}
      (reach : Reach step KeepsActivity (new 2 0) before) (keeps : before.KeepsActivity label)
      (taken : step before label = some after) := reach.tail keeps taken
  have registered := next (.registerSession session 0) .refl (fun _ ⟨_, member, _⟩ => nomatch member) rfl
  have first := next (.grantPermit ⟨session, 0, 0⟩) (next (.obtainPermit ⟨session, 0, 0⟩)
    (next (.requestPermit session 0) registered trivial rfl) trivial rfl) trivial rfl
  have second := next (.grantPermit ⟨session, 0, 0⟩) (next (.obtainPermit ⟨session, 0, 0⟩)
    (next (.requestPermit session 0) first trivial rfl) trivial rfl) trivial rfl
  have one := next (.dropPermit permit true) second
    (fun _ _ _ => iff_of_false Bool.noConfusion fun none => none ⟨permit, .head _, rfl, rfl⟩) rfl
  have both := next (.dropPermit permit false) one
    (fun _ _ _ => iff_of_true rfl fun ⟨_, member, _⟩ => nomatch member) rfl
  exact ⟨_, both, rfl, ((scheduler_activity 2 0).2 _ both).1⟩

/-- **Two permits of one session, one of them dropped**: the other one is live, the session is not
active, and an idle pass removes it. -/
theorem dropping_one_of_two_permits_deactivates :
    ¬ ∀ scheduler, Reach step always (new 2 0) scheduler → ActivityIsPermit scheduler := by
  intro truthful
  let session : SessionId := ⟨"s"⟩
  let request : PermitRequest := ⟨session, 0, 0⟩
  let permit : StreamingPermit := ⟨session, 0, 0⟩
  let labels : List SchedulerLabel :=
    [.registerSession session 0, .requestPermit session 0, .obtainPermit request,
      .grantPermit request, .requestPermit session 0, .obtainPermit request, .grantPermit request,
      .dropPermit permit false]
  obtain ⟨scheduler, ran⟩ : ∃ scheduler, run step (new 2 0) labels = some scheduler :=
    Option.isSome_iff_exists.mp (by decide)
  have final : (run step (new 2 0) labels).map (fun scheduler =>
      ((scheduler.sessions.lookup session).map
        fun entry => (entry.isActive, entry.generation), scheduler.permits)) =
      some (some (false, 0), [permit]) := by decide
  rw [ran, Option.map_some, Option.some.injEq, Prod.mk.injEq, Option.map_eq_some_iff] at final
  obtain ⟨⟨entry, found, flags⟩, live⟩ := final
  rw [Prod.mk.injEq] at flags
  have active := (truthful scheduler (run_reach ran) session entry found).mpr
    ⟨permit, by rw [live]; exact List.mem_singleton_self permit, rfl, flags.2.symm⟩
  simp [flags.1] at active

end SessionScheduler

end MiniRemoteDesktop.Session
