/-
**Registrations of the scheduler are kept apart by their generation.**

A session may be removed and registered again under the same identifier while a request waits or a
permit is live. The generation a request has read is compared again before its permit is handed out,
and by the destructor before it clears the activity flag. Generations come from a `u64` counter that
wraps around; `serial` numbers the registrations themselves.

* `effect_retired` — a registration that is gone never comes back, so one that is current at the end
  of a stretch of a run was current all along it.
* `registration_isolation` — **isolation**: a request is granted exactly when the registration it
  was made for is still the current one, and a dropped permit writes to no other registration, as
  long as fewer than `2^64` registrations were made since.
-/

import MiniRemoteDesktop.Session.Scheduler
import Mathlib.Data.Int.ModEq

namespace MiniRemoteDesktop.Session

open Execution

namespace SessionScheduler

/-! ### Where sessions, requests and permits come from -/

/-- The session was registered before, under the same generation and number. -/
def SameRegistration (scheduler : SessionScheduler) (sessionId : SessionId)
    (generation serial : Nat) : Prop :=
  ∃ session, scheduler.sessions.lookup sessionId = some session ∧
    session.generation = generation ∧ session.serial = serial

variable {scheduler : SessionScheduler} {sessionId : SessionId} {session : ScheduledSession}

theorem lookup_rewritten {probe : SessionId} {entry written : ScheduledSession}
    (registered : scheduler.sessions.lookup sessionId = some entry)
    (found : (scheduler.sessions.insert sessionId written).lookup probe = some session)
    (generation : entry.generation = written.generation) (serial : entry.serial = written.serial) :
    SameRegistration scheduler probe session.generation session.serial := by
  rw [Table.lookup_insert_alist] at found
  by_cases same : probe = sessionId
  · rw [if_pos same] at found
    cases found
    exact ⟨entry, by rw [same, registered], generation, serial⟩
  · rw [if_neg same] at found
    exact ⟨session, found, rfl, rfl⟩

variable {after : SessionScheduler} {label : SchedulerLabel}

variable {request : PermitRequest} {permit : StreamingPermit}

section

variable (effect : Effect scheduler label after)
include effect

/-- **A registered session** was registered before the step, or the step has registered it. -/
theorem effect_session {probe : SessionId} (found : after.sessions.lookup probe = some session) :
    SameRegistration scheduler probe session.generation session.serial ∨
      (session.generation = scheduler.nextSessionGeneration ∧ session.serial = scheduler.registrations ∧
        after.registrations = scheduler.registrations + 1) := by
  cases effect with
  | @registered sessionId now vacant =>
    simp only [Table.lookup_insert_alist] at found
    by_cases same : probe = sessionId
    · rw [if_pos same] at found
      cases found
      exact .inr ⟨rfl, rfl, rfl⟩
    · rw [if_neg same] at found
      exact .inl ⟨session, found, rfl, rfl⟩
  | unregistered =>
    rw [Table.lookup_erase_alist] at found
    exact .inl ⟨session, (Option.ite_none_left_eq_some.mp found).2, rfl, rfl⟩
  | requested registered | updated registered =>
    exact .inl (lookup_rewritten registered found rfl rfl)
  | granted _ registered | releasedAndMarked _ registered =>
    exact .inl (lookup_rewritten registered found rfl rfl)
  | pruned =>
    rw [Table.lookup_eraseAll] at found
    exact .inl ⟨session, (Option.ite_none_left_eq_some.mp found).2, rfl, rfl⟩
  | _ => exact .inl ⟨session, found, rfl, rfl⟩

/-- The counter moves with the number of registrations. -/
theorem effect_counter :
    (after.nextSessionGeneration = scheduler.nextSessionGeneration ∧
        after.registrations = scheduler.registrations) ∨
      (after.nextSessionGeneration = (scheduler.nextSessionGeneration + 1) % generationModulus ∧
        after.registrations = scheduler.registrations + 1) := by
  cases effect with
  | registered => exact .inr ⟨rfl, rfl⟩
  | _ => exact .inl ⟨rfl, rfl⟩

/-- **A request** that waits was waiting, or was made for a session that is registered. -/
theorem effect_waiting (waits : request ∈ after.waiting) :
    request ∈ scheduler.waiting ∨
      SameRegistration scheduler request.sessionId request.generation request.serial := by
  cases effect with
  | obtained | gaveUpWaiting => exact .inl (List.mem_of_mem_erase waits)
  | requested registered =>
    rcases List.mem_cons.mp waits with rfl | waits
    · exact .inr ⟨_, registered, rfl, rfl⟩
    · exact .inl waits
  | _ => exact .inl waits

/-- A request that holds a semaphore permit held it, or was waiting for it. -/
theorem effect_handedOut (holds : request ∈ after.handedOut) :
    request ∈ scheduler.handedOut ∨ request ∈ scheduler.waiting := by
  cases effect with
  | granted | rejected | gaveUpPermit => exact .inl (List.mem_of_mem_erase holds)
  | obtained waits =>
    rcases List.mem_cons.mp holds with rfl | holds
    · exact .inr waits
    · exact .inl holds
  | _ =>
    exact .inl holds

/-- A live permit was live, or was handed to a request that held a semaphore permit. -/
theorem effect_permits (live : permit ∈ after.permits) :
    permit ∈ scheduler.permits ∨ ∃ request ∈ scheduler.handedOut,
      permit = ⟨request.sessionId, request.generation, request.serial⟩ := by
  cases effect with
  | released | releasedAndMarked => exact .inl (List.mem_of_mem_erase live)
  | @granted request _ holds =>
    rcases List.mem_cons.mp live with rfl | live
    · exact .inr ⟨request, holds, rfl⟩
    · exact .inl live
  | _ =>
    exact .inl live

end

/-! ### Generations number the registrations -/

/-- **A generation that was issued** for the registration `serial` of a session, which is the current
one of that session or an earlier one. -/
def Issued (scheduler : SessionScheduler) (sessionId : SessionId) (generation serial : Nat) : Prop :=
  generation = serial % generationModulus ∧ serial < scheduler.registrations ∧
    ∀ session, scheduler.sessions.lookup sessionId = some session → serial ≤ session.serial

/-- **Every generation in the state was issued** to a registration of the run. -/
structure Stamped (scheduler : SessionScheduler) : Prop where
  next : scheduler.nextSessionGeneration = scheduler.registrations % generationModulus
  sessions : ∀ sessionId session, scheduler.sessions.lookup sessionId = some session →
    Issued scheduler sessionId session.generation session.serial
  waiting : ∀ request ∈ scheduler.waiting,
    Issued scheduler request.sessionId request.generation request.serial
  handedOut : ∀ request ∈ scheduler.handedOut,
    Issued scheduler request.sessionId request.generation request.serial
  permits : ∀ permit ∈ scheduler.permits,
    Issued scheduler permit.sessionId permit.generation permit.serial

variable {serial : Nat}

theorem Issued.effect {generation : Nat} (issued : Issued scheduler sessionId generation serial)
    (effect : Effect scheduler label after) : Issued after sessionId generation serial := by
  obtain ⟨stamp, made, oldest⟩ := issued
  refine ⟨stamp, ?_, fun session found => ?_⟩
  · rcases effect_counter effect with ⟨-, same⟩ | ⟨-, more⟩ <;> omega
  · rcases effect_session effect found with ⟨entry, registered, -, same⟩ | ⟨-, fresh, -⟩
    · have := oldest entry registered
      omega
    · omega

theorem Stamped.sameRegistration {generation : Nat} (stamped : Stamped scheduler)
    (same : SameRegistration scheduler sessionId generation serial) :
    Issued scheduler sessionId generation serial := by
  obtain ⟨session, registered, rfl, rfl⟩ := same
  exact stamped.sessions sessionId session registered

theorem effect_stamped (stamped : Stamped scheduler) (effect : Effect scheduler label after) :
    Stamped after where
  next := by
    rcases effect_counter effect with ⟨same, none⟩ | ⟨counted, one⟩
    · rw [same, none, stamped.next]
    · rw [counted, one, stamped.next, Nat.mod_add_mod]
  sessions := by
    intro sessionId session found
    rcases effect_session effect found with same | ⟨generation, serial, one⟩
    · exact (stamped.sameRegistration same).effect effect
    · refine ⟨?_, by omega, fun other again => ?_⟩
      · rw [generation, serial, stamped.next]
      · rw [found] at again
        cases again
        exact Nat.le_refl _
  waiting := by
    intro request waits
    rcases effect_waiting effect waits with waited | same
    · exact (stamped.waiting request waited).effect effect
    · exact (stamped.sameRegistration same).effect effect
  handedOut := by
    intro request holds
    rcases effect_handedOut effect holds with held | waited
    · exact (stamped.handedOut request held).effect effect
    · exact (stamped.waiting request waited).effect effect
  permits := by
    intro permit live
    rcases effect_permits effect live with lived | ⟨request, held, rfl⟩
    · exact (stamped.permits permit lived).effect effect
    · exact (stamped.handedOut request held).effect effect

theorem stamped_new (maxConcurrentStreams idleTimeout : Nat) :
    Stamped (new maxConcurrentStreams idleTimeout) where
  next := rfl
  sessions := by
    intro sessionId session found
    simp [new] at found
  waiting := fun _ member => absurd member List.not_mem_nil
  handedOut := fun _ member => absurd member List.not_mem_nil
  permits := fun _ member => absurd member List.not_mem_nil

theorem reach_stamped {maxConcurrentStreams idleTimeout : Nat}
    (reach : Reach step always (new maxConcurrentStreams idleTimeout) scheduler) :
    Stamped scheduler :=
  reach.invariant (stamped_new _ _)
    fun _ _ _ stamped _ taken => effect_stamped stamped (step_effect taken)

/-! ### A registration that is gone stays gone -/

/-- The registration numbered `serial` is the current one of the session. -/
def Current (scheduler : SessionScheduler) (sessionId : SessionId) (serial : Nat) : Prop :=
  ∃ session, scheduler.sessions.lookup sessionId = some session ∧ session.serial = serial

/-- The registration was made and is not the current one any more. -/
def Retired (sessionId : SessionId) (serial : Nat) (scheduler : SessionScheduler) : Prop :=
  serial < scheduler.registrations ∧ ¬ Current scheduler sessionId serial

theorem effect_retired (retired : Retired sessionId serial scheduler)
    (effect : Effect scheduler label after) : Retired sessionId serial after := by
  obtain ⟨past, gone⟩ := retired
  refine ⟨?_, ?_⟩
  · rcases effect_counter effect with ⟨-, same⟩ | ⟨-, more⟩ <;> omega
  · rintro ⟨session, found, rfl⟩
    rcases effect_session effect found with ⟨entry, registered, -, same⟩ | ⟨-, fresh, -⟩
    · exact gone ⟨entry, registered, same⟩
    · omega

/-- **A registration that is current later was current all along.** -/
theorem current_before {later : SessionScheduler} (reach : Reach step always scheduler later)
    (past : serial < scheduler.registrations) (current : Current later sessionId serial) :
    Current scheduler sessionId serial := by
  by_contra gone
  have retired : Retired sessionId serial later :=
    reach.invariant (I := Retired sessionId serial) ⟨past, gone⟩
      fun _ _ _ retired _ taken => effect_retired retired (step_effect taken)
  exact retired.2 current

/-! ### Isolation -/

section

variable {generation : Nat} (issued : Issued scheduler sessionId generation serial)
  (stamped : Stamped scheduler) (window : scheduler.registrations ≤ serial + generationModulus)
include issued stamped window

/-- **The generation tells the registration** for `2^64` registrations after it. -/
theorem Issued.serial_eq (found : scheduler.sessions.lookup sessionId = some session)
    (same : session.generation = generation) : session.serial = serial := by
  obtain ⟨stamp, -, oldest⟩ := issued
  obtain ⟨again, made, -⟩ := stamped.sessions sessionId session found
  have older := oldest session found
  have divides : generationModulus ∣ session.serial - serial :=
    (Nat.modEq_iff_dvd' older).mp (show serial % _ = session.serial % _ by rw [← stamp, ← again, same])
  have zero := Nat.eq_zero_of_dvd_of_lt divides (by omega)
  omega

theorem Issued.current_iff :
    (∃ session, scheduler.sessions.lookup sessionId = some session ∧
        session.generation = generation) ↔ Current scheduler sessionId serial := by
  constructor
  · rintro ⟨session, found, same⟩
    exact ⟨session, found, issued.serial_eq stamped window found same⟩
  · rintro ⟨session, found, same⟩
    refine ⟨session, found, ?_⟩
    rw [issued.1, (stamped.sessions sessionId session found).1, same]

end

theorem dropPermit_lookup_other {contended : Bool} (live : permit ∈ scheduler.permits)
    (found : scheduler.sessions.lookup sessionId = some session)
    (other : ¬ (sessionId = permit.sessionId ∧ session.generation = permit.generation)) :
    (scheduler.dropPermit permit contended).sessions.lookup sessionId = some session := by
  have effect := dropPermit_effect live contended
  generalize scheduler.dropPermit permit contended = after at effect
  cases effect with
  | released => exact found
  | releasedAndMarked _ registered current =>
    rw [Table.lookup_insert_alist, if_neg, found]
    rintro rfl
    rw [found] at registered
    cases registered
    exact other ⟨rfl, current⟩

/-- The request waits for the semaphore or holds one of its permits. -/
def Pending (scheduler : SessionScheduler) (request : PermitRequest) : Prop :=
  request ∈ scheduler.waiting ∨ request ∈ scheduler.handedOut

theorem Stamped.pending (stamped : Stamped scheduler) (pending : Pending scheduler request) :
    Issued scheduler request.sessionId request.generation request.serial :=
  pending.elim (stamped.waiting request) (stamped.handedOut request)

/-- **Isolation of the registrations.** In every interleaving: a request carries the registration
that is current when it is made; one that holds a semaphore permit is granted exactly when that
registration is still the current one, which it then was in every state since the request was made,
and otherwise answers `SessionNotFound` and returns the semaphore permit; and dropping a permit
leaves every registration but the one it was granted for as it is. The last two hold as long as at
most `2^64` registrations were made from that one on. -/
theorem registration_isolation (maxConcurrentStreams idleTimeout : Nat) (scheduler : SessionScheduler)
    (reach : Reach step always (new maxConcurrentStreams idleTimeout) scheduler) :
    (∀ sessionId now request, (scheduler.requestPermit sessionId now).1 = .ok request →
      request.sessionId = sessionId ∧ Current scheduler sessionId request.serial) ∧
    (∀ request ∈ scheduler.handedOut, scheduler.registrations ≤ request.serial + generationModulus →
      ((∃ permit, (scheduler.grantPermit request).1 = .ok permit) ↔
        Current scheduler request.sessionId request.serial) ∧
      (∀ permit, (scheduler.grantPermit request).1 = .ok permit →
        permit = ⟨request.sessionId, request.generation, request.serial⟩ ∧
        ∀ earlier, Reach step always (new maxConcurrentStreams idleTimeout) earlier →
          Reach step always earlier scheduler → Pending earlier request →
          Current earlier request.sessionId request.serial) ∧
      (¬ Current scheduler request.sessionId request.serial → scheduler.grantPermit request =
          (.error .sessionNotFound, scheduler.returnPermit request))) ∧
    ∀ permit ∈ scheduler.permits, scheduler.registrations ≤ permit.serial + generationModulus →
      ∀ contended sessionId session, scheduler.sessions.lookup sessionId = some session →
        ¬ (sessionId = permit.sessionId ∧ session.serial = permit.serial) →
        (scheduler.dropPermit permit contended).sessions.lookup sessionId = some session := by
  have stamped := reach_stamped reach
  refine ⟨?_, ?_, ?_⟩
  · intro sessionId now request made
    unfold requestPermit at made
    cases found : scheduler.sessions.lookup sessionId with
    | none =>
      simp [found] at made
    | some session =>
      rw [found] at made
      cases made
      exact ⟨rfl, session, found, rfl⟩
  · intro request holds window
    have issued := stamped.handedOut request holds
    have current_iff := issued.current_iff stamped window
    by_cases current : Current scheduler request.sessionId request.serial
    · obtain ⟨session, found, same⟩ := current_iff.mpr current
      rw [grantPermit_granted found same]
      refine ⟨iff_of_true ⟨_, rfl⟩ current, ?_, fun gone => absurd current gone⟩
      rintro permit ⟨⟩
      refine ⟨rfl, fun earlier before onward pending => ?_⟩
      exact current_before onward ((reach_stamped before).pending pending).2.1 current
    · have stale : ∀ session, scheduler.sessions.lookup request.sessionId = some session →
          session.generation ≠ request.generation :=
        fun session found same => current (current_iff.mp ⟨session, found, same⟩)
      rw [grantPermit_rejected stale]
      refine ⟨iff_of_false ?_ current, ?_, fun _ => rfl⟩
      · rintro ⟨permit, ⟨⟩⟩
      · rintro permit ⟨⟩
  · intro permit live window contended sessionId session found other
    refine dropPermit_lookup_other live found ?_
    rintro ⟨rfl, same⟩
    exact other ⟨rfl, (stamped.permits permit live).serial_eq stamped window found same⟩

/-! ### Where the window ends -/

/-- Registering and unregistering a session in an empty scheduler only moves the counters. -/
theorem registered_and_gone (scheduler : SessionScheduler) (sessionId : SessionId)
    (empty : scheduler.sessions = ∅) :
    Reach step always scheduler { scheduler with
        nextSessionGeneration := (scheduler.nextSessionGeneration + 1) % generationModulus
        registrations := scheduler.registrations + 1 } := by
  have vacant : scheduler.sessions.lookup sessionId = none := by rw [empty, AList.lookup_empty]
  have erased : (scheduler.sessions.insert sessionId
      (.new scheduler.nextSessionGeneration scheduler.registrations 0)).erase sessionId =
      scheduler.sessions := by
    rw [empty]
    refine AList.ext ?_
    simp [AList.erase, AList.singleton]
  have ran : run step scheduler [.registerSession sessionId 0, .unregisterSession sessionId] =
      some { scheduler with
        nextSessionGeneration := (scheduler.nextSessionGeneration + 1) % generationModulus
        registrations := scheduler.registrations + 1 } := by
    simp only [run, step, registerSession, vacant, unregisterSession, AList.lookup_insert, erased,
      Option.bind_some]
  exact run_reach ran

theorem registered_and_gone_repeatedly (scheduler : SessionScheduler) (sessionId : SessionId)
    (empty : scheduler.sessions = ∅)
    (stamp : scheduler.nextSessionGeneration = scheduler.registrations % generationModulus)
    (count : Nat) :
    Reach step always scheduler { scheduler with
        nextSessionGeneration := (scheduler.registrations + count) % generationModulus
        registrations := scheduler.registrations + count } := by
  induction count with
  | zero =>
    simpa [← stamp] using .refl
  | succ count ih =>
    refine ih.trans ?_
    have next := registered_and_gone { scheduler with
        nextSessionGeneration := (scheduler.registrations + count) % generationModulus
        registrations := scheduler.registrations + count } sessionId empty
    rwa [Nat.mod_add_mod] at next

theorem registration_isolation_of_a_first_permit :
    Reach step always (new 1 0) { new 1 0 with
          sessions := (∅ : Sessions).insert ⟨"s"⟩ (.new 0 0 0)
          availablePermits := 0
          nextSessionGeneration := 1
          registrations := 1
          handedOut := [⟨⟨"s"⟩, 0, 0⟩] } ∧
      ∃ permit, (grantPermit { new 1 0 with
          sessions := (∅ : Sessions).insert ⟨"s"⟩ (.new 0 0 0)
          availablePermits := 0
          nextSessionGeneration := 1
          registrations := 1
          handedOut := [⟨⟨"s"⟩, 0, 0⟩] } ⟨⟨"s"⟩, 0, 0⟩).1 = .ok permit := by
  have ran : run step (new 1 0)
      [.registerSession ⟨"s"⟩ 0, .requestPermit ⟨"s"⟩ 0, .obtainPermit ⟨⟨"s"⟩, 0, 0⟩] =
      some { new 1 0 with
        sessions := (∅ : Sessions).insert ⟨"s"⟩ (.new 0 0 0)
        availablePermits := 0
        nextSessionGeneration := 1
        registrations := 1
        handedOut := [⟨⟨"s"⟩, 0, 0⟩] } := rfl
  refine ⟨run_reach ran, ?_⟩
  refine (((registration_isolation 1 0 _ (run_reach ran)).2.1 ⟨⟨"s"⟩, 0, 0⟩ ?_ ?_).1).mpr ?_
  · exact List.mem_singleton_self _
  · decide
  · exact ⟨.new 0 0 0, AList.lookup_insert _, rfl⟩

/-- **After `2^64` registrations the counter issues the generation of the first one again**: a request
made for the first registration is granted while the last one is current. -/
theorem wrapped_generation_is_granted :
    ¬ ∀ scheduler, Reach step always (new 1 0) scheduler → ∀ request ∈ scheduler.handedOut,
      (∃ permit, (scheduler.grantPermit request).1 = .ok permit) →
      Current scheduler request.sessionId request.serial := by
  intro isolated
  let session : SessionId := ⟨"s"⟩
  let request : PermitRequest := ⟨session, 0, 0⟩
  let abandoned : SessionScheduler :=
    { new 1 0 with
      availablePermits := 0
      nextSessionGeneration := 1
      registrations := 1
      handedOut := [request] }
  have ran : run step (new 1 0)
      [.registerSession session 0, .requestPermit session 0, .obtainPermit request,
        .unregisterSession session] = some abandoned := rfl
  let wrapped : SessionScheduler :=
    { abandoned with nextSessionGeneration := 0, registrations := generationModulus }
  have cycled : Reach step always abandoned wrapped := by
    have total : abandoned.registrations + (generationModulus - 1) = generationModulus := by
      decide
    have cycles := registered_and_gone_repeatedly abandoned session rfl (by decide)
      (generationModulus - 1)
    rwa [total, Nat.mod_self] at cycles
  let entry : ScheduledSession := .new 0 generationModulus 0
  let registered : SessionScheduler :=
    { wrapped with
      sessions := (∅ : Sessions).insert session entry
      nextSessionGeneration := 1
      registrations := generationModulus + 1 }
  have taken : step wrapped (.registerSession session 0) = some registered := rfl
  have reach : Reach step always (new 1 0) registered :=
    ((run_reach ran).trans cycled).tail trivial taken
  have found : registered.sessions.lookup session = some entry := AList.lookup_insert _
  have granted : ∃ permit, (registered.grantPermit request).1 = .ok permit :=
    ⟨_, congrArg Prod.fst (grantPermit_granted found rfl)⟩
  obtain ⟨current, again, serial⟩ :=
    isolated registered reach request (List.mem_singleton_self request) granted
  rw [found] at again
  cases again
  exact absurd serial (by decide)

end SessionScheduler

end MiniRemoteDesktop.Session
