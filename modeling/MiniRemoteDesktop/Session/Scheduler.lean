/-
**The streaming scheduler of `mrd-session`** (`scheduler.rs`).

`SessionScheduler` keeps the registered sessions behind a lock and limits concurrent streaming by a
semaphore. A call of `acquire_streaming_permit` is three steps: it reads the generation of the
session under the lock, waits for a permit of the semaphore, and checks the generation under the lock
again. Everything between two awaits of one call is one step here.

* `registerSession`, `unregisterSession`, `requestPermit`, `grantPermit`, `updateSessionState`,
  `pruneIdleSessions` — the critical sections of the methods.
* `step` — any interleaving of the calls, of the semaphore and of the destructors, with a request
  given up at either of its awaits.

The semaphore is the one of `tokio`: a count of free permits, one of which goes to some waiting
request at a time. It is never closed, so `SchedulerClosed` is never answered.
-/

import MiniRemoteDesktop.Lib.Execution
import MiniRemoteDesktop.Lib.Table
import MiniRemoteDesktop.Proto

namespace MiniRemoteDesktop.Session

/-! ### Sessions, requests and permits -/

inductive SessionLifecycleState
  | created
  | listening
  | connecting
  | connected
  | streaming
  | failed (message : String)
  | closed
  deriving DecidableEq

inductive SessionSchedulerError
  | sessionNotFound
  | sessionAlreadyExists
  | schedulerClosed
  | maxConcurrentSessionsReached
  | invalidState

/-- An entry of the scheduler. `serial` is not in the source: it numbers the registrations of the
whole run, and tells one registration from another where the `u64` generation may not. -/
structure ScheduledSession where
  generation : Nat
  state : SessionLifecycleState
  lastActivity : Nat
  isActive : Bool
  serial : Nat

namespace ScheduledSession

def new (generation serial now : Nat) : ScheduledSession where
  generation := generation
  state := .created
  lastActivity := now
  isActive := false
  serial := serial

def isIdle (session : ScheduledSession) (timeout now : Nat) : Bool :=
  !session.isActive && timeout < now - session.lastActivity

def touch (session : ScheduledSession) (now : Nat) : ScheduledSession :=
  { session with lastActivity := now }

end ScheduledSession

/-- A call of `acquire_streaming_permit` past its first critical section. -/
structure PermitRequest where
  sessionId : SessionId
  (generation serial : Nat)
  deriving DecidableEq

structure StreamingPermit where
  sessionId : SessionId
  (generation serial : Nat)
  deriving DecidableEq

abbrev Sessions := AList fun _ : SessionId => ScheduledSession

/-- The scheduler and everything its callers hold of it: the requests that wait for the semaphore,
those that have a permit of the semaphore but no `StreamingPermit` yet, and the live permits. -/
structure SessionScheduler where
  sessions : Sessions
  (availablePermits nextSessionGeneration maxConcurrentStreams idleTimeout : Nat)
  (waiting handedOut : List PermitRequest)
  permits : List StreamingPermit
  /-- How many registrations the run has made; not in the source. -/
  registrations : Nat

structure SessionSchedulerStats where
  (totalSessions activeSessions availableSlots maxConcurrentStreams : Nat)

/-- `AtomicU64::fetch_add(1)` wraps around. -/
def generationModulus : Nat := 2 ^ 64

namespace SessionScheduler

def new (maxConcurrentStreams idleTimeout : Nat) : SessionScheduler where
  sessions := ∅
  availablePermits := maxConcurrentStreams
  nextSessionGeneration := 0
  maxConcurrentStreams := maxConcurrentStreams
  idleTimeout := idleTimeout
  waiting := []
  handedOut := []
  permits := []
  registrations := 0

/-! ### The critical sections -/

def registerSession (scheduler : SessionScheduler) (sessionId : SessionId) (now : Nat) :
    Except SessionSchedulerError Unit × SessionScheduler :=
  match scheduler.sessions.lookup sessionId with
  | none =>
    (.ok (), { scheduler with
        sessions := scheduler.sessions.insert sessionId
          (.new scheduler.nextSessionGeneration scheduler.registrations now)
        nextSessionGeneration := (scheduler.nextSessionGeneration + 1) % generationModulus
        registrations := scheduler.registrations + 1 })
  | some _ => (.error .sessionAlreadyExists, scheduler)

def unregisterSession (scheduler : SessionScheduler) (sessionId : SessionId) :
    Except SessionSchedulerError Unit × SessionScheduler :=
  match scheduler.sessions.lookup sessionId with
  | some _ => (.ok (), { scheduler with sessions := scheduler.sessions.erase sessionId })
  | none => (.error .sessionNotFound, scheduler)

/-- The first critical section of `acquire_streaming_permit`. -/
def requestPermit (scheduler : SessionScheduler) (sessionId : SessionId) (now : Nat) :
    Except SessionSchedulerError PermitRequest × SessionScheduler :=
  match scheduler.sessions.lookup sessionId with
  | none => (.error .sessionNotFound, scheduler)
  | some session =>
    let request : PermitRequest := ⟨sessionId, session.generation, session.serial⟩
    (.ok request, { scheduler with
        sessions := scheduler.sessions.insert sessionId (session.touch now)
        waiting := request :: scheduler.waiting })

/-- The semaphore gives one of its free permits to a waiting request. -/
def obtainPermit (scheduler : SessionScheduler) (request : PermitRequest) : SessionScheduler :=
  { scheduler with
    availablePermits := scheduler.availablePermits - 1
    waiting := scheduler.waiting.erase request
    handedOut := request :: scheduler.handedOut }

/-- The request leaves its semaphore permit behind. -/
def returnPermit (scheduler : SessionScheduler) (request : PermitRequest) : SessionScheduler :=
  { scheduler with
    availablePermits := scheduler.availablePermits + 1
    handedOut := scheduler.handedOut.erase request }

/-- The second critical section of `acquire_streaming_permit`: the registration is checked again, and
a request that fails the check drops its semaphore permit. -/
def grantPermit (scheduler : SessionScheduler) (request : PermitRequest) :
    Except SessionSchedulerError StreamingPermit × SessionScheduler :=
  match (scheduler.sessions.lookup request.sessionId).filter
      fun session => session.generation == request.generation with
  | none => (.error .sessionNotFound, scheduler.returnPermit request)
  | some session =>
    let permit : StreamingPermit := ⟨request.sessionId, request.generation, request.serial⟩
    (.ok permit, { scheduler with
        sessions := scheduler.sessions.insert request.sessionId
          { session with isActive := true, state := .streaming }
        handedOut := scheduler.handedOut.erase request
        permits := permit :: scheduler.permits })

def updateSessionState (scheduler : SessionScheduler) (sessionId : SessionId)
    (state : SessionLifecycleState) (now : Nat) :
    Except SessionSchedulerError Unit × SessionScheduler :=
  match scheduler.sessions.lookup sessionId with
  | none => (.error .sessionNotFound, scheduler)
  | some session =>
    (.ok (), { scheduler with
        sessions := scheduler.sessions.insert sessionId { session with
            state := state
            lastActivity := now
            isActive := decide (state = .streaming) } })

def idleSessions (scheduler : SessionScheduler) (now : Nat) : List SessionId :=
  (scheduler.sessions.entries.filter
    fun entry => entry.2.isIdle scheduler.idleTimeout now).map Sigma.fst

def pruneIdleSessions (scheduler : SessionScheduler) (now : Nat) :
    List SessionId × SessionScheduler :=
  let toRemove := scheduler.idleSessions now
  (toRemove, { scheduler with sessions := Table.eraseAll scheduler.sessions toRemove })

/-- `StreamingPermit::drop`. With the lock taken by someone else (`contended`) only the semaphore
permit is returned. -/
def dropPermit (scheduler : SessionScheduler) (permit : StreamingPermit) (contended : Bool) :
    SessionScheduler :=
  let released : SessionScheduler :=
    { scheduler with
      availablePermits := scheduler.availablePermits + 1
      permits := scheduler.permits.erase permit }
  if contended then released
  else
    match scheduler.sessions.lookup permit.sessionId with
    | none => released
    | some session =>
      if session.generation = permit.generation then
        { released with
          sessions := scheduler.sessions.insert permit.sessionId { session with isActive := false } }
      else released

/-! ### What the scheduler reports -/

def activeSessions (scheduler : SessionScheduler) : List SessionId :=
  (scheduler.sessions.entries.filter fun entry => entry.2.isActive).map Sigma.fst

def streamingCount (scheduler : SessionScheduler) : Nat :=
  (scheduler.sessions.entries.filter fun entry => entry.2.isActive).length

def stats (scheduler : SessionScheduler) : SessionSchedulerStats where
  totalSessions := scheduler.sessions.entries.length
  activeSessions := scheduler.streamingCount
  availableSlots := scheduler.availablePermits
  maxConcurrentStreams := scheduler.maxConcurrentStreams

end SessionScheduler

/-! ### The interleavings -/

inductive SchedulerLabel
  | registerSession (sessionId : SessionId) (now : Nat)
  | unregisterSession (sessionId : SessionId)
  | requestPermit (sessionId : SessionId) (now : Nat)
  | obtainPermit (request : PermitRequest)
  | grantPermit (request : PermitRequest)
  /-- The future of a waiting call is dropped. -/
  | giveUpWaiting (request : PermitRequest)
  /-- The future of a call that holds a semaphore permit is dropped. -/
  | giveUpPermit (request : PermitRequest)
  | dropPermit (permit : StreamingPermit) (contended : Bool)
  | updateSessionState (sessionId : SessionId) (state : SessionLifecycleState) (now : Nat)
  | pruneIdleSessions (now : Nat)

namespace SessionScheduler

def step (scheduler : SessionScheduler) : SchedulerLabel → Option SessionScheduler
  | .registerSession sessionId now => some (scheduler.registerSession sessionId now).2
  | .unregisterSession sessionId => some (scheduler.unregisterSession sessionId).2
  | .requestPermit sessionId now => some (scheduler.requestPermit sessionId now).2
  | .obtainPermit request =>
    if request ∈ scheduler.waiting ∧ 0 < scheduler.availablePermits then
      some (scheduler.obtainPermit request)
    else none
  | .grantPermit request =>
    if request ∈ scheduler.handedOut then some (scheduler.grantPermit request).2 else none
  | .giveUpWaiting request =>
    if request ∈ scheduler.waiting then
      some { scheduler with waiting := scheduler.waiting.erase request }
    else none
  | .giveUpPermit request =>
    if request ∈ scheduler.handedOut then some (scheduler.returnPermit request) else none
  | .dropPermit permit contended =>
    if permit ∈ scheduler.permits then some (scheduler.dropPermit permit contended) else none
  | .updateSessionState sessionId state now =>
    some (scheduler.updateSessionState sessionId state now).2
  | .pruneIdleSessions now => some (scheduler.pruneIdleSessions now).2

/-! ### What a step does -/

variable (scheduler : SessionScheduler) in
/-- **Everything a step can do**, with the guard under which it does it. -/
inductive Effect : SchedulerLabel → SessionScheduler → Prop
  | registered {sessionId : SessionId} {now : Nat}
      (vacant : scheduler.sessions.lookup sessionId = none) :
      Effect (.registerSession sessionId now) { scheduler with
          sessions := scheduler.sessions.insert sessionId
            (.new scheduler.nextSessionGeneration scheduler.registrations now)
          nextSessionGeneration := (scheduler.nextSessionGeneration + 1) % generationModulus
          registrations := scheduler.registrations + 1 }
  | alreadyRegistered {sessionId : SessionId} {now : Nat} {session : ScheduledSession}
      (occupied : scheduler.sessions.lookup sessionId = some session) :
      Effect (.registerSession sessionId now) scheduler
  | unregistered {sessionId : SessionId} {session : ScheduledSession}
      (found : scheduler.sessions.lookup sessionId = some session) :
      Effect (.unregisterSession sessionId)
        { scheduler with sessions := scheduler.sessions.erase sessionId }
  | notRegistered {sessionId : SessionId} (missing : scheduler.sessions.lookup sessionId = none) :
      Effect (.unregisterSession sessionId) scheduler
  | requested {sessionId : SessionId} {now : Nat} {session : ScheduledSession}
      (found : scheduler.sessions.lookup sessionId = some session) :
      Effect (.requestPermit sessionId now) { scheduler with
          sessions := scheduler.sessions.insert sessionId (session.touch now)
          waiting := ⟨sessionId, session.generation, session.serial⟩ :: scheduler.waiting }
  | requestRefused {sessionId : SessionId} {now : Nat}
      (missing : scheduler.sessions.lookup sessionId = none) :
      Effect (.requestPermit sessionId now) scheduler
  | obtained {request : PermitRequest} (waits : request ∈ scheduler.waiting)
      (free : 0 < scheduler.availablePermits) :
      Effect (.obtainPermit request) (scheduler.obtainPermit request)
  | granted {request : PermitRequest} {session : ScheduledSession}
      (holds : request ∈ scheduler.handedOut)
      (found : scheduler.sessions.lookup request.sessionId = some session)
      (current : session.generation = request.generation) :
      Effect (.grantPermit request) { scheduler with
          sessions := scheduler.sessions.insert request.sessionId
            { session with isActive := true, state := .streaming }
          handedOut := scheduler.handedOut.erase request
          permits := ⟨request.sessionId, request.generation, request.serial⟩ :: scheduler.permits }
  | rejected {request : PermitRequest} (holds : request ∈ scheduler.handedOut)
      (stale : ∀ session, scheduler.sessions.lookup request.sessionId = some session →
        session.generation ≠ request.generation) :
      Effect (.grantPermit request) (scheduler.returnPermit request)
  | gaveUpWaiting {request : PermitRequest} (waits : request ∈ scheduler.waiting) :
      Effect (.giveUpWaiting request)
        { scheduler with waiting := scheduler.waiting.erase request }
  | gaveUpPermit {request : PermitRequest} (holds : request ∈ scheduler.handedOut) :
      Effect (.giveUpPermit request) (scheduler.returnPermit request)
  | released {permit : StreamingPermit} {contended : Bool} (live : permit ∈ scheduler.permits)
      (silent : contended = true ∨ ∀ session,
        scheduler.sessions.lookup permit.sessionId = some session →
          session.generation ≠ permit.generation) :
      Effect (.dropPermit permit contended) { scheduler with
          availablePermits := scheduler.availablePermits + 1
          permits := scheduler.permits.erase permit }
  | releasedAndMarked {permit : StreamingPermit} {session : ScheduledSession}
      (live : permit ∈ scheduler.permits)
      (found : scheduler.sessions.lookup permit.sessionId = some session)
      (current : session.generation = permit.generation) :
      Effect (.dropPermit permit false) { scheduler with
          availablePermits := scheduler.availablePermits + 1
          permits := scheduler.permits.erase permit
          sessions := scheduler.sessions.insert permit.sessionId { session with isActive := false } }
  | updated {sessionId : SessionId} {state : SessionLifecycleState} {now : Nat}
      {session : ScheduledSession} (found : scheduler.sessions.lookup sessionId = some session) :
      Effect (.updateSessionState sessionId state now) { scheduler with
          sessions := scheduler.sessions.insert sessionId { session with
              state := state
              lastActivity := now
              isActive := decide (state = .streaming) } }
  | updateRefused {sessionId : SessionId} {state : SessionLifecycleState} {now : Nat}
      (missing : scheduler.sessions.lookup sessionId = none) :
      Effect (.updateSessionState sessionId state now) scheduler
  | pruned {now : Nat} :
      Effect (.pruneIdleSessions now) { scheduler with
          sessions := Table.eraseAll scheduler.sessions (scheduler.idleSessions now) }

variable {scheduler : SessionScheduler}

variable {request : PermitRequest}

theorem grantPermit_granted {session : ScheduledSession}
    (found : scheduler.sessions.lookup request.sessionId = some session)
    (current : session.generation = request.generation) :
    scheduler.grantPermit request = (.ok ⟨request.sessionId, request.generation, request.serial⟩,
        { scheduler with
          sessions := scheduler.sessions.insert request.sessionId
            { session with isActive := true, state := .streaming }
          handedOut := scheduler.handedOut.erase request
          permits := ⟨request.sessionId, request.generation, request.serial⟩ ::
            scheduler.permits }) := by
  have passes : (scheduler.sessions.lookup request.sessionId).filter
      (fun session => session.generation == request.generation) = some session := by
    simp [found, current]
  simp [grantPermit, passes]

theorem grantPermit_rejected
    (stale : ∀ session, scheduler.sessions.lookup request.sessionId = some session →
      session.generation ≠ request.generation) :
    scheduler.grantPermit request = (.error .sessionNotFound, scheduler.returnPermit request) := by
  have fails : (scheduler.sessions.lookup request.sessionId).filter
      (fun session => session.generation == request.generation) = none := by
    rw [Option.filter_eq_none_iff]
    intro session found matching
    exact stale session found (eq_of_beq matching)
  simp [grantPermit, fails]

theorem grantPermit_effect (holds : request ∈ scheduler.handedOut) :
    Effect scheduler (.grantPermit request) (scheduler.grantPermit request).2 := by
  by_cases current : ∃ session, scheduler.sessions.lookup request.sessionId = some session ∧
      session.generation = request.generation
  · obtain ⟨session, found, current⟩ := current
    rw [grantPermit_granted found current]
    exact .granted holds found current
  · have stale : ∀ session, scheduler.sessions.lookup request.sessionId = some session →
        session.generation ≠ request.generation :=
      fun session found same => current ⟨session, found, same⟩
    rw [grantPermit_rejected stale]
    exact .rejected holds stale

theorem dropPermit_effect {permit : StreamingPermit} (live : permit ∈ scheduler.permits)
    (contended : Bool) :
    Effect scheduler (.dropPermit permit contended) (scheduler.dropPermit permit contended) := by
  cases contended with
  | true => exact .released live (.inl rfl)
  | false =>
    unfold dropPermit
    rw [if_neg Bool.false_ne_true]
    cases found : scheduler.sessions.lookup permit.sessionId with
    | none =>
      refine .released live (.inr fun session registered => ?_)
      simp [found] at registered
    | some session =>
      by_cases current : session.generation = permit.generation
      · simp only [if_pos current]
        exact .releasedAndMarked live found current
      · simp only [if_neg current]
        refine .released live (.inr fun other registered => ?_)
        rw [found] at registered
        cases registered
        exact current

/-- **The inversion of a step.** -/
theorem step_effect {after : SessionScheduler} {label : SchedulerLabel}
    (taken : step scheduler label = some after) : Effect scheduler label after := by
  cases label with
  | registerSession sessionId now =>
    cases taken
    unfold registerSession
    cases found : scheduler.sessions.lookup sessionId with
    | none => exact .registered found
    | some session => exact .alreadyRegistered found
  | unregisterSession sessionId =>
    cases taken
    unfold unregisterSession
    cases found : scheduler.sessions.lookup sessionId with
    | none => exact .notRegistered found
    | some session => exact .unregistered found
  | requestPermit sessionId now =>
    cases taken
    unfold requestPermit
    cases found : scheduler.sessions.lookup sessionId with
    | none => exact .requestRefused found
    | some session => exact .requested found
  | obtainPermit request =>
    obtain ⟨⟨waits, free⟩, ⟨⟩⟩ := Option.ite_none_right_eq_some.mp taken
    exact .obtained waits free
  | grantPermit request =>
    obtain ⟨holds, ⟨⟩⟩ := Option.ite_none_right_eq_some.mp taken
    exact grantPermit_effect holds
  | giveUpWaiting request =>
    obtain ⟨waits, ⟨⟩⟩ := Option.ite_none_right_eq_some.mp taken
    exact .gaveUpWaiting waits
  | giveUpPermit request =>
    obtain ⟨holds, ⟨⟩⟩ := Option.ite_none_right_eq_some.mp taken
    exact .gaveUpPermit holds
  | dropPermit permit contended =>
    obtain ⟨live, ⟨⟩⟩ := Option.ite_none_right_eq_some.mp taken
    exact dropPermit_effect live contended
  | updateSessionState sessionId state now =>
    cases taken
    unfold updateSessionState
    cases found : scheduler.sessions.lookup sessionId with
    | none => exact .updateRefused found
    | some session => exact .updated found
  | pruneIdleSessions now =>
    cases taken
    exact .pruned

theorem mem_idleSessions {now : Nat} {sessionId : SessionId} :
    sessionId ∈ scheduler.idleSessions now ↔
      ∃ session, scheduler.sessions.lookup sessionId = some session ∧
        session.isIdle scheduler.idleTimeout now = true := by
  unfold idleSessions
  rw [List.mem_map]
  constructor
  · rintro ⟨⟨key, session⟩, member, rfl⟩
    obtain ⟨listed, idle⟩ := List.mem_filter.mp member
    exact ⟨session, (Table.mem_entries_alist _ _ _).mp listed, idle⟩
  · rintro ⟨session, found, idle⟩
    exact ⟨⟨sessionId, session⟩,
      List.mem_filter.mpr ⟨(Table.mem_entries_alist _ _ _).mpr found, idle⟩, rfl⟩

end SessionScheduler

end MiniRemoteDesktop.Session
