/-
**Where the authority of a session comes from.**

* `Neutral` — what the methods of the manager do that decide nothing: no authority appears or goes.
* `takeBindings_meets` — what is taken back is gone.
-/

import MiniRemoteDesktop.Agent.Course

namespace MiniRemoteDesktop.Agent

open Procedure (Meets Moves)
open Table

/-! ### The registry -/

namespace ConsentAuthorityState

/-- **The tables of waiting requests belong together.** -/
structure Regular (state : ConsentAuthorityState) (admitted : List PendingConsentPrompt) : Prop where
  inverse : ∀ attempt id, state.pendingAttempts.lookup attempt = some id ↔
    ∃ pending, state.pending.lookup id = some pending ∧ pending.attemptId = attempt
  bounded : ∀ id pending, state.pending.lookup id = some pending →
    pending.attemptId ≤ state.nextAttemptId
  admitted : ∀ id pending, state.pending.lookup id = some pending →
    ⟨pending.attemptId, pending.request⟩ ∈ admitted

variable {state other : ConsentAuthorityState} {admitted : List PendingConsentPrompt}

theorem regular_empty : Regular empty [] where
  inverse attempt id := by
    constructor
    · rintro ⟨⟩
    · rintro ⟨pending, ⟨⟩, -⟩
  bounded _ _ found := by cases found
  admitted _ _ found := by cases found

theorem Regular.same (regular : Regular state admitted) (pending : other.pending = state.pending)
    (attempts : other.pendingAttempts = state.pendingAttempts)
    (next : other.nextAttemptId = state.nextAttemptId) : Regular other admitted where
  inverse := pending ▸ attempts ▸ regular.inverse
  bounded := pending ▸ next ▸ regular.bounded
  admitted := pending ▸ regular.admitted

theorem Regular.attempt_iff (regular : Regular state admitted) {first second : Id}
    {one two : PendingConsent} (here : state.pending.lookup first = some one)
    (there : state.pending.lookup second = some two) :
    one.attemptId = two.attemptId ↔ first = second := by
  constructor
  · intro same
    have left := (regular.inverse one.attemptId first).mpr ⟨one, here, rfl⟩
    have right := (regular.inverse two.attemptId second).mpr ⟨two, there, rfl⟩
    rw [same, right] at left
    exact (Option.some.inj left).symm
  · rintro rfl
    rw [here] at there
    rw [Option.some.inj there]

/-- **A request that leaves both tables leaves them regular.** -/
theorem Regular.settled (regular : Regular state admitted) {id : Id} {waiting : PendingConsent}
    (found : state.pending.lookup id = some waiting) (pending : other.pending = state.pending.erase id)
    (attempts : other.pendingAttempts = state.pendingAttempts.erase waiting.attemptId)
    (next : other.nextAttemptId = state.nextAttemptId) : Regular other admitted := by
  have kept : ∀ probe left, other.pending.lookup probe = some left ↔
      probe ≠ id ∧ state.pending.lookup probe = some left := by
    intro probe left
    rw [pending, lookup_erase_alist]
    by_cases same : probe = id
    · simp
    · simp
  refine ⟨?_, ?_, ?_⟩
  · intro attempt probe
    rw [attempts, lookup_erase_alist]
    constructor
    · intro there
      split at there
      · cases there
      next differs =>
        obtain ⟨left, among, is⟩ := (regular.inverse attempt probe).mp there
        refine ⟨left, (kept probe left).mpr ⟨?_, among⟩, is⟩
        rintro rfl
        exact differs (is.symm.trans ((regular.attempt_iff among found).mpr rfl))
    · rintro ⟨left, there, is⟩
      obtain ⟨differs, among⟩ := (kept probe left).mp there
      rw [if_neg ?_]
      · exact (regular.inverse attempt probe).mpr ⟨left, among, is⟩
      · intro same
        exact differs ((regular.attempt_iff among found).mp (is.trans same))
  · intro probe left there
    rw [next]
    exact regular.bounded probe left ((kept probe left).mp there).2
  · intro probe left there
    exact regular.admitted probe left ((kept probe left).mp there).2

/-- A request with a new id waits under the next attempt. -/
theorem Regular.awaited (regular : Regular state admitted) {request : ConsentRequest}
    (unknown : state.pending.lookup request.requestId = none) (context : TrustedConsentContext)
    (deadline : Nat) :
    Regular (state.await (state.nextAttemptId + 1) request context deadline)
      (⟨state.nextAttemptId + 1, request⟩ :: admitted) := by
  have fresh : ∀ id pending, state.pending.lookup id = some pending →
      pending.attemptId ≠ state.nextAttemptId + 1 := by
    intro id pending found same
    have below := regular.bounded id pending found
    omega
  refine ⟨?_, ?_, ?_⟩
  · intro attempt id
    rw [await, lookup_insert_alist, lookup_insert_alist]
    by_cases here : id = request.requestId
    · rw [if_pos here]
      constructor
      · intro found
        split at found
        next new =>
          exact ⟨_, rfl, new.symm⟩
        · obtain ⟨pending, among, -⟩ := (regular.inverse attempt id).mp found
          rw [here, unknown] at among
          cases among
      · rintro ⟨pending, ⟨⟩, is⟩
        rw [if_pos is.symm, here]
    · rw [if_neg here]
      constructor
      · intro found
        split at found
        · exact absurd (Option.some.inj found).symm here
        · exact (regular.inverse attempt id).mp found
      · rintro ⟨pending, found, is⟩
        rw [if_neg fun new => fresh id pending found (is.trans new)]
        exact (regular.inverse attempt id).mpr ⟨pending, found, is⟩
  · intro id pending found
    rw [await, lookup_insert_alist] at found
    split at found
    · cases found
      exact Nat.le_refl _
    · exact Nat.le_succ_of_le (regular.bounded id pending found)
  · intro id pending found
    rw [await, lookup_insert_alist] at found
    split at found
    · cases found
      exact (.head _)
    · exact .tail _ (regular.admitted id pending found)

theorem pruneForCapacity_bindings (nowMs : Nat) (state : ConsentAuthorityState) :
    (state.pruneForCapacity nowMs).bindings = state.bindings := by
  have all : ∀ (entries : List (Sigma fun _ : Id => PendingConsent)) (state : ConsentAuthorityState),
      (entries.foldl (pruneExpired nowMs) state).bindings = state.bindings := by
    intro entries
    induction entries with
    | nil => exact fun _ => rfl
    | cons entry rest ih => exact fun state => ih _
  exact all _ _

/-- Requests that wait under different ids may be pruned one after the other. -/
theorem Regular.pruned (nowMs : Nat) (entries : List (Sigma fun _ : Id => PendingConsent))
    (distinct : (entries.map Sigma.fst).Nodup) (regular : Regular state admitted)
    (listed : ∀ entry ∈ entries, state.pending.lookup entry.1 = some entry.2) :
    Regular (entries.foldl (pruneExpired nowMs) state) admitted ∧
      (entries.foldl (pruneExpired nowMs) state).nextAttemptId = state.nextAttemptId := by
  induction entries generalizing state with
  | nil => exact ⟨regular, rfl⟩
  | cons entry rest ih =>
    obtain ⟨fresh, distinct⟩ := List.nodup_cons.mp distinct
    refine ih distinct (regular.settled (listed entry (.head _)) rfl rfl rfl) ?_
    intro other among
    show (state.pending.erase entry.1).lookup other.1 = some other.2
    rw [lookup_erase_alist, if_neg ?_]
    · exact listed other (.tail _ among)
    · intro same
      exact fresh (List.mem_map.mpr ⟨other, among, same⟩)

theorem Regular.pruneForCapacity (regular : Regular state admitted) (nowMs : Nat) :
    Regular (state.pruneForCapacity nowMs) admitted ∧
      (state.pruneForCapacity nowMs).nextAttemptId = state.nextAttemptId := by
  have pruned : Regular (state.pruneTombstones nowMs) admitted := regular.same rfl rfl rfl
  refine pruned.pruned nowMs _ ?_ ?_
  · refine List.Nodup.sublist (List.Sublist.map _ List.filter_sublist) ?_
    exact (state.pruneTombstones nowMs).pending.nodupKeys
  · intro entry among
    exact (mem_entries_alist _ _ _).mp (List.mem_of_mem_filter among)

/-- **An admission gives no authority.** -/
theorem beginAt_narrows (regular : Regular state admitted) (request : ConsentRequest)
    (context : TrustedConsentContext) (anchor : Nat) :
    Meets (beginAt request context anchor) state (fun outcome later => later.bindings = state.bindings ∧
        match outcome with
        | .cached _ => Regular later admitted
        | .prompt pending => Regular later (pending :: admitted))
      fun _ later => later.bindings = state.bindings ∧ Regular later admitted := by
  refine .bind (R := fun _ later => later = state) (.refuse (fun _ => ⟨rfl, regular⟩) fun _ => rfl)
    fun _ later is => ?_
  subst is
  obtain ⟨kept, next⟩ := regular.pruneForCapacity context.nowMs
  have bindings := pruneForCapacity_bindings context.nowMs later
  refine .changes (.reads ?_)
  split
  · exact .bind (R := fun _ ended => ended = later.pruneForCapacity context.nowMs)
      (.refuse (fun _ => ⟨bindings, kept⟩) fun _ => rfl) fun _ ended is =>
        .pure ⟨is ▸ bindings, is ▸ kept⟩
  · exact .fail ⟨bindings, kept⟩
  next unknown =>
    split
    · exact .fail ⟨bindings, kept⟩
    · exact .fail ⟨bindings, kept⟩
    · exact .fail ⟨bindings, kept⟩
    next deadline attempt _ _ following =>
      have is : attempt = (later.pruneForCapacity context.nowMs).nextAttemptId + 1 := by
        unfold checkedAdd at following
        split at following
        · exact (Option.some.inj following).symm
        · cases following
      subst is
      exact .changes (.pure ⟨bindings, kept.awaited unknown _ _⟩)

/-- What is approved in the end was approved by the user, within the request. -/
theorem settle_approved {pending : PendingConsent} {decision : ConsentDecision}
    {scopes : PermissionScopes} {context : TrustedConsentContext}
    (approved : (state.settle pending decision scopes context).1 = .approved) :
    decision = .approved ∧ scopes ⊆ pending.request.requestedScopes ∧
      (state.settle pending decision scopes context).2.1 = scopes := by
  unfold settle at approved ⊢
  simp only at approved ⊢
  split at approved
  · cases approved
  next allowed =>
    rw [if_neg allowed]
    unfold normalizeDecision at approved ⊢
    split at approved
    · cases approved
    next forwards =>
      split at approved
      · cases approved
      next timely =>
        split at approved
        · cases approved
        next trusted =>
          split at approved
          next positive =>
            split at approved
            · cases approved
            next inside =>
              rw [if_neg forwards, if_neg timely, if_neg trusted, if_pos positive, if_neg inside]
              exact ⟨positive, not_not.mp (not_or.mp inside).2, rfl⟩
          next negative =>
            split at approved
            · cases approved
            · exact absurd approved negative

/-- The registry after a completion: the binding of an approval, or none. -/
def Bound (state : ConsentAuthorityState) (pending : PendingConsent) (decision : ConsentDecision)
    (scopes : PermissionScopes) (changed : Bool) (later : ConsentAuthorityState) : Prop :=
  if changed then
    decision = .approved ∧ scopes ⊆ pending.request.requestedScopes ∧
      later.bindings = state.bindings.insert pending.request.sessionId (grantedBinding pending scopes)
  else later.bindings = state.bindings

/-- **A completion gives the authority that the user approved for this attempt.** -/
theorem complete_binds (regular : Regular state admitted) (attemptId : Nat)
    (decision : ConsentDecision) (scopes : PermissionScopes) (context : TrustedConsentContext) :
    Meets (complete attemptId decision scopes context) state
      (fun outcome later => Regular later admitted ∧
        match outcome with
        | .ignored => later.bindings = state.bindings
        | .completed completion => ∃ pending, pending.attemptId = attemptId ∧
            ⟨attemptId, pending.request⟩ ∈ admitted ∧
            completion.answer.result.sessionId = pending.request.sessionId ∧
            completion.answer.result.requestId = pending.request.requestId ∧
            Bound state pending decision scopes completion.bindingChanged later)
      fun _ _ => False := by
  refine .reads ?_
  split
  · exact .pure ⟨regular, rfl⟩
  next requestId known =>
    obtain ⟨pending, found, is⟩ := (regular.inverse attemptId requestId).mp known
    refine .changes ?_
    simp only [found]
    refine .changes (.changes (.pure ⟨regular.settled found rfl (by rw [is]; rfl) rfl, pending, is,
      is ▸ regular.admitted requestId pending found, rfl, rfl, ?_⟩))
    unfold Bound
    by_cases approved : (state.settle pending decision scopes context).1 = .approved
    · obtain ⟨positive, inside, same⟩ := settle_approved approved
      rw [if_pos (beq_iff_eq.mpr approved)]
      refine ⟨positive, inside, (if_pos approved).trans ?_⟩
      exact congrArg (fun scopes => state.bindings.insert _ (grantedBinding pending scopes)) same
    · rw [if_neg fun changed => approved (beq_iff_eq.mp changed)]
      exact if_neg approved

theorem cancel_narrows (regular : Regular state admitted) (withdrawal : CancelConsent) (nowMs : Nat) :
    Meets (cancel withdrawal nowMs) state
      (fun _ later => later.bindings = state.bindings ∧ Regular later admitted) fun _ _ => False := by
  refine .reads ?_
  split
  · exact .pure ⟨rfl, regular⟩
  next pending found =>
    split
    · exact .pure ⟨rfl, regular⟩
    · exact .changes (.pure ⟨rfl, regular.settled found rfl rfl rfl⟩)

/-- Bindings go, and the sessions that are named have none left. -/
structure Narrowed (state later : ConsentAuthorityState) (taken : List AuthorityInvalidation) :
    Prop where
  bindings : ∀ sessionId binding, later.bindings.lookup sessionId = some binding →
    state.bindings.lookup sessionId = some binding
  taken : ∀ invalidation ∈ taken, later.bindings.lookup invalidation.sessionId = none

/-- **What is taken back is gone.** -/
theorem takeBindings_meets
    (keyed : ∀ sessionId binding, state.bindings.lookup sessionId = some binding →
      binding.sessionId = sessionId)
    (regular : Regular state admitted) (condition : TrustedSessionBinding → Bool) :
    Meets (takeBindings condition) state
      (fun taken later => Regular later admitted ∧ Narrowed state later taken) fun _ _ => False := by
  refine .reads (.changes (.pure ⟨regular.same rfl rfl rfl, ?_, ?_⟩))
  · intro sessionId binding found
    rw [lookup_eraseAll] at found
    split at found
    · cases found
    · exact found
  · intro invalidation listed
    obtain ⟨entry, among, rfl⟩ := List.mem_map.mp listed
    rw [lookup_eraseAll, if_pos ?_]
    have found := (mem_entries_alist _ _ _).mp (List.mem_of_mem_filter among)
    exact List.mem_map.mpr ⟨entry, among, (keyed _ _ found).symm⟩

theorem invalidateFreshAuthority_meets (regular : Regular state admitted)
    (change : FreshAuthorityChange) :
    Meets (invalidateFreshAuthority change) state
      (fun _ later => Regular later admitted ∧ Narrowed state later []) fun _ _ => False := by
  refine .reads (.bind (R := fun _ later => Regular later admitted ∧ Narrowed state later [])
    (.when (fun _ => .change ⟨regular.same rfl rfl rfl, ?_, fun _ => nofun⟩) fun _ =>
      ⟨regular, fun _ _ => id, fun _ => nofun⟩) fun _ _ kept => .pure kept)
  intro sessionId binding found
  rw [lookup_erase_alist] at found
  split at found
  · cases found
  · exact found

end ConsentAuthorityState

/-! ### The manager -/

namespace ConsentManager

open ConsentAuthorityState (Bound grantedBinding)

/-- What waits in the registry was admitted. -/
def Regular (manager : ConsentManager) : Prop := manager.registry.Regular manager.admitted

theorem regular_new : Regular .new := ConsentAuthorityState.regular_empty

/-- **No authority appears or goes.** -/
structure Undecided (before after : ConsentManager) : Prop where
  regular : after.Regular
  bindings : after.registry.bindings = before.registry.bindings
  admitted : ∀ prompt ∈ before.admitted, prompt ∈ after.admitted

/-- What the methods do that decide nothing. -/
def Neutral (before after : ConsentManager) : Prop := before.Regular → Undecided before after

variable {manager : ConsentManager}

variable {second first third : ConsentManager}

theorem Undecided.trans (early : Undecided first second) (late : Undecided second third) :
    Undecided first third :=
  ⟨late.regular, late.bindings.trans early.bindings,
    fun prompt listed => late.admitted prompt (early.admitted prompt listed)⟩

instance : IsPreorder ConsentManager Neutral where
  refl _ regular := ⟨regular, rfl, fun _ => id⟩
  trans _ _ _ first second regular := (first regular).trans (second (first regular).regular)

variable {before after : ConsentManager}

/-- A part of the manager that has nothing to do with authority changes. -/
theorem Undecided.of_same (regular : before.Regular) (registry : after.registry = before.registry)
    (admitted : after.admitted = before.admitted) :
    Undecided before after := by
  refine ⟨?_, congrArg _ registry, fun prompt listed => admitted ▸ listed⟩
  rw [Regular, registry, admitted]
  exact regular

theorem Undecided.moves {α : Type} {between : ConsentManager} {m : Method α}
    (undecided : Undecided manager between) (moves : Moves Neutral m) :
    Meets m between (fun _ later => Undecided manager later) fun _ later => Undecided manager later :=
  .of_left (I := Undecided manager) (undecided.trans (moves between undecided.regular))

/-- A completion that approves nothing decides nothing. -/
theorem expires_meets (regular : manager.Regular) (attemptId : Nat) (context : TrustedConsentContext) :
    Meets (onRegistry (ConsentAuthorityState.complete attemptId .expired ∅ context)) manager
      (fun _ later => Undecided manager later) fun _ _ => False := by
  refine (onRegistry_meets (ConsentAuthorityState.complete_binds regular attemptId .expired ∅
    context)).conseq ?_ fun _ _ ⟨_, _, failed⟩ => failed
  rintro outcome _ ⟨later, rfl, kept, decides⟩
  refine ⟨kept, ?_, fun _ => id⟩
  cases outcome with
  | ignored => exact decides
  | completed completion =>
    obtain ⟨pending, -, -, -, -, bound⟩ := decides
    unfold Bound at bound
    split at bound
    · cases bound.1
    · exact bound

theorem withdraws_neutral (withdrawal : CancelConsent) (nowMs : Nat) :
    Moves Neutral (onRegistry (ConsentAuthorityState.cancel withdrawal nowMs)) := by
  intro manager regular
  refine ((onRegistry_meets (ConsentAuthorityState.cancel_narrows regular withdrawal nowMs)).conseq
    ?_ fun _ _ ⟨_, _, failed⟩ => failed.elim).left
  rintro outcome _ ⟨later, rfl, bindings, kept⟩
  exact ⟨kept, bindings, fun _ => id⟩

theorem dismissals_neutral : Dismissals Neutral where
  expires attemptId context _ regular :=
    ((expires_meets regular attemptId context).conseq (fun _ _ => id) fun _ _ => False.elim).left
  withdraws := withdraws_neutral
  closes _ _ regular := .of_same regular rfl rfl
  queues _ _ regular := .of_same regular rfl rfl
  clears _ regular := .of_same regular rfl rfl

theorem shows_neutral (active : ActivePrompt) : Moves Neutral (Procedure.change fun manager =>
    { manager with active := some active } : Method Unit) :=
  fun _ regular => .of_same regular rfl rfl

theorem admitPrompt_neutral (request : ConsentRequest) (context : TrustedConsentContext) (now : Nat) :
    Moves Neutral (admitPrompt request context now) := by
  intro manager regular
  refine Meets.left (.bind ((onRegistry_meets (ConsentAuthorityState.beginAt_narrows regular request
    context now)).conseq (fun _ _ => id) ?_) ?_)
  · rintro error _ ⟨later, rfl, bindings, kept⟩
    exact ⟨kept, bindings, fun _ => id⟩
  · rintro outcome _ ⟨later, rfl, bindings, kept⟩
    cases outcome with
    | cached result => exact .pure ⟨kept, bindings, fun _ => id⟩
    | prompt pending =>
      exact .changes (.pure ⟨kept, bindings, fun _ => List.mem_cons_of_mem _⟩)

theorem completeExpiredPrompt_undecided (regular : manager.Regular) (prompt : ManagedPrompt)
    (nowMs : Nat) :
    Meets (completeExpiredPrompt prompt nowMs) manager (fun _ later => Undecided manager later)
      fun _ _ => False := by
  refine .bind (expires_meets regular _ _) fun outcome later kept => ?_
  cases outcome <;> exact .pure kept

theorem expireQueuedDue_undecided (regular : manager.Regular) (now nowMs : Nat) :
    Meets (expireQueuedDue now nowMs) manager (fun _ later => Undecided manager later)
      fun _ _ => False := by
  have closes : ∀ (prompts : List ManagedPrompt) (between : ConsentManager), Undecided manager between →
      Meets (closeQueued (·.isDue now nowMs) (fun prompt => do
        unqueue prompt
        completeExpiredPrompt prompt nowMs) prompts) between
        (fun _ later => Undecided manager later) fun _ _ => False := by
    intro prompts
    induction prompts with
    | nil => exact fun _ kept => .pure kept
    | cons prompt rest ih =>
      intro between kept
      refine .bind (R := fun _ later => Undecided manager later) (.ite (fun _ => ?_) fun _ => .pure kept)
        fun _ later still => .bind (ih later still) fun _ _ last => .pure last
      have erased : Undecided between { between with queued := between.queued.erase prompt } :=
        .of_same kept.regular rfl rfl
      exact .changes ((completeExpiredPrompt_undecided erased.regular prompt nowMs).mono
        fun _ _ later => (kept.trans erased).trans later)
  exact .reads (closes _ _ (.of_same regular rfl rfl))

/-- **What the user approved**: a prompt that was admitted, some of the scopes it asked for, and the
binding that comes of it. -/
structure Granted (before : ConsentManager) (completion : BackendCompletion)
    (change : FreshAuthorityChange) (prompt : PendingConsentPrompt) (binding : TrustedSessionBinding)
    (after : ConsentManager) : Prop where
  regular : after.Regular
  admitted : prompt ∈ after.admitted
  attempt : completion.attemptId = prompt.attemptId
  approved : completion.outcome = .decision (.approved binding.approvedScopes)
  within : binding.approvedScopes ⊆ prompt.request.requestedScopes
  change : change = ⟨prompt.request.sessionId, prompt.request.requestId, prompt.attemptId⟩
  generation : binding.authorityGeneration = prompt.attemptId
  request : binding.consentRequestId = prompt.request.requestId
  session : binding.sessionId = prompt.request.sessionId
  peer : binding.peer = prompt.request.peer
  policyRevision : binding.policyRevision = prompt.request.policyRevision
  expires : binding.authorizationExpiresAtMs = prompt.request.authorizationExpiresAtMs
  bindings : after.registry.bindings = before.registry.bindings.insert prompt.request.sessionId binding

/-- The change of authority that a completion reports. -/
def Decided (before : ConsentManager) (completion : BackendCompletion)
    (change : Option FreshAuthorityChange) (after : ConsentManager) : Prop :=
  match change with
  | none => Undecided before after
  | some change => ∃ prompt binding, Granted before completion change prompt binding after

variable {change : Option FreshAuthorityChange} {completion : BackendCompletion}

theorem Decided.regular (decided : Decided before completion change after) :
    after.Regular := by
  cases change with
  | none => exact Undecided.regular decided
  | some change =>
    obtain ⟨prompt, binding, granted⟩ := decided
    exact granted.regular

/-- Before and after a decision nothing else is decided. -/
theorem Decided.between {fourth : ConsentManager} (decided : Decided second completion change third)
    (early : Undecided first second) (late : Undecided third fourth) :
    Decided first completion change fourth := by
  cases change with
  | none => exact (early.trans decided).trans late
  | some change =>
    obtain ⟨prompt, binding, granted⟩ := decided
    exact ⟨prompt, binding, { granted with
      regular := late.regular
      admitted := late.admitted prompt granted.admitted
      bindings := by rw [late.bindings, granted.bindings, early.bindings] }⟩

theorem decided_approved {outcome : BackendCompletionOutcome}
    (approved : outcome.decided.1 = .approved) :
    outcome = .decision (.approved outcome.decided.2) := by
  rcases outcome with (_ | _ | _ | _) | _ | _
  · rfl
  all_goals cases approved

/-- The decision on the prompt that the completion names. -/
theorem decideActive_grants (regular : manager.Regular) (active : ActivePrompt)
    (completion : BackendCompletion) (named : active.prompt.pending.attemptId = completion.attemptId)
    (context : TrustedConsentContext) :
    Meets (decideActive active completion.outcome context) manager
      (fun completed later => Decided manager completion completed.freshAuthorityChange later)
      fun _ _ => False := by
  refine .bind ((onRegistry_meets (ConsentAuthorityState.complete_binds regular
    active.prompt.pending.attemptId _ _ context)).conseq (fun _ _ => id)
      fun _ _ ⟨_, _, failed⟩ => failed) fun outcome later holds => ?_
  obtain ⟨registry, rfl, kept, decides⟩ := holds
  cases outcome with
  | ignored => exact .pure ⟨kept, decides, fun _ => id⟩
  | completed completed =>
    obtain ⟨pending, attempt, admitted, session, request, bound⟩ := decides
    refine .pure ?_
    cases changed : completed.bindingChanged with
    | false =>
      rw [changed] at bound
      exact ⟨kept, bound, fun _ => id⟩
    | true =>
      rw [changed] at bound
      obtain ⟨positive, inside, bindings⟩ := bound
      refine ⟨⟨active.prompt.pending.attemptId, pending.request⟩,
        grantedBinding pending completion.outcome.decided.2, ?_⟩
      exact {
        regular := kept
        admitted := admitted
        attempt := named.symm
        approved := decided_approved positive
        within := inside
        change := congrArg₂ (fun session request => FreshAuthorityChange.mk session request _)
          session request
        generation := attempt
        request := rfl
        session := rfl
        peer := rfl
        policyRevision := rfl
        expires := rfl
        bindings := bindings }

/-- **A completion gives what the user approved, or decides nothing.** -/
theorem complete_grants (regular : manager.Regular) (instants : Nat → Nat)
    (completion : BackendCompletion) (context : TrustedConsentContext) :
    Meets (complete instants completion context) manager
      (fun completed later => Decided manager completion completed.freshAuthorityChange later)
      fun _ later => Undecided manager later := by
  have undecided : Undecided manager manager := .of_same regular rfl rfl
  have starts := fun instants => dismissals_neutral.startNext shows_neutral instants context
  refine .reads ?_
  split
  · exact .pure undecided
  next active shown =>
    refine .ite (fun _ => .pure undecided) fun named => .ite (fun _ => ?_) fun _ => ?_
    · refine .bind (undecided.moves (dismissals_neutral.expireActive _)) fun expired later kept => ?_
      have taken : Undecided manager { later with active := none } :=
        kept.trans (.of_same kept.regular rfl rfl)
      exact .changes (.bind (taken.moves (dismissals_neutral.expireQueuedDue _ _))
        fun queued _ still => .bind (still.moves (starts _)) fun _ _ last => .pure last)
    · have taken : Undecided manager { manager with active := none } := .of_same regular rfl rfl
      refine .changes (.bind (R := fun completed later =>
        Decided { manager with active := none } completion completed.freshAuthorityChange later)
        (.ite (fun _ => ?_) fun _ => ?_) fun decided between gives => ?_)
      · exact (decideActive_grants taken.regular active completion (not_not.mp named) context).conseq
          (fun _ _ => id) fun _ _ => False.elim
      · exact .pure (Undecided.of_same taken.regular rfl rfl)
      · refine .bind ((expireQueuedDue_undecided gives.regular _ _).conseq (fun _ _ => id)
          fun _ _ => False.elim) fun queued later kept => ?_
        cases changed : decided.freshAuthorityChange with
        | none =>
          rw [changed] at gives
          exact .bind ((taken.trans (Undecided.trans gives kept)).moves (starts _)) fun _ _ last =>
            .pure last
        | some change =>
          rw [changed] at gives
          refine .bind (R := fun _ last => last = later) (.pure rfl) fun _ last same => .pure ?_
          subst same
          exact gives.between taken kept

end ConsentManager

end MiniRemoteDesktop.Agent
