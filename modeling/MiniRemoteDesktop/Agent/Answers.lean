/-
**Every admitted request is answered once.**

The registry and the manager each remember which requests wait for an answer.

* `held` — the prompts that the manager still has to answer: the queue, and the prompt on screen while
  it is prompting.
* `Balanced` — along a run of the consent handlers, what is held and what was answered is together what
  was admitted.

A cancellation looks at the prompt on screen first, whatever its phase. Where that prompt is closing,
and a later prompt with the same id waits in the queue, the cancellation answers the later prompt and
leaves it queued (`Shadowed`).
-/

import MiniRemoteDesktop.Agent.Course

namespace MiniRemoteDesktop.Agent

open List (append_assoc append_nil inj_on_of_nodup_map map_append mem_append mem_append_left mem_cons
  mem_map mem_singleton nodup_append nodup_cons not_mem_nil perm_middle)
open Option (any_eq_true filter_eq_some_iff map_eq_some_iff mem_toList)
open Procedure (Meets)
open PendingConsentPrompt

/-! ### The registry -/

/-- The answer to a prompt carries its token and its id. -/
structure Answers (answer : Answer) (prompt : PendingConsentPrompt) : Prop where
  attempt : answer.attemptId = prompt.attemptId
  token : answer.result.requestToken = prompt.request.requestToken
  id : answer.result.requestId = prompt.request.requestId

variable {withdrawal : CancelConsent} {request : ConsentRequest}

namespace ConsentAuthorityState

variable {state other : ConsentAuthorityState}

/-- **The registry waits for exactly these prompts.** -/
structure Awaits (state : ConsentAuthorityState) (prompts : List PendingConsentPrompt) : Prop where
  waiting : ∀ prompt ∈ prompts, ∃ pending,
    state.pending.lookup prompt.request.requestId = some pending ∧
      pending.attemptId = prompt.attemptId ∧ pending.request = prompt.request
  waited : ∀ id pending, state.pending.lookup id = some pending →
    pending.request.requestId = id ∧ ⟨pending.attemptId, pending.request⟩ ∈ prompts
  inverse : ∀ attempt id, state.pendingAttempts.lookup attempt = some id ↔
    ∃ pending, state.pending.lookup id = some pending ∧ pending.attemptId = attempt
  distinct : (prompts.map attemptId).Nodup

theorem awaits_empty : Awaits empty [] where
  waiting := nofun
  waited _ _ found := by cases found
  inverse attempt id := by
    constructor
    · rintro ⟨⟩
    · rintro ⟨pending, ⟨⟩, -⟩
  distinct := .nil

variable {prompts rest : List PendingConsentPrompt} {prompt : PendingConsentPrompt}

theorem Awaits.perm (awaits : Awaits state prompts) (perm : prompts.Perm rest) : Awaits state rest where
  waiting prompt listed := awaits.waiting prompt (perm.mem_iff.mpr listed)
  waited id pending found :=
    ⟨(awaits.waited id pending found).1, perm.mem_iff.mp (awaits.waited id pending found).2⟩
  inverse := awaits.inverse
  distinct := (perm.map _).nodup_iff.mp awaits.distinct

theorem Awaits.same (awaits : Awaits state prompts) (pending : other.pending = state.pending)
    (attempts : other.pendingAttempts = state.pendingAttempts) : Awaits other prompts where
  waiting := pending ▸ awaits.waiting
  waited := pending ▸ awaits.waited
  inverse := pending ▸ attempts ▸ awaits.inverse
  distinct := awaits.distinct

section

variable {first second : PendingConsentPrompt} (awaits : Awaits state prompts)
  (here : first ∈ prompts) (there : second ∈ prompts)
include awaits here there

theorem Awaits.attempt_injective (same : first.attemptId = second.attemptId) :
    first = second :=
  inj_on_of_nodup_map awaits.distinct here there same

theorem Awaits.id_injective (same : first.request.requestId = second.request.requestId) :
    first = second := by
  obtain ⟨pending, found, attempt, -⟩ := awaits.waiting first here
  obtain ⟨again, refound, reattempt, -⟩ := awaits.waiting second there
  rw [same, refound] at found
  cases found
  exact awaits.attempt_injective here there (attempt.symm.trans reattempt)

end

/-- **A prompt that is taken out of both tables is waited for no more.** -/
theorem Awaits.settled (awaits : Awaits state (prompt :: rest))
    (pending : other.pending = state.pending.erase prompt.request.requestId)
    (attempts : other.pendingAttempts = state.pendingAttempts.erase prompt.attemptId) :
    Awaits other rest := by
  have fresh : prompt.attemptId ∉ rest.map attemptId :=
    (nodup_cons.mp awaits.distinct).1
  have one : ∀ id waiting, state.pending.lookup id = some waiting →
      (waiting.attemptId = prompt.attemptId ↔ id = prompt.request.requestId) := by
    intro id waiting found
    obtain ⟨is, listed⟩ := awaits.waited id waiting found
    constructor
    · intro same
      have equal := awaits.attempt_injective listed (.head _) same
      rw [← is, ← equal]
    · rintro rfl
      obtain ⟨again, refound, attempt, -⟩ := awaits.waiting prompt (.head _)
      rw [found] at refound
      cases refound
      exact attempt
  refine ⟨?_, ?_, ?_, (nodup_cons.mp awaits.distinct).2⟩
  · intro probe listed
    obtain ⟨waiting, found, attempt, request⟩ := awaits.waiting probe (.tail _ listed)
    refine ⟨waiting, ?_, attempt, request⟩
    rw [pending, Table.lookup_erase_alist, if_neg ?_]
    · exact found
    · intro same
      refine fresh (mem_map.mpr ⟨probe, listed, ?_⟩)
      rw [← attempt]
      exact (one _ waiting found).mpr same
  · intro id waiting found
    rw [pending, Table.lookup_erase_alist] at found
    split at found
    · cases found
    next differs =>
      obtain ⟨is, listed⟩ := awaits.waited id waiting found
      refine ⟨is, (mem_cons.mp listed).resolve_left fun same => differs ?_⟩
      rw [← is, ← same]
  · intro attempt id
    rw [attempts, pending, Table.lookup_erase_alist, Table.lookup_erase_alist]
    constructor
    · intro found
      split at found
      · cases found
      next differs =>
        obtain ⟨waiting, there, is⟩ := (awaits.inverse attempt id).mp found
        refine ⟨waiting, ?_, is⟩
        rw [if_neg fun same => differs (is.symm.trans ((one id waiting there).mpr same))]
        exact there
    · rintro ⟨waiting, found, is⟩
      split at found
      · cases found
      next differs =>
        rw [if_neg fun same => differs ((one id waiting found).mp (is.trans same))]
        exact (awaits.inverse attempt id).mpr ⟨waiting, found, is⟩

/-- **A decision answers the prompt it is about.** -/
theorem complete_meets (awaits : Awaits state (prompt :: rest)) (decision : ConsentDecision)
    (scopes : PermissionScopes) (context : TrustedConsentContext) :
    Meets (complete prompt.attemptId decision scopes context) state
      (fun outcome later => ∃ completion, outcome = .completed completion ∧
        Answers completion.answer prompt ∧ Awaits later rest ∧
        later.nextAttemptId = state.nextAttemptId)
      fun _ _ => False := by
  obtain ⟨pending, found, attempt, request⟩ := awaits.waiting prompt (.head _)
  have known := (awaits.inverse prompt.attemptId prompt.request.requestId).mpr ⟨pending, found, attempt⟩
  refine .reads ?_
  simp only [known]
  refine .changes ?_
  simp only [found]
  refine .changes (.changes (.pure ⟨_, rfl, ⟨attempt, ?_, ?_⟩, awaits.settled rfl rfl, rfl⟩))
  · rw [← request]
    rfl
  · rw [← request]
    rfl

theorem cancel_meets (awaits : Awaits state (prompt :: rest))
    (names : exactCancelMatches prompt.request withdrawal) (nowMs : Nat) :
    Meets (cancel withdrawal nowMs) state
      (fun outcome later => ∃ answer, outcome = .cancelled answer ∧ Answers answer prompt ∧
        Awaits later rest ∧ later.nextAttemptId = state.nextAttemptId)
      fun _ _ => False := by
  obtain ⟨pending, found, attempt, request⟩ := awaits.waiting prompt (.head _)
  simp only [exactCancelMatches, Bool.and_eq_true, beq_iff_eq] at names
  obtain ⟨⟨token, id⟩, session⟩ := names
  refine .reads ?_
  rw [id] at found
  simp only [found]
  refine .ite (fun differs => ?_) fun _ => ?_
  · rw [request] at differs
    exact absurd ⟨token, session⟩ (not_and_or.mpr differs)
  · refine .changes (.pure ⟨_, rfl, ⟨attempt, ?_, ?_⟩, awaits.settled ?_ ?_, rfl⟩)
    · rw [← request]
      rfl
    · rw [← request]
      rfl
    · rw [id]
      rfl
    · rw [← attempt]
      rfl

/-- A cancellation that no waiting prompt matches is ignored. -/
theorem cancel_ignored (awaits : Awaits state prompts)
    (unnamed : ∀ prompt ∈ prompts, ¬ exactCancelMatches prompt.request withdrawal) (nowMs : Nat) :
    cancel withdrawal nowMs state = (state, .ok .ignored) := by
  cases found : state.pending.lookup withdrawal.requestId with
  | none =>
    simp only [cancel, bind, Procedure.andThen, Procedure.read, found]
    rfl
  | some pending =>
    obtain ⟨id, listed⟩ := awaits.waited _ pending found
    have differs : pending.request.requestToken ≠ withdrawal.requestToken ∨
        pending.request.sessionId ≠ withdrawal.sessionId := by
      by_contra same
      obtain ⟨token, session⟩ := not_or.mp same
      refine unnamed _ listed ?_
      simpa [exactCancelMatches] using ⟨⟨not_not.mp token, id⟩, not_not.mp session⟩
    simp only [cancel, bind, Procedure.andThen, Procedure.read, found, if_pos differs]
    rfl

theorem Awaits.awaited (awaits : Awaits state prompts) {attempt : Nat}
    (unknown : state.pending.lookup request.requestId = none)
    (fresh : ∀ prompt ∈ prompts, prompt.attemptId ≠ attempt) (context : TrustedConsentContext)
    (deadline : Nat) :
    Awaits (state.await attempt request context deadline) (prompts ++ [⟨attempt, request⟩]) := by
  have missing : state.pendingAttempts.lookup attempt = none := by
    rw [Option.eq_none_iff_forall_ne_some]
    intro id found
    obtain ⟨pending, there, is⟩ := (awaits.inverse attempt id).mp found
    exact fresh _ (awaits.waited id pending there).2 is
  refine ⟨?_, ?_, ?_, ?_⟩
  · intro prompt listed
    rcases mem_append.mp listed with old | new
    · obtain ⟨pending, found, is, same⟩ := awaits.waiting prompt old
      refine ⟨pending, ?_, is, same⟩
      rw [await, Table.lookup_insert_alist, if_neg ?_]
      · exact found
      · intro equal
        rw [equal, unknown] at found
        cases found
    · obtain rfl := mem_singleton.mp new
      exact ⟨_, AList.lookup_insert _, rfl, rfl⟩
  · intro id pending found
    rw [await, Table.lookup_insert_alist] at found
    split at found
    next same =>
      cases found
      exact ⟨same.symm, List.mem_append_right _ (List.mem_singleton_self _)⟩
    · exact ⟨(awaits.waited id pending found).1, mem_append_left _ (awaits.waited id pending found).2⟩
  · intro probe id
    rw [await, Table.lookup_insert_alist, Table.lookup_insert_alist]
    by_cases new : probe = attempt
    · rw [if_pos new]
      constructor
      · rintro ⟨⟩
        exact ⟨_, if_pos rfl, new.symm⟩
      · rintro ⟨pending, found, is⟩
        split at found
        next same =>
          rw [same]
        · exact absurd (is.trans new) (fresh _ (awaits.waited id pending found).2)
    · rw [if_neg new, awaits.inverse]
      constructor
      · rintro ⟨pending, found, is⟩
        refine ⟨pending, ?_, is⟩
        rw [if_neg ?_]
        · exact found
        · rintro rfl
          simp [unknown] at found
      · rintro ⟨pending, found, is⟩
        split at found
        · cases found
          exact absurd is.symm new
        · exact ⟨pending, found, is⟩
  · rw [map_append, nodup_append]
    refine ⟨awaits.distinct, List.nodup_singleton _, ?_⟩
    intro first here second there
    obtain ⟨prompt, listed, rfl⟩ := mem_map.mp here
    rw [List.map_singleton, mem_singleton] at there
    rw [there]
    exact fresh prompt listed

/-- While no waiting request has expired, nothing waiting is pruned. -/
theorem pending_pruneForCapacity (awaits : Awaits state prompts) {nowMs : Nat}
    (early : ∀ prompt ∈ prompts, nowMs < prompt.request.expiresAtMs) :
    state.pruneForCapacity nowMs = state.pruneTombstones nowMs := by
  have none : (state.pruneTombstones nowMs).pending.entries.filter
      (fun entry => entry.2.request.expiresAtMs ≤ nowMs) = [] := by
    refine List.filter_eq_nil_iff.mpr ?_
    rintro ⟨id, pending⟩ listed
    have found := (Table.mem_entries_alist _ _ _).mp listed
    have late := early _ (awaits.waited id pending found).2
    simpa using late
  simp [pruneForCapacity, none]

/-- **An admission** waits for the request under the next attempt, or leaves what waits alone. -/
theorem beginAt_meets (awaits : Awaits state prompts)
    (bounded : ∀ prompt ∈ prompts, prompt.attemptId ≤ state.nextAttemptId)
    (request : ConsentRequest) (context : TrustedConsentContext) (anchor : Nat)
    (early : ∀ prompt ∈ prompts, context.nowMs < prompt.request.expiresAtMs) :
    Meets (beginAt request context anchor) state (fun outcome later =>
        (∃ result, outcome = .cached result ∧ Awaits later prompts ∧
          later.nextAttemptId = state.nextAttemptId) ∨
        (outcome = .prompt ⟨state.nextAttemptId + 1, request⟩ ∧
          Awaits later (prompts ++ [⟨state.nextAttemptId + 1, request⟩]) ∧
          later.nextAttemptId = state.nextAttemptId + 1))
      fun error later => error ≠ .unavailable ∧ Awaits later prompts ∧
        later.nextAttemptId = state.nextAttemptId := by
  refine .bind (R := fun _ later => later = state) (.refuse (fun _ => ⟨nofun, awaits, rfl⟩) fun _ => rfl)
    fun _ later is => ?_
  subst is
  refine .changes ?_
  rw [pending_pruneForCapacity awaits early]
  have pruned : Awaits (later.pruneTombstones context.nowMs) prompts := awaits.same rfl rfl
  refine .reads ?_
  split
  · exact .bind (R := fun _ ended => ended = later.pruneTombstones context.nowMs)
      (.refuse (fun _ => ⟨nofun, pruned, rfl⟩) fun _ => rfl) fun _ ended is =>
        .pure (.inl ⟨_, rfl, is ▸ pruned, is ▸ rfl⟩)
  · exact .fail ⟨by split <;> nofun, pruned, rfl⟩
  next unknown =>
    split
    next error refused =>
      refine .fail ⟨?_, pruned, rfl⟩
      rintro rfl
      unfold refusal at refused
      repeat' split at refused
      all_goals cases refused
    · exact .fail ⟨nofun, pruned, rfl⟩
    · exact .fail ⟨nofun, pruned, rfl⟩
    next deadline attempt _ _ next =>
      have is : attempt = later.nextAttemptId + 1 := by
        unfold checkedAdd at next
        split at next
        · exact (Option.some.inj next).symm
        · cases next
      subst is
      refine .changes (.pure (.inr ⟨rfl, pruned.awaited unknown ?_ _ _, rfl⟩))
      intro prompt listed same
      have below := bounded prompt listed
      omega

end ConsentAuthorityState

/-! ### The manager -/

variable {α : Type} {context : TrustedConsentContext}

namespace ConsentManager

open ConsentAuthorityState (Awaits)

/-- The prompt on screen, while it waits for an answer. -/
def prompting (manager : ConsentManager) : List PendingConsentPrompt :=
  ((manager.active.filter fun active => active.phase == .prompting).map fun active =>
    active.prompt.pending).toList

/-- **The prompts that are still to be answered.** -/
def held (manager : ConsentManager) : List PendingConsentPrompt :=
  manager.prompting ++ manager.queued.map ManagedPrompt.pending

/-- **What a method did**: the prompts it no longer holds are those it answered. -/
structure Settled (before : ConsentManager) (answers : List Answer) (after : ConsentManager) : Prop where
  admitted : after.admitted = before.admitted
  next : after.registry.nextAttemptId = before.registry.nextAttemptId
  awaits : Awaits after.registry after.held
  balance : ∃ prompts, List.Forall₂ Answers answers prompts ∧ (after.held ++ prompts).Perm before.held

theorem Settled.refl {manager : ConsentManager} (awaits : Awaits manager.registry manager.held) :
    Settled manager [] manager :=
  ⟨rfl, rfl, awaits, [], .nil, by rw [append_nil]⟩

theorem Settled.trans {first second third : ConsentManager} {early late : List Answer}
    (before : Settled first early second) (after : Settled second late third) :
    Settled first (early ++ late) third := by
  obtain ⟨some, told, balance⟩ := before.balance
  obtain ⟨others, retold, rebalance⟩ := after.balance
  refine ⟨after.admitted.trans before.admitted, after.next.trans before.next, after.awaits,
    some ++ others, List.rel_append told retold, ?_⟩
  calc third.held ++ (some ++ others)
      _ |>.Perm (third.held ++ (others ++ some)) := List.perm_append_comm.append_left _
      _ |>.Perm (second.held ++ some) := by
        simpa using rebalance.append_right _
      _ |>.Perm first.held := balance

theorem Settled.one {before after : ConsentManager} {prompt : PendingConsentPrompt} {answer : Answer}
    (admitted : after.admitted = before.admitted)
    (next : after.registry.nextAttemptId = before.registry.nextAttemptId)
    (answers : Answers answer prompt) (held : before.held.Perm (prompt :: after.held))
    (awaits : Awaits after.registry after.held) : Settled before [answer] after :=
  ⟨admitted, next, awaits, [prompt], .cons answers .nil, List.perm_append_comm.trans held.symm⟩

variable {manager : ConsentManager}

variable {prompt : ManagedPrompt} {rest : List PendingConsentPrompt}

/-- A prompt was answered, and the registry waits for the others. -/
abbrev Answered (manager : ConsentManager) (prompt : PendingConsentPrompt)
    (rest : List PendingConsentPrompt) (answers : List Answer) (later : ConsentManager) : Prop :=
  ∃ answer registry, answers = [answer] ∧ Answers answer prompt ∧ later = { manager with registry } ∧
    Awaits registry rest ∧ registry.nextAttemptId = manager.registry.nextAttemptId

/-- Expiring a prompt that the registry waits for answers it. -/
theorem completeExpiredPrompt_meets (awaits : Awaits manager.registry (prompt.pending :: rest))
    (nowMs : Nat) :
    Meets (completeExpiredPrompt prompt nowMs) manager
      (Answered manager prompt.pending rest) fun _ _ => False := by
  have completes := ConsentAuthorityState.complete_meets awaits .expired ∅
    { prompt.context with nowMs := max nowMs prompt.pending.request.expiresAtMs }
  refine ((onRegistry_meets completes).conseq (fun _ _ => id) fun _ _ ⟨_, _, no⟩ => no).bind ?_
  rintro _ _ ⟨registry, rfl, completion, rfl, answers, awaits, next⟩
  exact .pure ⟨_, registry, rfl, answers, rfl, awaits, next⟩

theorem cancelManagedPrompt_meets (awaits : Awaits manager.registry (prompt.pending :: rest))
    (nowMs : Nat) :
    Meets (cancelManagedPrompt prompt nowMs) manager
      (Answered manager prompt.pending rest) fun _ _ => False := by
  have names : exactCancelMatches prompt.pending.request prompt.cancellation := by
    simp [exactCancelMatches, ManagedPrompt.cancellation]
  have cancels := ConsentAuthorityState.cancel_meets awaits names nowMs
  refine ((onRegistry_meets cancels).conseq (fun _ _ => id) fun _ _ ⟨_, _, no⟩ => no).bind ?_
  rintro _ _ ⟨registry, rfl, answer, rfl, answers, awaits, next⟩
  exact .pure ⟨_, registry, rfl, answers, rfl, awaits, next⟩

/-! ### Prompts on screen and in the queue -/

variable {active : ActivePrompt}

theorem prompting_some (shown : manager.active = some active) (phase : active.phase = .prompting) :
    manager.prompting = [active.prompt.pending] := by
  simp [prompting, shown, phase]

theorem prompting_nil (quiet : ∀ active, manager.active = some active → active.phase = .closing) :
    manager.prompting = [] := by
  cases shown : manager.active with
  | none => simp [prompting, shown]
  | some active => simp [prompting, shown, Option.filter, quiet active shown]

theorem held_prompting (shown : manager.active = some active) (phase : active.phase = .prompting) :
    manager.held = active.prompt.pending :: manager.queued.map ManagedPrompt.pending := by
  rw [held, prompting_some shown phase]
  rfl

theorem held_close (reason : ConsentAbortReason) (registry : ConsentAuthorityState) :
    ConsentManager.held (closeActive reason { manager with registry }).1 =
      manager.queued.map ManagedPrompt.pending := by
  rw [held, prompting_nil]
  · rfl
  · intro active shown
    obtain ⟨_, _, rfl⟩ := map_eq_some_iff.mp shown
    rfl

/-- A queued prompt that is taken out is the only one of its attempt. -/
theorem held_unqueue (listed : prompt ∈ manager.queued) :
    manager.held.Perm (prompt.pending :: ConsentManager.held (unqueue prompt manager).1) := by
  have taken := (List.perm_cons_erase listed).map ManagedPrompt.pending
  calc manager.held
      _ |>.Perm (manager.prompting ++ (prompt :: manager.queued.erase prompt).map ManagedPrompt.pending) :=
        taken.append_left _
      _ |>.Perm (prompt.pending :: (manager.prompting ++ (manager.queued.erase prompt).map
          ManagedPrompt.pending)) := perm_middle

theorem held_queued (listed : prompt ∈ manager.queued) :
    prompt.pending ∈ manager.held :=
  List.mem_append_right _ (List.mem_map_of_mem listed)

theorem queued_distinct (awaits : Awaits manager.registry manager.held) :
    (manager.queued.map fun prompt => prompt.pending.attemptId).Nodup := by
  have distinct := awaits.distinct
  rw [held, map_append, List.map_map] at distinct
  exact (nodup_append.mp distinct).2.1

theorem queued_nodup (awaits : Awaits manager.registry manager.held) : manager.queued.Nodup :=
  (queued_distinct awaits).of_map _

/-- Erasing the first element of a kind depends on the elements of the list only. -/
theorem eraseP_congr {p q : α → Bool} {list : List α} (same : ∀ element ∈ list, p element = q element) :
    list.eraseP p = list.eraseP q := by
  induction list with
  | nil => rfl
  | cons element rest ih =>
    rw [List.eraseP_cons, List.eraseP_cons, same element (.head _),
      ih fun other among => same other (.tail _ among)]

variable {prompts : List ManagedPrompt}

/-- Closing prompts of the queue, each of which is answered and taken out. -/
theorem closeQueued_meets {condition : ManagedPrompt → Bool}
    {close : ManagedPrompt → Method (List Answer)}
    (each : ∀ (manager : ConsentManager) prompt, Awaits manager.registry manager.held →
      prompt ∈ manager.queued → Meets (close prompt) manager (fun answers later =>
        Settled manager answers later ∧ later.active = manager.active ∧
          later.queued = manager.queued.erase prompt) fun _ _ => False)
    (distinct : prompts.Nodup) {manager : ConsentManager}
    (awaits : Awaits manager.registry manager.held) (listed : prompts ⊆ manager.queued) :
    Meets (closeQueued condition close prompts) manager
      (fun answers later => Settled manager answers later ∧ later.active = manager.active ∧
        later.queued ⊆ manager.queued ∧ ∀ prompt ∈ prompts, condition prompt → prompt ∉ later.queued)
      fun _ _ => False := by
  induction prompts generalizing manager with
  | nil => exact .pure ⟨.refl awaits, rfl, fun _ => id, fun _ member => absurd member not_mem_nil⟩
  | cons prompt rest ih =>
    obtain ⟨missing, distinct⟩ := nodup_cons.mp distinct
    have unique := queued_nodup awaits
    refine .bind (R := fun answers later => Settled manager answers later ∧
      later.active = manager.active ∧ later.queued ⊆ manager.queued ∧ rest ⊆ later.queued ∧
        (condition prompt → prompt ∉ later.queued)) (.ite (fun _ => ?_) fun skipped => ?_)
      fun answers later ⟨settled, active, below, still, gone⟩ => ?_
    · refine (each manager prompt awaits (listed (.head _))).mono
        fun answers later ⟨settled, active, queue⟩ => ⟨settled, active, ?_, ?_, ?_⟩
      · simp [queue, List.erase_subset]
      · intro other among
        rw [queue]
        refine (List.mem_erase_of_ne ?_).mpr (listed (.tail _ among))
        rintro rfl
        exact missing among
      · simpa [queue] using fun _ => unique.not_mem_erase
    · exact .pure ⟨.refl awaits, rfl, fun _ => id, fun _ among => listed (.tail _ among),
        fun holds => absurd holds skipped⟩
    · refine (ih distinct settled.awaits still).bind
        fun others last ⟨resettled, reactive, under, all⟩ => .pure ⟨settled.trans resettled,
          reactive.trans active, fun _ among => below (under among), fun other among holds => ?_⟩
      rcases mem_cons.mp among with rfl | later
      · exact fun found => gone holds (under found)
      · exact all other later holds

/-! ### Deadlines -/

theorem expireActive_meets (awaits : Awaits manager.registry manager.held)
    (shown : manager.active = some active) (phase : active.phase = .prompting) (nowMs : Nat) :
    Meets (expireActive nowMs) manager
      (fun answers later => Settled manager answers later ∧ later.queued = manager.queued ∧
        later.active = some { active with phase := .closing, abort := some .promptExpired })
      fun _ _ => False := by
  have holds := held_prompting shown phase
  refine .reads ?_
  simp only [shown]
  refine (completeExpiredPrompt_meets (holds ▸ awaits) nowMs).bind ?_
  rintro _ _ ⟨answer, registry, rfl, answers, rfl, still, next⟩
  refine .changes (.pure ⟨.one rfl next answers ?_ ?_, rfl, ?_⟩)
  · exact (holds.trans (congrArg (active.prompt.pending :: ·)
      (held_close .promptExpired registry).symm)) ▸ .refl _
  · exact (held_close .promptExpired registry).symm ▸ still
  · simp [shown]

theorem expireQueuedDue_meets (awaits : Awaits manager.registry manager.held) (now nowMs : Nat) :
    Meets (expireQueuedDue now nowMs) manager
      (fun answers later => Settled manager answers later ∧ later.active = manager.active ∧
        later.queued ⊆ manager.queued ∧ ∀ prompt ∈ later.queued, ¬ prompt.isDue now nowMs)
      fun _ _ => False := by
  refine .reads ((closeQueued_meets ?_ (queued_nodup awaits) awaits fun _ => id).mono
    fun answers later ⟨settled, active, below, gone⟩ => ⟨settled, active, below,
      fun prompt listed due => gone prompt (below listed) due listed⟩)
  intro manager prompt awaits listed
  have taken := held_unqueue listed
  refine .changes ((@completeExpiredPrompt_meets (unqueue prompt manager).1 prompt _
    (awaits.perm taken) nowMs).mono ?_)
  rintro _ _ ⟨answer, registry, rfl, answers, rfl, still, next⟩
  exact ⟨.one rfl next answers taken still, rfl, rfl⟩

/-- Whether the prompt on screen still waits, and its time is not over. -/
def InTime (manager : ConsentManager) (now nowMs : Nat) : Prop :=
  (∀ prompt ∈ manager.queued, ¬ prompt.isDue now nowMs) ∧
    ∀ active, manager.active = some active → active.phase = .prompting → ¬ active.prompt.isDue now nowMs

theorem expireDue_meets (awaits : Awaits manager.registry manager.held) (now nowMs : Nat) :
    Meets (expireDue now nowMs) manager
      (fun answers later => Settled manager answers later ∧ InTime later now nowMs ∧
        later.queued ⊆ manager.queued ∧
        (later.active = manager.active ∨ ∃ active, manager.active = some active ∧
          active.phase = .prompting ∧
          later.active = some { active with phase := .closing, abort := some .promptExpired }))
      fun _ _ => False := by
  refine .reads (.bind (R := fun answers later => Settled manager answers later ∧
    later.queued = manager.queued ∧
    (∀ active, later.active = some active → active.phase = .prompting →
      ¬ active.prompt.isDue now nowMs) ∧
    (later.active = manager.active ∨ ∃ active, manager.active = some active ∧
      active.phase = .prompting ∧
      later.active = some { active with phase := .closing, abort := some .promptExpired }))
    (.ite (fun due => ?_) fun early => ?_) ?_)
  · obtain ⟨active, shown, is⟩ := any_eq_true _ _ |>.mp due
    simp only [Bool.and_eq_true, beq_iff_eq] at is
    refine (expireActive_meets awaits shown is.1 nowMs).mono fun answers later ⟨settled, queue, closing⟩ =>
      ⟨settled, queue, ?_, .inr ⟨active, shown, is.1, closing⟩⟩
    intro other there phase
    rw [closing] at there
    cases there
    cases phase
  · refine .pure ⟨.refl awaits, rfl, fun active shown phase due => early ?_, .inl rfl⟩
    simp [activeDue, shown, phase, due]
  · intro answers later ⟨settled, queue, early, active⟩
    refine (expireQueuedDue_meets settled.awaits now nowMs).bind
      fun others last ⟨resettled, same, below, timely⟩ => .pure ⟨settled.trans resettled,
        ⟨timely, fun active shown => early active (same ▸ shown)⟩, queue ▸ below, ?_⟩
    simp [same, active]

/-! ### The next prompt -/

theorem held_quiet (quiet : manager.active = none) :
    manager.held = manager.queued.map ManagedPrompt.pending := by
  rw [held, prompting_nil]
  · rfl
  · intro active shown
    simp [quiet] at shown

theorem startFrom_meets (instants : Nat → Nat) (context : TrustedConsentContext)
    {manager : ConsentManager} (quiet : manager.active = none) (queue : manager.queued = prompts)
    (awaits : Awaits manager.registry manager.held) (tick : Nat) :
    Meets (startFrom instants context prompts tick) manager (Settled manager) fun _ _ => False := by
  induction prompts generalizing manager tick with
  | nil => exact .pure (.refl awaits)
  | cons prompt rest ih =>
    have holds : manager.held = prompt.pending :: rest.map ManagedPrompt.pending := by
      simp [held_quiet quiet, queue]
    have shorter : ∀ registry, ConsentManager.held { manager with queued := rest, registry } =
        rest.map ManagedPrompt.pending := fun _ => held_quiet quiet
    -- an answer to the first prompt, and the rest of the queue
    have goes : ∀ {m : Method (List Answer)},
        Meets m { manager with queued := rest } (Answered { manager with queued := rest }
          prompt.pending (rest.map ManagedPrompt.pending)) (fun _ _ => False) →
        Meets (do
          let answers ← m
          let later ← startFrom instants context rest (tick + 1)
          return answers ++ later) { manager with queued := rest }
          (Settled manager) fun _ _ => False := by
      intro m first
      refine first.bind ?_
      rintro _ _ ⟨answer, registry, rfl, answers, rfl, still, next⟩
      have settled : Settled manager [answer] { manager with queued := rest, registry } := by
        refine .one rfl next answers ?_ ?_
        · rw [holds, shorter]
        · simp [shorter, still]
      exact (@ih { manager with queued := rest, registry } quiet rfl settled.awaits _).bind
        fun others last resettled => .pure (settled.trans resettled)
    refine .changes (.ite (fun _ => goes ?_) fun _ => .ite (fun _ => goes ?_) fun _ => .changes ?_)
    · exact completeExpiredPrompt_meets (holds ▸ awaits) _
    · exact cancelManagedPrompt_meets (holds ▸ awaits) _
    · have same : ConsentManager.held { manager with
          queued := rest, active := some { prompt, phase := .prompting, abort := none } } =
          manager.held := holds.symm
      exact .pure ⟨rfl, rfl, same ▸ awaits, [], .nil, by rw [append_nil]; exact same ▸ .refl _⟩

theorem startNext_meets (awaits : Awaits manager.registry manager.held) (instants : Nat → Nat)
    (context : TrustedConsentContext) :
    Meets (startNext instants context) manager (Settled manager)
      fun _ _ => False := by
  refine .reads (.ite (fun _ => .pure (.refl awaits)) fun quiet => ?_)
  rw [Bool.not_eq_true, Option.isSome_eq_false_iff, Option.isNone_iff_eq_none] at quiet
  exact startFrom_meets instants context quiet rfl awaits 0

theorem activate_meets (awaits : Awaits manager.registry manager.held) (instants : Nat → Nat)
    (context : TrustedConsentContext) :
    Meets (activate instants context) manager (Settled manager)
      fun _ _ => False :=
  (expireQueuedDue_meets awaits _ _).bind fun _ _ ⟨settled, _⟩ =>
    (startNext_meets settled.awaits _ _).bind fun _ _ resettled => .pure (settled.trans resettled)

/-! ### Completion -/

/-- The decision on the prompt that was taken off the screen answers it. -/
theorem decideActive_meets
    (awaits : Awaits manager.registry (active.prompt.pending :: manager.queued.map ManagedPrompt.pending))
    (quiet : manager.active = none) (outcome : BackendCompletionOutcome)
    (context : TrustedConsentContext) :
    Meets (decideActive active outcome context) manager
      (fun completed later => ∃ answer registry, completed.results = [answer] ∧
        Answers answer active.prompt.pending ∧ later = { manager with registry } ∧
        Awaits registry later.held ∧ registry.nextAttemptId = manager.registry.nextAttemptId)
      fun _ _ => False := by
  have completes := ConsentAuthorityState.complete_meets awaits outcome.decided.1 outcome.decided.2 context
  refine ((onRegistry_meets completes).conseq (fun _ _ => id) fun _ _ ⟨_, _, no⟩ => no).bind ?_
  rintro _ _ ⟨registry, rfl, completion, rfl, answers, still, next⟩
  exact .pure ⟨_, registry, rfl, answers, rfl, (held_quiet quiet : ConsentManager.held
    { manager with registry } = _).symm ▸ still, next⟩

theorem complete_meets (awaits : Awaits manager.registry manager.held) (instants : Nat → Nat)
    (completion : BackendCompletion) (context : TrustedConsentContext) :
    Meets (complete instants completion context) manager
      (fun completed later => Settled manager completed.results later) fun _ _ => False := by
  refine .reads ?_
  cases shown : manager.active with
  | none => exact .pure (.refl awaits)
  | some active =>
    -- what is left once the prompt is off the screen
    have rests : ∀ {early : ConsentManager} {first : List Answer}, Settled manager first early →
        Meets (do
          let queued ← expireQueuedDue (instants 0) context.nowMs
          let started ← startNext (fun tick => instants (tick + 1)) context
          return ConsentManagerCompletion.mk (first ++ queued ++ started) none) early
          (fun completed later => Settled manager completed.results later) fun _ _ => False :=
      fun settled => (expireQueuedDue_meets settled.awaits _ _).bind fun _ _ ⟨queued, _⟩ =>
        (startNext_meets queued.awaits _ _).bind fun _ _ started =>
          .pure ((settled.trans queued).trans started)
    refine .ite (fun _ => .pure (.refl awaits)) fun _ => .ite (fun due => ?_) fun _ => .changes ?_
    · refine (expireActive_meets awaits shown due.1 _).bind fun expired early ⟨settled, queue, closing⟩ =>
        .changes (rests ?_)
      have same : early.held = early.queued.map ManagedPrompt.pending := by
        rw [held, prompting_nil]
        · rfl
        · intro other there
          rw [closing] at there
          cases there
          rfl
      have left : ConsentManager.held { early with active := none } = early.held :=
        (held_quiet rfl).trans same.symm
      rw [← append_nil expired]
      refine settled.trans ⟨rfl, rfl, left ▸ settled.awaits, [], .nil, ?_⟩
      simpa using left ▸ .refl _
    · refine .bind (R := fun decided later => Settled manager decided.results later)
        (.ite (fun open' => ?_) fun closing => ?_) fun decided later settled => ?_
      · have phase : active.phase = .prompting := by
          cases is : active.phase with
          | prompting => rfl
          | closing => exact absurd is open'
        have holds := held_prompting shown phase
        refine (@decideActive_meets { manager with active := none } active (holds ▸ awaits) rfl
          completion.outcome context).mono ?_
        rintro decided _ ⟨answer, registry, results, answers, rfl, still, next⟩
        rw [results]
        refine .one rfl next answers ?_ still
        rw [holds]
        exact .refl _
      · rw [ne_eq, not_not] at closing
        have same : ConsentManager.held { manager with active := none } = manager.held := by
          rw [held_quiet rfl, held, prompting_nil]
          · rfl
          · intro other there
            rw [shown] at there
            cases there
            exact closing
        refine .pure ⟨rfl, rfl, same ▸ awaits, [], .nil, ?_⟩
        simpa using same ▸ .refl _
      · refine (expireQueuedDue_meets settled.awaits _ _).bind fun queued then' ⟨resettled, _⟩ => ?_
        refine .bind (R := Settled then')
          (.ite (fun _ => startNext_meets resettled.awaits _ _) fun _ => .pure (.refl resettled.awaits))
          fun started last again => .pure ((settled.trans resettled).trans again)

/-! ### Withdrawal -/

theorem Settled.close {answer : Answer} {registry : ConsentAuthorityState}
    (reason : ConsentAbortReason) (shown : manager.active = some active)
    (phase : active.phase = .prompting) (answers : Answers answer active.prompt.pending)
    (awaits : Awaits registry (manager.queued.map ManagedPrompt.pending))
    (next : registry.nextAttemptId = manager.registry.nextAttemptId) :
    Settled manager [answer] (closeActive reason { manager with registry }).1 := by
  refine .one rfl next answers ?_ ?_
  · rw [held_close, held, prompting_some shown phase]
    exact .refl _
  · rw [held_close]
    exact awaits

theorem withdrawActive_meets (awaits : Awaits manager.registry manager.held)
    (desktop : TrustedDesktopState) (nowMs : Nat) :
    Meets (withdrawActive desktop nowMs) manager
      (Settled manager) fun _ _ => False := by
  refine .reads ?_
  cases shown : manager.active with
  | none => exact .pure (.refl awaits)
  | some active =>
    refine .ite (fun ⟨_, phase⟩ => ?_) fun _ => .pure (.refl awaits)
    refine (cancelManagedPrompt_meets (held_prompting shown phase ▸ awaits) nowMs).bind ?_
    rintro _ _ ⟨answer, registry, rfl, answers, rfl, still, next⟩
    exact .changes (.pure (.close .desktopChanged shown phase answers still next))

theorem invalidateDesktopPrompts_meets (awaits : Awaits manager.registry manager.held) (now : Nat)
    (desktop : TrustedDesktopState) (nowMs : Nat) :
    Meets (invalidateDesktopPrompts now desktop nowMs) manager
      (Settled manager) fun _ _ => False := by
  refine (expireDue_meets awaits now nowMs).bind fun expired first ⟨settled, _⟩ =>
    (withdrawActive_meets settled.awaits desktop nowMs).bind fun answers second withdrawn => .reads
      ((closeQueued_meets ?_ (queued_nodup withdrawn.awaits) withdrawn.awaits fun _ => id).bind
        fun queued last ⟨closed, _⟩ => .pure ((settled.trans withdrawn).trans closed))
  intro manager prompt awaits listed
  have taken := held_unqueue listed
  refine (cancelManagedPrompt_meets (awaits.perm taken) nowMs).bind ?_
  rintro _ _ ⟨answer, registry, rfl, answers, rfl, still, next⟩
  exact .changes (.pure ⟨.one rfl next answers taken still, rfl, rfl⟩)

/-- **The prompt on screen is closing, and a later prompt of the queue answers to the same
cancellation.** -/
def Shadowed (manager : ConsentManager) (withdrawal : CancelConsent) (now nowMs : Nat) : Prop :=
  (∃ active, manager.active = some active ∧ active.phase = .closing ∧
    exactCancelMatches active.prompt.pending.request withdrawal) ∧
  ∃ prompt ∈ manager.queued, exactCancelMatches prompt.pending.request withdrawal ∧
    ¬ prompt.isDue now nowMs

theorem matches_id {first second : ConsentRequest} (here : exactCancelMatches first withdrawal)
    (there : exactCancelMatches second withdrawal) :
    first.requestId = second.requestId := by
  simp only [exactCancelMatches, Bool.and_eq_true, beq_iff_eq] at here there
  exact here.1.2.trans there.1.2.symm

theorem cancel_meets (awaits : Awaits manager.registry manager.held) (withdrawal : CancelConsent)
    (now nowMs : Nat) (clear : ¬ Shadowed manager withdrawal now nowMs) :
    Meets (cancel withdrawal now nowMs) manager
      (Settled manager) fun _ _ => False := by
  refine (expireDue_meets awaits now nowMs).bind fun expired later ⟨settled, timely, below, active⟩ =>
    .reads (.ite (fun named => ?_) fun unnamed => .ite (fun named => ?_) fun _ => .pure settled)
  · obtain ⟨shown, there, names⟩ := any_eq_true _ _ |>.mp named
    cases phase : shown.phase with
    | prompting =>
      have cancels := ConsentAuthorityState.cancel_meets
        (held_prompting there phase ▸ settled.awaits) names nowMs
      refine ((onRegistry_meets cancels).conseq (fun _ _ => id) fun _ _ ⟨_, _, no⟩ => no).bind ?_
      rintro _ _ ⟨registry, rfl, answer, rfl, answers, still, next⟩
      exact .changes (.pure (settled.trans (.close _ there phase answers still next)))
    | closing =>
      -- the queue holds no prompt of this cancellation
      have none : ∀ prompt ∈ later.held, ¬ exactCancelMatches prompt.request withdrawal := by
        intro prompt listed others
        have quiet : later.prompting = [] := prompting_nil fun other is => by
          rw [there] at is
          cases is
          exact phase
        rw [held, quiet, List.nil_append] at listed
        obtain ⟨queued, among, rfl⟩ := mem_map.mp listed
        rcases active with same | ⟨before, was, waits, is⟩
        · exact clear ⟨⟨shown, same ▸ there, phase, names⟩, queued, below among, others,
            timely.1 queued among⟩
        · rw [there] at is
          cases is
          have both := held_prompting was waits ▸ awaits
          have equal := both.id_injective (.head _)
            (.tail _ (List.mem_map_of_mem (below among))) (matches_id names others)
          have distinct := (nodup_cons.mp both.distinct).1
          exact distinct (mem_map.mpr ⟨_, List.mem_map_of_mem (below among), by rw [equal]⟩)
      have ignored := ConsentAuthorityState.cancel_ignored settled.awaits none nowMs
      have left : onRegistry (ConsentAuthorityState.cancel withdrawal nowMs) later =
          (later, .ok .ignored) := by
        rw [onRegistry, ignored]
      refine .bind (R := fun outcome t => outcome = .ignored ∧ t = later) ?_ ?_
      · simp [Meets, left]
      · rintro _ _ ⟨rfl, rfl⟩
        exact .pure settled
  · obtain ⟨prompt, listed, names⟩ := List.any_eq_true.mp named
    have first : later.queued.eraseP (fun prompt =>
        exactCancelMatches prompt.pending.request withdrawal) = later.queued.erase prompt := by
      rw [List.erase_eq_eraseP]
      refine eraseP_congr fun other among => Bool.eq_iff_iff.mpr ⟨fun others => ?_, fun is => ?_⟩
      · have equal := settled.awaits.id_injective (held_queued listed) (held_queued among)
          (matches_id names others)
        exact beq_iff_eq.mpr (inj_on_of_nodup_map (queued_distinct settled.awaits) listed among
          (congrArg attemptId equal))
      · simp [← beq_iff_eq.mp is, names]
    have taken := held_unqueue listed
    have cancels := ConsentAuthorityState.cancel_meets (settled.awaits.perm taken) names nowMs
    refine ((onRegistry_meets cancels).conseq (fun _ _ => id) fun _ _ ⟨_, _, no⟩ => no).bind ?_
    rintro _ _ ⟨registry, rfl, answer, rfl, answers, still, next⟩
    refine .changes (.pure (settled.trans ?_))
    rw [first]
    exact .one rfl next answers taken still

/-! ### Admission -/

theorem admitPrompt_meets (awaits : Awaits manager.registry manager.held)
    (bounded : ∀ prompt ∈ manager.held, prompt.attemptId ≤ manager.registry.nextAttemptId) (now : Nat)
    (early : ∀ prompt ∈ manager.held, context.nowMs < prompt.request.expiresAtMs) :
    Meets (admitPrompt request context now) manager
      (fun outcome later => (∃ result, outcome = .cached result ∧ Settled manager [] later) ∨
        (outcome = .promptAdmitted ∧ Awaits later.registry later.held ∧
          later.registry.nextAttemptId = manager.registry.nextAttemptId + 1 ∧
          later.admitted = ⟨manager.registry.nextAttemptId + 1, request⟩ :: manager.admitted ∧
          later.held = manager.held ++ [⟨manager.registry.nextAttemptId + 1, request⟩]))
      fun error later => error ≠ .unavailable ∧ Settled manager [] later := by
  have settles : ∀ registry, Awaits registry manager.held →
      registry.nextAttemptId = manager.registry.nextAttemptId →
      Settled manager [] { manager with registry } := fun registry awaits next =>
    ⟨rfl, next, awaits, [], .nil, by rw [append_nil]; exact .refl _⟩
  refine ((onRegistry_meets (ConsentAuthorityState.beginAt_meets awaits bounded request context now
    early)).conseq (fun _ _ => id) ?_).bind ?_
  · rintro error _ ⟨registry, rfl, harmless, awaits, next⟩
    exact ⟨harmless, settles registry awaits next⟩
  · rintro _ _ ⟨registry, rfl, ⟨result, rfl, awaits, next⟩ | ⟨rfl, awaits, next⟩⟩
    · exact .pure (.inl ⟨result, rfl, settles registry awaits next⟩)
    · have grown : ∀ prompt : ManagedPrompt, ConsentManager.held { manager with
          registry, queued := manager.queued ++ [prompt], admitted := prompt.pending :: manager.admitted } =
          manager.held ++ [prompt.pending] := by
        intro prompt
        show manager.prompting ++ (manager.queued ++ [prompt]).map ManagedPrompt.pending = _
        rw [map_append, ← append_assoc]
        rfl
      refine .changes (.pure (.inr ⟨rfl, ?_, next, rfl, grown _⟩))
      simp [grown, awaits]

end ConsentManager

/-! ### The runtime -/

namespace AgentRuntime

open ConsentAuthorityState (Awaits)
open ConsentManager (Settled)

variable {ω σ : Type} {runtime : AgentRuntime ω σ}

/-- The consent manager; without one, nothing was ever admitted. -/
def manager (runtime : AgentRuntime ω σ) : ConsentManager := runtime.authority.getD .new

/-- The message that answered a prompt. -/
def Told (sent : Sent) (prompt : PendingConsentPrompt) : Prop :=
  ∃ answer, sent = ⟨.consentResult answer.result, some answer.attemptId⟩ ∧ Answers answer prompt

/-- The messages that answered something. -/
def answering (runtime : AgentRuntime ω σ) : List Sent :=
  runtime.sent.filter fun sent => sent.answers.isSome

/-- **What was admitted is still held, about to be answered, or was answered.** -/
structure Balanced (inflight : List Answer) (runtime : AgentRuntime ω σ) : Prop where
  awaits : Awaits runtime.manager.registry runtime.manager.held
  bounded : ∀ prompt ∈ runtime.manager.admitted,
    prompt.attemptId ≤ runtime.manager.registry.nextAttemptId
  distinct : (runtime.manager.admitted.map attemptId).Nodup
  balance : ∃ prompts told, List.Forall₂ Answers inflight prompts ∧
    List.Forall₂ Told runtime.answering told ∧
    (runtime.manager.held ++ prompts ++ told).Perm runtime.manager.admitted

/-- What still holds where a handler failed: nothing was answered twice. -/
structure Sparing (runtime : AgentRuntime ω σ) : Prop where
  distinct : (runtime.manager.admitted.map attemptId).Nodup
  told : ∃ told, List.Forall₂ Told runtime.answering told ∧ told.Subperm runtime.manager.admitted

variable {inflight : List Answer}

theorem Balanced.sparing (balanced : Balanced inflight runtime) : Sparing runtime := by
  obtain ⟨prompts, told, -, answered, balance⟩ := balanced.balance
  exact ⟨balanced.distinct, told, answered,
    (List.sublist_append_right _ _).subperm.trans balance.subperm⟩

theorem Balanced.frame {before after : AgentRuntime ω σ} (balanced : Balanced inflight before)
    (authority : after.authority = before.authority) (answering : after.answering = before.answering) :
    Balanced inflight after := by
  have same : after.manager = before.manager := by rw [manager, manager, authority]
  exact ⟨same ▸ balanced.awaits, same ▸ balanced.bounded, same ▸ balanced.distinct,
    by rw [same, answering]; exact balanced.balance⟩

/-- The errors that no handler may stop with. -/
def isHarmless (error : AgentRuntimeError) : Prop := error ≠ .consentStateUnavailable (some .unavailable)

theorem isHarmless_ordinary {error : AgentRuntimeError} (ordinary : error.isOrdinary) :
    isHarmless error := by
  rintro rfl
  cases ordinary

/-- What a method that fails leaves: no prompt is answered twice, and consent is still there. -/
abbrev Spared (error : AgentRuntimeError) (later : AgentRuntime ω σ) : Prop :=
  isHarmless error ∧ Sparing later

/-- **A method that leaves consent alone.** -/
def Steady {α : Type} (m : Method ω σ α) : Prop := ∀ inflight runtime, Balanced inflight runtime →
  Meets m runtime (fun _ later => Balanced inflight later ∧ later.authority = runtime.authority) Spared

theorem steady_composes :
    Procedure.Composes (AgentRuntimeError.isOrdinary · = true) (@Steady ω σ) where
  pure _ _ _ balanced := .pure ⟨balanced, rfl⟩
  read _ _ balanced := .read ⟨balanced, rfl⟩
  fail _ ordinary _ _ balanced := .fail ⟨isHarmless_ordinary ordinary, balanced.sparing⟩
  bind first second inflight runtime balanced := (first inflight runtime balanced).bind
    fun value later ⟨still, same⟩ => (second value inflight later still).mono
      fun _ _ ⟨last, again⟩ => ⟨last, again.trans same⟩

theorem change_steady {f : AgentRuntime ω σ → AgentRuntime ω σ}
    (authority : ∀ runtime, (f runtime).authority = runtime.authority)
    (answering : ∀ runtime, (f runtime).answering = runtime.answering) :
    Steady (Procedure.change f : Method ω σ Unit) :=
  fun _ runtime balanced => .change ⟨balanced.frame (authority runtime) (answering runtime),
    authority runtime⟩

theorem ask_steady (question : ω → α × ω) : Steady (ask question : Method ω σ α) :=
  fun _ _ balanced => ⟨balanced.frame rfl rfl, rfl⟩

theorem onInput_steady (cause : Option (InputEventEnvelope × Moment))
    (call : InputResourceManager σ → InputResourceManager σ × α) :
    Steady (onInput cause call : Method ω σ _) := by
  intro inflight runtime balanced
  unfold Meets onInput
  cases runtime.input with
  | none => exact ⟨balanced, rfl⟩
  | some input => exact ⟨balanced.frame rfl rfl, rfl⟩

variable (platform : Platform ω σ)

theorem enqueue_steady (message : AgentToService) : Steady (enqueue platform message none) := by
  refine steady_composes.bind (ask_steady _) fun sent => ?_
  cases sent with
  | true => exact change_steady (fun _ => rfl) fun _ => rfl
  | false => exact steady_composes.fail _ rfl

theorem releases_steady : Releases platform Steady where
  composes := steady_composes
  nowMs := ask_steady _
  instants := ask_steady _
  currentState := ask_steady _
  consentAvailable := ask_steady _
  capabilities := ask_steady _
  renderMetrics := ask_steady _
  flushStopping := ask_steady _
  send := enqueue_steady platform
  stopping _ := change_steady (fun _ => rfl) fun _ => rfl
  remembers _ := change_steady (fun _ => rfl) fun _ => rfl
  sequence _ := change_steady (fun _ => rfl) fun _ => rfl
  revision _ := change_steady (fun _ => rfl) fun _ => rfl
  revoked _ := change_steady (fun _ => rfl) fun _ => rfl
  releaseSession _ := onInput_steady _ _
  releaseAll := onInput_steady _ _
  revokes _ := ask_steady _
  retires _ := change_steady (fun _ => rfl) fun _ => rfl

/-! ### Answers on their way -/

theorem manager_some {manager : ConsentManager} (there : runtime.authority = some manager) :
    runtime.manager = manager := by
  rw [AgentRuntime.manager, there]
  rfl

variable {answers : List Answer}

/-- What a method of the manager answers is on its way. -/
theorem Balanced.settled {manager later : ConsentManager} (balanced : Balanced inflight runtime)
    (there : runtime.authority = some manager) (settled : Settled manager answers later) :
    Balanced (inflight ++ answers) { runtime with authority := some later } := by
  have same := manager_some there
  obtain ⟨prompts, told, going, answered, balance⟩ := balanced.balance
  obtain ⟨others, also, rest⟩ := settled.balance
  refine ⟨settled.awaits, ?_, ?_, prompts ++ others, told, List.rel_append going also, answered, ?_⟩
  · show ∀ prompt ∈ later.admitted, prompt.attemptId ≤ later.registry.nextAttemptId
    rw [settled.admitted, settled.next, ← same]
    exact balanced.bounded
  · show (later.admitted.map _).Nodup
    rw [settled.admitted, ← same]
    exact balanced.distinct
  · show (later.held ++ (prompts ++ others) ++ told).Perm later.admitted
    rw [settled.admitted, ← same]
    refine .trans (.append_right told ?_) balance
    rw [same]
    calc later.held ++ (prompts ++ others)
        _ |>.Perm (later.held ++ (others ++ prompts)) := List.perm_append_comm.append_left _
        _ |>.Perm (manager.held ++ prompts) := by
          simpa using rest.append_right _

/-- A method of the manager that answers what it no longer holds. -/
theorem onManager_balanced {method : ConsentManager.Method α} (answers : α → List Answer)
    (P : α → ConsentManager → Prop)
    (settles : ∀ manager, runtime.authority = some manager → Awaits manager.registry manager.held →
      Meets method manager (fun value later => Settled manager (answers value) later ∧
        P value later) fun _ _ => False)
    (balanced : Balanced inflight runtime) :
    Meets (onManager method) runtime
      (fun value later => Balanced (inflight ++ answers value) later ∧ P value later.manager) Spared := by
  cases there : runtime.authority with
  | none =>
    unfold Meets onManager
    rw [there]
    exact ⟨nofun, balanced.sparing⟩
  | some manager =>
    have settled := settles manager there (manager_some there ▸ balanced.awaits)
    unfold Meets at settled ⊢
    unfold onManager
    rw [there]
    rcases outcome : method manager with ⟨later, error | value⟩ <;> rw [outcome] at settled
    · exact settled.elim
    · simpa [outcome] using ⟨balanced.settled there settled.1, settled.2⟩

theorem sendAnswers_balanced (balanced : Balanced answers runtime) :
    Meets (sendAnswers platform answers) runtime
      (fun _ later => Balanced [] later ∧ later.authority = runtime.authority) Spared := by
  induction answers generalizing runtime with
  | nil => exact .pure ⟨balanced, rfl⟩
  | cons answer rest ih =>
    refine .bind (R := fun _ later => Balanced rest later ∧ later.authority = runtime.authority)
      (.bind (ask_steady (platform.enqueue _) _ _ balanced) fun sent later ⟨still, same⟩ => ?_)
      fun _ later ⟨still, same⟩ => (ih still).mono fun _ _ ⟨last, again⟩ => ⟨last, again.trans same⟩
    cases sent with
    | false => exact .fail ⟨nofun, still.sparing⟩
    | true =>
      obtain ⟨prompts, told, going, answered, balance⟩ := still.balance
      cases going with
      | cons first others =>
        rename_i prompt prompts
        refine .change ⟨⟨still.awaits, still.bounded, still.distinct, prompts, prompt :: told, others,
          .cons ⟨answer, rfl, first⟩ answered, .trans ?_ balance⟩, same⟩
        show (later.manager.held ++ prompts ++ prompt :: told).Perm
          (later.manager.held ++ prompt :: prompts ++ told)
        calc later.manager.held ++ prompts ++ prompt :: told
            _ |>.Perm (prompt :: (later.manager.held ++ prompts ++ told)) := perm_middle
            _ |>.Perm (later.manager.held ++ prompt :: prompts ++ told) := by
              simp [perm_middle.symm]

theorem admits_balanced (now : Nat) (before : Nat) (balanced : Balanced [] runtime)
    (timely : runtime.manager.InTime before context.nowMs) :
    Meets (onManager (Procedure.attempt (ConsentManager.admitPrompt request context now))) runtime
      (fun outcome later => Balanced [] later ∧ ∀ error, outcome = .error error → error ≠ .unavailable)
      Spared := by
  cases there : runtime.authority with
  | none =>
    simpa [Meets, onManager, there] using ⟨by rintro ⟨⟩, balanced.sparing⟩
  | some manager =>
    have same := manager_some there
    obtain ⟨prompts, told, ⟨⟩, answered, balance⟩ := balanced.balance
    rw [same] at balance timely
    have below : ∀ prompt ∈ manager.held, prompt ∈ manager.admitted := fun prompt listed =>
      balance.subset (mem_append_left _ (mem_append_left _ listed))
    have bounded : ∀ prompt ∈ manager.admitted,
        prompt.attemptId ≤ manager.registry.nextAttemptId := same ▸ balanced.bounded
    have early : ∀ prompt ∈ manager.held, context.nowMs < prompt.request.expiresAtMs := by
      intro prompt listed
      rcases mem_append.mp listed with shown | queued
      · obtain ⟨active, is, rfl⟩ := map_eq_some_iff.mp (mem_toList.mp shown)
        obtain ⟨onScreen, waits⟩ := filter_eq_some_iff.mp is
        have due := timely.2 active onScreen (beq_iff_eq.mp waits)
        simp only [ManagedPrompt.isDue, Bool.or_eq_true, decide_eq_true_eq, not_or] at due
        exact Nat.lt_of_not_le due.2
      · obtain ⟨managed, among, rfl⟩ := mem_map.mp queued
        have due := timely.1 managed among
        simp only [ManagedPrompt.isDue, Bool.or_eq_true, decide_eq_true_eq, not_or] at due
        exact Nat.lt_of_not_le due.2
    have admits : Meets (ConsentManager.admitPrompt request context now) manager _ _ :=
      ConsentManager.admitPrompt_meets (same ▸ balanced.awaits)
        (fun prompt listed => bounded prompt (below prompt listed)) now early
    unfold Meets at admits ⊢
    unfold onManager
    rw [there]
    simp only [Procedure.attempt]
    rcases outcome : ConsentManager.admitPrompt request context now manager with ⟨later, error | value⟩ <;>
      rw [outcome] at admits
    · refine ⟨balanced.settled there admits.2, ?_⟩
      rintro _ ⟨⟩
      exact admits.1
    · rcases admits with ⟨result, -, settled⟩ | ⟨-, awaits, next, grown, holds⟩
      · exact ⟨balanced.settled there settled, by rintro _ ⟨⟩⟩
      · refine ⟨⟨awaits, ?_, ?_, [], told, .nil, answered, ?_⟩, by rintro _ ⟨⟩⟩
        · show ∀ prompt ∈ later.admitted, prompt.attemptId ≤ later.registry.nextAttemptId
          rw [grown, next]
          intro prompt listed
          rcases mem_cons.mp listed with rfl | old
          · exact Nat.le_refl _
          · exact Nat.le_succ_of_le (bounded prompt old)
        · show (later.admitted.map attemptId).Nodup
          rw [grown]
          refine nodup_cons.mpr ⟨fun again => ?_, same ▸ balanced.distinct⟩
          obtain ⟨prompt, old, is⟩ := mem_map.mp again
          have below := bounded prompt old
          rw [is] at below
          exact Nat.not_succ_le_self _ below
        · show (later.held ++ [] ++ told).Perm later.admitted
          rw [grown, holds, append_nil]
          rw [append_nil] at balance
          simpa using perm_middle.trans (balance.cons _)

/-! ### The handlers -/

/-- A method of the registry that only changes the bindings. -/
theorem onBindings_balanced {method : ConsentAuthorityState.Method α}
    (frame : ∀ state, ∃ bindings value, method state = ({ state with bindings }, .ok value))
    (balanced : Balanced inflight runtime) :
    Meets (onManager (ConsentManager.onRegistry method)) runtime
      (fun _ => Balanced inflight) Spared := by
  have settles : ∀ manager, runtime.authority = some manager →
      Awaits manager.registry manager.held → Meets (ConsentManager.onRegistry method) manager
        (fun _ later => Settled manager [] later ∧ True) fun _ _ => False := by
    intro manager _ awaits
    obtain ⟨bindings, value, is⟩ := frame manager.registry
    unfold Meets ConsentManager.onRegistry
    rw [is]
    exact ⟨⟨rfl, rfl, awaits.same rfl rfl, [], .nil, by rw [append_nil]; exact .refl _⟩, trivial⟩
  exact (onManager_balanced (fun _ => []) (fun _ _ => True) settles balanced).mono
    fun _ _ holds => append_nil inflight ▸ holds.1

theorem takesForeign_balanced (desktop : TrustedDesktopState) (balanced : Balanced inflight runtime) :
    Meets (onManager (ConsentManager.onRegistry (ConsentAuthorityState.takeDesktopMismatch desktop)))
      runtime (fun _ => Balanced inflight) Spared :=
  onBindings_balanced (fun _ => ⟨_, _, rfl⟩) balanced

theorem invalidates_balanced (change : FreshAuthorityChange) (balanced : Balanced inflight runtime) :
    Meets (onManager (ConsentManager.onRegistry
      (ConsentAuthorityState.invalidateFreshAuthority change)))
      runtime (fun _ => Balanced inflight) Spared := by
  refine onBindings_balanced (fun state => ?_) balanced
  by_cases current : state.isCurrent change
  · exact ⟨state.bindings.erase change.sessionId, true, by
      simp only [ConsentAuthorityState.invalidateFreshAuthority, bind, Procedure.andThen,
        Procedure.read, Procedure.when, current]
      rfl⟩
  · exact ⟨state.bindings, false, by
      simp only [ConsentAuthorityState.invalidateFreshAuthority, bind, Procedure.andThen,
        Procedure.read, Procedure.when, current]
      rfl⟩

/-- A call of the manager with answers, which are then sent. -/
theorem answers_balanced {method : ConsentManager.Method (List Answer)}
    (settles : ∀ manager, runtime.authority = some manager → Awaits manager.registry manager.held →
      Meets method manager (Settled manager) fun _ _ => False)
    (earlier : List Answer) (balanced : Balanced earlier runtime) :
    Meets (do
      let answers ← onManager method
      sendAnswers platform (earlier ++ answers)) runtime (fun _ => Balanced []) Spared :=
  (onManager_balanced id (fun _ _ => True)
    (fun manager there awaits => (settles manager there awaits).mono fun _ _ holds => ⟨holds, trivial⟩)
    balanced).bind fun _ _ ⟨going, _⟩ => (sendAnswers_balanced platform going).mono fun _ _ => And.left

theorem activateAdmitted_balanced (balanced : Balanced [] runtime) :
    Meets (activateAdmitted platform) runtime (fun _ => Balanced []) Spared := by
  refine .reads (.ite (fun _ => ?_) fun _ => .pure balanced)
  exact ((releases_steady platform).releaseInput _ _ balanced).bind fun _ _ ⟨first, _⟩ =>
    ((releases_steady platform).trustedConsentContext _ _ first).bind fun context _ ⟨second, _⟩ =>
      (ask_steady platform.instants _ _ second).bind fun instants _ ⟨third, _⟩ =>
        answers_balanced platform (fun _ _ awaits => ConsentManager.activate_meets awaits _ _) [] third

theorem handleManagedConsent_balanced (request : ConsentRequest) (balanced : Balanced [] runtime) :
    Meets (handleManagedConsent platform request) runtime (fun _ => Balanced []) Spared := by
  have sends : ∀ (decision : ConsentDecision) {s : AgentRuntime ω σ}, Balanced [] s → Meets (do
      let nowMs ← readClock platform
      sendResult platform (coarseConsentResult request decision nowMs)) s
      (fun _ => Balanced []) Spared :=
    fun decision s holds => ((steady_composes.bind (ask_steady platform.nowMs) fun _ =>
      enqueue_steady platform _) [] s holds).mono fun _ _ => And.left
  refine .reads (.ite (fun _ => ?_) fun _ => ?_)
  · exact ((steady_composes.bind (ask_steady platform.nowMs) fun _ =>
      enqueue_steady platform _) [] runtime balanced).mono fun _ _ => And.left
  · refine ((releases_steady platform).trustedConsentContext _ _ balanced).bind fun context _ ⟨first, _⟩ =>
      ((releases_steady platform).readInstant _ _ first).bind fun now _ ⟨second, _⟩ =>
        (onManager_balanced id (fun _ manager => manager.InTime now context.nowMs)
          (fun _ _ awaits => (ConsentManager.expireDue_meets awaits now context.nowMs).mono
            fun _ _ ⟨settled, timely, _⟩ => ⟨settled, timely⟩) second).bind
              fun due s ⟨third, timely⟩ => (sendAnswers_balanced platform third).bind
                fun _ t ⟨fourth, same⟩ => ((releases_steady platform).readInstant _ _ fourth).bind
                  fun admittedAt u ⟨fifth, again⟩ => (admits_balanced admittedAt now fifth ?_).bind
                    fun outcome v ⟨sixth, harmless⟩ => ?_
    · simpa [manager, again, same] using timely
    · split
      · exact (enqueue_steady platform _ _ _ sixth).mono fun _ _ => And.left
      · exact activateAdmitted_balanced platform sixth
      · exact sends _ sixth
      · exact sends _ sixth
      · exact sends _ sixth
      · refine .fail ⟨fun is => harmless _ rfl ?_, sixth.sparing⟩
        cases is
        rfl

theorem handleConsentCompletion_balanced (completion : BackendCompletion) (released : List SessionId)
    (balanced : Balanced [] runtime) :
    Meets (handleConsentCompletion platform completion released) runtime
      (fun _ => Balanced []) Spared := by
  refine ((releases_steady platform).trustedConsentContext _ _ balanced).bind fun context _ ⟨first, _⟩ =>
    (ask_steady platform.instants _ _ first).bind fun instants _ ⟨second, _⟩ =>
      (onManager_balanced ConsentManagerCompletion.results (fun _ _ => True)
        (fun _ _ awaits => (ConsentManager.complete_meets awaits instants completion context).mono
          fun _ _ holds => ⟨holds, trivial⟩) second).bind fun completed s ⟨third, _⟩ => ?_
  split
  · exact (sendAnswers_balanced platform third).mono fun _ _ => And.left
  next change _ =>
    have notes : Steady (note (.approved completion change) : Method ω σ Unit) :=
      change_steady (fun _ => rfl) fun _ => rfl
    refine (notes _ _ third).bind fun _ _ ⟨fourth, _⟩ => .bind (R := fun _ later =>
      Balanced completed.results later) ?_ fun _ _ fifth =>
        ((releases_steady platform).trustedConsentContext _ _ fifth).bind fun context _ ⟨sixth, _⟩ =>
          (ask_steady platform.instants _ _ sixth).bind fun instants _ ⟨seventh, _⟩ =>
            answers_balanced platform (fun _ _ awaits => ConsentManager.activate_meets awaits _ _)
              completed.results seventh
    refine ((releases_steady platform).releaseFailed _ _ _ _ fourth).bind fun failed t ⟨held, _⟩ =>
      .bind (R := fun _ later => Balanced completed.results later) (.when (fun _ => ?_) fun _ => held)
        fun _ _ kept => ((releases_steady platform).retires _ _ _ kept).mono fun _ _ => And.left
    refine (invalidates_balanced change held).bind fun invalidated _ kept => .fail ⟨?_, kept.sparing⟩
    split <;> nofun

theorem handleConsentDeadline_balanced (balanced : Balanced [] runtime) :
    Meets (handleConsentDeadline platform) runtime (fun _ => Balanced []) Spared :=
  (ask_steady platform.nowMs _ _ balanced).bind fun nowMs _ ⟨first, _⟩ =>
    ((releases_steady platform).readInstant _ _ first).bind fun now _ ⟨second, _⟩ =>
      answers_balanced platform (fun _ _ awaits => (ConsentManager.expireDue_meets awaits now nowMs).mono
        fun _ _ => And.left) [] second

theorem reconcileDesktopAuthority_balanced (desktop : TrustedDesktopState)
    (balanced : Balanced [] runtime) :
    Meets (reconcileDesktopAuthority platform desktop) runtime (fun _ => Balanced []) Spared := by
  refine .reads (.bind (R := fun withdrawn later => Balanced withdrawn.1 later) ?_
    fun withdrawn s first =>
      ((releases_steady platform).releaseAuthorityInvalidations _ _ _ first).bind fun _ t ⟨second, _⟩ =>
        (steady_composes.when (releases_steady platform).releaseInput _ _ second).bind
          fun _ u ⟨third, _⟩ => (sendAnswers_balanced platform third).mono fun _ _ => And.left)
  refine .reads (.ite (fun _ => ?_) fun _ => .pure balanced)
  refine (ask_steady platform.nowMs _ _ balanced).bind fun nowMs _ ⟨first, _⟩ =>
    ((releases_steady platform).readInstant _ _ first).bind fun now _ ⟨second, _⟩ =>
      (onManager_balanced id (fun _ _ => True) (fun _ _ awaits =>
        (ConsentManager.invalidateDesktopPrompts_meets awaits now desktop nowMs).mono
          fun _ _ holds => ⟨holds, trivial⟩) second).bind fun answers _ ⟨third, _⟩ =>
            (takesForeign_balanced desktop third).bind fun _ _ fourth => .pure fourth

/-- **A cancellation that answers a prompt in the shadow of another**: at the clock readings that it is
handled with, the prompt on screen is closing, and a queued prompt that is not due matches it too. -/
def Overlooks (runtime : AgentRuntime ω σ) (withdrawal : CancelConsent) : Prop :=
  let reading := platform.nowMs runtime.world
  ∃ manager, runtime.authority = some manager ∧
    manager.Shadowed withdrawal ((platform.instants reading.2).1 0) reading.1

theorem handleManagedCancel_balanced (withdrawal : CancelConsent) (balanced : Balanced [] runtime)
    (clear : ¬ Overlooks platform runtime withdrawal) :
    Meets (handleManagedCancel platform withdrawal) runtime (fun _ => Balanced []) Spared := by
  refine .bind (R := fun nowMs later => Balanced [] later ∧ later.authority = runtime.authority ∧
    nowMs = (platform.nowMs runtime.world).1 ∧ later.world = (platform.nowMs runtime.world).2)
    ⟨balanced.frame rfl rfl, rfl, rfl, rfl⟩ fun nowMs s ⟨first, same, is, world⟩ =>
      .reads (.ite (fun _ => ?_) fun _ => .pure first)
  refine .bind (R := fun now later => Balanced [] later ∧ later.authority = runtime.authority ∧
    now = (platform.instants s.world).1 0) ⟨first.frame rfl rfl, same, rfl⟩
      fun now t ⟨second, again, reading⟩ => answers_balanced platform
        (fun manager there awaits => ConsentManager.cancel_meets awaits withdrawal now nowMs ?_) [] second
  intro shadowed
  refine clear ⟨manager, again ▸ there, ?_⟩
  simpa [reading, is, world] using shadowed

end AgentRuntime

/-! ### The runs of the handlers -/

/-- A call of one of the consent handlers. -/
inductive ConsentCall
  | request (request : ConsentRequest)
  | cancel (cancel : CancelConsent)
  | completion (completion : BackendCompletion) (alreadyReleased : List SessionId)
  | deadline
  | reconcile (desktop : TrustedDesktopState)

namespace AgentRuntime

variable {ω σ : Type} (platform : Platform ω σ) {runtime : AgentRuntime ω σ}

def answerCall : ConsentCall → Method ω σ Unit
  | .request request => handleManagedConsent platform request
  | .cancel cancel => handleManagedCancel platform cancel
  | .completion completion released => handleConsentCompletion platform completion released
  | .deadline => handleConsentDeadline platform
  | .reconcile desktop => reconcileDesktopAuthority platform desktop

/-- A handler that fails ends the run. -/
def consentStep (runtime : AgentRuntime ω σ) (call : ConsentCall) : Option (AgentRuntime ω σ) :=
  match answerCall platform call runtime with
  | (later, .ok ()) => some later
  | (_, .error _) => none

/-- The calls that overlook no queued prompt. -/
def Attentive (runtime : AgentRuntime ω σ) (call : ConsentCall) : Prop :=
  ∀ withdrawal, call = .cancel withdrawal → ¬ Overlooks platform runtime withdrawal

theorem answerCall_balanced {call : ConsentCall} (balanced : Balanced [] runtime)
    (attentive : Attentive platform runtime call) :
    Meets (answerCall platform call) runtime (fun _ => Balanced []) Spared := by
  cases call with
  | request request => exact handleManagedConsent_balanced platform request balanced
  | cancel withdrawal =>
    exact handleManagedCancel_balanced platform withdrawal balanced (attentive withdrawal rfl)
  | completion completion released =>
    exact handleConsentCompletion_balanced platform completion released balanced
  | deadline => exact handleConsentDeadline_balanced platform balanced
  | reconcile desktop => exact reconcileDesktopAuthority_balanced platform desktop balanced

theorem balanced_new (world : ω) (attended : Bool) (device : Option σ) :
    Balanced [] (.new world attended device) := by
  have same : AgentRuntime.manager (.new world attended device) = ConsentManager.new := by
    cases attended <;> rfl
  refine ⟨?_, ?_, ?_, [], [], .nil, .nil, ?_⟩
  · rw [same]
    exact ConsentAuthorityState.awaits_empty
  · rw [same]
    exact fun _ listed => absurd listed not_mem_nil
  · rw [same]
    exact .nil
  · rw [same]
    exact .nil

/-! ### What the balance says of each request -/

/-- The messages that answer a prompt. -/
def answersTo (runtime : AgentRuntime ω σ) (prompt : PendingConsentPrompt) : List Sent :=
  runtime.sent.filter fun sent => sent.answers = some prompt.attemptId

/-- Whether the registry waits for the answer to a prompt. -/
def IsPending (manager : ConsentManager) (prompt : PendingConsentPrompt) : Prop :=
  ∃ pending, manager.registry.pending.lookup prompt.request.requestId = some pending ∧
    pending.attemptId = prompt.attemptId

/-- **At most one answer**, with the token and the id of the request. -/
def AnsweredAtMostOnce (runtime : AgentRuntime ω σ) : Prop :=
  ∀ manager, runtime.authority = some manager → ∀ prompt ∈ manager.admitted,
    (runtime.answersTo prompt).length ≤ 1 ∧
    ∀ sent ∈ runtime.answersTo prompt, ∃ result, sent.message = .consentResult result ∧
      result.requestToken = prompt.request.requestToken ∧
      result.requestId = prompt.request.requestId

/-- **Every admitted request is answered once**: it has no answer exactly while the registry waits for
it, and the registry waits exactly for what is queued or prompting on screen. -/
structure AnsweredOnce (runtime : AgentRuntime ω σ) : Prop where
  once : AnsweredAtMostOnce runtime
  unanswered : ∀ manager, runtime.authority = some manager → ∀ prompt ∈ manager.admitted,
    runtime.answersTo prompt = [] ↔ IsPending manager prompt
  shown : ∀ manager, runtime.authority = some manager → ∀ prompt ∈ manager.admitted,
    IsPending manager prompt ↔ (∃ queued ∈ manager.queued, queued.pending = prompt) ∨
      ∃ active, manager.active = some active ∧ active.phase = .prompting ∧
        active.prompt.pending = prompt
  inverse : ∀ manager, runtime.authority = some manager → ∀ attempt id,
    manager.registry.pendingAttempts.lookup attempt = some id ↔
      ∃ pending, manager.registry.pending.lookup id = some pending ∧ pending.attemptId = attempt

variable {told : List PendingConsentPrompt}

theorem told_filter {sents : List Sent} (answered : List.Forall₂ Told sents told) (attempt : Nat) :
    List.Forall₂ Told (sents.filter fun sent => sent.answers = some attempt)
      (told.filter fun prompt => prompt.attemptId = attempt) := by
  induction answered with
  | nil => exact .nil
  | cons first _ ih =>
    obtain ⟨answer, rfl, answers⟩ := first
    rw [List.filter_cons, List.filter_cons, answers.attempt]
    simp only [Option.some.injEq]
    split
    · exact .cons ⟨answer, by rw [answers.attempt], answers⟩ ih
    · exact ih

theorem answersTo_answering (runtime : AgentRuntime ω σ) (prompt : PendingConsentPrompt) :
    runtime.answersTo prompt =
      runtime.answering.filter fun sent => sent.answers = some prompt.attemptId := by
  rw [answersTo, answering, List.filter_filter]
  refine List.filter_congr fun sent _ => ?_
  cases sent.answers <;> simp

/-- The answers to an admitted prompt: one if it is among the answered ones, and none otherwise. -/
theorem answersTo_told {prompt : PendingConsentPrompt}
    (answered : List.Forall₂ Told runtime.answering told)
    (distinct : (told.map attemptId).Nodup)
    (same : ∀ other ∈ told, other.attemptId = prompt.attemptId → other = prompt) :
    (prompt ∈ told → ∃ sent, runtime.answersTo prompt = [sent] ∧ Told sent prompt) ∧
      (prompt ∉ told → runtime.answersTo prompt = []) := by
  have filtered := told_filter answered prompt.attemptId
  rw [← answersTo_answering] at filtered
  have only : told.filter (fun other => other.attemptId = prompt.attemptId) =
      told.filter (· = prompt) := by
    refine List.filter_congr fun other listed => ?_
    simpa using ⟨same other listed, congrArg _⟩
  rw [only, List.filter_eq] at filtered
  have count := List.nodup_iff_count_le_one.mp (distinct.of_map _) prompt
  refine ⟨fun listed => ?_, fun missing => ?_⟩
  · have one : told.count prompt = 1 := Nat.le_antisymm count (List.count_pos_iff.mpr listed)
    rw [one] at filtered
    generalize runtime.answersTo prompt = sents at filtered ⊢
    cases filtered with
    | cons first rest =>
      cases rest
      exact ⟨_, rfl, first⟩
  · rw [List.count_eq_zero.mpr missing] at filtered
    generalize runtime.answersTo prompt = sents at filtered ⊢
    cases filtered
    rfl

theorem subperm_nodup {admitted : List PendingConsentPrompt} (within : told.Subperm admitted)
    (distinct : (admitted.map attemptId).Nodup) :
    (told.map attemptId).Nodup := by
  obtain ⟨list, perm, sublist⟩ := within
  exact (perm.map _).nodup_iff.mp (distinct.sublist (sublist.map _))

theorem Sparing.once (sparing : Sparing runtime) :
    AnsweredAtMostOnce runtime := by
  intro manager there prompt admitted
  obtain ⟨told, answered, within⟩ := sparing.told
  have distinct := sparing.distinct
  rw [manager_some there] at within distinct
  have unique := subperm_nodup within distinct
  obtain ⟨one, none⟩ := answersTo_told answered unique fun other listed =>
    inj_on_of_nodup_map distinct (within.subset listed) admitted
  by_cases listed : prompt ∈ told
  · obtain ⟨sent, is, answer, rfl, answers⟩ := one listed
    rw [is]
    refine ⟨Nat.le_refl _, fun other among => ?_⟩
    rw [mem_singleton.mp among]
    exact ⟨answer.result, rfl, answers.token, answers.id⟩
  · rw [none listed]
    exact ⟨Nat.zero_le _, fun _ among => absurd among not_mem_nil⟩

theorem Balanced.answeredOnce (balanced : Balanced [] runtime) :
    AnsweredOnce runtime := by
  have held : ∀ manager, runtime.authority = some manager → ∀ prompt ∈ manager.admitted,
      (IsPending manager prompt ↔ prompt ∈ manager.held) := by
    intro manager there prompt admitted
    have same := manager_some there
    obtain ⟨prompts, told, going, -, balance⟩ := balanced.balance
    have awaits := balanced.awaits
    have distinct := balanced.distinct
    rw [same] at awaits distinct balance
    constructor
    · rintro ⟨pending, found, is⟩
      have listed := (awaits.waited _ pending found).2
      have among := balance.subset (mem_append_left _ (mem_append_left _ listed))
      simp [← inj_on_of_nodup_map distinct among admitted is, listed]
    · intro listed
      obtain ⟨pending, found, is, -⟩ := awaits.waiting prompt listed
      exact ⟨pending, found, is⟩
  refine ⟨balanced.sparing.once, ?_, ?_, ?_⟩
  · intro manager there prompt admitted
    rw [held manager there prompt admitted]
    have same := manager_some there
    obtain ⟨prompts, told, going, answered, balance⟩ := balanced.balance
    have distinct := balanced.distinct
    cases going
    rw [same] at distinct balance
    rw [append_nil] at balance
    have within : told.Subperm manager.admitted := (List.sublist_append_right _ _).subperm.trans
      balance.subperm
    obtain ⟨one, none⟩ := answersTo_told answered (subperm_nodup within distinct)
      fun other listed => inj_on_of_nodup_map distinct (within.subset listed) admitted
    have apart := nodup_append.mp (balance.nodup_iff.mpr (distinct.of_map _))
    constructor
    · intro nothing
      refine (mem_append.mp (balance.mem_iff.mpr admitted)).resolve_right fun listed => ?_
      obtain ⟨sent, is, -⟩ := one listed
      simp [is] at nothing
    · intro listed
      exact none fun again => apart.2.2 prompt listed prompt again rfl
  · intro manager there prompt admitted
    rw [held manager there prompt admitted, ConsentManager.held, mem_append, or_comm]
    refine or_congr mem_map ?_
    rw [ConsentManager.prompting, mem_toList]
    constructor
    · intro found
      obtain ⟨active, is, rfl⟩ := map_eq_some_iff.mp found
      obtain ⟨onScreen, waits⟩ := filter_eq_some_iff.mp is
      exact ⟨active, onScreen, beq_iff_eq.mp waits, rfl⟩
    · rintro ⟨active, onScreen, waits, rfl⟩
      exact map_eq_some_iff.mpr ⟨active, filter_eq_some_iff.mpr ⟨onScreen, beq_iff_eq.mpr waits⟩, rfl⟩
  · intro manager there
    exact manager_some there ▸ balanced.awaits.inverse

end AgentRuntime

/-- **Every admitted request is answered once, unless a cancellation overlooks a queued prompt.** Along
every run of the consent handlers without such a cancellation: in every state between two handlers a
request has at most one answer, it has none exactly while the registry waits for it, and that is
exactly while it is queued or prompting on screen; the two tables of the registry are inverse to each
other; and whatever handler is called next, no cancellation is found missing, and nothing is answered
twice even if it fails. -/
theorem answered_once {ω σ : Type} (platform : Platform ω σ) (world : ω) (attended : Bool)
    (device : Option σ) (runtime : AgentRuntime ω σ)
    (reach : Execution.Reach (AgentRuntime.consentStep platform) (AgentRuntime.Attentive platform)
      (.new world attended device) runtime) :
    runtime.AnsweredOnce ∧ ∀ call, AgentRuntime.Attentive platform runtime call →
      ∀ later error, AgentRuntime.answerCall platform call runtime = (later, .error error) →
        error ≠ .consentStateUnavailable (some .unavailable) ∧ later.AnsweredAtMostOnce := by
  have balanced : AgentRuntime.Balanced [] runtime := by
    refine reach.invariant (I := fun runtime => AgentRuntime.Balanced [] runtime)
      (AgentRuntime.balanced_new world attended device) ?_
    intro before call after kept attentive stepped
    unfold AgentRuntime.consentStep at stepped
    split at stepped
    next later done =>
      cases stepped
      exact (AgentRuntime.answerCall_balanced platform kept attentive).ok done
    · cases stepped
  refine ⟨balanced.answeredOnce, fun call attentive later error failed => ?_⟩
  obtain ⟨harmless, sparing⟩ :=
    (AgentRuntime.answerCall_balanced platform balanced attentive).error failed
  exact ⟨harmless, sparing.once⟩

/-! ### A request id that comes back -/

/-- A request that may be answered, and gives authority, in a window of time. -/
def ConsentRequest.within (issued expires : Nat) : ConsentRequest :=
  { ConsentRequest.sample 1 with
    issuedAtMs := issued
    expiresAtMs := expires
    authorizationExpiresAtMs := expires }

/-- The second request comes when the first is over, and its prompt is still closing. -/
def sameIdTwice : List ConsentCall := [.request (.within 1 10), .request (.within 10 30)]

def sampleCancel : CancelConsent where
  requestToken := 1
  requestId := .replicate 16 1
  sessionId := ⟨"s"⟩
  reason := .timedOut

/-- A cancellation that finds no prompt in the queue overlooks none. -/
def findsNoneQueued (runtime : AgentRuntime Nat Unit) : ConsentCall → Bool
  | .cancel _ => runtime.authority.all fun manager => manager.queued.isEmpty
  | _ => true

theorem sameId_withdrawn : (Execution.runChecked findsNoneQueued
    (AgentRuntime.consentStep (.sample 5 15)) (.new 3 true (some ()))
    (.request (.within 1 10) :: .cancel sampleCancel :: sameIdTwice.tail)).map (fun runtime =>
      (runtime.answersTo ⟨1, .within 1 10⟩).length) = some 1 := by
  decide +kernel

theorem answered_once_same_id : ∃ runtime : AgentRuntime Nat Unit,
    (runtime.answersTo ⟨1, .within 1 10⟩).length = 1 ∧ runtime.AnsweredOnce := by
  obtain ⟨runtime, ran, seen⟩ := map_eq_some_iff.mp sameId_withdrawn
  refine ⟨runtime, seen, (answered_once (.sample 5 15) 3 true (some ()) runtime
    (Execution.runChecked_reach ran fun before call passed => ?_)).1⟩
  rintro withdrawal rfl ⟨manager, there, -, queued, member, -⟩
  have none : manager.queued.isEmpty = true := by
    simpa [findsNoneQueued, there] using passed
  rw [List.isEmpty_iff.mp none] at member
  cases member

/-- **A cancellation of the first request answers the second, and leaves it in the queue.** Nothing will
answer it a second time: where the desktop changes, the registry misses it. -/
theorem cancel_overlooks_queued : ∃ runtime : AgentRuntime Nat Unit,
    Execution.Reach (AgentRuntime.consentStep (.sample 5 15)) Execution.always
      (.new 3 true (some ())) runtime ∧
    ¬ runtime.AnsweredOnce ∧
    (AgentRuntime.answerCall (.sample 5 15) (.reconcile ⟨2, .default⟩) runtime).2 =
      .error (.consentStateUnavailable (some .unavailable)) := by
  have ran : (Execution.run (AgentRuntime.consentStep (.sample 5 15)) (.new 3 true (some ()))
      (sameIdTwice ++ [.cancel sampleCancel])).map (fun runtime =>
        (runtime.authority.map fun manager => (manager.queued.map ManagedPrompt.pending,
          manager.admitted, manager.registry.pending.entries.length),
        (AgentRuntime.answerCall (.sample 5 15) (.reconcile ⟨2, .default⟩) runtime).2)) =
      some (some ([⟨2, .within 10 30⟩], [⟨2, .within 10 30⟩, ⟨1, .within 1 10⟩], 0),
        .error (.consentStateUnavailable (some .unavailable))) := by
    decide +kernel
  obtain ⟨runtime, ran, seen⟩ := map_eq_some_iff.mp ran
  obtain ⟨seen, missed⟩ := Prod.mk.inj seen
  obtain ⟨manager, there, seen⟩ := map_eq_some_iff.mp seen
  obtain ⟨queued, seen⟩ := Prod.mk.inj seen
  obtain ⟨admitted, pending⟩ := Prod.mk.inj seen
  refine ⟨runtime, Execution.run_reach ran, fun answered => ?_, missed⟩
  have listed : ⟨2, .within 10 30⟩ ∈ manager.queued.map ManagedPrompt.pending := by
    simp [queued]
  have known : ⟨2, .within 10 30⟩ ∈ manager.admitted := by
    rw [admitted]
    exact (.head _)
  obtain ⟨waiting, found, -⟩ := (answered.shown manager there _ known).mpr
    (.inl (mem_map.mp listed))
  have among := (Table.mem_entries_alist _ _ _).mpr found
  rw [List.length_eq_zero_iff.mp pending] at among
  exact not_mem_nil among

end MiniRemoteDesktop.Agent
