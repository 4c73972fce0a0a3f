/-
**Assertions about interleaved methods.**

An assertion about the shared state may be carried across the actions of a method when no step of the
others makes it false. `Ensures P m R` says that `m` settles its duties, that, started where `P` holds,
it meets the requirements of its actions, and that its value satisfies `R` if it answers one.

* `Settles` — closed under `bind`, and so under every way of composing methods.
* `Duties.settled` — **the run rule**: along every run, the duties of a thread are paid, except one whose
  paying action is the next of its thread. So a thread that has answered has none.
* `Regular.frame` — **the frame rule**: a safe program leads to a later state, and it took only actions
  whose requirements it met.
* `Regular.andThen`, `Regular.seq` — one method after another, with or without what the first ensures.
* `Regular.take`, `Ensures.attempt`, `Regular.forEach` — actions, caught errors and loops.
-/

import MiniRemoteDesktop.Lib.Interleaving

namespace Interleaving

/-! ### Duties: actions that the answer of another one calls for -/

section

variable {I : Interface} {α β ε σ ω τ κ : Type}

structure Duties (I : Interface) (σ : Type) where
  /-- The answer leaves a duty. -/
  owes : Taken I → Prop
  /-- The action pays the duty that the answer left. -/
  pays : Taken I → I.Action → Prop
  /-- The duty is paid. -/
  paid : Taken I → σ → Prop

/-- **Every duty is paid by the very next action.** -/
def Settles (duties : Duties I σ) : Program I α → Prop
  | .done _ => True
  | .act action next => ∀ reply,
      (duties.owes ⟨action, reply⟩ → ∃ other rest, next reply = .act other rest ∧
        duties.pays ⟨action, reply⟩ other) ∧ Settles duties (next reply)

variable {duties : Duties I σ}

namespace Settles

theorem bind {program : Program I α} {next : α → Program I β} (settles : Settles duties program)
    (rest : ∀ value, Settles duties (next value)) : Settles duties (program.bind next) := by
  induction program with
  | done value => exact rest value
  | act action further ih =>
    intro reply
    obtain ⟨due, later⟩ := settles reply
    refine ⟨fun owed => ?_, ih reply later⟩
    obtain ⟨other, rest, same, pays⟩ := due owed
    refine ⟨other, fun reply => (rest reply).bind next, ?_, pays⟩
    show (further reply).bind next = _
    rw [same]
    rfl

theorem of (result : Except ε α) : Settles duties (Method.of result : Method I ε α) := trivial

theorem andThen {m : Method I ε α} {next : α → Method I ε β} (settles : Settles duties m)
    (rest : ∀ value, Settles duties (next value)) :
    Settles duties (m >>= next : Method I ε β) := by
  refine settles.bind fun result => ?_
  cases result with
  | ok value => exact rest value
  | error error => trivial

theorem attempt {m : Method I ε α} (settles : Settles duties m) : Settles duties m.attempt :=
  settles.bind fun _ => trivial

theorem take {action : I.Action} (free : ∀ reply, ¬ duties.owes ⟨action, reply⟩) :
    Settles duties (Method.take action : Method I ε (I.Reply action)) :=
  fun reply => ⟨fun owed => (free reply owed).elim, trivial⟩

/-- An action that may leave a duty, with what comes after it. -/
theorem takeThen {action : I.Action} {next : I.Reply action → Method I ε β}
    (due : ∀ reply, duties.owes ⟨action, reply⟩ → ∃ other rest, next reply = .act other rest ∧
      duties.pays ⟨action, reply⟩ other)
    (rest : ∀ reply, Settles duties (next reply)) :
    Settles duties (Method.take action >>= next : Method I ε β) :=
  fun reply => ⟨due reply, rest reply⟩

end Settles

/-! ### Runs -/

variable {system : System I τ α σ ω κ} {machine next : Machine I τ α σ}

/-- The duties of a thread are paid, or about to be. -/
def Duties.Settled (duties : Duties I σ) (machine : Machine I τ α σ) : Prop :=
  ∀ (index : Nat) (thread : Thread I τ α), machine.threads[index]? = some thread →
    Settles duties thread.program ∧ ∀ one ∈ thread.taken, duties.owes one →
      duties.paid one machine.shared ∨
        ∃ action rest, thread.program = .act action rest ∧ duties.pays one action

/-- What the run rule of duties asks for. -/
structure Duties.Kept (duties : Duties I σ) (system : System I τ α σ ω κ) : Prop where
  body (tag : τ) : Settles duties (system.body tag)
  act {s t : σ} {action : I.Action} {oracle : ω} {reply : I.Reply action} {one : Taken I} :
    system.exec s action oracle = some (reply, t) → duties.paid one s ∨ duties.pays one action →
      duties.paid one t
  background {s t : σ} {event : κ} {one : Taken I} : system.background s event = some t →
    duties.paid one s → duties.paid one t

theorem Duties.Kept.step (kept : duties.Kept system) {label : Label τ ω κ}
    (settled : duties.Settled machine) (taken : system.step machine label = some next) :
    duties.Settled next := by
  cases label with
  | call tag =>
    cases taken
    intro index thread running
    rcases List.mem_append.mp (List.mem_of_getElem? running) with old | new
    · obtain ⟨place, located⟩ := List.getElem?_of_mem old
      exact settled place thread located
    · cases List.mem_singleton.mp new
      exact ⟨kept.body tag, nofun⟩
  | step index oracle =>
    obtain ⟨thread, action, rest, reply, running, program, ran, threads⟩ := step_thread taken
    have moved : ∀ one, duties.paid one machine.shared ∨ duties.pays one action →
        duties.paid one next.shared := fun one => kept.act ran
    intro place other located
    rw [threads, List.getElem?_set] at located
    by_cases same : index = place
    · rw [if_pos same] at located
      split at located
      · cases located
        obtain ⟨settles, pending⟩ := settled index thread running
        rw [program] at settles
        obtain ⟨due, later⟩ := settles reply
        refine ⟨later, fun one member owed => ?_⟩
        rcases List.mem_append.mp member with earlier | last
        · refine .inl (moved one ?_)
          rcases pending one earlier owed with paid | ⟨_, _, running, pays⟩
          · exact .inl paid
          · rw [program] at running
            cases running
            exact .inr pays
        · cases List.mem_singleton.mp last
          exact .inr (due owed)
      · cases located
    · rw [if_neg same] at located
      obtain ⟨settles, pending⟩ := settled place other located
      refine ⟨settles, fun one member owed => ?_⟩
      exact (pending one member owed).imp_left fun paid => moved one (.inl paid)
  | background event =>
    obtain ⟨shared, ran, rfl⟩ := Option.map_eq_some_iff.mp taken
    intro index thread running
    obtain ⟨settles, pending⟩ := settled index thread running
    refine ⟨settles, fun one member owed => ?_⟩
    exact (pending one member owed).imp_left (kept.background ran)

open Execution

/-- **The run rule.** -/
theorem Duties.Kept.settled (kept : duties.Kept system) {allowed : Machine I τ α σ → Label τ ω κ → Prop}
    (reach : Reach system.step allowed machine next) (start : duties.Settled machine) :
    duties.Settled next :=
  reach.invariant start fun _ _ _ settled _ taken => kept.step settled taken

theorem Duties.Settled.paid (settled : duties.Settled machine) {index : Nat} {thread : Thread I τ α}
    (running : machine.threads[index]? = some thread) {value : α}
    (answered : thread.program = .done value) {one : Taken I} (member : one ∈ thread.taken)
    (owed : duties.owes one) : duties.paid one machine.shared := by
  obtain ⟨-, pending⟩ := settled index thread running
  rcases pending one member owed with paid | ⟨_, _, program, _⟩
  · exact paid
  · simp [answered] at program

end

variable {I : Interface} {α β ε σ ω : Type}
  {exec : σ → (action : I.Action) → ω → Option (I.Reply action × σ)} {rules : Rules I σ ω}
  {duties : Duties I σ}

/-- The steps of a run do not make the assertion false. -/
def Stable (rules : Rules I σ ω) (P : σ → Prop) : Prop := ∀ s t, rules.later s t → P s → P t

theorem stable_true : Stable rules fun _ => True := fun _ _ _ _ => trivial

/-- **The method settles its duties, is safe where `P` holds, and a value it answers satisfies `R`.** -/
structure Ensures (exec : σ → (action : I.Action) → ω → Option (I.Reply action × σ))
    (rules : Rules I σ ω) (duties : Duties I σ) (P : σ → Prop) (m : Method I ε α)
    (R : α → σ → Prop) : Prop where
  settles : Settles duties m
  safe (taken : List (Taken I)) (s : σ) : rules.invariant s → P s →
    Safe exec rules (fun _ result t => ∀ value, result = .ok value → R value t) m taken s

variable {P P' : σ → Prop} {m : Method I ε α} {next : α → Method I ε β} {R R' : α → σ → Prop}
  {S : β → σ → Prop}

namespace Ensures

theorem conseq (ensures : Ensures exec rules duties P m R)
    (stronger : ∀ s, rules.invariant s → P' s → P s) (weaker : ∀ value s, R value s → R' value s) :
    Ensures exec rules duties P' m R' := by
  refine ⟨ensures.settles, fun taken s holds start => ?_⟩
  refine (ensures.safe taken s holds (stronger s holds start)).mono ?_
  intro taken result t post value same
  exact weaker value t (post value same)

theorem weaken (ensures : Ensures exec rules duties P m R)
    (stronger : ∀ s, rules.invariant s → P' s → P s) : Ensures exec rules duties P' m R :=
  ensures.conseq stronger fun _ _ post => post

theorem given {fact : Prop} (settles : Settles duties m)
    (ensures : fact → Ensures exec rules duties P m R) :
    Ensures exec rules duties (fun s => P s ∧ fact) m R :=
  ⟨settles, fun taken s kept start => (ensures start.2).safe taken s kept start.1⟩

variable {result : Except ε α}

theorem of (holds : ∀ value s, rules.invariant s → P s → result = .ok value → R value s) :
    Ensures exec rules duties P (Method.of result) R :=
  ⟨.of result, fun _ s kept start value same => holds value s kept start same⟩

theorem pure {value : α} (holds : ∀ s, rules.invariant s → P s → R value s) :
    Ensures exec rules duties P (pure value : Method I ε α) R := by
  refine ⟨trivial, fun taken s kept start => Safe.pure ?_⟩
  rintro other ⟨⟩
  exact holds s kept start

theorem error {error : ε} : Ensures exec rules duties P (Method.of (.error error)) R :=
  Ensures.of fun _ _ _ _ same => nomatch same

/-- A check that is known already, and what comes after it. -/
theorem check (rest : ∀ value, result = .ok value → Ensures exec rules duties P (next value) S) :
    Ensures exec rules duties P (Method.of result >>= next : Method I ε β) S := by
  cases result with
  | ok value => exact rest value rfl
  | error error => exact Ensures.error

theorem attempt (ensures : Ensures exec rules duties P m R) :
    Ensures exec rules duties P m.attempt fun result t => ∀ value, result = .ok value → R value t := by
  refine ⟨ensures.settles.attempt, fun taken s kept start => ?_⟩
  refine Safe.attempt ((ensures.safe taken s kept start).mono ?_)
  rintro taken result t post other ⟨⟩
  exact post

end Ensures

namespace Regular

/-- **The frame rule.** -/
theorem frame (regular : Regular exec rules) {Q : List (Taken I) → α → σ → Prop}
    {program : Program I α} {taken : List (Taken I)} {s : σ} (kept : rules.invariant s)
    (safe : Safe exec rules Q program taken s) :
    Safe exec rules (fun after value t => Q after value t ∧ rules.invariant t ∧ rules.later s t ∧
      ∃ more, after = taken ++ more ∧ ∀ one ∈ more, ∃ u, rules.requires u one.1) program taken s := by
  induction program generalizing taken s with
  | done value =>
    exact ⟨safe, kept, regular.refl s, [], (List.append_nil _).symm, nofun⟩
  | act action rest ih =>
    intro t later holds
    obtain ⟨required, goes⟩ := safe t later holds
    refine ⟨required, fun oracle reply u allowed ran => ?_⟩
    obtain ⟨after, moved⟩ := regular.act holds required allowed ran
    refine (ih reply after (goes oracle reply u allowed ran)).mono ?_
    rintro _ value v ⟨post, last, further, more, rfl, met⟩
    refine ⟨post, last, regular.trans later (regular.trans moved further), ⟨action, reply⟩ :: more,
      List.append_assoc _ _ _, ?_⟩
    rintro one member
    rcases List.mem_cons.mp member with first | rest
    · exact ⟨t, first ▸ required⟩
    · exact met one rest

/-- An action that may leave a duty, with what comes after it. -/
theorem takeThen (regular : Regular exec rules) {action : I.Action}
    {next : I.Reply action → Method I ε β} (R : I.Reply action → σ → Prop) (stable : Stable rules P)
    (required : ∀ s, rules.invariant s → P s → rules.requires s action)
    (replied : ∀ s oracle reply t, rules.invariant s → P s → rules.allowed s action oracle →
      exec s action oracle = some (reply, t) → rules.invariant t → R reply t)
    (due : ∀ reply, duties.owes ⟨action, reply⟩ → ∃ other rest, next reply = .act other rest ∧
      duties.pays ⟨action, reply⟩ other)
    (second : ∀ reply, Ensures exec rules duties (fun s => P s ∧ R reply s) (next reply) S) :
    Ensures exec rules duties P (Method.take action >>= next : Method I ε β) S := by
  refine ⟨Settles.takeThen due fun reply => (second reply).settles, fun taken s _ start => ?_⟩
  intro t later kept
  have here := stable s t later start
  have met := required t kept here
  refine ⟨met, fun oracle reply u allowed ran => ?_⟩
  obtain ⟨after, moved⟩ := regular.act kept met allowed ran
  exact (second reply).safe _ u after
    ⟨stable t u moved here, replied t oracle reply u kept here allowed ran after⟩

section

variable (regular : Regular exec rules) (stable : Stable rules P)
include regular stable

theorem take {action : I.Action} {R : I.Reply action → σ → Prop}
    (free : ∀ reply, ¬ duties.owes ⟨action, reply⟩)
    (required : ∀ s, rules.invariant s → P s → rules.requires s action)
    (replied : ∀ s oracle reply t, rules.invariant s → P s → rules.allowed s action oracle →
      exec s action oracle = some (reply, t) → rules.invariant t → R reply t) :
    Ensures exec rules duties P (Method.take action : Method I ε (I.Reply action)) R :=
  regular.takeThen R stable required replied (fun reply owed => (free reply owed).elim)
    fun _ => Ensures.pure fun _ _ holds => holds.2

/-- **One method after another.** -/
theorem andThen (first : Ensures exec rules duties P m R)
    (second : ∀ value, Ensures exec rules duties (fun s => P s ∧ R value s) (next value) S) :
    Ensures exec rules duties P (m >>= next : Method I ε β) S := by
  refine ⟨first.settles.andThen fun value => (second value).settles, fun taken s kept start => ?_⟩
  refine Safe.andThen ((regular.frame kept (first.safe taken s kept start)).mono ?_)
  rintro after result t ⟨post, holds, later, -⟩
  cases result with
  | ok value => exact (second value).safe after t holds ⟨stable s t later start, post value rfl⟩
  | error error => exact fun value same => nomatch same

theorem keep (ensures : Ensures exec rules duties P m R) :
    Ensures exec rules duties P m fun value s => P s ∧ R value s := by
  refine ⟨ensures.settles, fun taken s kept start => ?_⟩
  refine (regular.frame kept (ensures.safe taken s kept start)).mono ?_
  rintro after result t ⟨post, -, later, -⟩ value same
  exact ⟨stable s t later start, post value same⟩

theorem kept (safe : Ensures exec rules duties (fun _ => True) m R) :
    Ensures exec rules duties P m fun _ s => P s :=
  (regular.keep stable (safe.weaken fun _ _ _ => trivial)).conseq (fun _ _ holds => holds)
    fun _ _ post => post.1

/-- One method after another that does not need what the first ensures. -/
theorem seq (first : Ensures exec rules duties (fun _ => True) m R)
    (second : ∀ value, Ensures exec rules duties P (next value) S) :
    Ensures exec rules duties P (m >>= next : Method I ε β) S :=
  regular.andThen stable (first.weaken fun _ _ _ => trivial)
    fun value => (second value).weaken fun _ _ holds => holds.1

end

/-- A loop that needs nothing from one pass to the next. -/
theorem forEach (regular : Regular exec rules) {body : β → α → Method I ε α} (items : List β)
    (passes : ∀ item value, Ensures exec rules duties (fun _ => True) (body item value) fun _ _ => True)
    (value : α) :
    Ensures exec rules duties (fun _ => True) (Method.forEach body items value) fun _ _ => True := by
  induction items generalizing value with
  | nil => exact Ensures.pure fun _ _ _ => trivial
  | cons item rest ih => exact regular.seq stable_true (passes item value) ih

end Regular

end Interleaving
