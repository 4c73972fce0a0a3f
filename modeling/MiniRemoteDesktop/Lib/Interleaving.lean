/-
**Programs that take turns on a shared state.**

An asynchronous method is a tree of atomic actions: it takes one, is answered, and goes on. Between
two of its actions any other method may take any of its own. An oracle answers what the shared state
does not determine (a clock, a remote peer), so that a run is one list of labels.

* `Program`, `Method` — the trees, and those that may stop with an error; `Method` is a monad.
* `Machine`, `step` — any number of calls in progress, and background steps of the shared state.
* `Rules`, `Safe` — the logic: what an action may assume, what every step keeps, and that a program
  meets the assumptions of its actions **whatever the others do in between**. `Safe.bind` and
  `Safe.andThen` are its rules of composition.
* `Closed.sound` — **the run rule**: programs that are safe when they are called are safe along every
  run, and the invariant of the shared state holds.
* `Closed.sound_thread` — the same for one thread, under assumptions on its own steps only.
-/

import MiniRemoteDesktop.Lib.Execution

namespace Interleaving

/-- The atomic actions, and what each of them is answered. -/
structure Interface where
  Action : Type
  Reply : Action → Type

variable {I : Interface} {α β ε σ ω τ κ : Type}

/-! ### Programs -/

inductive Program (I : Interface) (α : Type) : Type
  | done (value : α)
  | act (action : I.Action) (next : I.Reply action → Program I α)

def Program.bind : Program I α → (α → Program I β) → Program I β
  | .done value, next => next value
  | .act action rest, next => .act action fun reply => (rest reply).bind next

/-- A program that answers a value or an error. -/
def Method (I : Interface) (ε α : Type) := Program I (Except ε α)

namespace Method

/-- Do `m`; on success go on with its value. -/
def andThen (m : Method I ε α) (next : α → Method I ε β) : Method I ε β :=
  Program.bind m fun
    | .ok value => next value
    | .error error => .done (.error error)

instance : Monad (Method I ε) where
  pure value := .done (.ok value)
  bind := andThen

/-- One action. -/
def take (action : I.Action) : Method I ε (I.Reply action) := .act action fun reply => .done (.ok reply)

/-- A result that is known already. -/
def of (result : Except ε α) : Method I ε α := .done result

/-- Do `m` and hand its answer on, whether it is a value or an error. -/
def attempt (m : Method I ε α) : Method I ε (Except ε α) := Program.bind m fun result => .done (.ok result)

/-- Do `body` for each element in turn, collecting a value. -/
def forEach (body : β → α → Method I ε α) : List β → α → Method I ε α
  | [], value => pure value
  | item :: rest, value => do
    let value ← body item value
    forEach body rest value

end Method

/-! ### The machine -/

/-- An action that was taken, with its reply. -/
abbrev Taken (I : Interface) := Σ action, I.Reply action

/-- A call in progress: what was called, what it did so far, and what is left of it. -/
structure Thread (I : Interface) (τ α : Type) where
  tag : τ
  taken : List (Taken I)
  program : Program I α

structure Machine (I : Interface) (τ α σ : Type) where
  shared : σ
  threads : List (Thread I τ α)

inductive Label (τ ω κ : Type)
  | call (tag : τ)
  | step (thread : Nat) (oracle : ω)
  | background (event : κ)

/-- What the machine is made of: the body of each call, the actions and the background steps. -/
structure System (I : Interface) (τ α σ ω κ : Type) where
  body : τ → Program I α
  exec : σ → (action : I.Action) → ω → Option (I.Reply action × σ)
  background : σ → κ → Option σ

/-- One step of a thread. -/
def System.advance (system : System I τ α σ ω κ) (shared : σ) (thread : Thread I τ α) (oracle : ω) :
    Option (σ × Thread I τ α) :=
  match thread.program with
  | .done _ => none
  | .act action next =>
    (system.exec shared action oracle).map fun (reply, shared) =>
      (shared, ⟨thread.tag, thread.taken ++ [⟨action, reply⟩], next reply⟩)

def System.step (system : System I τ α σ ω κ) (machine : Machine I τ α σ) :
    Label τ ω κ → Option (Machine I τ α σ)
  | .call tag => some { machine with threads := machine.threads ++ [⟨tag, [], system.body tag⟩] }
  | .step index oracle => do
    let thread ← machine.threads[index]?
    let (shared, thread) ← system.advance machine.shared thread oracle
    return ⟨shared, machine.threads.set index thread⟩
  | .background event => (system.background machine.shared event).map fun shared =>
    { machine with shared := shared }

/-! ### The logic -/

/-- What the steps of a run keep, and what they may assume. -/
structure Rules (I : Interface) (σ ω : Type) where
  /-- The invariant of the shared state. -/
  invariant : σ → Prop
  /-- How the shared state may change. -/
  later : σ → σ → Prop
  /-- What a program has to make sure of before it takes an action. -/
  requires : σ → I.Action → Prop
  /-- The steps that are looked at. -/
  allowed : σ → (action : I.Action) → ω → Prop

/-- The same rules for a program with requirements and steps of its own. -/
def Rules.restrict (rules : Rules I σ ω) (required : σ → I.Action → Prop)
    (special : σ → (action : I.Action) → ω → Prop) : Rules I σ ω :=
  { rules with requires := required, allowed := special }

/-- **The program meets the requirements of its actions and ends in `Q`**, whatever the others do
before each of its actions. `taken` is what the thread did so far. -/
def Safe (exec : σ → (action : I.Action) → ω → Option (I.Reply action × σ)) (rules : Rules I σ ω)
    (Q : List (Taken I) → α → σ → Prop) : Program I α → List (Taken I) → σ → Prop
  | .done value, taken, s => Q taken value s
  | .act action next, taken, s => ∀ t, rules.later s t → rules.invariant t →
      rules.requires t action ∧
      ∀ oracle reply u, rules.allowed t action oracle → exec t action oracle = some (reply, u) →
        Safe exec rules Q (next reply) (taken ++ [⟨action, reply⟩]) u

variable {exec : σ → (action : I.Action) → ω → Option (I.Reply action × σ)} {rules : Rules I σ ω}
  {taken : List (Taken I)} {s t : σ}

variable {required : σ → I.Action → Prop}

namespace Safe

variable {program : Program I α}

theorem mono {Q R : List (Taken I) → α → σ → Prop} (safe : Safe exec rules Q program taken s)
    (weaker : ∀ taken value s, Q taken value s → R taken value s) :
    Safe exec rules R program taken s := by
  induction program generalizing taken s with
  | done value => exact weaker _ _ _ safe
  | act action next ih =>
    intro t later holds
    obtain ⟨required, goes⟩ := safe t later holds
    exact ⟨required, fun oracle reply u allowed ran => ih reply (goes oracle reply u allowed ran)⟩

/-- A program that meets more requirements than it has to. -/
theorem requires_mono {Q : List (Taken I) → α → σ → Prop} (safe : Safe exec rules Q program taken s)
    (weaker : ∀ s action, rules.requires s action → required s action) :
    Safe exec { rules with requires := required } Q program taken s := by
  induction program generalizing taken s with
  | done value => exact safe
  | act action next ih =>
    intro t later holds
    obtain ⟨met, goes⟩ := safe t later holds
    exact ⟨weaker t action met,
      fun oracle reply u allowed ran => ih reply (goes oracle reply u allowed ran)⟩

theorem bind {Q : List (Taken I) → β → σ → Prop} {next : α → Program I β}
    (safe : Safe exec rules (fun taken value s => Safe exec rules Q (next value) taken s) program
      taken s) :
    Safe exec rules Q (program.bind next) taken s := by
  induction program generalizing taken s with
  | done value => exact safe
  | act action rest ih =>
    intro t later holds
    obtain ⟨required, goes⟩ := safe t later holds
    exact ⟨required, fun oracle reply u allowed ran => ih reply (goes oracle reply u allowed ran)⟩

theorem later {Q : List (Taken I) → α → σ → Prop}
    (trans : ∀ {s t u}, rules.later s t → rules.later t u → rules.later s u)
    (stable : ∀ taken value s t, rules.later s t → Q taken value s → Q taken value t)
    (safe : Safe exec rules Q program taken s) (moved : rules.later s t) :
    Safe exec rules Q program taken t := by
  cases program with
  | done value => exact stable _ _ _ _ moved safe
  | act action next => exact fun u further => safe u (trans moved further)

/-! ### Methods -/

variable {Q : List (Taken I) → Except ε β → σ → Prop}

theorem pure {value : β} (holds : Q taken (.ok value) s) :
    Safe exec rules Q (pure value : Method I ε β) taken s := holds

theorem andThen {m : Method I ε α} {next : α → Method I ε β}
    (safe : Safe exec rules (fun taken result s => match result with
      | .ok value => Safe exec rules Q (next value) taken s
      | .error error => Q taken (.error error) s) m taken s) :
    Safe exec rules Q (m >>= next : Method I ε β) taken s := by
  refine bind (safe.mono ?_)
  intro taken result s holds
  cases result with
  | ok value => exact holds
  | error error => exact holds

theorem attempt {m : Method I ε α} {Q : List (Taken I) → Except ε (Except ε α) → σ → Prop}
    (safe : Safe exec rules (fun taken result s => Q taken (.ok result) s) m taken s) :
    Safe exec rules Q m.attempt taken s :=
  bind safe

theorem branch {condition : Prop} [Decidable condition] {yes no : Method I ε β}
    (first : condition → Safe exec rules Q yes taken s)
    (second : ¬ condition → Safe exec rules Q no taken s) :
    Safe exec rules Q (if condition then yes else no : Method I ε β) taken s := by
  by_cases holds : condition
  · simp [holds, first holds]
  · simp [holds, second holds]

end Safe

/-! ### Runs -/

/-- The step of a thread is one of those that are looked at. -/
def Admitted (allowed : σ → (action : I.Action) → ω → Prop) (machine : Machine I τ α σ) :
    Label τ ω κ → Prop
  | .call _ | .background _ => True
  | .step index oracle => ∀ thread action next, machine.threads[index]? = some thread →
      thread.program = .act action next → allowed machine.shared action oracle

/-- `Admitted`, where it can be decided. -/
def admits (check : σ → (action : I.Action) → ω → Bool) (machine : Machine I τ α σ) :
    Label τ ω κ → Bool
  | .call _ | .background _ => true
  | .step index oracle => match machine.threads[index]? with
    | none => true
    | some thread => match thread.program with
      | .done _ => true
      | .act action _ => check machine.shared action oracle

variable {machine : Machine I τ α σ}

theorem admitted_of_admits {allowed : σ → (action : I.Action) → ω → Prop}
    {check : σ → (action : I.Action) → ω → Bool} {label : Label τ ω κ}
    (sound : ∀ s action oracle, check s action oracle → allowed s action oracle)
    (passed : admits check machine label) : Admitted allowed machine label := by
  cases label with
  | call | background => trivial
  | step index oracle =>
    intro thread action next running program
    rw [admits, running] at passed
    simp only [program] at passed
    exact sound _ _ _ passed

/-- The steps of one thread are among those that are looked at. -/
def AdmittedAt (index : Nat) (allowed : σ → (action : I.Action) → ω → Prop)
    (machine : Machine I τ α σ) (label : Label τ ω κ) : Prop :=
  ∀ oracle, label = .step index oracle → Admitted allowed machine label

variable {system : System I τ α σ ω κ} {Q : τ → List (Taken I) → α → σ → Prop}

/-- Every action keeps the invariant and moves along `later`. -/
structure Regular (exec : σ → (action : I.Action) → ω → Option (I.Reply action × σ))
    (rules : Rules I σ ω) : Prop where
  refl (s : σ) : rules.later s s
  trans {s t u : σ} : rules.later s t → rules.later t u → rules.later s u
  act {s t : σ} {action : I.Action} {oracle : ω} {reply : I.Reply action} :
    rules.invariant s → rules.requires s action → rules.allowed s action oracle →
    exec s action oracle = some (reply, t) → rules.invariant t ∧ rules.later s t

/-- **What the run rule asks for**: every action and every background step keeps the invariant and
moves along `later`, and the body of every call is safe. -/
structure Closed (system : System I τ α σ ω κ) (rules : Rules I σ ω)
    (Q : τ → List (Taken I) → α → σ → Prop) : Prop extends Regular system.exec rules where
  background {s t : σ} {event : κ} : rules.invariant s → system.background s event = some t →
    rules.invariant t ∧ rules.later s t
  body (tag : τ) (s : σ) : rules.invariant s → Safe system.exec rules (Q tag) (system.body tag) [] s
  stable (tag : τ) (taken : List (Taken I)) (value : α) (s t : σ) : rules.later s t →
    Q tag taken value s → Q tag taken value t

/-- The invariant holds, and every thread is safe. -/
structure Sound (system : System I τ α σ ω κ) (rules : Rules I σ ω)
    (Q : τ → List (Taken I) → α → σ → Prop) (machine : Machine I τ α σ) : Prop where
  invariant : rules.invariant machine.shared
  threads (index : Nat) (thread : Thread I τ α) (running : machine.threads[index]? = some thread) :
    Safe system.exec rules (Q thread.tag) thread.program thread.taken machine.shared

variable {index : Nat} {thread : Thread I τ α}

/-- A thread that has answered has answered what its call promises. -/
theorem Sound.answered (sound : Sound system rules Q machine)
    (running : machine.threads[index]? = some thread) {value : α}
    (answered : thread.program = .done value) :
    Q thread.tag thread.taken value machine.shared := by
  have safe := sound.threads index thread running
  rw [answered] at safe
  exact safe

theorem step_thread {next : Machine I τ α σ} {oracle : ω}
    (taken : system.step machine (.step index oracle) = some next) :
    ∃ thread action rest reply, machine.threads[index]? = some thread ∧
      thread.program = .act action rest ∧
      system.exec machine.shared action oracle = some (reply, next.shared) ∧
      next.threads = machine.threads.set index
        ⟨thread.tag, thread.taken ++ [⟨action, reply⟩], rest reply⟩ := by
  obtain ⟨thread, running, taken⟩ := Option.bind_eq_some_iff.mp taken
  obtain ⟨⟨shared, advanced⟩, moved, ⟨⟩⟩ := Option.bind_eq_some_iff.mp taken
  unfold System.advance at moved
  cases program : thread.program with
  | done value =>
    simp [program] at moved
  | act action rest =>
    rw [program] at moved
    obtain ⟨⟨reply, after⟩, ran, ⟨⟩⟩ := Option.map_eq_some_iff.mp moved
    exact ⟨thread, action, rest, reply, running, program, ran, rfl⟩

variable {P : List (Taken I) → α → σ → Prop}

namespace Closed

variable {machine next : Machine I τ α σ} {label : Label τ ω κ}

theorem threads_later (closed : Closed system rules Q) (sound : Sound system rules Q machine)
    {shared : σ} (moved : rules.later machine.shared shared) (index : Nat) (thread : Thread I τ α)
    (running : machine.threads[index]? = some thread) :
    Safe system.exec rules (Q thread.tag) thread.program thread.taken shared :=
  (sound.threads index thread running).later closed.trans (closed.stable thread.tag) moved

/-- **One step.** -/
theorem step_sound (closed : Closed system rules Q) (sound : Sound system rules Q machine)
    (admitted : Admitted rules.allowed machine label)
    (taken : system.step machine label = some next) :
    Sound system rules Q next ∧ rules.later machine.shared next.shared := by
  cases label with
  | call tag =>
    cases taken
    refine ⟨⟨sound.invariant, ?_⟩, closed.refl _⟩
    intro index thread running
    rcases List.mem_append.mp (List.mem_of_getElem? running) with old | new
    · obtain ⟨place, located⟩ := List.getElem?_of_mem old
      exact sound.threads place thread located
    · cases List.mem_singleton.mp new
      exact closed.body tag _ sound.invariant
  | step index oracle =>
    obtain ⟨thread, action, rest, reply, running, program, ran, threads⟩ := step_thread taken
    have safe := sound.threads index thread running
    rw [program] at safe
    obtain ⟨required, goes⟩ := safe machine.shared (closed.refl _) sound.invariant
    have allowed := admitted thread action rest running program
    obtain ⟨holds, moved⟩ := closed.act sound.invariant required allowed ran
    refine ⟨⟨holds, ?_⟩, moved⟩
    intro place other located
    rw [threads, List.getElem?_set] at located
    by_cases same : index = place
    · rw [if_pos same] at located
      split at located
      · cases located
        exact goes oracle reply _ allowed ran
      · cases located
    · rw [if_neg same] at located
      exact closed.threads_later sound moved place other located
  | background event =>
    obtain ⟨shared, ran, rfl⟩ := Option.map_eq_some_iff.mp taken
    obtain ⟨holds, moved⟩ := closed.background sound.invariant ran
    exact ⟨⟨holds, closed.threads_later sound moved⟩, moved⟩

open Execution

/-- **The run rule.** -/
theorem sound (closed : Closed system rules Q)
    (reach : Reach system.step (Admitted rules.allowed) machine next)
    (start : Sound system rules Q machine) : Sound system rules Q next :=
  reach.invariant start fun _ _ _ sound admitted taken => (closed.step_sound sound admitted taken).1

/-- The thread is there, and safe under assumptions on its own steps. -/
def ThreadSafe (system : System I τ α σ ω κ) (rules : Rules I σ ω) (index : Nat) (tag : τ)
    (P : List (Taken I) → α → σ → Prop) (machine : Machine I τ α σ) : Prop :=
  ∃ thread, machine.threads[index]? = some thread ∧ thread.tag = tag ∧
    Safe system.exec rules P thread.program thread.taken machine.shared

variable {special : σ → (action : I.Action) → ω → Prop}

theorem step_threadSafe (closed : Closed system rules Q) {tag : τ}
    (stable : ∀ taken value s t, rules.later s t → P taken value s → P taken value t)
    (sound : Sound system rules Q machine) (admitted : Admitted rules.allowed machine label)
    (own : AdmittedAt index special machine label) (taken : system.step machine label = some next)
    (safe : ThreadSafe system (rules.restrict required special) index tag P machine) :
    ThreadSafe system (rules.restrict required special) index tag P next := by
  obtain ⟨thread, running, tagged, safe⟩ := safe
  have moved := (closed.step_sound sound admitted taken).2
  have unmoved : Safe system.exec (rules.restrict required special) P thread.program thread.taken
      next.shared := by
    refine Safe.later ?_ stable safe moved
    exact closed.trans
  cases label with
  | call other =>
    cases taken
    refine ⟨thread, ?_, tagged, unmoved⟩
    simp [List.getElem?_append_left (List.getElem?_eq_some_iff.mp running).1, running]
  | step place oracle =>
    obtain ⟨stepped, action, rest, reply, located, program, ran, threads⟩ := step_thread taken
    by_cases same : place = index
    · subst same
      rw [running] at located
      cases located
      rw [program] at safe
      obtain ⟨-, goes⟩ := safe machine.shared (closed.refl _) sound.invariant
      refine ⟨⟨thread.tag, thread.taken ++ [⟨action, reply⟩], rest reply⟩, ?_, tagged,
        goes oracle reply _ (own oracle rfl thread action rest running program) ran⟩
      rw [threads, List.getElem?_set_self (List.getElem?_eq_some_iff.mp running).1]
    · refine ⟨thread, ?_, tagged, unmoved⟩
      simp [threads, List.getElem?_set_ne same, running]
  | background event =>
    obtain ⟨shared, -, rfl⟩ := Option.map_eq_some_iff.mp taken
    exact ⟨thread, running, tagged, unmoved⟩

/-- **The run rule for one thread**, whose own steps alone are restricted to `special`. -/
theorem sound_thread (closed : Closed system rules Q) {tag : τ}
    (stable : ∀ taken value s t, rules.later s t → P taken value s → P taken value t)
    (reach : Reach system.step (fun machine label => Admitted rules.allowed machine label ∧
      AdmittedAt index special machine label) machine next)
    (start : Sound system rules Q machine)
    (safe : ThreadSafe system (rules.restrict required special) index tag P machine) :
    ThreadSafe system (rules.restrict required special) index tag P next := by
  have kept : Sound system rules Q next ∧
      ThreadSafe system (rules.restrict required special) index tag P next := by
    refine reach.invariant (I := fun machine => Sound system rules Q machine ∧
      ThreadSafe system (rules.restrict required special) index tag P machine) ⟨start, safe⟩ ?_
    rintro machine label next ⟨sound, safe⟩ ⟨admitted, own⟩ taken
    exact ⟨(closed.step_sound sound admitted taken).1,
      closed.step_threadSafe stable sound admitted own taken safe⟩
  exact kept.2

end Closed

/-! ### A thread that runs alone -/

/-- The step is one of this thread, among those that are looked at. -/
def Alone (index : Nat) (allowed : σ → (action : I.Action) → ω → Prop) (machine : Machine I τ α σ)
    (label : Label τ ω κ) : Prop :=
  (∃ oracle, label = .step index oracle) ∧ Admitted allowed machine label

/-- **A thread whose actions are enabled and change nothing answers**, without a step of another. -/
theorem Safe.finishes {shared : σ} {threads : List (Thread I τ α)}
    (safe : Safe system.exec rules P thread.program thread.taken shared)
    (running : threads[index]? = some thread) (holds : rules.invariant shared)
    (refl : ∀ s, rules.later s s)
    (ready : ∀ action, rules.requires shared action → ∃ oracle reply, rules.allowed shared action
      oracle ∧ system.exec shared action oracle = some (reply, shared)) :
    ∃ next last value, Execution.Reach system.step (Alone index rules.allowed) ⟨shared, threads⟩ next ∧
      next.shared = shared ∧ next.threads[index]? = some last ∧ last.tag = thread.tag ∧
      last.program = .done value ∧ P last.taken value shared := by
  obtain ⟨tag, taken, program⟩ := thread
  induction program generalizing threads taken with
  | done value => exact ⟨⟨shared, threads⟩, _, value, .refl, rfl, running, rfl, rfl, safe⟩
  | act action rest ih =>
    obtain ⟨required, goes⟩ := safe shared (refl _) holds
    obtain ⟨oracle, reply, allowed, ran⟩ := ready action required
    have inside := (List.getElem?_eq_some_iff.mp running).1
    have moved : system.step ⟨shared, threads⟩ (.step index oracle) = some ⟨shared,
        threads.set index ⟨tag, taken ++ [⟨action, reply⟩], rest reply⟩⟩ := by
      simp [System.step, running, System.advance, ran]
    obtain ⟨next, last, value, reach, same, located, tagged, answered, post⟩ :=
      ih reply (taken ++ [⟨action, reply⟩]) (goes oracle reply _ allowed ran)
        (List.getElem?_set_self inside)
    refine ⟨next, last, value, ?_, same, located, tagged, answered, post⟩
    refine (Execution.Reach.single ⟨⟨oracle, rfl⟩, ?_⟩ moved).trans reach
    intro thread other further found program
    rw [running] at found
    cases found
    cases program
    exact allowed

end Interleaving
