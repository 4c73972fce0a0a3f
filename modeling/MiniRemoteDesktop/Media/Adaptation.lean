/-
**Confirmation of a downshift** (`mrd-service`, `media_adaptation.rs`).

Every decision window yields an observation. A stressed one names a reason, and most reasons have to
persist for two windows, or four, before the ladder steps down. The windows are counted by the text
of the reason, and the text of most reasons holds the measured value.

* `downshift_confirmed_iff` — the two for every run of windows.
* `changing_fps_is_not_confirmed` — a low frame rate that changes is not confirmed.

Numbers are Lean's own `Float32` and `Float`. A run is the windows the task observed, with the
moments at which it drops what it counted.
-/

import MiniRemoteDesktop.Lib.Rounding
import Mathlib.Data.List.Induction

namespace MiniRemoteDesktop.Media

open Rounding (fixedText)

/-! ### Observations -/

structure MediaAdaptationObservation where
  observedFps : Float32
  targetFps : UInt32
  dropRatio : Float32
  queueDepth : UInt32
  (decodeP95Ms renderP95Ms receiveP95Ms presentGapP95Ms : Option Float)
  noValidFrames : Bool

def adaptationSafeStartMinFps : UInt32 := 120
def adaptationDownshiftConfirmationWindows : Nat := 2
def adaptationHighRefreshFpsOnlyConfirmationWindows : Nat := 4

/-- What a downshift is about, with the values its text shows. -/
inductive DownshiftReason
  | noValidFrames
  | lowFps (observedFps : Float32) (targetFps : UInt32)
  | dropRatio (dropRatio : Float32)
  | queueDepth (queueDepth : UInt32)
  | decode (frameBudgetMs : Float)
  | render (frameBudgetMs : Float)
  | presentGap (perceptualBudgetMs : Float)
  | receive (perceptualBudgetMs : Float)

open DownshiftReason

/-- The text of a reason, as the source formats it. -/
def DownshiftReason.message : DownshiftReason → String
  | noValidFrames => "no valid frames for 2s"
  | lowFps observedFps targetFps =>
    "fps " ++ fixedText 1 observedFps.toModel.unpack ++ " below 85% of target " ++ toString targetFps
  | dropRatio ratio => "drop ratio " ++ fixedText 2 (ratio * 100.0).toModel.unpack ++ "% above 3%"
  | queueDepth depth => "queue depth " ++ toString depth ++ " above 1"
  | decode budget => "decode p95 exceeds " ++ fixedText 2 budget.toModel.unpack ++ "ms budget"
  | render budget => "render p95 exceeds " ++ fixedText 2 budget.toModel.unpack ++ "ms budget"
  | presentGap budget =>
    "present gap p95 exceeds " ++ fixedText 2 budget.toModel.unpack ++ "ms perceptual budget"
  | receive budget =>
    "receiver read p95 exceeds " ++ fixedText 2 budget.toModel.unpack ++ "ms perceptual budget"

namespace MediaAdaptationObservation

variable (observation : MediaAdaptationObservation)

def targetFpsF32 : Float32 := observation.targetFps.toFloat32

def frameBudgetMs : Float := 1000.0 / (max observation.targetFps 1).toFloat

def perceptualBudgetMs : Float := observation.frameBudgetMs * 1.5

/-- `is_some_and(|p95| p95 > budget)`. -/
def exceeds (p95 : Option Float) (budget : Float) : Bool := p95.any fun p95 => decide (p95 > budget)

/-- The frame rate is below 85% of the target. -/
def fpsLow : Bool := decide (observation.observedFps < observation.targetFpsF32 * 0.85)

/-- A drop, a backlog or a budget that supports a low frame rate. -/
def lowFpsHasSupportingHighRefreshStress : Bool :=
  decide (observation.dropRatio > 0.03) ||
    decide (observation.queueDepth > 1) ||
    exceeds observation.decodeP95Ms observation.frameBudgetMs ||
    exceeds observation.renderP95Ms observation.frameBudgetMs ||
    exceeds observation.presentGapP95Ms observation.perceptualBudgetMs ||
    exceeds observation.receiveP95Ms observation.perceptualBudgetMs

/-- A drop ratio above 3% counts when it is severe, or when the window is stressed otherwise. -/
def dropStressed : Bool :=
  let severeDrop := decide (observation.dropRatio > 0.10)
  let throughputStressed := decide (observation.observedFps < observation.targetFpsF32 * 0.95) ||
    decide (observation.queueDepth > 0)
  let perceptualStressed := decide (observation.targetFps ≤ 120) ||
    exceeds observation.presentGapP95Ms observation.perceptualBudgetMs ||
    exceeds observation.receiveP95Ms observation.perceptualBudgetMs
  decide (observation.dropRatio > 0.03) && (severeDrop || throughputStressed || perceptualStressed)

def downshiftReason : Option DownshiftReason :=
  if observation.noValidFrames then some .noValidFrames
  else if observation.fpsLow then
    if decide (observation.targetFps > adaptationSafeStartMinFps) &&
        !observation.lowFpsHasSupportingHighRefreshStress then none
    else some (.lowFps observation.observedFps observation.targetFps)
  else if observation.dropStressed then some (.dropRatio observation.dropRatio)
  else if observation.queueDepth > 1 then some (.queueDepth observation.queueDepth)
  else if exceeds observation.decodeP95Ms observation.frameBudgetMs then
    some (.decode observation.frameBudgetMs)
  else if exceeds observation.renderP95Ms observation.frameBudgetMs then
    some (.render observation.frameBudgetMs)
  else if observation.targetFps > 120 then
    if exceeds observation.presentGapP95Ms observation.perceptualBudgetMs then
      some (.presentGap observation.perceptualBudgetMs)
    else if exceeds observation.receiveP95Ms observation.perceptualBudgetMs then
      some (.receive observation.perceptualBudgetMs)
    else none
  else none

def downshiftRequiresConfirmation : Bool :=
  let severePerceptualBudgetMs := observation.frameBudgetMs * 2.0
  !observation.noValidFrames && !decide (observation.dropRatio > 0.08) &&
    !exceeds observation.presentGapP95Ms severePerceptualBudgetMs &&
    !exceeds observation.receiveP95Ms severePerceptualBudgetMs

def downshiftConfirmationWindowsRequired : Nat :=
  if !observation.fpsLow || decide (observation.targetFps ≤ adaptationSafeStartMinFps) then
    adaptationDownshiftConfirmationWindows
  else if observation.lowFpsHasSupportingHighRefreshStress then
    adaptationDownshiftConfirmationWindows
  else adaptationHighRefreshFpsOnlyConfirmationWindows

end MediaAdaptationObservation

/-! ### Counting the windows -/

/-- `pending_downshift_reason` and `pending_downshift_windows`. -/
structure PendingDownshift where
  reason : Option String
  windows : Nat

open PendingDownshift

def PendingDownshift.cleared : PendingDownshift := ⟨none, 0⟩

/-- `u32::MAX`. -/
def u32Max : Nat := 2 ^ 32 - 1

/-- Whether the downshift of a window is confirmed, and what is pending after it. -/
def updateDownshiftConfirmation (observation : MediaAdaptationObservation)
    (pending : PendingDownshift) : Bool × PendingDownshift :=
  match observation.downshiftReason with
  | none => (true, .cleared)
  | some reason =>
    if !observation.downshiftRequiresConfirmation then (true, .cleared)
    else
      let requiredWindows := observation.downshiftConfirmationWindowsRequired
      let windows :=
        if pending.reason = some reason.message then min (pending.windows + 1) u32Max else 1
      (decide (windows ≥ requiredWindows), ⟨some reason.message, windows⟩)

/-- What the task does to the count: it observes a window, or starts anew while a profile settles
and after a step on the ladder. -/
inductive AdaptationEvent
  | observed (observation : MediaAdaptationObservation)
  | restarted

def PendingDownshift.after (pending : PendingDownshift) : AdaptationEvent → PendingDownshift
  | .observed observation => (updateDownshiftConfirmation observation pending).2
  | .restarted => .cleared

/-- What is pending after a run. -/
def PendingDownshift.run (pending : PendingDownshift) (events : List AdaptationEvent) :
    PendingDownshift :=
  events.foldl after pending

/-! ### Kinds of stress -/

/-- What a reason is about, without the measured values. -/
inductive DownshiftKind
  | noValidFrames
  | lowFps
  | dropRatio
  | queueDepth
  | decode
  | render
  | presentGap
  | receive
  deriving DecidableEq

def DownshiftReason.kind : DownshiftReason → DownshiftKind
  | noValidFrames => .noValidFrames
  | lowFps _ _ => .lowFps
  | dropRatio _ => .dropRatio
  | queueDepth _ => .queueDepth
  | decode _ => .decode
  | render _ => .render
  | presentGap _ => .presentGap
  | receive _ => .receive

/-- The reason of a window whose downshift has to be confirmed. -/
def MediaAdaptationObservation.awaited (observation : MediaAdaptationObservation) :
    Option DownshiftReason :=
  if observation.downshiftRequiresConfirmation then observation.downshiftReason else none

/-- What the text of a reason begins with. -/
def DownshiftKind.start : DownshiftKind → String
  | noValidFrames => "no valid frames for 2s"
  | lowFps => "fps "
  | dropRatio => "drop ratio "
  | queueDepth => "queue depth "
  | decode => "decode p95 exceeds "
  | render => "render p95 exceeds "
  | presentGap => "present gap p95 exceeds "
  | receive => "receiver read p95 exceeds "

theorem message_start (reason : DownshiftReason) :
    ∃ rest, reason.message = reason.kind.start ++ rest := by
  cases reason with
  | noValidFrames => exact ⟨"", String.append_empty.symm⟩
  | lowFps observedFps targetFps =>
    unfold message kind DownshiftKind.start
    simp [String.append_assoc]
  | _ =>
    unfold message kind DownshiftKind.start
    simp [String.append_assoc]

theorem start_take (kind other : DownshiftKind)
    (same : kind.start.toList.take 3 = other.start.toList.take 3) : kind = other := by
  revert same
  cases kind <;> cases other <;> decide

theorem start_length (kind : DownshiftKind) : 3 ≤ kind.start.toList.length := by
  cases kind <;> decide

/-- **Texts of different kinds differ.** -/
theorem message_kind {first second : DownshiftReason} (same : first.message = second.message) :
    first.kind = second.kind := by
  obtain ⟨left, starts⟩ := message_start first
  obtain ⟨right, other⟩ := message_start second
  rw [starts, other] at same
  have letters := congrArg (fun text => text.toList.take 3) same
  simp only [String.toList_append] at letters
  rw [List.take_append_of_le_length (start_length _), List.take_append_of_le_length (start_length _)]
    at letters
  exact start_take _ _ letters

/-! ### What a count counts -/

/-- The text that a window's confirmation goes by. -/
def MediaAdaptationObservation.awaitedText (observation : MediaAdaptationObservation) :
    Option String :=
  observation.awaited.map message

/-- The windows pending under a text. -/
def PendingDownshift.counted (pending : PendingDownshift) (text : String) : Nat :=
  if pending.reason = some text then pending.windows else 0

variable {observation : MediaAdaptationObservation}

variable {reason : DownshiftReason}

theorem update_awaited (awaited : observation.awaited = some reason) (pending : PendingDownshift) :
    updateDownshiftConfirmation observation pending =
      (decide (observation.downshiftConfirmationWindowsRequired ≤
          min (pending.counted reason.message + 1) u32Max),
        ⟨some reason.message, min (pending.counted reason.message + 1) u32Max⟩) := by
  unfold MediaAdaptationObservation.awaited at awaited
  split at awaited
  next requires =>
    rw [updateDownshiftConfirmation, awaited, counted]
    simp only [requires, Bool.not_true, Bool.false_eq_true, if_false]
    by_cases same : pending.reason = some reason.message
    · simp [same]
    · simp only [if_neg same, ge_iff_le]
      rfl
  · cases awaited

theorem update_unawaited (unawaited : observation.awaited = none) (pending : PendingDownshift) :
    updateDownshiftConfirmation observation pending = (true, .cleared) := by
  unfold MediaAdaptationObservation.awaited at unawaited
  rw [updateDownshiftConfirmation]
  split at unawaited
  · rw [unawaited]
  next requires =>
    split
    · rfl
    · exact if_pos (by simpa using requires)

variable (pending : PendingDownshift) (events : List AdaptationEvent)
  (windows : List MediaAdaptationObservation)

/-- A window adds one to the count of its own text and ends every other. -/
theorem counted_observed (observation : MediaAdaptationObservation) (text : String) :
    (pending.after (.observed observation)).counted text =
      if observation.awaitedText = some text then min (pending.counted text + 1) u32Max else 0 := by
  show (updateDownshiftConfirmation observation pending).2.counted text = _
  unfold MediaAdaptationObservation.awaitedText
  cases awaited : observation.awaited with
  | none => rw [update_unawaited awaited]; rfl
  | some reason =>
    rw [update_awaited awaited, Option.map_some]
    show (if some reason.message = some text then _ else 0) = _
    by_cases same : reason.message = text
    · simp [same]
    · rw [if_neg fun equal => same (Option.some.inj equal),
        if_neg fun equal => same (Option.some.inj equal)]

theorem run_snoc (event : AdaptationEvent) :
    pending.run (events ++ [event]) = (pending.run events).after event :=
  List.foldl_append ..

/-- **A count reaches `count` exactly when the last `count` windows carry its text.** -/
theorem le_counted_iff (text : String) {count : Nat} (enough : count ≤ windows.length)
    (fits : count ≤ u32Max) :
    count ≤ (pending.run (windows.map .observed)).counted text ↔
      ∀ observation ∈ windows.drop (windows.length - count), observation.awaitedText = some text := by
  induction windows using List.reverseRecOn generalizing count with
  | nil =>
    obtain rfl : count = 0 := Nat.le_zero.mp enough
    exact iff_of_true (Nat.zero_le _) fun _ member => absurd member List.not_mem_nil
  | append_singleton windows last ih =>
    cases count with
    | zero =>
      refine iff_of_true (Nat.zero_le _) ?_
      simp
    | succ count =>
      rw [List.length_append, List.length_singleton] at enough
      have shorter : windows.length + 1 - (count + 1) ≤ windows.length := by omega
      have position : windows.length + 1 - (count + 1) = windows.length - count := by omega
      rw [List.map_append, List.map_singleton, run_snoc, counted_observed, List.length_append,
        List.length_singleton, List.drop_append_of_le_length shorter, position]
      simp only [List.mem_append, List.mem_singleton, or_imp, forall_and, forall_eq]
      rw [← ih (by omega) (by omega)]
      by_cases same : last.awaitedText = some text
      · rw [if_pos same, and_iff_left same]
        omega
      · simp [same]

theorem required_bounds (observation : MediaAdaptationObservation) :
    0 < observation.downshiftConfirmationWindowsRequired ∧
      observation.downshiftConfirmationWindowsRequired ≤ 4 := by
  unfold MediaAdaptationObservation.downshiftConfirmationWindowsRequired
  split
  · decide
  · split <;> decide

/-- **A window is confirmed exactly when the windows before it that it takes carry its text.** -/
theorem confirmed_iff {last : MediaAdaptationObservation} (awaited : last.awaited = some reason)
    (enough : last.downshiftConfirmationWindowsRequired ≤ windows.length + 1) :
    (updateDownshiftConfirmation last (pending.run (windows.map .observed))).1 = true ↔ ∀ observation ∈
        windows.drop (windows.length + 1 - last.downshiftConfirmationWindowsRequired),
        observation.awaitedText = some reason.message := by
  obtain ⟨positive, small⟩ := required_bounds last
  have fits : last.downshiftConfirmationWindowsRequired ≤ u32Max := small.trans (by decide)
  have position : windows.length + 1 - last.downshiftConfirmationWindowsRequired =
      windows.length - (last.downshiftConfirmationWindowsRequired - 1) := by omega
  rw [update_awaited awaited, position,
    ← le_counted_iff pending windows reason.message (by omega) (by omega), decide_eq_true_iff]
  omega

/-! ### Windows of one kind -/

/-- The kind of stress that a window's confirmation waits for. -/
def MediaAdaptationObservation.awaitedKind (observation : MediaAdaptationObservation) :
    Option DownshiftKind :=
  observation.awaited.map kind

/-- **The stressed windows of a kind seen in a row** at the end of a run, since the count was last
started anew. -/
def consecutive (kind : DownshiftKind) (events : List AdaptationEvent) : Nat :=
  events.foldl (fun seen event =>
    match event with
    | .observed observation => if observation.awaitedKind = some kind then seen + 1 else 0
    | .restarted => 0) 0

theorem consecutive_snoc (kind : DownshiftKind) (events : List AdaptationEvent)
    (event : AdaptationEvent) : consecutive kind (events ++ [event]) =
      match event with
      | .observed observation =>
        if observation.awaitedKind = some kind then consecutive kind events + 1 else 0
      | .restarted => 0 :=
  List.foldl_append ..

theorem awaitedKind_of_text (same : observation.awaitedText = some reason.message) :
    observation.awaitedKind = some reason.kind := by
  obtain ⟨own, awaited, text⟩ := Option.map_eq_some_iff.mp same
  simp [MediaAdaptationObservation.awaitedKind, awaited, message_kind text]

/-- A count never exceeds the stressed windows of its kind. -/
theorem counted_le_consecutive (reason : DownshiftReason) :
    (cleared.run events).counted reason.message ≤ consecutive reason.kind events := by
  induction events using List.reverseRecOn with
  | nil => exact Nat.le_refl 0
  | append_singleton events event ih =>
    rw [run_snoc, consecutive_snoc]
    cases event with
    | restarted => exact Nat.le_refl 0
    | observed observation =>
      rw [counted_observed]
      dsimp only
      by_cases same : observation.awaitedText = some reason.message
      · rw [if_pos same, if_pos (awaitedKind_of_text same)]
        omega
      · simp [same]

/-- **When a persistent stress is confirmed.** In every run that ends with windows of one kind, all
waiting for a confirmation, the last one is confirmed exactly when the windows it takes carry the
same text. And a window is never confirmed before as many of its kind were seen as it takes. -/
theorem downshift_confirmed_iff (pending : PendingDownshift) (events : List AdaptationEvent)
    (last : MediaAdaptationObservation) (kind : DownshiftKind) :
    (∀ windows : List MediaAdaptationObservation,
      (∀ observation ∈ windows ++ [last], observation.awaitedKind = some kind ∧
        observation.downshiftConfirmationWindowsRequired ≤ (windows ++ [last]).length) →
      ((updateDownshiftConfirmation last (pending.run (events ++ windows.map .observed))).1 = true ↔
        ∀ observation ∈ windows.drop (windows.length + 1 - last.downshiftConfirmationWindowsRequired),
          observation.awaitedText = last.awaitedText)) ∧
      (last.awaitedKind = some kind →
        consecutive kind (events ++ [.observed last]) < last.downshiftConfirmationWindowsRequired →
          (updateDownshiftConfirmation last (cleared.run events)).1 = false) := by
  constructor
  · intro windows stressed
    obtain ⟨lastKind, enough⟩ := stressed last (List.mem_append_right _ (List.mem_singleton_self _))
    rw [List.length_append, List.length_singleton] at enough
    obtain ⟨reason, awaited, _⟩ := Option.map_eq_some_iff.mp lastKind
    have text : last.awaitedText = some reason.message := congrArg _ awaited
    have ran : pending.run (events ++ windows.map .observed) =
        (pending.run events).run (windows.map .observed) := List.foldl_append ..
    rw [text, ran]
    exact confirmed_iff (pending.run events) windows awaited enough
  · intro lastKind few
    obtain ⟨reason, awaited, rfl⟩ := Option.map_eq_some_iff.mp lastKind
    rw [consecutive_snoc] at few
    dsimp only at few
    rw [if_pos lastKind] at few
    have counted := counted_le_consecutive events reason
    rw [update_awaited awaited, decide_eq_false_iff_not]
    omega

/-! ### A frame rate that stays low and changes -/

/-- A window at a target of 60 frames per second with nothing but its frame rate to report. -/
def windowAt (observedFps : Float32) : MediaAdaptationObservation where
  observedFps := observedFps
  targetFps := 60
  dropRatio := 0
  queueDepth := 0
  decodeP95Ms := none
  renderP95Ms := none
  receiveP95Ms := none
  presentGapP95Ms := none
  noValidFrames := false

theorem windowAt_30 : (windowAt 30).awaitedKind = some .lowFps ∧
    (windowAt 30).downshiftConfirmationWindowsRequired = 2 := by
  decide

theorem windowAt_40 : (windowAt 40).awaitedKind = some .lowFps ∧
    (windowAt 40).downshiftConfirmationWindowsRequired = 2 := by
  decide

theorem downshift_confirmed_iff_sample :
    (updateDownshiftConfirmation (windowAt 30) (cleared.run [.observed (windowAt 30)])).1 = true ∧
    (updateDownshiftConfirmation (windowAt 30) cleared).1 = false := by
  have stressed : ∀ observation ∈ [windowAt 30] ++ [windowAt 30],
      observation.awaitedKind = some .lowFps ∧
        observation.downshiftConfirmationWindowsRequired ≤ ([windowAt 30] ++ [windowAt 30]).length := by
    intro observation member
    obtain rfl : observation = windowAt 30 := by simpa using member
    exact ⟨windowAt_30.1, windowAt_30.2.le⟩
  constructor
  · refine ((downshift_confirmed_iff .cleared [] (windowAt 30) .lowFps).1 [windowAt 30] stressed).mpr ?_
    intro observation member
    rw [List.mem_singleton.mp (List.mem_of_mem_drop member)]
  · exact (downshift_confirmed_iff .cleared [] (windowAt 30) .lowFps).2 windowAt_30.1 (by decide)

/-- **Two windows below 85% of the target, at 30 and at 40 frames per second**: the second takes two
windows and is not confirmed. -/
theorem changing_fps_is_not_confirmed :
    (∀ observation ∈ [windowAt 30, windowAt 40], observation.awaitedKind = some .lowFps ∧
      observation.downshiftConfirmationWindowsRequired ≤ [windowAt 30, windowAt 40].length) ∧
    (updateDownshiftConfirmation (windowAt 40) (cleared.run [.observed (windowAt 30)])).1 ≠ true := by
  constructor
  · intro observation member
    rcases List.mem_pair.mp member with rfl | rfl
    · exact ⟨windowAt_30.1, windowAt_30.2.le⟩
    · exact ⟨windowAt_40.1, windowAt_40.2.le⟩
  · decide +kernel

end MiniRemoteDesktop.Media
