/-
**The default adaptation ladder** (`mrd-service`, `media_adaptation.rs`).

`default_ladder_for_source` builds eight rungs from the capture source, a ceiling and a floor, and
`sanitize_ladder` drops a rung that repeats the one before it. A downshift goes to the next rung.

* `default_ladder_descends_iff` — the ladder descends under its ceiling exactly for the bitrates and
  the floors named there.
* `floor_above_ceiling` — a ceiling of 5 Mbit/s with the default floor of 10.

`u32` values are natural numbers; a floating-point operation is its exact result, rounded.
-/

import MiniRemoteDesktop.Lib.Rounding
import MiniRemoteDesktop.Lib.Text
import Mathlib.Data.List.Chain

namespace MiniRemoteDesktop.Media

open Rounding

/-! ### Profiles -/

/-- `MediaProfile` of the IPC protocol. -/
structure MediaProfile where
  (width height fps bitrateMbps : Nat)
  codec : String
  codecProfile : Option String
  bitDepth : Option Nat
  (chromaSubsampling pixelFormat : Option String)
  hdrEnabled : Option Bool
  (colorMode colorPipeline : Option String)
  deriving DecidableEq

/-- The size of a capture source; the ladder reads nothing else of it. -/
structure CaptureSource where
  (width height : Nat)

def adaptationSafeStartMinimumFps : Nat := 120
def adaptationHighRefreshStabilityBitrateMbps : Nat := 64
def defaultCeilingWidth : Nat := 2560
def defaultCeilingHeight : Nat := 1440

/-- `value as u32` of a number that is not negative. -/
def asU32 (value : ℚ) : Nat := min ⌊value⌋.toNat (2 ^ 32 - 1)

/-- `f64::round` and `f32::round` of a number that is not negative: ties go up. -/
def roundHalfUp (value : ℚ) : ℚ := ⌊value + 1 / 2⌋

/-- `value & !1`. -/
def evenDown (value : Nat) : Nat := value / 2 * 2

/-- The size of a picture of a width, in the aspect of the source; `f64` has 53 significant bits. -/
def evenSizeForWidth (width : Nat) (aspect : ℚ) (sourceWidth sourceHeight : Nat) : Nat × Nat :=
  let evenWidth := evenDown (max (min width sourceWidth) 2)
  let height := min (asU32 (roundHalfUp (nearest 53 (evenWidth / aspect)))) sourceHeight
  (evenWidth, evenDown (max height 2))

/-- `profile`: the template with a size, a frame rate and a bitrate. -/
def profileOf (size : Nat × Nat) (fps bitrateMbps : Nat) (template : MediaProfile) : MediaProfile :=
  { template with width := size.1, height := size.2, fps := fps, bitrateMbps := bitrateMbps }

/-- 80% of a bitrate; `f32` has 24 significant bits. -/
def secondBitrate (highBitrate : Nat) : Nat :=
  asU32 (roundHalfUp (nearest 24 (nearest 24 highBitrate * nearest 24 (8 / 10))))

def highRefreshStabilityBitrate (high : Nat × Nat) (highFps highBitrate secondBitrate : Nat) :
    Option Nat :=
  let pixels := high.1 * high.2
  let baselinePixels := defaultCeilingWidth * defaultCeilingHeight
  if highFps ≥ adaptationSafeStartMinimumFps ∧ pixels > baselinePixels ∧
      highBitrate > adaptationHighRefreshStabilityBitrateMbps ∧
      secondBitrate > adaptationHighRefreshStabilityBitrateMbps then
    some adaptationHighRefreshStabilityBitrateMbps
  else none

/-! ### The ladder -/

/-- Add an element unless it repeats the last one. -/
def pushDistinct {α : Type} [DecidableEq α] (list : List α) (item : α) : List α :=
  if list.getLast? = some item then list else list ++ [item]

/-- A list without the elements that repeat the one before them. -/
def dropRepeats {α : Type} [DecidableEq α] (list : List α) : List α := list.foldl pushDistinct []

def sanitizeProfile (profile : MediaProfile) : MediaProfile :=
  { profile with
    width := evenDown (max profile.width 2)
    height := evenDown (max profile.height 2)
    fps := max profile.fps 1
    bitrateMbps := max profile.bitrateMbps 1
    codec := if Text.trim profile.codec = "" then "h264" else profile.codec }

def sanitizeLadder (ladder : List MediaProfile) : List MediaProfile :=
  dropRepeats (ladder.map sanitizeProfile)

/-- The size of the source, or of the ceiling where there is none. -/
def sourceSize (source : Option CaptureSource) (ceiling : MediaProfile) : Nat × Nat :=
  match source with
  | some source => (max source.width 2, max source.height 2)
  | none => (max ceiling.width 2, max ceiling.height 2)

/-- The eight rungs, before they are sanitized. -/
def rungs (source : Option CaptureSource) (ceiling floor : MediaProfile) : List MediaProfile :=
  let (sourceWidth, sourceHeight) := sourceSize source ceiling
  let aspect := nearest 53 ((sourceWidth : ℚ) / (max sourceHeight 1 : Nat))
  let highWidth := max (min ceiling.width sourceWidth) 2
  let high := evenSizeForWidth highWidth aspect sourceWidth sourceHeight
  let mid := evenSizeForWidth (max (min 1920 high.1) 2) aspect sourceWidth sourceHeight
  let low := evenSizeForWidth (max (min (min floor.width 1280) high.1) 2) aspect sourceWidth
    sourceHeight
  let highFps := max ceiling.fps 1
  let highBitrate := max ceiling.bitrateMbps 1
  let second := secondBitrate highBitrate
  let secondRung :=
    match highRefreshStabilityBitrate high highFps highBitrate second with
    | some stabilityBitrate => profileOf high highFps stabilityBitrate ceiling
    | none => profileOf high highFps (max second 1) ceiling
  [profileOf high highFps highBitrate ceiling, secondRung,
    profileOf high (min highFps 120) (max (min 50 highBitrate) 1) ceiling,
    profileOf high (min highFps 120) (max (min 40 highBitrate) 1) ceiling,
    profileOf mid (min highFps 120) (max (min 40 highBitrate) 1) ceiling,
    profileOf mid (min highFps 90) (max (min 28 highBitrate) 1) ceiling,
    profileOf mid (min highFps 60) (max (min 20 highBitrate) 1) ceiling,
    profileOf low (max (min floor.fps highFps) 1) (max floor.bitrateMbps 1) ceiling]

def defaultLadderForSource (source : Option CaptureSource) (ceiling floor : MediaProfile) :
    List MediaProfile :=
  sanitizeLadder (rungs source ceiling floor)

/-- The rung a downshift goes to; the last one has none below it. -/
def downshiftIndex (ladderIndex ladderLen : Nat) : Nat := min (ladderIndex + 1) (ladderLen - 1)

/-! ### A descending ladder -/

/-- The pixel count, frame rate and bitrate of a rung are at most those of the rung above it. -/
structure Below (upper lower : MediaProfile) : Prop where
  pixels : lower.width * lower.height ≤ upper.width * upper.height
  fps : lower.fps ≤ upper.fps
  bitrate : lower.bitrateMbps ≤ upper.bitrateMbps

/-- **A rung under its ceiling**, inside a source of the given size. -/
structure UnderCeiling (size : Nat × Nat) (ceiling rung : MediaProfile) : Prop where
  bitrate : rung.bitrateMbps ≤ max 1 ceiling.bitrateMbps
  fps : rung.fps ≤ max 1 ceiling.fps
  even : rung.width % 2 = 0 ∧ rung.height % 2 = 0
  inside : rung.width ≤ evenDown size.1 ∧ rung.height ≤ evenDown size.2

/-- **A ladder that descends under its ceiling**, so that a downshift raises nothing. -/
structure Descends (size : Nat × Nat) (ceiling : MediaProfile) (ladder : List MediaProfile) :
    Prop where
  under : ∀ rung ∈ ladder, UnderCeiling size ceiling rung
  ordered : ladder.IsChain Below
  downshift : ∀ index rung lower, ladder[index]? = some rung →
    ladder[downshiftIndex index ladder.length]? = some lower → Below rung lower

theorem Below.refl (rung : MediaProfile) : Below rung rung := ⟨le_rfl, le_rfl, le_rfl⟩

/-! ### Dropping repetitions -/

section Repetitions

variable {α : Type} [DecidableEq α]

variable (list : List α) (item : α)

theorem dropRepeats_snoc :
    dropRepeats (list ++ [item]) = pushDistinct (dropRepeats list) item :=
  List.foldl_append ..

theorem getLast?_dropRepeats : (dropRepeats list).getLast? = list.getLast? := by
  induction list using List.reverseRecOn with
  | nil => rfl
  | append_singleton list item ih =>
    rw [dropRepeats_snoc, pushDistinct, List.getLast?_concat]
    split
    next same =>
      exact same
    · exact List.getLast?_concat

theorem mem_dropRepeats : item ∈ dropRepeats list ↔ item ∈ list := by
  induction list using List.reverseRecOn with
  | nil => exact Iff.rfl
  | append_singleton list last ih =>
    rw [dropRepeats_snoc, pushDistinct, List.mem_append, List.mem_singleton]
    split
    next same =>
      rw [ih]
      refine ⟨.inl, fun member => member.elim id ?_⟩
      rintro rfl
      exact ih.mp (List.mem_of_getLast? same)
    · simp [ih]

/-- **Dropping repetitions keeps a chain of a reflexive relation**, and makes none. -/
theorem isChain_dropRepeats {R : α → α → Prop} (refl : ∀ item, R item item) (list : List α) :
    (dropRepeats list).IsChain R ↔ list.IsChain R := by
  induction list using List.reverseRecOn with
  | nil => exact Iff.rfl
  | append_singleton list item ih =>
    rw [dropRepeats_snoc, pushDistinct, List.isChain_append, ← ih]
    have last := getLast?_dropRepeats list
    split
    next same =>
      rw [← last]
      refine ⟨fun chain => ⟨chain, List.isChain_singleton item, ?_⟩, fun chain => chain.1⟩
      intro upper ends lower head
      obtain rfl : upper = item := Option.some.inj (ends.symm.trans same)
      obtain rfl : upper = lower := Option.some.inj head
      exact refl upper
    · rw [List.isChain_append, last]

end Repetitions

/-! ### Rounded sizes and bitrates -/

theorem roundHalfUp_mono {x y : ℚ} (ordered : x ≤ y) : roundHalfUp x ≤ roundHalfUp y :=
  Int.cast_le.mpr (Int.floor_le_floor (add_le_add_left ordered _))

theorem asU32_mono {x y : ℚ} (ordered : x ≤ y) : asU32 x ≤ asU32 y :=
  min_le_min_right _ (Int.toNat_le_toNat (Int.floor_le_floor ordered))

theorem evenDown_mono {x y : Nat} (ordered : x ≤ y) : evenDown x ≤ evenDown y :=
  Nat.mul_le_mul_right 2 (Nat.div_le_div_right ordered)

variable (width : Nat) (high : Nat × Nat) (aspect : ℚ) (x : Nat) (source : Option CaptureSource)
  (highFps sourceWidth highBitrate sourceHeight : Nat)

theorem evenDown_le : evenDown x ≤ x := Nat.div_mul_le_self x 2

theorem evenDown_even : evenDown x % 2 = 0 := Nat.mul_mod_left _ _

theorem two_le_evenDown {x : Nat} (large : 2 ≤ x) : 2 ≤ evenDown x := by
  unfold evenDown
  omega

theorem evenDown_max (even : x % 2 = 0) (large : 2 ≤ x) : evenDown (max x 2) = x := by
  rw [max_eq_left large, evenDown]
  omega

/-- **A smaller width gives a smaller picture.** -/
theorem evenSizeForWidth_mono {width wider : Nat} (ordered : width ≤ wider) {aspect : ℚ}
    (positive : 0 ≤ aspect) (sourceWidth sourceHeight : Nat) :
    (evenSizeForWidth width aspect sourceWidth sourceHeight).1 ≤
        (evenSizeForWidth wider aspect sourceWidth sourceHeight).1 ∧
      (evenSizeForWidth width aspect sourceWidth sourceHeight).2 ≤
        (evenSizeForWidth wider aspect sourceWidth sourceHeight).2 := by
  have widths : evenDown (max (min width sourceWidth) 2) ≤ evenDown (max (min wider sourceWidth) 2) :=
    evenDown_mono (max_le_max_right 2 (min_le_min_right sourceWidth ordered))
  refine ⟨widths, evenDown_mono (max_le_max_right 2 (min_le_min_right sourceHeight ?_))⟩
  refine asU32_mono (roundHalfUp_mono (nearest_mono (by decide) ?_))
  exact div_le_div_of_nonneg_right (Nat.cast_le.mpr widths) positive

theorem evenSizeForWidth_even :
    (evenSizeForWidth width aspect sourceWidth sourceHeight).1 % 2 = 0 ∧
      (evenSizeForWidth width aspect sourceWidth sourceHeight).2 % 2 = 0 :=
  ⟨evenDown_even _, evenDown_even _⟩

theorem evenSizeForWidth_inside {sourceWidth sourceHeight : Nat} (wide : 2 ≤ sourceWidth)
    (high : 2 ≤ sourceHeight) :
    (evenSizeForWidth width aspect sourceWidth sourceHeight).1 ≤ evenDown sourceWidth ∧
      (evenSizeForWidth width aspect sourceWidth sourceHeight).2 ≤ evenDown sourceHeight :=
  ⟨evenDown_mono (max_le (min_le_right _ _) wide), evenDown_mono (max_le (min_le_right _ _) high)⟩

theorem two_le_evenSizeForWidth :
    2 ≤ (evenSizeForWidth width aspect sourceWidth sourceHeight).1 ∧
      2 ≤ (evenSizeForWidth width aspect sourceWidth sourceHeight).2 :=
  ⟨two_le_evenDown (le_max_right _ _), two_le_evenDown (le_max_right _ _)⟩

theorem secondBitrate_mono {low high : Nat} (ordered : low ≤ high) :
    secondBitrate low ≤ secondBitrate high := by
  refine asU32_mono (roundHalfUp_mono (nearest_mono (by decide) ?_))
  refine mul_le_mul_of_nonneg_right ?_ (nearest_nonneg (by decide) _)
  exact nearest_mono (by decide) (Nat.cast_le.mpr ordered)

/-- **80% of a bitrate is at most the bitrate**, whatever is rounded on the way. -/
theorem secondBitrate_le : secondBitrate highBitrate ≤ highBitrate := by
  have nonneg : (0 : ℚ) ≤ highBitrate := Nat.cast_nonneg _
  have fraction : nearest 24 (8 / 10) ≤ 81 / 100 := by decide +kernel
  have converted : nearest 24 (highBitrate : ℚ) ≤ highBitrate * (1 + 1 / 2 ^ 24) := nearest_le nonneg
  have product : nearest 24 (highBitrate : ℚ) * nearest 24 (8 / 10) ≤ highBitrate * (9 / 10) := by
    calc
      nearest 24 (highBitrate : ℚ) * nearest 24 (8 / 10)
          ≤ (highBitrate * (1 + 1 / 2 ^ 24)) * (81 / 100) :=
        mul_le_mul converted fraction (nearest_nonneg (by decide) _) (by positivity)
      _ = highBitrate * ((1 + 1 / 2 ^ 24) * (81 / 100)) := by ring
      _ ≤ highBitrate * (9 / 10) := mul_le_mul_of_nonneg_left (by norm_num) nonneg
  have rounded : nearest 24 (nearest 24 (highBitrate : ℚ) * nearest 24 (8 / 10)) ≤ highBitrate := by
    calc
      nearest 24 (nearest 24 (highBitrate : ℚ) * nearest 24 (8 / 10))
          ≤ nearest 24 (highBitrate * (9 / 10)) := nearest_mono (by decide) product
      _ ≤ highBitrate * (9 / 10) * (1 + 1 / 2 ^ 24) := nearest_le (by positivity)
      _ = highBitrate * (9 / 10 * (1 + 1 / 2 ^ 24)) := by ring
      _ ≤ highBitrate * 1 := mul_le_mul_of_nonneg_left (by norm_num) nonneg
      _ = highBitrate := mul_one _
  have floor : ⌊(highBitrate : ℚ) + 1 / 2⌋ = highBitrate := by
    rw [Int.floor_eq_iff]
    constructor
    · push_cast
      linarith
    · push_cast
      linarith
  calc
    secondBitrate highBitrate ≤ asU32 (roundHalfUp highBitrate) :=
      asU32_mono (roundHalfUp_mono rounded)
    _ ≤ highBitrate := by
      refine (min_le_left _ _).trans ?_
      rw [roundHalfUp, floor, Int.floor_intCast]
      exact le_rfl

/-- From 62 Mbit/s on, 80% is at least the cap of the third rung. -/
theorem le_secondBitrate {highBitrate : Nat} (large : 62 ≤ highBitrate) :
    50 ≤ secondBitrate highBitrate :=
  calc
    50 = secondBitrate 62 := by decide +kernel
    _ ≤ secondBitrate highBitrate := secondBitrate_mono large

/-- Between 3 and 61 Mbit/s the third rung is above 80%. -/
theorem secondBitrate_lt {highBitrate : Nat} (low : 3 ≤ highBitrate) (high : highBitrate < 62) :
    max (secondBitrate highBitrate) 1 < min 50 highBitrate := by
  have table : ∀ bitrate < 62, 3 ≤ bitrate → max (secondBitrate bitrate) 1 < min 50 bitrate := by
    decide +kernel
  exact table highBitrate high low

/-! ### The rungs -/

/-- A size that sanitizing leaves alone. -/
structure Sanitary (size : Nat × Nat) : Prop where
  even : size.1 % 2 = 0 ∧ size.2 % 2 = 0
  large : 2 ≤ size.1 ∧ 2 ≤ size.2

theorem sanitary_evenSizeForWidth :
    Sanitary (evenSizeForWidth width aspect sourceWidth sourceHeight) :=
  ⟨evenSizeForWidth_even .., two_le_evenSizeForWidth ..⟩

/-- What sanitizing leaves of a rung: its size, frame rate and bitrate. -/
theorem sanitizeProfile_profileOf {size : Nat × Nat} (sanitary : Sanitary size) {fps bitrate : Nat}
    (frames : 1 ≤ fps) (bits : 1 ≤ bitrate) (template : MediaProfile) :
    (sanitizeProfile (profileOf size fps bitrate template)).width = size.1 ∧
      (sanitizeProfile (profileOf size fps bitrate template)).height = size.2 ∧
      (sanitizeProfile (profileOf size fps bitrate template)).fps = fps ∧
      (sanitizeProfile (profileOf size fps bitrate template)).bitrateMbps = bitrate :=
  ⟨evenDown_max _ sanitary.even.1 sanitary.large.1, evenDown_max _ sanitary.even.2 sanitary.large.2,
    max_eq_left frames, max_eq_left bits⟩

theorem below_sanitized {upper lower : Nat × Nat} (above : Sanitary upper) (beneath : Sanitary lower)
    {upperFps lowerFps upperBitrate lowerBitrate : Nat} (upperFrames : 1 ≤ upperFps)
    (lowerFrames : 1 ≤ lowerFps) (upperBits : 1 ≤ upperBitrate) (lowerBits : 1 ≤ lowerBitrate)
    (template : MediaProfile) :
    Below (sanitizeProfile (profileOf upper upperFps upperBitrate template))
        (sanitizeProfile (profileOf lower lowerFps lowerBitrate template)) ↔
      lower.1 * lower.2 ≤ upper.1 * upper.2 ∧ lowerFps ≤ upperFps ∧ lowerBitrate ≤ upperBitrate := by
  obtain ⟨width, height, fps, bitrate⟩ :=
    sanitizeProfile_profileOf above upperFrames upperBits template
  obtain ⟨lowerWidth, lowerHeight, lowerRate, lowerBit⟩ :=
    sanitizeProfile_profileOf beneath lowerFrames lowerBits template
  constructor
  · rintro ⟨pixels, frames, bits⟩
    rw [width, height, lowerWidth, lowerHeight] at pixels
    rw [fps, lowerRate] at frames
    rw [bitrate, lowerBit] at bits
    exact ⟨pixels, frames, bits⟩
  · rintro ⟨pixels, frames, bits⟩
    refine ⟨?_, ?_, ?_⟩
    · simp [width, height, lowerWidth, lowerHeight, pixels]
    · simp [fps, lowerRate, frames]
    · simp [bitrate, lowerBit, bits]

theorem underCeiling_sanitized {source size : Nat × Nat} (sanitary : Sanitary size)
    (inside : size.1 ≤ evenDown source.1 ∧ size.2 ≤ evenDown source.2) {fps bitrate : Nat}
    (frames : 1 ≤ fps) (bits : 1 ≤ bitrate) (ceiling : MediaProfile) :
    UnderCeiling source ceiling (sanitizeProfile (profileOf size fps bitrate ceiling)) ↔
      bitrate ≤ max 1 ceiling.bitrateMbps ∧ fps ≤ max 1 ceiling.fps := by
  obtain ⟨width, height, rate, bit⟩ := sanitizeProfile_profileOf sanitary frames bits ceiling
  constructor
  · rintro ⟨bitrateFits, fpsFits, _, _⟩
    rw [bit] at bitrateFits
    rw [rate] at fpsFits
    exact ⟨bitrateFits, fpsFits⟩
  · rintro ⟨bitrateFits, fpsFits⟩
    refine ⟨?_, ?_, ?_, ?_⟩
    · simp [bit, bitrateFits]
    · simp [rate, fpsFits]
    · simp [width, height, sanitary.even]
    · simp [width, height, inside]

/-- The bitrate of the second rung. -/
def secondRungBitrate (high : Nat × Nat) (highFps highBitrate : Nat) : Nat :=
  match highRefreshStabilityBitrate high highFps highBitrate (secondBitrate highBitrate) with
  | some stabilityBitrate => stabilityBitrate
  | none => max (secondBitrate highBitrate) 1

theorem secondRungBitrate_bounds {highBitrate : Nat} (positive : 1 ≤ highBitrate) :
    1 ≤ secondRungBitrate high highFps highBitrate ∧
      secondRungBitrate high highFps highBitrate ≤ highBitrate := by
  have second := secondBitrate_le highBitrate
  unfold secondRungBitrate highRefreshStabilityBitrate
  dsimp only
  split
  next stability found =>
    split at found
    next applies =>
      cases found
      exact ⟨by decide, applies.2.2.1.le⟩
    · cases found
  · exact ⟨le_max_right _ _, max_le second positive⟩

/-- **The third rung is above the second exactly between 3 and 61 Mbit/s.** -/
theorem le_secondRungBitrate_iff :
    min 50 highBitrate ≤ secondRungBitrate high highFps highBitrate ↔
      highBitrate ≤ 2 ∨ 62 ≤ highBitrate := by
  unfold secondRungBitrate highRefreshStabilityBitrate
  dsimp only
  split
  next stability found =>
    split at found
    next applies =>
      cases found
      refine iff_of_true ((min_le_left _ _).trans (by decide)) (.inr ?_)
      exact (show 62 ≤ 64 by decide).trans applies.2.2.1.le
    · cases found
  · by_cases small : highBitrate ≤ 2
    · refine iff_of_true ?_ (.inl small)
      have table : ∀ bitrate ≤ 2, min 50 bitrate ≤ max (secondBitrate bitrate) 1 := by
        decide +kernel
      exact table highBitrate small
    · by_cases large : 62 ≤ highBitrate
      · refine iff_of_true ?_ (.inr large)
        exact (min_le_left _ _).trans ((le_secondBitrate large).trans (le_max_left _ _))
      · refine iff_of_false ?_ (by omega)
        exact not_le.mpr (secondBitrate_lt (by omega) (by omega))

theorem rungs_second (template : MediaProfile) :
    (match highRefreshStabilityBitrate high highFps highBitrate (secondBitrate highBitrate) with
      | some stabilityBitrate => profileOf high highFps stabilityBitrate template
      | none => profileOf high highFps (max (secondBitrate highBitrate) 1) template) =
      profileOf high highFps (secondRungBitrate high highFps highBitrate) template := by
  unfold secondRungBitrate
  split
  · rfl
  · rfl

/-- **When the default ladder descends**: the ceiling leaves room between its 80% and the fixed
caps, and the floor is under the seventh rung. -/
structure RoomForLadder (ceiling floor : MediaProfile) : Prop where
  caps : max 1 ceiling.bitrateMbps ≤ 2 ∨ 62 ≤ max 1 ceiling.bitrateMbps
  floorFps : floor.fps ≤ 60 ∨ ceiling.fps ≤ 60
  floorBitrate : max 1 floor.bitrateMbps ≤ min 20 (max 1 ceiling.bitrateMbps)

theorem downshift_of_chain {ladder : List MediaProfile} (ordered : ladder.IsChain Below)
    {index : Nat} {rung lower : MediaProfile} (at_ : ladder[index]? = some rung)
    (next : ladder[downshiftIndex index ladder.length]? = some lower) : Below rung lower := by
  obtain ⟨bound, rfl⟩ := List.getElem?_eq_some_iff.mp at_
  obtain ⟨nextBound, rfl⟩ := List.getElem?_eq_some_iff.mp next
  by_cases last : index + 1 < ladder.length
  · have step : downshiftIndex index ladder.length = index + 1 := min_eq_left (by omega)
    simpa [step] using List.isChain_iff_getElem.mp ordered index last
  · have stays : downshiftIndex index ladder.length = index := by
      unfold downshiftIndex
      omega
    simp [stays, Below.refl _]

/-- A sanitary size inside a source. -/
structure Fits (source size : Nat × Nat) : Prop extends Sanitary size where
  inside : size.1 ≤ evenDown source.1 ∧ size.2 ≤ evenDown source.2

variable (ceiling floor : MediaProfile)

/-- **The three sizes of a ladder**: they fit the source and get smaller. -/
theorem rungs_sizes :
    ∃ high mid low : Nat × Nat,
      Fits (sourceSize source ceiling) high ∧ Fits (sourceSize source ceiling) mid ∧
      Fits (sourceSize source ceiling) low ∧
      mid.1 * mid.2 ≤ high.1 * high.2 ∧ low.1 * low.2 ≤ mid.1 * mid.2 ∧
      rungs source ceiling floor =
        let highFps := max ceiling.fps 1
        let highBitrate := max ceiling.bitrateMbps 1
        [profileOf high highFps highBitrate ceiling,
          profileOf high highFps (secondRungBitrate high highFps highBitrate) ceiling,
          profileOf high (min highFps 120) (max (min 50 highBitrate) 1) ceiling,
          profileOf high (min highFps 120) (max (min 40 highBitrate) 1) ceiling,
          profileOf mid (min highFps 120) (max (min 40 highBitrate) 1) ceiling,
          profileOf mid (min highFps 90) (max (min 28 highBitrate) 1) ceiling,
          profileOf mid (min highFps 60) (max (min 20 highBitrate) 1) ceiling,
          profileOf low (max (min floor.fps highFps) 1) (max floor.bitrateMbps 1) ceiling] := by
  obtain ⟨wide, tall⟩ : 2 ≤ (sourceSize source ceiling).1 ∧ 2 ≤ (sourceSize source ceiling).2 := by
    unfold sourceSize
    split
    · exact ⟨le_max_right _ _, le_max_right _ _⟩
    · exact ⟨le_max_right _ _, le_max_right _ _⟩
  have aspect : 0 ≤ nearest 53 (((sourceSize source ceiling).1 : ℚ) /
      (max (sourceSize source ceiling).2 1 : Nat)) := nearest_nonneg (by decide) _
  unfold rungs
  dsimp only
  generalize nearest 53 (((sourceSize source ceiling).1 : ℚ) /
    (max (sourceSize source ceiling).2 1 : Nat)) = ratio at aspect
  generalize sourceSize source ceiling = size at wide tall
  let fit (width : Nat) := evenSizeForWidth width ratio size.1 size.2
  have highWidth : (fit (max (min ceiling.width size.1) 2)).1 ≤ max (min ceiling.width size.1) 2 :=
    (evenDown_le _).trans (max_le (min_le_left _ _) (le_max_right _ _))
  have smaller {width wider : Nat} (ordered : width ≤ wider) :
      (fit width).1 * (fit width).2 ≤ (fit wider).1 * (fit wider).2 :=
    Nat.mul_le_mul (evenSizeForWidth_mono ordered aspect size.1 size.2).1
      (evenSizeForWidth_mono ordered aspect size.1 size.2).2
  have fits (width : Nat) : Fits size (fit width) :=
    ⟨sanitary_evenSizeForWidth .., evenSizeForWidth_inside width ratio wide tall⟩
  let highest := fit (max (min ceiling.width size.1) 2)
  refine ⟨highest, fit (max (min 1920 highest.1) 2),
    fit (max (min (min floor.width 1280) highest.1) 2), fits _, fits _, fits _, ?_, ?_, ?_⟩
  · exact smaller (max_le ((min_le_right _ _).trans highWidth) (le_max_right _ _))
  · refine smaller (max_le_max_right 2 (min_le_min_right _ ?_))
    exact (min_le_right _ _).trans (by decide)
  · rw [← rungs_second]

/-- The conditions on the bitrates and frame rates of eight rungs, put together. -/
theorem descending_values {highFps highBitrate second floorFps floorBitrate : Nat}
    (frames : 1 ≤ highFps) (bits : 1 ≤ highBitrate) (secondLow : second ≤ highBitrate) :
    (second ≤ highBitrate ∧ (min highFps 120 ≤ highFps ∧ max (min 50 highBitrate) 1 ≤ second) ∧
        max (min 40 highBitrate) 1 ≤ max (min 50 highBitrate) 1 ∧
        (min highFps 90 ≤ min highFps 120 ∧ max (min 28 highBitrate) 1 ≤ max (min 40 highBitrate) 1) ∧
        (min highFps 60 ≤ min highFps 90 ∧ max (min 20 highBitrate) 1 ≤ max (min 28 highBitrate) 1) ∧
        max (min floorFps highFps) 1 ≤ min highFps 60 ∧
          max floorBitrate 1 ≤ max (min 20 highBitrate) 1) ↔
      min 50 highBitrate ≤ second ∧ (floorFps ≤ 60 ∨ highFps ≤ 60) ∧
        max 1 floorBitrate ≤ min 20 highBitrate := by
  constructor
  · rintro ⟨_, ⟨_, caps⟩, _, _, _, floorFrames, floorBits⟩
    exact ⟨by omega, by omega, by omega⟩
  · rintro ⟨caps, floorFrames, floorBits⟩
    exact ⟨secondLow, ⟨by omega, by omega⟩, by omega, ⟨by omega, by omega⟩, ⟨by omega, by omega⟩,
      by omega, by omega⟩

/-- Each rung is below the one before it exactly when there is room for the ladder. -/
theorem default_ladder_ordered_iff :
    (defaultLadderForSource source ceiling floor).IsChain Below ↔ RoomForLadder ceiling floor := by
  obtain ⟨high, mid, low, ⟨highSane, _⟩, ⟨midSane, _⟩, ⟨lowSane, _⟩, midSmaller, lowSmaller, listed⟩ :=
    rungs_sizes source ceiling floor
  unfold defaultLadderForSource sanitizeLadder
  rw [isChain_dropRepeats Below.refl, listed]
  simp only [List.map_cons, List.map_nil, List.isChain_cons_cons, List.isChain_singleton, and_true]
  have room : RoomForLadder ceiling floor ↔ min 50 (max ceiling.bitrateMbps 1) ≤
          secondRungBitrate high (max ceiling.fps 1) (max ceiling.bitrateMbps 1) ∧
        (floor.fps ≤ 60 ∨ max ceiling.fps 1 ≤ 60) ∧
        max 1 floor.bitrateMbps ≤ min 20 (max ceiling.bitrateMbps 1) := by
    have sixty : max ceiling.fps 1 ≤ 60 ↔ ceiling.fps ≤ 60 := by
      simp
    rw [le_secondRungBitrate_iff, max_comm ceiling.bitrateMbps, sixty]
    exact ⟨fun room => ⟨room.caps, room.floorFps, room.floorBitrate⟩,
      fun room => ⟨room.1, room.2.1, room.2.2⟩⟩
  have frames : 1 ≤ max ceiling.fps 1 := le_max_right _ _
  have bits : 1 ≤ max ceiling.bitrateMbps 1 := le_max_right _ _
  obtain ⟨secondPositive, secondLow⟩ := secondRungBitrate_bounds high (max ceiling.fps 1) bits
  rw [room]
  clear room
  generalize secondRungBitrate high (max ceiling.fps 1) (max ceiling.bitrateMbps 1) = second at *
  generalize max ceiling.fps 1 = highFps at *
  generalize max ceiling.bitrateMbps 1 = highBitrate at *
  have capped (limit : Nat) (positive : 1 ≤ limit) : 1 ≤ min highFps limit := le_min frames positive
  have atLeast (value : Nat) : 1 ≤ max value 1 := le_max_right value 1
  rw [below_sanitized highSane highSane frames frames bits secondPositive,
    below_sanitized highSane highSane frames (capped 120 (by decide)) secondPositive (atLeast _),
    below_sanitized highSane highSane (capped 120 (by decide)) (capped 120 (by decide)) (atLeast _)
      (atLeast _),
    below_sanitized highSane midSane (capped 120 (by decide)) (capped 120 (by decide)) (atLeast _)
      (atLeast _),
    below_sanitized midSane midSane (capped 120 (by decide)) (capped 90 (by decide)) (atLeast _)
      (atLeast _),
    below_sanitized midSane midSane (capped 90 (by decide)) (capped 60 (by decide)) (atLeast _)
      (atLeast _),
    below_sanitized midSane lowSane (capped 60 (by decide)) (atLeast _) (atLeast _) (atLeast _),
    ← descending_values frames bits secondLow]
  simp [midSmaller, lowSmaller]

/-- A floor whose bitrate fits keeps every rung under the ceiling. -/
theorem default_ladder_under {ceiling floor : MediaProfile}
    (floorBits : max 1 floor.bitrateMbps ≤ max 1 ceiling.bitrateMbps) :
    ∀ rung ∈ defaultLadderForSource source ceiling floor,
      UnderCeiling (sourceSize source ceiling) ceiling rung := by
  obtain ⟨high, mid, low, ⟨highSane, highInside⟩, ⟨midSane, midInside⟩, ⟨lowSane, lowInside⟩, _, _,
    listed⟩ := rungs_sizes source ceiling floor
  unfold defaultLadderForSource sanitizeLadder
  simp only [mem_dropRepeats]
  rw [listed]
  have frames : 1 ≤ max ceiling.fps 1 := le_max_right _ _
  have bits : 1 ≤ max ceiling.bitrateMbps 1 := le_max_right _ _
  obtain ⟨secondPositive, secondLow⟩ := secondRungBitrate_bounds high (max ceiling.fps 1) bits
  simp only [List.map_cons, List.map_nil, List.forall_mem_cons, List.not_mem_nil,
    IsEmpty.forall_iff, implies_true, and_true]
  refine ⟨?_, ?_, ?_, ?_, ?_, ?_, ?_, ?_⟩
  · exact (underCeiling_sanitized highSane highInside frames bits ceiling).mpr (by omega)
  · refine (underCeiling_sanitized highSane highInside frames secondPositive ceiling).mpr ⟨?_, ?_⟩
    · exact secondLow.trans (max_comm _ _).le
    · exact (max_comm _ _).le
  · exact (underCeiling_sanitized highSane highInside (by omega) (by omega) ceiling).mpr (by omega)
  · exact (underCeiling_sanitized highSane highInside (by omega) (by omega) ceiling).mpr (by omega)
  · exact (underCeiling_sanitized midSane midInside (by omega) (by omega) ceiling).mpr (by omega)
  · exact (underCeiling_sanitized midSane midInside (by omega) (by omega) ceiling).mpr (by omega)
  · exact (underCeiling_sanitized midSane midInside (by omega) (by omega) ceiling).mpr (by omega)
  · exact (underCeiling_sanitized lowSane lowInside (by omega) (by omega) ceiling).mpr (by omega)

/-- **The default ladder descends under its ceiling exactly when there is room for it**: a ceiling
of at most 2 or at least 62 Mbit/s, and a floor with no more frames than the seventh rung and no
higher bitrate. For every source, ceiling and floor. -/
theorem default_ladder_descends_iff (source : Option CaptureSource) (ceiling floor : MediaProfile) :
    Descends (sourceSize source ceiling) ceiling (defaultLadderForSource source ceiling floor) ↔
      RoomForLadder ceiling floor := by
  constructor
  · intro descends
    exact (default_ladder_ordered_iff source ceiling floor).mp descends.ordered
  · intro room
    have ordered := (default_ladder_ordered_iff source ceiling floor).mpr room
    refine ⟨default_ladder_under source (room.floorBitrate.trans (min_le_right _ _)), ordered, ?_⟩
    exact fun index rung lower at_ next => downshift_of_chain ordered at_ next

/-! ### A floor above its ceiling -/

/-- A profile with H.264 and nothing else asked for. -/
def h264Profile (width height fps bitrateMbps : Nat) : MediaProfile where
  width := width
  height := height
  fps := fps
  bitrateMbps := bitrateMbps
  codec := "h264"
  codecProfile := none
  bitDepth := none
  chromaSubsampling := none
  pixelFormat := none
  hdrEnabled := none
  colorMode := none
  colorPipeline := none

def defaultFloorProfile : MediaProfile := h264Profile 1280 720 60 10

/-- **Two ceilings at 1080p60 with the default floor.** At 20 Mbit/s the third rung asks for 20 after
the second asked for 16; at 5 Mbit/s the last rung asks for 10. -/
theorem floor_above_ceiling :
    ¬ Descends (1920, 1080) (h264Profile 1920 1080 60 20)
        (defaultLadderForSource (some ⟨1920, 1080⟩) (h264Profile 1920 1080 60 20) defaultFloorProfile) ∧
      ¬ Descends (1920, 1080) (h264Profile 1920 1080 60 5)
        (defaultLadderForSource (some ⟨1920, 1080⟩) (h264Profile 1920 1080 60 5)
          defaultFloorProfile) := by
  constructor
  · intro descends
    have rises : ((defaultLadderForSource (some ⟨1920, 1080⟩) (h264Profile 1920 1080 60 20)
        defaultFloorProfile).map (·.bitrateMbps)) = [20, 16, 20, 10] := by decide +kernel
    have falls := (List.isChain_map MediaProfile.bitrateMbps (R := fun upper lower => lower ≤ upper)).mpr
      (descends.ordered.imp fun _ _ below => below.bitrate)
    simp [rises] at falls
  · intro descends
    have asks : ((defaultLadderForSource (some ⟨1920, 1080⟩) (h264Profile 1920 1080 60 5)
        defaultFloorProfile).map (·.bitrateMbps)).getLast? = some 10 := by decide +kernel
    obtain ⟨rung, member, bitrate⟩ := List.mem_map.mp (List.mem_of_getLast? asks)
    have under := (descends.under rung member).bitrate
    rw [bitrate] at under
    exact absurd under (by decide)

end MiniRemoteDesktop.Media
