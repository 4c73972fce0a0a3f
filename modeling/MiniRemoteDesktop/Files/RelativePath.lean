/-
**Relative paths of a remote peer** (`mrd-file-transfer`, `paths.rs`, `validate_relative_path`).

A path from a peer is trimmed, taken apart by the rules of the platform it is checked on, checked component
by component and joined with slashes. The peer that the path is resolved on may be of the other platform,
and checks it again.

* `validateRelativePath` — the check.
* `canonical_iff` — **what is accepted is canonical, unless its last component ends in a blank other than the
  space, or a component of it is cut by backslashes into pieces that are not safe**.
-/

import MiniRemoteDesktop.Lib.Checked
import MiniRemoteDesktop.Lib.Split
import MiniRemoteDesktop.Lib.Text

namespace MiniRemoteDesktop.Files

open Checked Split

/-! ### Components -/

/-- The platform whose rules `std::path` follows. -/
inductive PathRules
  | unix
  | windows

def PathRules.isSeparator : PathRules → Char → Bool
  | unix, char => char == '/'
  | windows, char => char == '/' || char == '\\'

inductive Component
  | drive
  | rootDir
  | curDir
  | parentDir
  | normal (value : List Char)

/-- `Prefix::Disk`. The other prefixes start with two separators. -/
def startsWithDrive : PathRules → List Char → Bool
  | .windows, letter :: ':' :: _ => letter.isAlpha
  | _, _ => false

/-- `include_cur_dir`: a path that starts with a single dot. -/
def startsWithCurDir (rules : PathRules) : List Char → Bool
  | ['.'] => true
  | '.' :: next :: _ => rules.isSeparator next
  | _ => false

/-- `parse_single_component`: empty pieces and single dots are passed over. -/
def component : List Char → Option Component
  | [] | ['.'] => none
  | ['.', '.'] => some .parentDir
  | value => some (.normal value)

/-- What follows a prefix, a root or a leading dot. -/
def pieces (rules : PathRules) (path : List Char) : List Component :=
  (path.splitOnP rules.isSeparator).filterMap component

def components (rules : PathRules) (path : List Char) : List Component :=
  if startsWithDrive rules path then
    .drive :: ((if (path.drop 2).head?.any rules.isSeparator then [.rootDir] else []) ++
      pieces rules (path.drop 2))
  else if path.head?.any rules.isSeparator then .rootDir :: pieces rules path
  else if startsWithCurDir rules path then .curDir :: pieces rules path
  else pieces rules path

/-! ### The check -/

inductive PathValidationError
  | rejected (message : String)
  | rootUnavailable (message : String)
  | escapesRoot
  | symlink
  deriving DecidableEq

/-- The length in bytes. -/
def utf8Len (value : List Char) : Nat := (value.map Char.utf8Size).sum

def isReservedWindowsName (value : List Char) : Bool :=
  let stem := (value.takeWhile (· ≠ '.')).map Char.toUpper
  stem = "CON".toList || stem = "PRN".toList || stem = "AUX".toList || stem = "NUL".toList ||
    (utf8Len stem == 4 && ("COM".toList.isPrefixOf stem || "LPT".toList.isPrefixOf stem) &&
      (stem.drop 3).all Char.isDigit)

/-- What a component is rejected for. -/
def isRejected (value : List Char) : Bool :=
  value.isEmpty || value = ['.'] || value = ['.', '.'] || value.getLast? == some '.' ||
    value.getLast? == some ' ' || value.contains ':' ||
    value.any (fun char => Text.isControl char || "<>\"|?*".toList.contains char) ||
    isReservedWindowsName value

def checkComponent : Component → Except PathValidationError (List Char)
  | .normal value =>
    if isRejected value then .error (.rejected (String.ofList value)) else .ok value
  | _ => .error (.rejected "parent or prefix component")

def validateRelativePath (rules : PathRules) (path : String) : Except PathValidationError String := do
  let path := (Text.trim path).toList
  if path.isEmpty ∨ path.head? = some '/' ∨ path.head? = some '\\' then
    .error (.rejected "absolute or empty path")
  let parts ← (components rules path).mapM checkComponent
  if parts.isEmpty then .error (.rejected "empty path") else .ok (String.ofList (['/'].intercalate parts))

/-! ### What is to hold of an accepted path -/

/-- The separators of either platform. -/
def isAnySeparator (char : Char) : Bool := char == '/' || char == '\\'

/-- A name that means the same on either platform. -/
structure Safe (piece : List Char) : Prop where
  nonempty : piece ≠ []
  notDot : piece ≠ ['.']
  notDotDot : piece ≠ ['.', '.']
  noTrailingDot : piece.getLast? ≠ some '.'
  noTrailingSpace : piece.getLast? ≠ some ' '
  noColon : ':' ∉ piece
  noControl : ∀ char ∈ piece, Text.isControl char = false
  noReserved : ∀ char ∈ piece, char ∉ ['<', '>', '"', '|', '?', '*']
  notDevice : isReservedWindowsName piece = false

/-- The stem of a name, in upper case. -/
def stem (piece : List Char) : List Char := (piece.takeWhile (· ≠ '.')).map Char.toUpper

/-- **A safe name is no name of a device**: its stem is none of the four, and neither `COM` nor `LPT` with
one digit. -/
theorem Safe.stem_ne {piece : List Char} (safe : Safe piece) :
    (∀ device ∈ ["CON", "PRN", "AUX", "NUL"], stem piece ≠ device.toList) ∧
      ∀ port ∈ ["COM", "LPT"], ∀ digit : Char, digit.isDigit → stem piece ≠ port.toList ++ [digit] := by
  have free := safe.notDevice
  simp only [isReservedWindowsName, Bool.or_eq_false_iff, decide_eq_false_iff_not] at free
  obtain ⟨⟨⟨⟨con, prn⟩, aux⟩, nul⟩, ports⟩ := free
  refine ⟨fun device listed => ?_, fun port listed digit isDigit same => ?_⟩
  · simp only [List.mem_cons, List.not_mem_nil, or_false] at listed
    rcases listed with rfl | rfl | rfl | rfl <;> assumption
  have small : digit.utf8Size = 1 := by
    simp only [Char.isDigit, Bool.and_eq_true, decide_eq_true_eq] at isDigit
    unfold Char.utf8Size
    rw [if_pos (UInt32.le_trans isDigit.2 (by decide))]
  rw [show (piece.takeWhile (· ≠ '.')).map Char.toUpper = _ from same] at ports
  rcases List.mem_pair.mp listed with rfl | rfl
  · simp [utf8Len, small, isDigit] at ports
    revert ports
    decide
  · simp [utf8Len, small, isDigit] at ports
    revert ports
    decide

/-- **An accepted path is canonical**: it is accepted as it is, and its pieces are safe. -/
structure Canonical (rules : PathRules) (path : String) : Prop where
  again : validateRelativePath rules path = .ok path
  safe : ∀ piece ∈ path.toList.splitOnP isAnySeparator, Safe piece

/-- The names that a path is made of. -/
def names (rules : PathRules) (path : String) : List (List Char) :=
  (components rules (Text.trim path).toList).filterMap fun
    | .normal value => some value
    | _ => none

/-- What a backslash on Unix may separate. -/
structure Separate (piece : List Char) : Prop where
  nonempty : piece ≠ []
  noTrailingDot : piece.getLast? ≠ some '.'
  noTrailingSpace : piece.getLast? ≠ some ' '
  notDevice : isReservedWindowsName piece = false

/-- **The paths that are made canonical**: no blank ends the last name, and the pieces of a name between
backslashes are names of their own. -/
structure Regular (rules : PathRules) (path : String) : Prop where
  ending : ∀ name ∈ (names rules path).getLast?, ∀ char ∈ name.getLast?, Text.isWhitespace char = false
  backslashes : ∀ name ∈ names rules path, '\\' ∈ name → ∀ piece ∈ name.splitOnP (· == '\\'), Separate piece

/-! ### Taking a path apart -/

variable {value : List Char}

theorem component_eq_normal {piece : List Char} :
    component piece = some (.normal value) ↔
      piece = value ∧ value ≠ [] ∧ value ≠ ['.'] ∧ value ≠ ['.', '.'] := by
  unfold component
  split
  · simp_all
  · simp_all
  · simp_all
  next nonempty noDot noDotDot =>
    constructor
    · rintro ⟨⟩
      exact ⟨rfl, nonempty, noDot, noDotDot⟩
    · rintro ⟨rfl, _⟩
      rfl

@[simp] theorem PathRules.isSeparator_dot (rules : PathRules) : rules.isSeparator '.' = false := by
  cases rules <;> rfl

@[simp] theorem PathRules.isSeparator_slash (rules : PathRules) : rules.isSeparator '/' = true := by
  cases rules <;> rfl

variable {rules : PathRules} {path : List Char}

/-- A path starts with a single dot exactly when its first piece is one. -/
theorem startsWithCurDir_iff :
    startsWithCurDir rules path = true ↔ ∃ others, path.splitOnP rules.isSeparator = ['.'] :: others := by
  cases path with
  | nil => simp [startsWithCurDir]
  | cons first rest =>
    by_cases dot : first = '.'
    · subst dot
      cases rest with
      | nil => simp [startsWithCurDir, List.splitOnP_cons_eq_if_modifyHead]
      | cons next tail =>
        cases cuts : rules.isSeparator next with
        | true => simp [startsWithCurDir, List.splitOnP_cons_eq_if_modifyHead, cuts]
        | false =>
          obtain ⟨more, others, cut⟩ := head_splitOnP cuts tail
          simp [List.splitOnP_cons_eq_if_modifyHead, cut, startsWithCurDir, cuts]
    · have starts : startsWithCurDir rules (first :: rest) = false := by
        unfold startsWithCurDir
        split
        · simp_all
        · simp_all
        · rfl
      rw [starts]
      cases cuts : rules.isSeparator first with
      | true => simp [List.splitOnP_cons_eq_if_modifyHead, cuts]
      | false =>
        obtain ⟨more, others, cut⟩ := head_splitOnP cuts rest
        simp [cut, dot]

theorem head_isSeparator_iff (given : path ≠ []) :
    path.head?.any rules.isSeparator = true ↔ ∃ others, path.splitOnP rules.isSeparator = [] :: others := by
  cases path with
  | nil => exact absurd rfl given
  | cons first rest =>
    cases cuts : rules.isSeparator first with
    | true => simp [List.splitOnP_cons_eq_if_modifyHead, cuts]
    | false =>
      obtain ⟨more, others, cut⟩ := head_splitOnP cuts rest
      simp [cut, cuts]

variable {parts : List (List Char)}

/-- **A path all of whose components are names.** -/
theorem components_eq_normal (made : components rules path = parts.map .normal) :
    startsWithCurDir rules path = false ∧ pieces rules path = parts.map .normal := by
  unfold components at made
  split at made
  · cases parts with
    | nil => cases made
    | cons part rest => cases (List.cons.inj made).1
  · split at made
    · cases parts with
      | nil => cases made
      | cons part rest => cases (List.cons.inj made).1
    · split at made
      · cases parts with
        | nil => cases made
        | cons part rest => cases (List.cons.inj made).1
      next starts =>
        exact ⟨Bool.not_eq_true _ ▸ starts, made⟩

variable {part : List Char}

theorem mem_pieces (member : .normal part ∈ pieces rules path) :
    part ∈ path.splitOnP rules.isSeparator ∧ part ≠ [] ∧ part ≠ ['.'] ∧ part ≠ ['.', '.'] := by
  obtain ⟨piece, listed, same⟩ := List.mem_filterMap.mp member
  obtain ⟨rfl, shape⟩ := component_eq_normal.mp same
  exact ⟨listed, shape⟩

/-- The names, put together, are no longer than the path. -/
theorem sum_pieces_le (made : pieces rules path = parts.map .normal) :
    (parts.map fun part => part.length + 1).sum ≤ path.length + 1 := by
  have step : ∀ (list : List (List Char)) (names : List (List Char)),
      list.filterMap component = names.map .normal →
        (names.map fun part => part.length + 1).sum ≤ (list.map fun piece => piece.length + 1).sum := by
    intro list
    induction list with
    | nil =>
      intro names made
      rw [List.map_eq_nil_iff.mp made.symm]
    | cons piece rest ih =>
      intro names made
      rw [List.filterMap_cons] at made
      rw [List.map_cons, List.sum_cons]
      cases is : component piece with
      | none =>
        rw [is] at made
        exact le_trans (ih names made) (Nat.le_add_left _ _)
      | some found =>
        rw [is] at made
        cases names with
        | nil => cases made
        | cons name others =>
          obtain ⟨rfl, later⟩ := List.cons.inj made
          obtain ⟨rfl, _⟩ := component_eq_normal.mp is
          exact Nat.add_le_add_left (ih others later) _
  rw [← sum_splitOnP (p := rules.isSeparator) path]
  exact step _ _ made

theorem head_pieces {first : Char} {rest : List Char} (plain : rules.isSeparator first = false)
    (starts : startsWithCurDir rules (first :: rest) = false)
    (made : pieces rules (first :: rest) = parts.map .normal) (given : parts ≠ []) :
    ∃ more others, parts = (first :: more) :: others := by
  obtain ⟨more, tail, cut⟩ := head_splitOnP plain rest
  unfold pieces at made
  rw [cut, List.filterMap_cons] at made
  cases is : component (first :: more) with
  | none =>
    have dot : first :: more = ['.'] := by
      unfold component at is
      split at is
      · cases ‹first :: more = []›
      · assumption
      · cases is
      · cases is
    rw [dot] at cut
    have begins := startsWithCurDir_iff.mpr ⟨tail, cut⟩
    simp [begins] at starts
  | some found =>
    rw [is] at made
    cases parts with
    | nil => exact absurd rfl given
    | cons part others =>
      obtain ⟨rfl, _⟩ := List.cons.inj made
      obtain ⟨rfl, _⟩ := component_eq_normal.mp is
      exact ⟨more, others, rfl⟩

/-- **A path whose pieces are names** is taken apart into them. -/
theorem components_of_pieces (cut : path.splitOnP rules.isSeparator = parts)
    (shape : ∀ part ∈ parts, part ≠ [] ∧ part ≠ ['.'] ∧ part ≠ ['.', '.']) (colon : ':' ∉ path) :
    components rules path = parts.map .normal := by
  have drive : startsWithDrive rules path = false := by
    unfold startsWithDrive
    split
    · exact absurd (.tail _ (.head _)) colon
    · rfl
  have nonempty : path ≠ [] := by
    rintro rfl
    rw [List.splitOnP_nil] at cut
    exact (shape [] (by rw [← cut]; exact List.mem_singleton_self _)).1 rfl
  have root : path.head?.any rules.isSeparator = false := by
    refine Bool.eq_false_iff.mpr fun starts => ?_
    obtain ⟨others, empty⟩ := (head_isSeparator_iff nonempty).mp starts
    rw [cut] at empty
    exact (shape [] (by rw [empty]; exact (.head _))).1 rfl
  have current : startsWithCurDir rules path = false := by
    refine Bool.eq_false_iff.mpr fun starts => ?_
    obtain ⟨others, dot⟩ := startsWithCurDir_iff.mp starts
    rw [cut] at dot
    exact (shape ['.'] (by rw [dot]; exact (.head _))).2.1 rfl
  unfold components
  rw [drive, root, current]
  show (path.splitOnP rules.isSeparator).filterMap component = parts.map .normal
  rw [cut]
  clear cut
  induction parts with
  | nil => rfl
  | cons part rest ih =>
    have is := component_eq_normal.mpr ⟨rfl, shape part (.head _)⟩
    rw [List.filterMap_cons, is, List.map_cons]
    exact congrArg _ (ih fun other member => shape other (.tail _ member))

/-- **Joined names are taken apart into themselves.** -/
theorem components_join (given : parts ≠ [])
    (shape : ∀ part ∈ parts, part ≠ [] ∧ part ≠ ['.'] ∧ part ≠ ['.', '.'])
    (free : ∀ part ∈ parts, ∀ char ∈ part, rules.isSeparator char = false)
    (colons : ∀ part ∈ parts, ':' ∉ part) :
    components rules (['/'].intercalate parts) = parts.map .normal := by
  refine components_of_pieces (splitOnP_join rules.isSeparator_slash given free) shape fun member => ?_
  rcases mem_intercalate member with same | ⟨part, listed, inside⟩
  · exact absurd same (by decide)
  · exact colons part listed inside

/-! ### What is accepted -/

theorem checkComponent_ok {given : Component} (checked : checkComponent given = .ok value) :
    given = .normal value ∧ isRejected value = false := by
  cases given with
  | normal name =>
    obtain ⟨kept, ⟨⟩⟩ := refused_ok checked
    exact ⟨rfl, Bool.eq_false_iff.mpr kept⟩
  | drive | rootDir | curDir | parentDir => cases checked

theorem mapM_checkComponent {given : List Component} (checked : given.mapM checkComponent = .ok parts) :
    given = parts.map .normal ∧ ∀ part ∈ parts, isRejected part = false := by
  induction given generalizing parts with
  | nil =>
    cases checked
    exact ⟨rfl, nofun⟩
  | cons first rest ih =>
    rw [List.mapM_cons] at checked
    obtain ⟨value, here, checked⟩ := bind_ok checked
    obtain ⟨others, later, ⟨⟩⟩ := bind_ok checked
    obtain ⟨rfl, kept⟩ := checkComponent_ok here
    obtain ⟨rfl, all⟩ := ih later
    refine ⟨rfl, fun part member => ?_⟩
    rcases List.mem_cons.mp member with rfl | member
    · exact kept
    · exact all part member

theorem mapM_checkComponent_normal (kept : ∀ part ∈ parts, isRejected part = false) :
    (parts.map Component.normal).mapM checkComponent = .ok parts := by
  induction parts with
  | nil => rfl
  | cons part rest ih =>
    rw [List.map_cons, List.mapM_cons, ih fun other member => kept other (.tail _ member)]
    show (if isRejected part then _ else Except.ok part) >>= _ = _
    rw [kept part List.mem_cons_self]
    rfl

/-- What an accepted path is made of, with the first character of the trimmed path. -/
structure Accepted (rules : PathRules) (path : String) (parts : List (List Char)) : Prop where
  start : ∃ first, (Text.trim path).toList.head? = some first ∧ first ≠ '/' ∧ first ≠ '\\'
  made : components rules (Text.trim path).toList = parts.map .normal
  kept : ∀ part ∈ parts, isRejected part = false
  given : parts ≠ []

/-- **What `validateRelativePath` accepts, and as what.** -/
theorem validateRelativePath_ok {path result : String} :
    validateRelativePath rules path = .ok result ↔
      ∃ parts, Accepted rules path parts ∧ result = String.ofList (['/'].intercalate parts) := by
  unfold validateRelativePath
  constructor
  · intro valid
    obtain ⟨start, valid⟩ := guarded_ok valid
    obtain ⟨parts, checked, valid⟩ := bind_ok valid
    obtain ⟨given, done⟩ := refused_ok valid
    obtain ⟨made, kept⟩ := mapM_checkComponent checked
    refine ⟨parts, ⟨?_, made, kept, fun empty => given (by rw [empty]; rfl)⟩, (Except.ok.inj done).symm⟩
    cases shown : (Text.trim path).toList with
    | nil =>
      rw [shown] at start
      exact absurd (.inl rfl) start
    | cons first rest =>
      rw [shown] at start
      exact ⟨first, rfl, fun slash => start (.inr (.inl (congrArg some slash))),
        fun back => start (.inr (.inr (congrArg some back)))⟩
  · rintro ⟨parts, ⟨⟨first, head, slash, back⟩, made, kept, given⟩, rfl⟩
    have start : ¬ ((Text.trim path).toList.isEmpty = true ∨ (Text.trim path).toList.head? = some '/' ∨
        (Text.trim path).toList.head? = some '\\') := by
      rw [head]
      rintro (empty | same | same)
      · simp [List.isEmpty_iff.mp empty] at head
      · exact slash (Option.some.inj same)
      · exact back (Option.some.inj same)
    rw [if_neg start, made, mapM_checkComponent_normal kept]
    show (if parts.isEmpty = true then _ else _) = _
    rw [if_neg fun empty => given (List.isEmpty_iff.mp empty)]

/-- The parts are names without separators; the first starts as the path does. -/
theorem Accepted.shape {path : String} (accepted : Accepted rules path parts) :
    (∀ part ∈ parts, (part ≠ [] ∧ part ≠ ['.'] ∧ part ≠ ['.', '.']) ∧
      ∀ char ∈ part, rules.isSeparator char = false) ∧
    (∃ first more others, parts = (first :: more) :: others ∧
      (Text.trim path).toList.head? = some first) ∧
    (parts.map fun part => part.length + 1).sum ≤ (Text.trim path).toList.length + 1 := by
  obtain ⟨⟨first, head, slash, back⟩, made, -, given⟩ := accepted
  obtain ⟨starts, made⟩ := components_eq_normal made
  refine ⟨fun part member => ?_, ?_, sum_pieces_le made⟩
  · have piece := List.mem_map_of_mem (f := Component.normal) member
    rw [← made] at piece
    obtain ⟨listed, shape⟩ := mem_pieces piece
    exact ⟨shape, free_of_mem_splitOnP part listed⟩
  · cases shown : (Text.trim path).toList with
    | nil =>
      simp [shown] at head
    | cons char rest =>
      rw [shown] at head made starts
      cases head
      have plain : rules.isSeparator first = false := by
        cases rules with
        | unix => exact beq_eq_false_iff_ne.mpr slash
        | windows =>
          show (first == '/' || first == '\\') = false
          simp [beq_eq_false_iff_ne.mpr slash, beq_eq_false_iff_ne.mpr back]
      obtain ⟨more, others, same⟩ := head_pieces plain starts made given
      exact ⟨first, more, others, same, rfl⟩

theorem Accepted.names_eq {path : String} (accepted : Accepted rules path parts) :
    names rules path = parts := by
  unfold names
  rw [accepted.made]
  clear accepted
  induction parts with
  | nil => rfl
  | cons part rest ih => exact congrArg _ ih

/-- **The check of a component is what makes it safe.** -/
theorem kept_iff : isRejected value = false ↔ Safe value := by
  have reserved : "<>\"|?*".toList = ['<', '>', '"', '|', '?', '*'] := by decide
  unfold isRejected
  simp only [Bool.or_eq_false_iff, List.isEmpty_eq_false_iff, decide_eq_false_iff_not, beq_eq_false_iff_ne,
    List.contains_eq_mem, List.any_eq_false, Bool.or_eq_true, decide_eq_true_eq, reserved, not_or,
    Bool.not_eq_true]
  constructor
  · rintro ⟨⟨⟨⟨⟨⟨⟨nonempty, dot⟩, dots⟩, trailing⟩, space⟩, colon⟩, chars⟩, device⟩
    exact ⟨nonempty, dot, dots, trailing, space, colon, fun char member => (chars char member).1,
      fun char member => (chars char member).2, device⟩
  · intro safe
    exact ⟨⟨⟨⟨⟨⟨⟨safe.nonempty, safe.notDot⟩, safe.notDotDot⟩, safe.noTrailingDot⟩,
      safe.noTrailingSpace⟩, safe.noColon⟩,
      fun char member => ⟨safe.noControl char member, safe.noReserved char member⟩⟩, safe.notDevice⟩

/-! ### The check of what was accepted -/

theorem toList_trim (path : String) :
    (Text.trim path).toList = trimmed Text.isWhitespace path.toList := String.toList_ofList

section Again

variable {rules : PathRules} {path : String} {parts : List (List Char)}

theorem Accepted.head_join (accepted : Accepted rules path parts) :
    ∀ char ∈ (['/'].intercalate parts).head?, Text.isWhitespace char = false := by
  obtain ⟨-, ⟨first, more, others, rfl, head⟩, -⟩ := accepted.shape
  intro char starts
  rw [List.intercalate_cons_cons_left, List.head?_cons, Option.mem_def] at starts
  cases starts
  rw [toList_trim] at head
  exact head?_trimmed first head

theorem Accepted.getLast_join (accepted : Accepted rules path parts) :
    (['/'].intercalate parts).getLast? = parts.getLast?.bind (·.getLast?) := by
  obtain ⟨front, last, rfl⟩ : ∃ front last, parts = front ++ [last] :=
    ⟨parts.dropLast, parts.getLast accepted.given, (List.dropLast_append_getLast accepted.given).symm⟩
  have nonempty := (accepted.shape.1 last (List.mem_append_right _ (.head _))).1.1
  rw [getLast?_intercalate nonempty, List.getLast?_concat]
  rfl

/-- **Accepted as it is**, if no blank ends it. -/
theorem Accepted.again (accepted : Accepted rules path parts)
    (ending : ∀ char ∈ (['/'].intercalate parts).getLast?, Text.isWhitespace char = false) :
    Accepted rules (String.ofList (['/'].intercalate parts)) parts := by
  have same : (Text.trim (String.ofList (['/'].intercalate parts))).toList = ['/'].intercalate parts := by
    simpa [toList_trim] using trimmed_self accepted.head_join ending
  obtain ⟨shape, ⟨first, more, others, whole, head⟩, -⟩ := accepted.shape
  refine ⟨?_, ?_, accepted.kept, accepted.given⟩
  · rw [same, whole, List.intercalate_cons_cons_left, List.head?_cons]
    obtain ⟨char, starts, plain⟩ := accepted.start
    rw [head] at starts
    cases starts
    exact ⟨first, rfl, plain⟩
  · rw [same]
    exact components_join accepted.given (fun part member => (shape part member).1)
      (fun part member => (shape part member).2)
      fun part member => (kept_iff.mp (accepted.kept part member)).noColon

/-- **Not accepted as it is**, if a blank ends it: what is accepted of it is shorter. -/
theorem not_again {char : Char} (last : (['/'].intercalate parts).getLast? = some char)
    (blank : Text.isWhitespace char = true) :
    validateRelativePath rules (String.ofList (['/'].intercalate parts)) ≠
      .ok (String.ofList (['/'].intercalate parts)) := by
  intro same
  obtain ⟨others, again, whole⟩ := validateRelativePath_ok.mp same
  have equal := String.ofList_injective whole
  have shorter := again.shape.2.2
  rw [toList_trim, String.toList_ofList, ← length_intercalate again.given, ← equal] at shorter
  have drops := length_trimmed_lt last blank
  omega

end Again

/-! ### The pieces -/

/-- A name without slashes is only cut at its backslashes. -/
theorem splitOnP_backslash (free : ∀ char ∈ part, char ≠ '/') :
    part.splitOnP isAnySeparator = part.splitOnP (· == '\\') := by
  refine splitOnP_congr fun char member => ?_
  show (char == '/' || char == '\\') = (char == '\\')
  simp [beq_eq_false_iff_ne.mpr (free char member)]

theorem free_slash (free : ∀ char ∈ part, rules.isSeparator char = false) :
    ∀ char ∈ part, char ≠ '/' := by
  rintro char member rfl
  have cuts := free '/' member
  simp at cuts

/-- A piece of a safe name is safe when it is a name of its own. -/
theorem Separate.safe {piece : List Char} (safe : Safe part)
    (member : piece ∈ part.splitOnP (· == '\\')) (separate : Separate piece) : Safe piece := by
  have inside := mem_of_mem_splitOnP piece member
  refine ⟨separate.nonempty, ?_, ?_, separate.noTrailingDot, separate.noTrailingSpace,
    fun colon => safe.noColon (inside _ colon), fun char given => safe.noControl char (inside char given),
    fun char given => safe.noReserved char (inside char given), separate.notDevice⟩
  · rintro rfl
    exact separate.noTrailingDot rfl
  · rintro rfl
    exact separate.noTrailingDot rfl

/-- What is accepted is canonical exactly when it is regular. -/
theorem canonical_iff_regular {path result : String}
    (valid : validateRelativePath rules path = .ok result) :
    Canonical rules result ↔ Regular rules path := by
  obtain ⟨parts, accepted, rfl⟩ := validateRelativePath_ok.mp valid
  obtain ⟨shape, -, -⟩ := accepted.shape
  have cut : (String.ofList (['/'].intercalate parts)).toList.splitOnP isAnySeparator =
      parts.flatMap fun part => part.splitOnP isAnySeparator := by
    simpa using splitOnP_intercalate rfl accepted.given
  constructor
  · rintro ⟨again, safe⟩
    rw [cut] at safe
    constructor
    · intro name last char ends
      rw [accepted.names_eq, Option.mem_def] at last
      refine Bool.eq_false_iff.mpr fun blank => ?_
      refine not_again ?_ blank again
      rw [accepted.getLast_join, last]
      exact ends
    · intro name member _ piece listed
      rw [accepted.names_eq] at member
      rw [← splitOnP_backslash (free_slash (shape name member).2)] at listed
      obtain ⟨nonempty, -, -, dot, space, -, -, -, device⟩ :=
        safe piece (List.mem_flatMap.mpr ⟨name, member, listed⟩)
      exact ⟨nonempty, dot, space, device⟩
  · rintro ⟨ending, backslashes⟩
    rw [accepted.names_eq] at ending backslashes
    constructor
    · refine validateRelativePath_ok.mpr ⟨parts, accepted.again ?_, rfl⟩
      intro char ends
      rw [accepted.getLast_join, Option.mem_def, Option.bind_eq_some_iff] at ends
      obtain ⟨name, last, ends⟩ := ends
      exact ending name last char ends
    · rw [cut]
      intro piece member
      obtain ⟨name, inside, listed⟩ := List.mem_flatMap.mp member
      have safe := kept_iff.mp (accepted.kept name inside)
      rw [splitOnP_backslash (free_slash (shape name inside).2)] at listed
      by_cases back : '\\' ∈ name
      · exact (backslashes name inside back piece listed).safe safe listed
      · have whole : name.splitOnP (· == '\\') = [name] :=
          List.splitOnP_eq_singleton fun char given => beq_eq_false_iff_ne.mpr fun same => back (same ▸ given)
        rw [whole, List.mem_singleton] at listed
        exact listed ▸ safe

/-! ### The other platform -/

/-- **A path whose pieces are safe** is accepted under the rules that cut it into them. -/
theorem accepted_of_safe {path : String} (trims : (Text.trim path).toList = path.toList)
    (cut : path.toList.splitOnP rules.isSeparator = parts) (safe : ∀ part ∈ parts, Safe part)
    (colon : ':' ∉ path.toList)
    (start : ∃ first, path.toList.head? = some first ∧ first ≠ '/' ∧ first ≠ '\\') :
    Accepted rules path parts := by
  refine ⟨by rw [trims]; exact start, ?_, fun part member => kept_iff.mpr (safe part member), ?_⟩
  · rw [trims]
    exact components_of_pieces cut
      (fun part member => ⟨(safe part member).nonempty, (safe part member).notDot, (safe part member).notDotDot⟩)
      colon
  · exact cut ▸ List.splitOnP_ne_nil _ _

/-- **A canonical path is resolved as it was checked**: the other platform accepts it too, and takes it
apart into the same pieces. -/
theorem Canonical.resolved {path : String} (canonical : Canonical rules path) (other : PathRules) :
    ∃ resolved, validateRelativePath other path = .ok resolved ∧
      resolved.toList.splitOnP isAnySeparator = path.toList.splitOnP isAnySeparator := by
  obtain ⟨parts, accepted, whole⟩ := validateRelativePath_ok.mp canonical.again
  obtain ⟨shape, -, -⟩ := accepted.shape
  have list : path.toList = ['/'].intercalate parts := by rw [whole, String.toList_ofList]
  have trims : (Text.trim path).toList = path.toList := by
    rw [toList_trim, list]
    refine trimmed_self accepted.head_join fun char last => Bool.eq_false_iff.mpr fun blank => ?_
    exact not_again last blank (whole ▸ canonical.again)
  have start := accepted.start
  rw [trims] at start
  have colon : ':' ∉ path.toList := by
    intro member
    rw [list] at member
    rcases mem_intercalate member with same | ⟨part, listed, inside⟩
    · exact absurd same (by decide)
    · exact (kept_iff.mp (accepted.kept part listed)).noColon inside
  cases other with
  | windows =>
    have again := @accepted_of_safe .windows _ _ trims rfl canonical.safe colon start
    refine ⟨_, validateRelativePath_ok.mpr ⟨_, again, rfl⟩, ?_⟩
    rw [String.toList_ofList]
    exact splitOnP_join rfl again.given fun part member => free_of_mem_splitOnP part member
  | unix =>
    cases rules with
    | unix => exact ⟨path, canonical.again, rfl⟩
    | windows =>
      have cut : path.toList.splitOnP PathRules.unix.isSeparator =
          path.toList.splitOnP PathRules.windows.isSeparator := by
        refine splitOnP_congr fun char member => ?_
        have plain : char ≠ '\\' := by
          rintro rfl
          rw [list] at member
          rcases mem_intercalate member with same | ⟨part, listed, inside⟩
          · exact absurd same (by decide)
          · exact absurd ((shape part listed).2 _ inside) (by decide)
        show (char == '/') = (char == '/' || char == '\\')
        simp [beq_eq_false_iff_ne.mpr plain]
      have again := @accepted_of_safe .unix _ _ trims cut canonical.safe colon start
      refine ⟨_, validateRelativePath_ok.mpr ⟨_, again, rfl⟩, ?_⟩
      rw [String.toList_ofList]
      exact splitOnP_join rfl again.given fun part member => free_of_mem_splitOnP part member

/-- **What is accepted is canonical exactly when it is regular**, under the rules of either platform; and
what is canonical is resolved as it was checked, on either platform. -/
theorem canonical_iff {rules : PathRules} {path result : String}
    (valid : validateRelativePath rules path = .ok result) :
    (Canonical rules result ↔ Regular rules path) ∧
      (Canonical rules result → ∀ other, ∃ resolved, validateRelativePath other result = .ok resolved ∧
        resolved.toList.splitOnP isAnySeparator = result.toList.splitOnP isAnySeparator) :=
  ⟨canonical_iff_regular valid, fun canonical other => canonical.resolved other⟩

/-- A path with blanks around it and a dot in the middle. -/
theorem canonical_iff_report : Canonical .windows "docs/report.txt" := by
  refine ((@canonical_iff .windows " docs/./report.txt\t" "docs/report.txt" (by decide)).1).mpr ⟨?_, ?_⟩
  · intro name last char ends
    have plain : (names .windows " docs/./report.txt\t").getLast?.toList.all (fun name =>
        name.getLast?.toList.all (Text.isWhitespace · == false)) = true := by decide
    have each := List.all_eq_true.mp plain name (Option.mem_toList.mpr last)
    exact beq_iff_eq.mp (List.all_eq_true.mp each char (Option.mem_toList.mpr ends))
  · intro name member back
    have plain : ∀ name ∈ names .windows " docs/./report.txt\t", '\\' ∉ name := by decide
    exact absurd back (plain name member)

/-- **A step up between backslashes** is accepted on Unix. -/
theorem not_canonical : ¬ ∀ (rules : PathRules) (path result : String),
    validateRelativePath rules path = .ok result → Canonical rules result := by
  intro canonical
  have shown := canonical .unix "a\\..\\b" "a\\..\\b" (by decide)
  exact (shown.safe ['.', '.'] (by decide)).notDotDot rfl

end MiniRemoteDesktop.Files
