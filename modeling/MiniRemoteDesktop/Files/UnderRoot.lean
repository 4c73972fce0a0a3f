/-
**Resolving a path under a root** (`mrd-file-transfer`, `paths.rs`, `resolve_under_root`).

The target of a transfer is looked for below an approved root. Every component that exists is refused if it
is a link; whether it exists is asked of what it leads to, so a link that leads nowhere counts as missing.

* `resolveUnderRoot` — the walk, with the checks of the source.
* `resolveUnderRoot_iff` — **what is resolved is free of links and below the root exactly when every link
  among the components leads somewhere**.

The text of an error of the operating system is a parameter.
-/

import MiniRemoteDesktop.Files.RelativePath
import MiniRemoteDesktop.Lib.FileTree

namespace MiniRemoteDesktop.Files

open Checked FileTree

variable {β : Type}

/-! ### The resolution -/

section Resolution

variable (tree : FileTree (List Char) β) (links : Nat) (reason : String)

/-- The loop over the components; the path that it has pushed them to in the end is the target. -/
def checkComponents (current : List (List Char)) : List Component → Except PathValidationError (List (List Char))
  | [] => .ok current
  | .normal name :: rest =>
    if tree.pathExists links (downward (current ++ [name])) then
      match tree.linkMetadata links (downward (current ++ [name])) with
      | none => .error (.rootUnavailable reason)
      | some (.link _) => .error .symlink
      | some _ => checkComponents (current ++ [name]) rest
    else checkComponents (current ++ [name]) rest
  | _ :: _ => .error .escapesRoot

/-- The last checks: of what the target leads to, or else of what its parent does. -/
def checkTarget (root target : List (List Char)) : Except PathValidationError Unit :=
  match tree.canonicalize links (downward target) with
  | some canonical => if root.isPrefixOf canonical then .ok () else .error .escapesRoot
  | none =>
    match tree.canonicalize links (downward target.dropLast) with
    | some parent => if root.isPrefixOf parent then .ok () else .error .escapesRoot
    | none => .ok ()

def resolveUnderRoot (rules : PathRules) (root : List (PathStep (List Char))) (relative : String) :
    Except PathValidationError (List (List Char)) := do
  let relative ← validateRelativePath rules relative
  let root ← (tree.canonicalize links root).elim (.error (.rootUnavailable reason)) .ok
  let target ← checkComponents tree links reason root (components rules relative.toList)
  checkTarget tree links root target
  return target

end Resolution

/-! ### What is to hold of a target -/

section Properties

variable (tree : FileTree (List Char) β) (links : Nat) (base names : List (List Char))

/-- No component below the root is a link, nor is the target. -/
def LinkFree : Prop :=
  ∀ front back target, names = front ++ back → front ≠ [] → tree.node (base ++ front) ≠ some (.link target)

/-- **What is opened or created under the target lies below the root.** -/
def Contained : Prop :=
  ∀ place, tree.opens links (downward (base ++ names)) = some place →
    ∃ below, below ≠ [] ∧ place = base ++ below

/-- Every link among the components leads to something: none of them dangles, and none leads in a circle. -/
def Resolving : Prop :=
  ∀ front back target, names = front ++ back → front ≠ [] → tree.node (base ++ front) = some (.link target) →
    tree.pathExists links (downward (base ++ front)) = true

end Properties

/-! ### What is resolved -/

variable {tree : FileTree (List Char) β} {links : Nat} {reason : String}

/-- **No component that exists is a link.** -/
theorem checkComponents_ok {current target : List (List Char)} {names : List (List Char)}
    (checked : checkComponents tree links reason current (names.map .normal) = .ok target) :
    target = current ++ names ∧ ∀ front back, names = front ++ back → front ≠ [] →
      tree.pathExists links (downward (current ++ front)) = true →
      ∀ link, tree.linkMetadata links (downward (current ++ front)) ≠ some (.link link) := by
  induction names generalizing current with
  | nil =>
    cases checked
    refine ⟨(List.append_nil _).symm, fun front back whole given => ?_⟩
    exact absurd (List.append_eq_nil_iff.mp whole.symm).1 given
  | cons name rest ih =>
    have split : (tree.pathExists links (downward (current ++ [name])) = true →
        ∀ link, tree.linkMetadata links (downward (current ++ [name])) ≠ some (.link link)) ∧
        checkComponents tree links reason (current ++ [name]) (rest.map .normal) = .ok target := by
      rw [List.map_cons, checkComponents] at checked
      split at checked
      · cases found : tree.linkMetadata links (downward (current ++ [name])) with
        | none =>
          simp [found] at checked
        | some node =>
          rw [found] at checked
          cases node with
          | link away => cases checked
          | directory | file => exact ⟨fun _ link same => (by cases same), checked⟩
      next missing =>
        exact ⟨fun there => absurd there missing, checked⟩
    obtain ⟨here, later⟩ := split
    obtain ⟨rfl, plain⟩ := ih later
    refine ⟨by rw [List.append_assoc]; rfl, fun front back whole given => ?_⟩
    cases front with
    | nil => exact absurd rfl given
    | cons first others =>
      obtain ⟨rfl, tails⟩ := List.cons.inj whole
      cases others with
      | nil => exact here
      | cons second tail =>
        simpa using plain (second :: tail) back tails (List.cons_ne_nil _ _)

/-- **A target without links on its way** is what is opened under it. -/
theorem contained_of_linkFree {base names : List (List Char)} {root : List (PathStep (List Char))}
    (canonical : tree.canonicalize links root = some base) (given : names ≠ [])
    (plain : LinkFree tree base names) : Contained tree links base names := by
  intro place opened
  have steps : downward (base ++ names) = downward base ++ downward names := List.map_append
  unfold FileTree.opens at opened
  rw [steps] at opened
  rcases canonicalize_node canonical with is | ⟨content, is⟩
  · rw [walk_directory is] at opened
    exact ⟨names, given, walk_plain is plain opened⟩
  · have nothing := @walk_file _ _ tree true links base content (downward names) is fun empty =>
      given (List.map_eq_nil_iff.mp empty)
    simp [nothing] at opened

/-- **The target is free of links and contained exactly when no link on its way dangles.** For every file
tree, root and relative path that resolves under it: the target is the canonical root followed by names; and
none of these is a link, and what is opened under the target lies below the root, exactly when every link
among them leads to something. -/
theorem resolveUnderRoot_iff {rules : PathRules} {root : List (PathStep (List Char))} {relative : String}
    {target : List (List Char)}
    (resolved : resolveUnderRoot tree links reason rules root relative = .ok target) :
    ∃ base names, tree.canonicalize links root = some base ∧ target = base ++ names ∧
      (LinkFree tree base names ∧ Contained tree links base names ↔ Resolving tree links base names) := by
  obtain ⟨checked, valid, resolved⟩ := bind_ok resolved
  obtain ⟨base, canonical, resolved⟩ := bind_ok resolved
  obtain ⟨reached, steps, resolved⟩ := bind_ok resolved
  obtain ⟨_, _, ⟨⟩⟩ := bind_ok resolved
  obtain ⟨names, accepted, rfl⟩ := validateRelativePath_ok.mp valid
  have found : tree.canonicalize links root = some base := by
    cases led : tree.canonicalize links root with
    | none =>
      simp [led] at canonical
    | some path =>
      rw [led] at canonical
      exact congrArg some (Except.ok.inj canonical)
  have shape := accepted.shape.1
  rw [String.toList_ofList, components_join accepted.given (fun part member => (shape part member).1)
    (fun part member => (shape part member).2)
    fun part member => (kept_iff.mp (accepted.kept part member)).noColon] at steps
  obtain ⟨rfl, plain⟩ := checkComponents_ok steps
  refine ⟨base, names, found, rfl, ?_, ?_⟩
  · rintro ⟨free, -⟩ front back link whole given is
    exact absurd is (free front back link whole given)
  · intro resolving
    have free : LinkFree tree base names := by
      intro front back link whole given is
      obtain ⟨initial, name, rfl⟩ : ∃ initial name, front = initial ++ [name] :=
        ⟨front.dropLast, front.getLast given, (List.dropLast_append_getLast given).symm⟩
      have there := resolving _ back link whole given is
      refine plain _ back whole given there link ?_
      rw [← List.append_assoc] at is ⊢
      exact linkMetadata_physical is
    exact ⟨free, contained_of_linkFree found accepted.given free⟩

/-! ### An example -/

/-- A root directory `r`, the directories `d` and `d/e` in it, -/
def sampleDirectories : List (List (List Char)) :=
  [[], [['r']], [['r'], ['d']], [['r'], ['d'], ['e']]]

/-- and a link `a` beside them. -/
def linkedTree (target : LinkTarget (List Char)) : FileTree (List Char) Unit where
  node path :=
    if path ∈ sampleDirectories then some .directory
    else if path = [['r'], ['a']] then some (.link target) else none
  root := rfl
  closed path name given := by
    have parents : ∀ entry ∈ [['r'], ['a']] :: sampleDirectories, entry ≠ [] →
        entry.dropLast ∈ sampleDirectories := by decide
    have listed : path ++ [name] ∈ [['r'], ['a']] :: sampleDirectories := by
      by_contra absent
      rw [List.mem_cons, not_or] at absent
      rw [if_neg absent.2, if_neg absent.1] at given
      exact given rfl
    have parent := parents _ listed (by simp)
    rw [List.dropLast_concat] at parent
    exact if_pos parent

/-- The root is the directory `r`. -/
def sampleRoot : List (PathStep (List Char)) := [.down ['r']]

/-- A name that is missing, two directories down. -/
theorem resolveUnderRoot_iff_missing : ∃ base names,
    (linkedTree ⟨true, []⟩).canonicalize 40 sampleRoot = some base ∧
      [['r'], ['d'], ['e'], ['b']] = base ++ names ∧
      (LinkFree (linkedTree ⟨true, []⟩) base names ∧ Contained (linkedTree ⟨true, []⟩) 40 base names ↔
        Resolving (linkedTree ⟨true, []⟩) 40 base names) :=
  @resolveUnderRoot_iff _ (linkedTree ⟨true, []⟩) 40 "" .unix sampleRoot "d/e/b" _
    (by decide +kernel)

/-- **A link that leads to nothing** resolves, and what is created under it lies outside of the root. -/
theorem not_contained : ¬ ∀ (tree : FileTree (List Char) Unit) (links : Nat) (reason : String)
    (rules : PathRules) (root : List (PathStep (List Char))) (relative : String)
    (base names : List (List Char)),
    resolveUnderRoot tree links reason rules root relative = .ok (base ++ names) →
      tree.canonicalize links root = some base → LinkFree tree base names ∧ Contained tree links base names := by
  intro contained
  have both := contained (linkedTree ⟨true, [.down ['x']]⟩) 40 "" .unix sampleRoot "a" [['r']] [['a']]
    (by decide) (by decide)
  have created : (linkedTree ⟨true, [.down ['x']]⟩).opens 40 (downward [['r'], ['a']]) = some [['x']] := by
    decide
  obtain ⟨below, -, ⟨⟩⟩ := both.2 [['x']] created

end MiniRemoteDesktop.Files
