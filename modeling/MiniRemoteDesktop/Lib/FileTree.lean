/-
**A file tree with symbolic links, and how a path is walked.**

A tree gives the node at every physical path, the path that goes through directories only. A path that a
program names goes through links as well: it is walked step by step, and a link puts its own steps in front
of those that are left. The number of links that one walk may follow is limited.

* `FileTree` — only directories have nodes below them.
* `walk` — where a path leads; `canonicalize` to what exists, `opens` to what is opened or created.
-/

import Mathlib.Data.List.Basic

/-- One step of a path. -/
inductive PathStep (ν : Type)
  | down (name : ν)
  | up
  deriving DecidableEq

/-- Where a link points, from the root or from the directory that the link is in. -/
structure LinkTarget (ν : Type) where
  fromRoot : Bool
  steps : List (PathStep ν)
  deriving DecidableEq

inductive FileNode (ν β : Type)
  | directory
  | file (content : β)
  | link (target : LinkTarget ν)
  deriving DecidableEq

/-- **A file tree**: the node at every physical path. -/
structure FileTree (ν β : Type) where
  node : List ν → Option (FileNode ν β)
  root : node [] = some .directory
  closed : ∀ path name, node (path ++ [name]) ≠ none → node path = some .directory

namespace FileTree

open List (append_cons append_nil concat_eq_append cons_ne_nil map_append)
open Option (some_ne_none)

variable {ν β : Type} {tree : FileTree ν β}

/-! ### Physical paths -/

theorem directory_of_append {path rest : List ν} (below : rest ≠ [])
    (given : tree.node (path ++ rest) ≠ none) : tree.node path = some .directory := by
  induction rest generalizing path with
  | nil => exact absurd rfl below
  | cons name others ih =>
    cases others with
    | nil => exact tree.closed path name given
    | cons next tail =>
      rw [append_cons] at given
      have here := ih (cons_ne_nil _ _) given
      exact tree.closed path name (by rw [here]; exact some_ne_none _)

theorem directory_dropLast {path : List ν} (given : tree.node path = some .directory) :
    tree.node path.dropLast = some .directory := by
  rcases List.eq_nil_or_concat path with rfl | ⟨front, name, rfl⟩
  · exact tree.root
  · rw [concat_eq_append, List.dropLast_concat]
    rw [concat_eq_append] at given
    exact tree.closed front name (by rw [given]; exact some_ne_none _)

/-! ### Walking -/

/-- Walk from a directory; `follow` goes on at a link. With `create`, a last name that is missing is where
it leads. -/
def walkWith (tree : FileTree ν β) (create : Bool)
    (follow : List ν → List (PathStep ν) → Option (List ν)) :
    List ν → List (PathStep ν) → Option (List ν)
  | here, [] => some here
  | here, .up :: rest => walkWith tree create follow here.dropLast rest
  | here, .down name :: rest =>
    match tree.node (here ++ [name]) with
    | none => if create && rest.isEmpty then some (here ++ [name]) else none
    | some .directory => walkWith tree create follow (here ++ [name]) rest
    | some (.file _) => if rest.isEmpty then some (here ++ [name]) else none
    | some (.link target) => follow (if target.fromRoot then [] else here) (target.steps ++ rest)

/-- Walk from a directory through at most so many links. -/
def walk (tree : FileTree ν β) (create : Bool) : Nat → List ν → List (PathStep ν) → Option (List ν)
  | 0 => walkWith tree create fun _ _ => none
  | links + 1 => walkWith tree create (walk tree create links)

theorem walkWith_down {create : Bool} {follow : List ν → List (PathStep ν) → Option (List ν)}
    {here : List ν} {name : ν} {rest : List (PathStep ν)} :
    tree.walkWith create follow here (.down name :: rest) = match tree.node (here ++ [name]) with
      | none => if create && rest.isEmpty then some (here ++ [name]) else none
      | some .directory => tree.walkWith create follow (here ++ [name]) rest
      | some (.file _) => if rest.isEmpty then some (here ++ [name]) else none
      | some (.link target) => follow (if target.fromRoot then [] else here) (target.steps ++ rest) := rfl

/-- The steps of a path without links or dots. -/
def downward (path : List ν) : List (PathStep ν) := path.map .down

/-- The physical path of what a path leads to, if it leads to something. -/
def canonicalize (tree : FileTree ν β) (links : Nat) (path : List (PathStep ν)) : Option (List ν) :=
  tree.walk false links [] path

/-- The physical path that is opened or created under a path. -/
def opens (tree : FileTree ν β) (links : Nat) (path : List (PathStep ν)) : Option (List ν) :=
  tree.walk true links [] path

/-- Whether a path leads to something. -/
def pathExists (tree : FileTree ν β) (links : Nat) (path : List (PathStep ν)) : Bool :=
  (tree.canonicalize links path).isSome

/-- The node at a path, its last name not followed. -/
def linkMetadata (tree : FileTree ν β) (links : Nat) (path : List (PathStep ν)) :
    Option (FileNode ν β) :=
  match path.getLast? with
  | some (.down name) =>
    (tree.canonicalize links path.dropLast).bind fun parent => tree.node (parent ++ [name])
  | _ => (tree.canonicalize links path).bind tree.node

theorem walk_eq (create : Bool) (links : Nat) :
    ∃ follow, tree.walk create links = tree.walkWith create follow := by
  cases links with
  | zero => exact ⟨_, rfl⟩
  | succ links => exact ⟨_, rfl⟩

/-- **Steps through directories lead where they say.** -/
theorem walk_down {create : Bool} {links : Nat} {here names : List ν} {rest : List (PathStep ν)}
    (directories : ∀ front back, names = front ++ back → front ≠ [] →
      tree.node (here ++ front) = some .directory) :
    tree.walk create links here (downward names ++ rest) = tree.walk create links (here ++ names) rest := by
  obtain ⟨follow, same⟩ := tree.walk_eq create links
  rw [same]
  induction names generalizing here with
  | nil => rw [append_nil]; rfl
  | cons name others ih =>
    have first := directories [name] others rfl (cons_ne_nil _ _)
    have later := @ih (here ++ [name]) fun front back whole _ => by
      have below := directories (name :: front) back (by rw [whole]; rfl) (cons_ne_nil _ _)
      simpa using below
    rw [append_cons here]
    show tree.walkWith create follow here (.down name :: (downward others ++ rest)) = _
    rw [walkWith_down, first]
    exact later

/-- **A walk that finds something ends at a directory or a file.** -/
theorem walk_node {links : Nat} {here path : List ν} {steps : List (PathStep ν)}
    (start : tree.node here = some .directory) (led : tree.walk false links here steps = some path) :
    tree.node path = some .directory ∨ ∃ content, tree.node path = some (.file content) := by
  have step : ∀ follow : List ν → List (PathStep ν) → Option (List ν),
      (∀ here steps path, tree.node here = some .directory → follow here steps = some path →
        tree.node path = some .directory ∨ ∃ content, tree.node path = some (.file content)) →
      ∀ steps here path, tree.node here = some .directory →
        tree.walkWith false follow here steps = some path →
        tree.node path = some .directory ∨ ∃ content, tree.node path = some (.file content) := by
    intro follow further steps
    induction steps with
    | nil =>
      rintro here path start ⟨⟩
      exact .inl start
    | cons first rest ih =>
      intro here path start led
      cases first with
      | up => exact ih here.dropLast path (directory_dropLast start) led
      | down name =>
        rw [walkWith_down] at led
        cases found : tree.node (here ++ [name]) with
        | none =>
          simp [found] at led
        | some node =>
          rw [found] at led
          cases node with
          | directory => exact ih (here ++ [name]) path found led
          | file content =>
            dsimp only at led
            split at led
            · cases led
              exact .inr ⟨content, found⟩
            · cases led
          | link target =>
            refine further _ _ path ?_ led
            split
            · exact tree.root
            · exact start
  induction links generalizing here steps path with
  | zero => exact step _ (fun _ _ _ _ led => by cases led) steps here path start led
  | succ links ih => exact step _ (fun _ _ _ start led => ih start led) steps here path start led

theorem canonicalize_node {links : Nat} {path : List ν} {steps : List (PathStep ν)}
    (led : tree.canonicalize links steps = some path) :
    tree.node path = some .directory ∨ ∃ content, tree.node path = some (.file content) :=
  walk_node tree.root led

/-- Every part of a physical path below which there is something is a directory. -/
theorem walk_directory {create : Bool} {links : Nat} {path : List ν} {rest : List (PathStep ν)}
    (is : tree.node path = some .directory) :
    tree.walk create links [] (downward path ++ rest) = tree.walk create links path rest := by
  refine walk_down fun front back whole _ => ?_
  rw [List.nil_append]
  cases back with
  | nil => rwa [whole, append_nil] at is
  | cons name others =>
    rw [whole] at is
    exact directory_of_append (cons_ne_nil _ _) (by rw [is]; exact some_ne_none _)

/-- **A physical path leads to itself.** -/
theorem canonicalize_physical {create : Bool} {links : Nat} {path : List ν}
    (is : tree.node path = some .directory ∨ ∃ content, tree.node path = some (.file content)) :
    tree.walk create links [] (downward path) = some path := by
  rcases is with is | ⟨content, is⟩
  · have walked := @walk_directory _ _ tree create links path [] is
    rw [append_nil] at walked
    rw [walked]
    obtain ⟨follow, same⟩ := tree.walk_eq create links
    rw [same]
    rfl
  · rcases List.eq_nil_or_concat path with rfl | ⟨front, name, rfl⟩
    · simp [tree.root] at is
    · rw [concat_eq_append] at is ⊢
      have above := tree.closed front name (by rw [is]; exact some_ne_none _)
      have steps : downward (front ++ [name]) = downward front ++ [.down name] := map_append
      rw [steps, walk_directory above]
      obtain ⟨follow, same⟩ := tree.walk_eq create links
      simp [same, walkWith_down, is]

theorem walk_file {create : Bool} {links : Nat} {path : List ν} {content : β} {rest : List (PathStep ν)}
    (is : tree.node path = some (.file content)) (more : rest ≠ []) :
    tree.walk create links [] (downward path ++ rest) = none := by
  rcases List.eq_nil_or_concat path with rfl | ⟨front, name, rfl⟩
  · simp [tree.root] at is
  · rw [concat_eq_append] at is ⊢
    have above := tree.closed front name (by rw [is]; exact some_ne_none _)
    have steps : downward (front ++ [name]) = downward front ++ [.down name] := map_append
    rw [steps, List.append_assoc, walk_directory above]
    obtain ⟨follow, same⟩ := tree.walk_eq create links
    rw [same, List.singleton_append, walkWith_down, is]
    exact if_neg fun empty => more (List.isEmpty_iff.mp empty)

/-- The node of a name in a directory, a link as well as any other. -/
theorem linkMetadata_physical {links : Nat} {front : List ν} {name : ν} {node : FileNode ν β}
    (is : tree.node (front ++ [name]) = some node) :
    tree.linkMetadata links (downward (front ++ [name])) = some node := by
  have above := tree.closed front name (by rw [is]; exact some_ne_none _)
  have steps : downward (front ++ [name]) = downward front ++ [.down name] := map_append
  unfold linkMetadata
  rw [steps, List.getLast?_concat, List.dropLast_concat]
  show (tree.walk false links [] (downward front)).bind _ = _
  simp [canonicalize_physical (.inl above), is]

/-- **Where names lead from a directory, if none of them is a link.** -/
theorem walk_plain {create : Bool} {links : Nat} {here names path : List ν}
    (start : tree.node here = some .directory)
    (plain : ∀ front back target, names = front ++ back → front ≠ [] →
      tree.node (here ++ front) ≠ some (.link target))
    (led : tree.walk create links here (downward names) = some path) : path = here ++ names := by
  obtain ⟨follow, same⟩ := tree.walk_eq create links
  rw [same] at led
  induction names generalizing here with
  | nil =>
    cases led
    simp
  | cons name others ih =>
    change tree.walkWith create follow here (.down name :: downward others) = some path at led
    rw [walkWith_down] at led
    have single : (downward others).isEmpty = true → others = [] := fun empty =>
      List.map_eq_nil_iff.mp (List.isEmpty_iff.mp empty)
    cases found : tree.node (here ++ [name]) with
    | none =>
      rw [found] at led
      dsimp only at led
      split at led
      next last =>
        cases led
        rw [single (by simp_all)]
      · cases led
    | some node =>
      rw [found] at led
      cases node with
      | directory =>
        rw [append_cons]
        refine ih found (fun front back target whole given => ?_) led
        rw [← append_cons]
        exact plain (name :: front) back target (by rw [whole]; rfl) (cons_ne_nil _ _)
      | file content =>
        dsimp only at led
        split at led
        next last =>
          cases led
          rw [single last]
        · cases led
      | link target => exact absurd found (plain [name] others target rfl (cons_ne_nil _ _))

end FileTree
