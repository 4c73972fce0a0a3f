/-
**Files that a crash can set back.**

A file has the content that readers see and the contents it has had since it was last synced, any of
which a crash of the machine may leave behind. Absence is a content of its own, so that a file
created and never synced can be gone after a crash.

* `rewrite text stop` — truncate, write and sync; `stop` says which of these operations fails, and
  after how many bytes.
* `All.rewrite`, `All.create`, `All.crash` — how such a property survives; `rewrite_done` — a
  rewrite that succeeds leaves one content.
-/

import Mathlib.Data.List.Basic

namespace Durable

variable {α : Type}

/-- A file: what readers see, and what else a crash may leave. -/
structure File (α : Type) where
  current : Option (List α)
  earlier : List (Option (List α))

/-- How far a rewrite gets. -/
inductive Stop
  | seek
  | truncate
  | write (written : Nat)
  | sync
  | done

namespace File

/-- Every content that a reader or a crash may find. -/
def contents (file : File α) : List (Option (List α)) := file.current :: file.earlier

/-- A property of every content. -/
def All (holds : Option (List α) → Prop) (file : File α) : Prop :=
  ∀ content ∈ file.contents, holds content

/-- The file after the truncation and the first bytes of a text. -/
def written (file : File α) (text : List α) (count : Nat) : File α :=
  { current := some (text.take count)
    earlier := (List.range count).map (fun shorter => some (text.take shorter)) ++ file.contents }

/-- **Truncate, write, sync.** The flag says whether all of it succeeded. -/
def rewrite (file : File α) (text : List α) : Stop → File α × Bool
  | .seek | .truncate => (file, false)
  | .write count => (file.written text count, false)
  | .sync => (file.written text text.length, false)
  | .done => (⟨some text, []⟩, true)

/-- `create_new`: fails where the file is there. -/
def create (file : File α) : Option (File α) :=
  match file.current with
  | none => some ⟨some [], file.contents⟩
  | some _ => none

/-- The machine stops and comes up with one of the contents. -/
def crash [DecidableEq α] (file : File α) (content : Option (List α)) : Option (File α) :=
  if content ∈ file.contents then some ⟨content, []⟩ else none

variable {file : File α}

variable {text : List α}

theorem rewrite_done {after : File α} {stop : Stop} (done : file.rewrite text stop = (after, true)) :
    after = ⟨some text, []⟩ := by
  cases stop with
  | seek | truncate | write _ | sync => cases done
  | done => exact (congrArg Prod.fst done).symm

variable {holds : Option (List α) → Prop}

theorem All.current (all : file.All holds) :
    holds file.current :=
  all _ (.head _)

theorem All.mono {other : Option (List α) → Prop} (all : file.All holds)
    (weaker : ∀ content, holds content → other content) : file.All other :=
  fun content member => weaker content (all content member)

variable {content : Option (List α)}

theorem All.single (one : holds content) :
    (File.mk content []).All holds := by
  intro other member
  rw [List.mem_singleton.mp member]
  exact one

theorem All.written (all : file.All holds) (torn : ∀ count, holds (some (text.take count)))
    (count : Nat) :
    (file.written text count).All holds := by
  intro content member
  rcases List.mem_cons.mp member with rfl | member
  · exact torn count
  rcases List.mem_append.mp member with shorter | old
  · obtain ⟨fewer, _, rfl⟩ := List.mem_map.mp shorter
    exact torn fewer
  · exact all content old

/-- **A rewrite leaves old contents and beginnings of the new text.** -/
theorem All.rewrite (all : file.All holds) (torn : ∀ count, holds (some (text.take count)))
    (stop : Stop) :
    (file.rewrite text stop).1.All holds := by
  cases stop with
  | seek | truncate => exact all
  | write count => exact all.written torn count
  | sync => exact all.written torn text.length
  | done =>
    refine All.single ?_
    have whole := torn text.length
    simpa using whole

theorem All.crash [DecidableEq α] {after : File α} (all : file.All holds)
    (crashed : file.crash content = some after) : after.All holds := by
  unfold File.crash at crashed
  split at crashed
  next member =>
    cases crashed
    exact All.single (all content member)
  · cases crashed

end File

end Durable
