/-
**Counters reserved ahead in a durable file.**

Both signing counters work alike: a lifetime resumes above the number its file holds, rewrites the
file with a larger number before it hands anything out, and hands out numbers up to that one. What a
lifetime would resume from is `restart content`; the two programs differ in it and in how they
write, so the argument is stated over it.

* `Held` — in a lifetime: what any content restarts at is not below the reservation, and the
  numbers handed out are below the next one.
* `Announces` — a text restarts at one number or, torn, not at all.
-/

import MiniRemoteDesktop.Lib.DurableFile
import Mathlib.Algebra.Order.Ring.Nat
import Mathlib.Data.List.Pairwise

namespace MiniRemoteDesktop.Counter

open Durable

/-! ### The data that both programs write -/

structure CounterState where
  formatVersion : UInt8
  keyId : String
  reservedThrough : UInt64

/-- `u64::checked_add`. -/
def checkedAddU64 (a b : UInt64) : Option UInt64 :=
  if a.toNat < 2 ^ 64 - b.toNat then some (a + b) else none

theorem checkedAddU64_eq_some {a b c : UInt64} (added : checkedAddU64 a b = some c) :
    c.toNat = a.toNat + b.toNat := by
  unfold checkedAddU64 at added
  split at added
  next fits =>
    cases added
    rw [UInt64.toNat_add]
    exact Nat.mod_eq_of_lt (by omega)
  · cases added

/-- `serde_json` on one type of values. -/
structure JsonFormat (T : Type) where
  toVec : T → List UInt8
  fromSlice : List UInt8 → Option T

/-- The whitespace of a JSON text. -/
def isWhitespace (byte : UInt8) : Bool := byte = 0x20 ∨ byte = 0x09 ∨ byte = 0x0a ∨ byte = 0x0d

/-- **What `serde_json` documents of a struct's format**: what is written is read back; after a
complete value only whitespace may follow; and the text of a struct ends with a closing brace. -/
structure JsonFormat.Documented {T : Type} (format : JsonFormat T) : Prop where
  roundTrip : ∀ value, format.fromSlice (format.toVec value) = some value
  trailing : ∀ text rest value other, format.fromSlice text = some value →
    format.fromSlice (text ++ rest) = some other → ∀ byte ∈ rest, isWhitespace byte
  closed : ∀ value, ∃ body, format.toVec value = body ++ [0x7d]

/-- **A torn text is no text.** -/
theorem JsonFormat.Documented.torn {T : Type} {format : JsonFormat T}
    (documented : format.Documented) (value : T) {count : Nat}
    (short : count < (format.toVec value).length) :
    format.fromSlice ((format.toVec value).take count) = none := by
  cases read : format.fromSlice ((format.toVec value).take count) with
  | none => rfl
  | some other =>
    have whole : format.fromSlice ((format.toVec value).take count ++
        (format.toVec value).drop count) = some value := by
      simp [documented.roundTrip value]
    obtain ⟨body, ends⟩ := documented.closed value
    have last : (0x7d : UInt8) ∈ (format.toVec value).drop count := by
      rw [ends] at short ⊢
      rw [List.length_append, List.length_singleton] at short
      rw [List.drop_append_of_le_length (by omega)]
      exact List.mem_append_right _ (.head _)
    have blank := documented.trailing _ _ _ _ read whole _ last
    cases blank

/-! ### The argument -/

section Argument

variable {α : Type} {restart : Option (List α) → Option UInt64} {file after : File α}
  {returned : List UInt64} {reserved next : UInt64}

/-- A content that no lifetime resumes from below `bound`. -/
def AtLeast (restart : Option (List α) → Option UInt64) (bound : Nat)
    (content : Option (List α)) : Prop :=
  ∀ resumed, restart content = some resumed → bound ≤ resumed.toNat

/-- A text that restarts at one number or, torn, not at all. -/
def Announces (restart : Option (List α) → Option UInt64) (text : List α) (reserved : UInt64) :
    Prop :=
  ∀ count resumed, restart (some (text.take count)) = some resumed → resumed = reserved

/-- **Between lifetimes.** -/
structure Issued (restart : Option (List α) → Option UInt64) (file : File α)
    (returned : List UInt64) : Prop where
  increasing : returned.Pairwise (· < ·)
  guarded : ∀ number ∈ returned, file.All (AtLeast restart number.toNat)

/-- **In a lifetime** that has reserved numbers up to `reserved` and hands out `next`. -/
structure Held (restart : Option (List α) → Option UInt64) (file : File α)
    (reserved next : UInt64) (returned : List UInt64) : Prop where
  increasing : returned.Pairwise (· < ·)
  backed : file.All (AtLeast restart reserved.toNat)
  within : next.toNat ≤ reserved.toNat + 1
  below : ∀ number ∈ returned, number.toNat < next.toNat

variable {content : Option (List α)}

theorem AtLeast.mono {low high : Nat} (le : low ≤ high) (holds : AtLeast restart high content) :
    AtLeast restart low content :=
  fun resumed found => le.trans (holds resumed found)

theorem Held.ended (held : Held restart file reserved next returned) :
    Issued restart file returned where
  increasing := held.increasing
  guarded := by
    intro number member
    refine held.backed.mono fun content => AtLeast.mono ?_
    have before := held.below number member
    have within := held.within
    omega

theorem Issued.crash [DecidableEq α] (issued : Issued restart file returned)
    (crashed : file.crash content = some after) :
    Issued restart after returned :=
  ⟨issued.increasing, fun number member => (issued.guarded number member).crash crashed⟩

/-- Every number handed out is at most what the current content restarts at. -/
theorem Issued.le_current {resumed : UInt64} (issued : Issued restart file returned)
    (found : restart file.current = some resumed) :
    ∀ number ∈ returned, number.toNat ≤ resumed.toNat :=
  fun number member => (issued.guarded number member).current resumed found

variable {announced : UInt64}

variable {text : List α}

/-- A rewrite that announces no less than was handed out. -/
theorem Issued.rewrite (stop : Stop) (issued : Issued restart file returned)
    (announces : Announces restart text announced)
    (above : ∀ number ∈ returned, number.toNat ≤ announced.toNat) :
    Issued restart (file.rewrite text stop).1 returned := by
  refine ⟨issued.increasing, fun number member => ?_⟩
  refine (issued.guarded number member).rewrite (fun count resumed found => ?_) stop
  rw [announces count resumed found]
  exact above number member

/-- **A lifetime begins**: it resumes above what the file held and has synced its reservation. -/
theorem Issued.resumed {resumed : UInt64} {stop : Stop} (issued : Issued restart file returned)
    (found : restart file.current = some resumed) (successor : next.toNat = resumed.toNat + 1)
    (announces : Announces restart text announced) (above : resumed.toNat ≤ announced.toNat)
    (done : file.rewrite text stop = (after, true)) :
    Held restart after announced next returned where
  increasing := issued.increasing
  backed := by
    rw [File.rewrite_done done]
    refine .single fun other read => ?_
    have whole := announces text.length other
    rw [List.take_length] at whole
    exact le_of_eq (congrArg _ (whole read).symm)
  within := by omega
  below := by
    intro number member
    have le := issued.le_current found number member
    omega

theorem Held.rewrite (stop : Stop) (held : Held restart file reserved next returned)
    (announces : Announces restart text announced) (above : reserved.toNat ≤ announced.toNat) :
    Held restart (file.rewrite text stop).1 reserved next returned := by
  refine ⟨held.increasing, ?_, held.within, held.below⟩
  refine held.backed.rewrite (fun count resumed found => ?_) stop
  rw [announces count resumed found]
  exact above

/-- **One number is handed out.** -/
theorem Held.issue {following : UInt64} (held : Held restart file reserved next returned)
    (available : next.toNat ≤ reserved.toNat) (successor : following.toNat = next.toNat + 1) :
    Held restart file reserved following (returned ++ [next]) where
  increasing := by
    refine List.pairwise_append.mpr ⟨held.increasing, List.pairwise_singleton _ _, ?_⟩
    intro number member other last
    rw [List.mem_singleton.mp last]
    exact UInt64.lt_iff_toNat_lt.mpr (held.below number member)
  backed := held.backed
  within := by omega
  below := by
    intro number member
    rcases List.mem_append.mp member with old | new
    · have before := held.below number old
      omega
    · rw [List.mem_singleton.mp new]
      omega

end Argument

end MiniRemoteDesktop.Counter
