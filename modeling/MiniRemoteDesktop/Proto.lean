/-
**Shared identifiers and machine arithmetic.**

`SessionId` and `DeviceId` are the newtypes of `mrd-proto`. The `u64` counters of the service are
natural numbers here; the operations on them that look at the width are the ones below.
-/

import Mathlib.Algebra.Group.Nat.Defs

namespace MiniRemoteDesktop

structure SessionId where
  value : String
  deriving DecidableEq

structure DeviceId where
  value : String
  deriving DecidableEq

/-- `u64::MAX`. -/
def u64Max : Nat := 2 ^ 64 - 1

/-- `i64::MAX as u64`. -/
def i64Max : Nat := 2 ^ 63 - 1

def checkedAdd (a b : Nat) : Option Nat := if a + b ≤ u64Max then some (a + b) else none

def checkedSub (a b : Nat) : Option Nat := if b ≤ a then some (a - b) else none

def saturatingAdd (a b : Nat) : Nat := min (a + b) u64Max

def saturatingMul (a b : Nat) : Nat := min (a * b) u64Max

theorem checkedAdd_eq_some {a b c : Nat} (added : checkedAdd a b = some c) : c = a + b := by
  unfold checkedAdd at added
  split at added
  · exact (Option.some.inj added).symm
  · cases added

end MiniRemoteDesktop
