/-
**The endpoints of a relay node, as the server writes and reads them** (`app/services`,
`relay_directory.py` and `relay_repository.py`).

An endpoint is text such as `turns:relay.example:5349?transport=tcp`; both modules match it against
the same pattern, without regard to case.

* `Server.matchEndpoint` — the pattern, and `Server.MatchedEndpoint` its groups.
* `Server.endpointTransport`, `Server.endpointParts` — what the directory reads in an endpoint.
* `Server.validateEndpoints` — the form in which the endpoints of a node are stored.
* `Server.StoredEndpoint` — an endpoint in that form; `stored_of_validateEndpoints`: **every endpoint
  that is stored has it**, and `StoredEndpoint.parts` — what is then read in it.
-/

import Mathlib.Data.List.TakeDrop
import Mathlib.Data.List.TakeWhile
import MiniRemoteDesktop.Lib.Checked
import MiniRemoteDesktop.Relay.Selection

namespace MiniRemoteDesktop.Relay

open List (length_append length_cons length_map length_nil map_cons mem_append mem_map mem_singleton)
open Option (bind_eq_some_iff bind_some ite_none_left_eq_some)
open Nat (digitChar mod_lt toDigits)

namespace Server

/-! ### The pattern -/

/-- The groups of a match, in lower case. The host keeps its brackets. -/
structure MatchedEndpoint where
  (scheme host port : List Char)
  transport : Option (List Char)

/-- `str.lower`, on what the pattern lets through. -/
def lower (text : List Char) : List Char := text.map Char.toLower

/-- `0-9A-Fa-f:`. -/
def isAddressChar (char : Char) : Bool :=
  char.isDigit || ('a' ≤ char && char ≤ 'f') || ('A' ≤ char && char ≤ 'F') || char == ':'

/-- `A-Za-z0-9.-`. -/
def isNameChar (char : Char) : Bool := char.isAlphanum || char == '.' || char == '-'

/-- A scheme and the colon after it. -/
def matchScheme (text : List Char) : Option (List Char × List Char) :=
  match text.span (· ≠ ':') with
  | (scheme, ':' :: rest) =>
    if lower scheme = "turn".toList ∨ lower scheme = "turns".toList then some (lower scheme, rest)
    else none
  | _ => none

/-- An address in brackets or a name, and the colon after it. -/
def matchHost (text : List Char) : Option (List Char × List Char) :=
  match text with
  | '[' :: rest =>
    match rest.span isAddressChar with
    | (address, ']' :: ':' :: rest) =>
      if address = [] then none else some ('[' :: lower address ++ [']'], rest)
    | _ => none
  | text =>
    match text.span isNameChar with
    | (name, ':' :: rest) => if name = [] then none else some (lower name, rest)
    | _ => none

/-- What may follow the port. -/
def matchTransport (text : List Char) : Option (Option (List Char)) :=
  if text = [] then some none
  else if lower text = "?transport=udp".toList then some (some "udp".toList)
  else if lower text = "?transport=tcp".toList then some (some "tcp".toList)
  else none

/-- `_ENDPOINT.fullmatch`. -/
def matchEndpoint (endpoint : String) : Option MatchedEndpoint := do
  let (scheme, rest) ← matchScheme endpoint.toList
  let (host, rest) ← matchHost rest
  let (port, rest) := rest.span Char.isDigit
  if ¬ (1 ≤ port.length ∧ port.length ≤ 5) then none
  else
    let transport ← matchTransport rest
    some ⟨scheme, host, port, transport⟩

/-- `int` of decimal digits. -/
def int (digits : List Char) : Nat := Nat.ofDigitChars 10 digits 0

/-! ### What the directory reads -/

def endpointTransport (endpoint : String) : Option RelayTransport :=
  match matchEndpoint endpoint with
  | none => none
  | some matched =>
    if ¬ (1 ≤ int matched.port ∧ int matched.port ≤ 65535) then none
    else if matched.scheme = "turns".toList then
      if matched.transport = none ∨ matched.transport = some "tcp".toList then some .tls else none
    else if matched.transport = some "tcp".toList then some .tcp
    else some .udp

/-- `None` stands for the `ValueError`. -/
def endpointParts (endpoint : String) : Option RelayEndpoint :=
  match matchEndpoint endpoint, endpointTransport endpoint with
  | some matched, some transport => some ⟨transport, String.ofList matched.host, int matched.port⟩
  | _, _ => none

theorem endpointParts_transport (endpoint : String) :
    (endpointParts endpoint).map (·.transport) = endpointTransport endpoint := by
  unfold endpointParts
  cases matched : matchEndpoint endpoint with
  | none => simp [endpointTransport, matched]
  | some _ => cases endpointTransport endpoint <;> rfl

example : endpointParts "TURNS:[2001:DB8::1]:5349" = some ⟨.tls, "[2001:db8::1]", 5349⟩ := by decide

/-! ### Addresses of the standard library -/

/-- The number of an octet, without leading zeros. -/
def octet (digits : List Char) : Option Nat :=
  if digits = [] ∨ 3 < digits.length ∨ digits.all Char.isDigit = false ∨
      (digits ≠ ['0'] ∧ digits.head? = some '0') ∨ 255 < int digits then none
  else some (int digits)

/-- `ipaddress.ip_address` of an IPv4 address: its octets. -/
def ipv4 (text : List Char) : Option (List Nat) :=
  let parts := text.splitOn '.'
  if parts.length ≠ 4 then none else parts.mapM octet

def isHexDigit (char : Char) : Bool :=
  char.isDigit || ('a' ≤ char && char ≤ 'f') || ('A' ≤ char && char ≤ 'F')

def hexValue (char : Char) : Nat :=
  if char.isDigit then char.toNat - 48 else if char.isUpper then char.toNat - 55 else char.toNat - 87

/-- The number of a hextet. -/
def hextet (digits : List Char) : Option Nat :=
  if digits = [] ∨ 4 < digits.length ∨ digits.all isHexDigit = false then none
  else some (digits.foldl (fun value char => 16 * value + hexValue char) 0)

/-- How many parts stand before and after the double colon, which is the empty part `skip`. -/
def sides (parts : List (List Char)) (skip : Nat) : Option (Nat × Nat) :=
  let high := if parts.head? = some [] then skip - 1 else skip
  let low := parts.length - skip - 1
  let low' := if parts.getLast? = some [] then low - 1 else low
  if parts.head? = some [] ∧ high ≠ 0 then none
  else if parts.getLast? = some [] ∧ low' ≠ 0 then none
  else if 8 ≤ high + low' then none
  else some (high, low')

/-- The empty parts that are not at an end. -/
def skips (parts : List (List Char)) : List Nat :=
  (List.range parts.length).filter fun index =>
    0 < index && index + 1 < parts.length && (parts[index]? = some [])

/-- `ipaddress.ip_address` of an IPv6 address: its hextets. -/
def ipv6 (text : List Char) : Option (List Nat) :=
  let parts := text.splitOn ':'
  if parts.length < 3 ∨ 9 < parts.length then none
  else
    match skips parts with
    | [] => if parts.length ≠ 8 then none else parts.mapM hextet
    | [skip] => do
      let (high, low) ← sides parts skip
      let first ← (parts.take high).mapM hextet
      let last ← (parts.drop (parts.length - low)).mapM hextet
      return first ++ List.replicate (8 - (high + low)) 0 ++ last
    | _ => none

/-- `'%x'` of a hextet. -/
def hexDigits (value : Nat) : List Char :=
  match [value / 4096 % 16, value / 256 % 16, value / 16 % 16].dropWhile (· = 0) with
  | nibbles => (nibbles ++ [value % 16]).map digitChar

/-- The longest run of zeros: its start and its length. The third and fourth components are the run at
the end of what was seen. -/
def longestRun (hextets : List Nat) : Nat × Nat :=
  let (best, bestLength, _, _, _) := hextets.foldl
    (fun (best, bestLength, start, length, index) value =>
      if value = 0 then
        let start := if length = 0 then index else start
        if bestLength < length + 1 then (start, length + 1, start, length + 1, index + 1)
        else (best, bestLength, start, length + 1, index + 1)
      else (best, bestLength, 0, 0, index + 1)) (0, 0, 0, 0, 0)
  (best, bestLength)

def compressHextets (hextets : List Nat) : List (List Char) :=
  let (start, length) := longestRun hextets
  let digits := hextets.map hexDigits
  if length ≤ 1 then digits
  else
    let before := digits.take start
    let after := digits.drop (start + length)
    (if start = 0 then [[]] else []) ++ before ++ [[]] ++ (if after = [] then [[]] else after)

def compressed (hextets : List Nat) : List Char := [':'].intercalate (compressHextets hextets)

/-! ### What is stored -/

/-- `host.rstrip(".")`. -/
def rstripDots (host : List Char) : List Char := (host.reverse.dropWhile (· = '.')).reverse

/-- A label of a host name. -/
def isLabel (label : List Char) : Bool :=
  label ≠ [] && label.length ≤ 63 && label.head?.any Char.isAlphanum &&
    label.getLast?.any Char.isAlphanum && label.all fun char => char.isAlphanum || char = '-'

def canonicalHost (host : List Char) : Option (List Char) :=
  match host with
  | '[' :: rest => (ipv6 rest.dropLast).map fun address => '[' :: compressed address ++ [']']
  | _ =>
    let asciiHost := lower (rstripDots host)
    if asciiHost = [] ∨ 253 < asciiHost.length then none
    else
      match ipv4 asciiHost with
      | some octets => some (['.'].intercalate (octets.map (toDigits 10)))
      | none => if (asciiHost.splitOn '.').all isLabel then some asciiHost else none

/-- `f"{scheme}:{host}:{port}?transport={transport}"`. -/
def endpointText (scheme host : List Char) (port : Nat) (transport : List Char) : String :=
  String.ofList (scheme ++ ':' :: (host ++ ':' :: (toDigits 10 port ++
    ("?transport=".toList ++ transport))))

/-- One round of `_validate_endpoints`; `None` stands for the error. -/
def canonicalEndpoint? (endpoint : String) : Option String := do
  let matched ← matchEndpoint endpoint
  if ¬ (1 ≤ int matched.port ∧ int matched.port ≤ 65535) then none
  else
    let transport := matched.transport.getD
      (if matched.scheme = "turn".toList then "udp".toList else "tcp".toList)
    if matched.scheme = "turns".toList ∧ transport ≠ "tcp".toList then none
    else
      let host ← canonicalHost matched.host
      some (endpointText matched.scheme host (int matched.port) transport)

def validateEndpoints (endpoints : List String) : Option (List String) := do
  if ¬ (1 ≤ endpoints.length ∧ endpoints.length ≤ 4) then none
  else
    let canonical ← endpoints.mapM canonicalEndpoint?
    if canonical.Nodup then some canonical else none

/-! ### Characters -/

variable {char : Char}

/-- A property of the ASCII characters is checked one by one. -/
theorem of_ascii {P : Char → Prop} (all : ∀ code < 128, P (Char.ofNat code))
    (ascii : char.toNat < 128) : P char := by
  have holds := all char.toNat ascii
  simpa using holds

theorem ascii_of_isNameChar (name : isNameChar char = true) : char.toNat < 128 := by
  unfold isNameChar Char.isAlphanum Char.isAlpha Char.isUpper Char.isLower Char.isDigit at name
  simp only [Bool.or_eq_true, Bool.and_eq_true, decide_eq_true_eq, beq_iff_eq, UInt32.le_iff_toNat_le]
    at name
  rcases name with ((((⟨_, upper⟩ | ⟨_, upper⟩) | ⟨_, upper⟩) | rfl) | rfl)
  · exact Nat.lt_of_le_of_lt upper (by decide)
  · exact Nat.lt_of_le_of_lt upper (by decide)
  · exact Nat.lt_of_le_of_lt upper (by decide)
  · decide
  · decide

theorem ascii_of_isAddressChar (address : isAddressChar char = true) :
    char.toNat < 128 := by
  unfold isAddressChar Char.isDigit at address
  simp only [Bool.or_eq_true, Bool.and_eq_true, decide_eq_true_eq, beq_iff_eq, UInt32.le_iff_toNat_le]
    at address
  rcases address with (((⟨_, upper⟩ | ⟨_, upper⟩) | ⟨_, upper⟩) | rfl)
  · exact Nat.lt_of_le_of_lt upper (by decide)
  · exact Nat.lt_of_le_of_lt upper (by decide)
  · exact Nat.lt_of_le_of_lt upper (by decide)
  · decide

theorem isNameChar_toLower (name : isNameChar char = true) :
    isNameChar char.toLower = true ∧ char.toLower.toLower = char.toLower :=
  of_ascii (P := fun char => isNameChar char = true → isNameChar char.toLower = true ∧
    char.toLower.toLower = char.toLower) (by decide) (ascii_of_isNameChar name) name

/-- A character of a stored host name. -/
def LowerName (char : Char) : Prop := isNameChar char = true ∧ char.toLower = char

/-- A character of a stored address. -/
def LowerAddress (char : Char) : Prop := isAddressChar char = true ∧ char.toLower = char

variable {text : List Char}

theorem lowerName_lower (name : ∀ char ∈ text, isNameChar char = true) :
    ∀ char ∈ lower text, LowerName char := by
  intro char member
  obtain ⟨upper, inside, rfl⟩ := mem_map.mp member
  exact isNameChar_toLower (name upper inside)

theorem lower_of_lower (fixed : ∀ char ∈ text, char.toLower = char) :
    lower text = text := by
  exact (List.map_congr_left fixed).trans (List.map_id _)

/-- Splitting a text where a character stands that the test refuses. -/
theorem span_append {p : Char → Bool} {rest : List Char} {stop : Char}
    (all : ∀ char ∈ text, p char = true) (refused : p stop = false) :
    (text ++ stop :: rest).span p = (text, stop :: rest) := by
  rw [List.span_eq_takeWhile_dropWhile, List.takeWhile_append_of_pos all,
    List.dropWhile_append_of_pos all, List.takeWhile_cons, List.dropWhile_cons, refused]
  simp

/-! ### The addresses that are written -/

theorem lowerAddress_digitChar {value : Nat} (small : value < 16) :
    LowerAddress (digitChar value) := by
  have all : ∀ value < 16, isAddressChar (digitChar value) = true ∧
      (digitChar value).toLower = digitChar value := by decide
  exact all value small

theorem hexDigits_spec (value : Nat) :
    (∀ char ∈ hexDigits value, LowerAddress char) ∧ (hexDigits value).length ≤ 4 := by
  have part := List.dropWhile_sublist (l := [value / 4096 % 16, value / 256 % 16, value / 16 % 16])
    (p := fun nibble => decide (nibble = 0))
  unfold hexDigits
  constructor
  · intro char member
    obtain ⟨nibble, inside, rfl⟩ := mem_map.mp member
    refine lowerAddress_digitChar ?_
    rcases mem_append.mp inside with high | last
    · have := part.subset high
      simp only [List.mem_cons, List.not_mem_nil, or_false] at this
      rcases this with rfl | rfl | rfl <;> exact mod_lt _ (by decide)
    · cases mem_singleton.mp last
      exact mod_lt _ (by decide)
  · rw [length_map, length_append]
    have := part.length_le
    simp only [length_cons, length_nil] at this ⊢
    omega

variable {parts : List (List Char)}

/-- Joining parts: every character is one of a part or the separator. -/
theorem mem_intercalate {separator : List Char} (member : char ∈ separator.intercalate parts) :
    char ∈ separator ∨ ∃ part ∈ parts, char ∈ part := by
  induction parts with
  | nil => cases member
  | cons first rest ih =>
    cases rest with
    | nil =>
      rw [List.intercalate_singleton] at member
      exact .inr ⟨first, (.head _), member⟩
    | cons second rest =>
      rw [List.intercalate_cons_cons] at member
      rcases mem_append.mp member with early | late
      · rcases mem_append.mp early with inside | between
        · exact .inr ⟨first, (.head _), inside⟩
        · exact .inl between
      · exact (ih late).imp_right fun ⟨part, listed, inside⟩ =>
          ⟨part, .tail _ listed, inside⟩

theorem length_intercalate_le {separator : Char} {bound : Nat}
    (short : ∀ part ∈ parts, part.length ≤ bound) :
    ([separator].intercalate parts).length ≤ (bound + 1) * parts.length := by
  induction parts with
  | nil => exact Nat.zero_le _
  | cons first rest ih =>
    have here := short first (.head _)
    have later := ih (List.forall_mem_cons.mp short).2
    cases rest with
    | nil =>
      rw [List.intercalate_singleton]
      simp only [length_cons, length_nil]
      omega
    | cons second rest =>
      rw [List.intercalate_cons_cons, length_append, length_append]
      simp only [length_cons, length_nil, Nat.mul_add, Nat.mul_one] at later ⊢
      omega

variable {hextets : List Nat}

theorem mem_compressHextets {part : List Char} (member : part ∈ compressHextets hextets) :
    part = [] ∨ ∃ value, part = hexDigits value := by
  have digits : ∀ part ∈ hextets.map hexDigits, ∃ value, part = hexDigits value := by
    intro part member
    obtain ⟨value, _, rfl⟩ := mem_map.mp member
    exact ⟨value, rfl⟩
  unfold compressHextets at member
  dsimp only at member
  split at member
  · exact .inr (digits part member)
  rcases mem_append.mp member with early | after
  · rcases mem_append.mp early with early | gap
    · rcases mem_append.mp early with edge | before
      · split at edge
        · exact .inl (mem_singleton.mp edge)
        · cases edge
      · exact .inr (digits part (List.mem_of_mem_take before))
    · exact .inl (mem_singleton.mp gap)
  · split at after
    · exact .inl (mem_singleton.mp after)
    · exact .inr (digits part (List.mem_of_mem_drop after))

/-- A compressed address has between two and eleven parts. -/
theorem length_compressHextets (full : hextets.length = 8) :
    2 ≤ (compressHextets hextets).length ∧ (compressHextets hextets).length ≤ 11 := by
  have digits : (hextets.map hexDigits).length = 8 := by rw [length_map, full]
  unfold compressHextets
  dsimp only
  split
  · omega
  · have after := List.length_drop (i := (longestRun hextets).1 + (longestRun hextets).2)
      (l := hextets.map hexDigits)
    simp only [length_append, List.length_take, digits, length_cons, length_nil]
    split
    · split
      · simp only [length_cons, length_nil]
        omega
      · simp only [length_cons, length_nil]
        omega
    · split
      · simp only [length_cons, length_nil]
        omega
      · simp only [length_nil]
        omega

/-- **The text of a compressed address**: hexadecimal digits and colons, and at least one colon. -/
theorem compressed_spec (full : hextets.length = 8) :
    (∀ char ∈ compressed hextets, LowerAddress char) ∧ ':' ∈ compressed hextets ∧
      (compressed hextets).length ≤ 253 := by
  obtain ⟨several, few⟩ := length_compressHextets full
  have colon : LowerAddress ':' := ⟨by decide, by decide⟩
  refine ⟨fun char member => ?_, ?_, ?_⟩
  · rcases mem_intercalate member with separator | ⟨part, listed, inside⟩
    · cases mem_singleton.mp separator
      exact colon
    · rcases mem_compressHextets listed with rfl | ⟨value, rfl⟩
      · cases inside
      · exact (hexDigits_spec value).1 char inside
  · unfold compressed
    match parts : compressHextets hextets, several with
    | first :: second :: rest, _ =>
      simp
  · have bound : ∀ part ∈ compressHextets hextets, part.length ≤ 4 := by
      intro part member
      rcases mem_compressHextets member with rfl | ⟨value, rfl⟩
      · exact Nat.zero_le _
      · exact (hexDigits_spec value).2
    have := @length_intercalate_le _ ':' _ bound
    unfold compressed
    omega

theorem length_mapM {α β : Type} {f : α → Option β} {list : List α} {results : List β}
    (done : list.mapM f = some results) : results.length = list.length :=
  (Checked.mapM_eq_some.mp done).length_eq.symm

theorem sides_spec {skip high low : Nat} (inside : skip < parts.length)
    (counts : sides parts skip = some (high, low)) :
    high ≤ parts.length ∧ low ≤ parts.length ∧ high + low ≤ 8 := by
  unfold sides at counts
  rw [ite_none_left_eq_some, ite_none_left_eq_some, ite_none_left_eq_some] at counts
  obtain ⟨_, _, few, ⟨⟩⟩ := counts
  refine ⟨?_, ?_, by omega⟩
  · split <;> omega
  · split <;> omega

theorem length_ipv6 (address : ipv6 text = some hextets) :
    hextets.length = 8 := by
  unfold ipv6 at address
  dsimp only at address
  split at address
  · cases address
  split at address
  · split at address
    · cases address
    · exact (length_mapM address).trans (not_not.mp ‹_›)
  · obtain ⟨⟨high, low⟩, counts, address⟩ := bind_eq_some_iff.mp address
    obtain ⟨first, found, address⟩ := bind_eq_some_iff.mp address
    obtain ⟨last, known, ⟨⟩⟩ := bind_eq_some_iff.mp address
    have listed : _ ∈ skips (text.splitOn ':') := ‹skips _ = [_]› ▸ List.mem_cons_self
    have inside := List.mem_range.mp (List.mem_filter.mp listed).1
    obtain ⟨_, _, _⟩ := sides_spec inside counts
    have firstLength := length_mapM found
    have lastLength := length_mapM known
    rw [List.length_take] at firstLength
    rw [List.length_drop] at lastLength
    rw [length_append, length_append, List.length_replicate]
    omega
  · cases address

/-! ### The form of a stored endpoint -/

/-- **A host as it is stored**: a name, or an address in brackets. -/
inductive StoredHost : List Char → Prop
  | name {host : List Char} (nonempty : host ≠ []) (chars : ∀ char ∈ host, LowerName char)
      (short : host.length ≤ 253) : StoredHost host
  | address {address : List Char} (chars : ∀ char ∈ address, LowerAddress char)
      (colon : ':' ∈ address) (short : address.length ≤ 253) : StoredHost ('[' :: address ++ [']'])

def schemeOf : RelayTransport → List Char
  | .udp | .tcp => "turn".toList
  | .tls => "turns".toList

def transportOf : RelayTransport → List Char
  | .udp => "udp".toList
  | .tcp | .tls => "tcp".toList

/-- The text of an endpoint. -/
def storedText (transport : RelayTransport) (host : List Char) (port : Nat) : String :=
  endpointText (schemeOf transport) host port (transportOf transport)

/-- **An endpoint as it is stored.** -/
def StoredEndpoint (endpoint : String) : Prop :=
  ∃ transport host port, StoredHost host ∧ 1 ≤ port ∧ port ≤ 65535 ∧
    endpoint = storedText transport host port

theorem stored_name_of_octets {octets : List Nat} (four : octets.length = 4)
    (small : ∀ value ∈ octets, value ≤ 255) :
    StoredHost (['.'].intercalate (octets.map (toDigits 10))) := by
  have digits : ∀ part ∈ octets.map (toDigits 10),
      part.length ≤ 3 ∧ part ≠ [] ∧ ∀ char ∈ part, LowerName char := by
    have all : ∀ value ≤ 255, (toDigits 10 value).length ≤ 3 ∧ toDigits 10 value ≠ [] ∧
        (toDigits 10 value).all (fun char => isNameChar char ∧ char.toLower = char) = true := by
      decide +kernel
    intro part member
    obtain ⟨value, inside, rfl⟩ := mem_map.mp member
    obtain ⟨short, some, plain⟩ := all value (small value inside)
    exact ⟨short, some, fun char there =>
      show _ ∧ _ from of_decide_eq_true (List.all_eq_true.mp plain char there)⟩
  refine .name ?_ (fun char member => ?_) ?_
  · match octets, four with
    | first :: second :: rest, _ =>
      simp
  · rcases mem_intercalate member with dot | ⟨part, listed, inside⟩
    · cases mem_singleton.mp dot
      exact ⟨by decide, by decide⟩
    · exact (digits part listed).2.2 char inside
  · have := @length_intercalate_le _ '.' 3 fun part member => (digits part member).1
    rw [length_map, four] at this
    omega

theorem ipv4_spec {octets : List Nat} (address : ipv4 text = some octets) :
    octets.length = 4 ∧ ∀ value ∈ octets, value ≤ 255 := by
  unfold ipv4 at address
  rw [ite_none_left_eq_some] at address
  obtain ⟨four, found⟩ := address
  refine ⟨(length_mapM found).trans (not_not.mp four), fun value member => ?_⟩
  obtain ⟨part, _, read⟩ := Checked.mem_of_mapM_some found member
  unfold octet at read
  rw [ite_none_left_eq_some] at read
  obtain ⟨bounds, ⟨⟩⟩ := read
  exact Nat.le_of_not_lt fun large => bounds (.inr (.inr (.inr (.inr large))))

theorem matchHost_spec {host rest : List Char} (matched : matchHost text = some (host, rest)) :
    (∃ address, host = '[' :: address ++ [']']) ∨ host ≠ [] ∧ ∀ char ∈ host, LowerName char := by
  unfold matchHost at matched
  split at matched
  · split at matched
    · split at matched
      · cases matched
      · cases matched
        exact .inl ⟨_, rfl⟩
    · cases matched
  · split at matched
    next name rest spanned =>
      split at matched
      · cases matched
      next nonempty =>
        cases matched
        refine .inr ⟨fun empty => nonempty (List.map_eq_nil_iff.mp empty), lowerName_lower ?_⟩
        intro char member
        rw [List.span_eq_takeWhile_dropWhile] at spanned
        rw [← (Prod.mk.inj spanned).1] at member
        exact List.mem_takeWhile_imp member
    · cases matched

theorem canonicalHost_spec {host canonical : List Char}
    (shape : (∃ address, host = '[' :: address ++ [']']) ∨ host ≠ [] ∧ ∀ char ∈ host, LowerName char)
    (known : canonicalHost host = some canonical) : StoredHost canonical := by
  unfold canonicalHost at known
  split at known
  · obtain ⟨hextets, address, rfl⟩ := Option.map_eq_some_iff.mp known
    obtain ⟨chars, colon, short⟩ := compressed_spec (length_ipv6 address)
    exact .address chars colon short
  next bare =>
    have chars : ∀ char ∈ host, LowerName char := by
      rcases shape with ⟨address, rfl⟩ | ⟨_, chars⟩
      · exact (bare _ rfl).elim
      · exact chars
    rw [ite_none_left_eq_some] at known
    obtain ⟨bounds, known⟩ := known
    split at known
    · cases known
      obtain ⟨four, small⟩ := ipv4_spec ‹_›
      exact stored_name_of_octets four small
    · rw [Option.ite_none_right_eq_some] at known
      obtain ⟨_, ⟨⟩⟩ := known
      refine .name (fun empty => bounds (.inl empty)) (fun char member => ?_)
        (Nat.le_of_not_lt fun long => bounds (.inr long))
      refine lowerName_lower (fun other inside => (chars other ?_).1) char member
      have := (List.dropWhile_sublist _).subset (List.mem_reverse.mp inside)
      exact List.mem_reverse.mp this

theorem stored_of_canonicalEndpoint {endpoint canonical : String}
    (known : canonicalEndpoint? endpoint = some canonical) : StoredEndpoint canonical := by
  obtain ⟨matched, found, known⟩ := bind_eq_some_iff.mp known
  rw [ite_none_left_eq_some] at known
  obtain ⟨port, known⟩ := known
  rw [ite_none_left_eq_some] at known
  obtain ⟨secure, known⟩ := known
  obtain ⟨host, stored, ⟨⟩⟩ := bind_eq_some_iff.mp known
  obtain ⟨⟨scheme, rest⟩, first, found⟩ := bind_eq_some_iff.mp found
  obtain ⟨⟨text, rest⟩, second, found⟩ := bind_eq_some_iff.mp found
  rw [ite_none_left_eq_some] at found
  obtain ⟨_, found⟩ := found
  obtain ⟨transport, third, ⟨⟩⟩ := bind_eq_some_iff.mp found
  have port := not_not.mp port
  have schemes : scheme = "turn".toList ∨ scheme = "turns".toList := by
    unfold matchScheme at first
    split at first
    · rw [Option.ite_none_right_eq_some] at first
      obtain ⟨either, ⟨⟩⟩ := first
      exact either
    · cases first
  have transports : transport = none ∨ transport = some "udp".toList ∨
      transport = some "tcp".toList := by
    unfold matchTransport at third
    split at third
    · cases third
      exact .inl rfl
    split at third
    · cases third
      exact .inr (.inl rfl)
    split at third
    · cases third
      exact .inr (.inr rfl)
    · cases third
  have host := canonicalHost_spec (matchHost_spec second) stored
  rcases schemes with rfl | rfl
  · rcases transports with rfl | rfl | rfl
    · exact ⟨.udp, _, _, host, port.1, port.2, rfl⟩
    · exact ⟨.udp, _, _, host, port.1, port.2, rfl⟩
    · exact ⟨.tcp, _, _, host, port.1, port.2, rfl⟩
  · rcases transports with rfl | rfl | rfl
    · exact ⟨.tls, _, _, host, port.1, port.2, rfl⟩
    · exact (secure ⟨rfl, (by decide : "udp".toList ≠ "tcp".toList)⟩).elim
    · exact ⟨.tls, _, _, host, port.1, port.2, rfl⟩

/-- **What is stored**: up to four different endpoints, each in its form. -/
theorem stored_of_validateEndpoints {endpoints stored : List String}
    (known : validateEndpoints endpoints = some stored) :
    (∀ endpoint ∈ stored, StoredEndpoint endpoint) ∧ stored.Nodup ∧ 1 ≤ stored.length ∧
      stored.length ≤ 4 := by
  unfold validateEndpoints at known
  rw [ite_none_left_eq_some] at known
  obtain ⟨count, known⟩ := known
  obtain ⟨canonical, each, known⟩ := bind_eq_some_iff.mp known
  rw [Option.ite_none_right_eq_some] at known
  obtain ⟨nodup, ⟨⟩⟩ := known
  have length := length_mapM each
  refine ⟨fun endpoint member => ?_, nodup, by omega, by omega⟩
  obtain ⟨raw, _, found⟩ := Checked.mem_of_mapM_some each member
  exact stored_of_canonicalEndpoint found

/-! ### What is read in a stored endpoint -/

variable {transport : RelayTransport} {host rest : List Char} {port : Nat}

theorem matchScheme_stored (transport : RelayTransport) (rest : List Char) :
    matchScheme (schemeOf transport ++ ':' :: rest) = some (schemeOf transport, rest) := by
  have known : (schemeOf transport).all (decide <| · ≠ ':') = true ∧
      lower (schemeOf transport) = schemeOf transport ∧
      (schemeOf transport = "turn".toList ∨ schemeOf transport = "turns".toList) := by
    cases transport <;> decide
  unfold matchScheme
  rw [span_append (List.all_eq_true.mp known.1) (by decide)]
  show (if lower (schemeOf transport) = _ ∨ lower (schemeOf transport) = _ then _ else _) = _
  rw [known.2.1, if_pos known.2.2]

theorem matchHost_stored (stored : StoredHost host) (rest : List Char) :
    matchHost (host ++ ':' :: rest) = some (host, rest) := by
  cases stored with
  | name nonempty chars short =>
    cases host with
    | nil => exact (nonempty rfl).elim
    | cons first more =>
      have name := (chars first (.head _)).1
      have bare : first ≠ '[' := by
        rintro rfl
        cases name
      unfold matchHost
      split
      next same =>
        exact (bare (List.cons.inj same).1).elim
      · rw [span_append (fun char member => (chars char member).1) (by decide)]
        simp [List.cons_ne_nil _ _, lower_of_lower fun char member => (chars char member).2]
  | address chars colon short =>
    rename_i address
    have spanned : (address ++ ']' :: ':' :: rest).span isAddressChar = (address, ']' :: ':' :: rest) :=
      span_append (fun char member => (chars char member).1) (by decide)
    show matchHost ('[' :: ((address ++ [']']) ++ ':' :: rest)) = _
    rw [List.append_assoc]
    show (match (address ++ ']' :: ':' :: rest).span isAddressChar with
      | (address, ']' :: ':' :: rest) =>
        if address = [] then none else some ('[' :: lower address ++ [']'], rest)
      | _ => none) = _
    rw [spanned]
    show (if address = [] then none else some ('[' :: lower address ++ [']'], rest)) = _
    simp [List.ne_nil_of_mem colon, lower_of_lower fun char member => (chars char member).2]

theorem matchTransport_stored (transport : RelayTransport) :
    matchTransport ("?transport=".toList ++ transportOf transport) = some (some (transportOf transport)) := by
  cases transport <;> decide

/-- **A stored endpoint is matched**, and its groups are its parts. -/
theorem matchEndpoint_stored (transport : RelayTransport) (stored : StoredHost host)
    (fits : port ≤ 65535) :
    matchEndpoint (storedText transport host port) =
      some ⟨schemeOf transport, host, toDigits 10 port, some (transportOf transport)⟩ := by
  have digits : ∀ char ∈ toDigits 10 port, Char.isDigit char = true := fun _ member =>
    Nat.isDigit_of_mem_toDigits (by decide) (by decide) member
  have positive : 1 ≤ (toDigits 10 port).length := Nat.length_toDigits_pos
  have short : (toDigits 10 port).length ≤ 5 :=
    (Nat.length_toDigits_le_iff (by decide) (by decide)).mpr (by omega)
  have split : (toDigits 10 port ++ ("?transport=".toList ++ transportOf transport)).span
      Char.isDigit = (toDigits 10 port, "?transport=".toList ++ transportOf transport) :=
    span_append digits (by decide)
  unfold matchEndpoint storedText endpointText
  rw [String.toList_ofList, matchScheme_stored]
  dsimp only [Option.bind_eq_bind, bind_some]
  rw [matchHost_stored stored]
  dsimp only [bind_some]
  rw [split]
  dsimp only
  rw [if_neg (by omega), matchTransport_stored]
  rfl

theorem endpointTransport_stored (transport : RelayTransport) (stored : StoredHost host)
    (positive : 1 ≤ port) (fits : port ≤ 65535) :
    endpointTransport (storedText transport host port) = some transport := by
  have number : int (toDigits 10 port) = port := Nat.ofDigitChars_ten_toDigits
  unfold endpointTransport
  rw [matchEndpoint_stored transport stored fits]
  dsimp only
  rw [number, if_neg (by omega)]
  cases transport <;> rfl

/-- **What is read in a stored endpoint.** -/
theorem endpointParts_stored (transport : RelayTransport) (stored : StoredHost host)
    (positive : 1 ≤ port) (fits : port ≤ 65535) :
    endpointParts (storedText transport host port) = some ⟨transport, String.ofList host, port⟩ := by
  have number : int (toDigits 10 port) = port := Nat.ofDigitChars_ten_toDigits
  unfold endpointParts
  rw [matchEndpoint_stored transport stored fits,
    endpointTransport_stored transport stored positive fits]
  simp [number]

end Server

end MiniRemoteDesktop.Relay
