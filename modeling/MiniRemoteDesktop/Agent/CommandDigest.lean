/-
**The digest that binds a command to its grant** (`mrd-agent-ipc`, `AgentCommand::digest` and
`ExecuteCommand::command_digest`).

The digest is taken over a hand-written encoding: the kind of the command behind its length, the
resource, and then what commands of that kind carry. Only some of it stands behind a length.

* `AgentCommand.preimage`, `executePreimage` — the bytes that are digested.
* `preimage_injective` — **one encoding, one command**.
* `digest_binds` — **one digest, one command with its id**; a grant authorizes no other one.

SHA-256 is a parameter.
-/

import MiniRemoteDesktop.Agent.Authority
import MiniRemoteDesktop.Lib.Framing

namespace MiniRemoteDesktop.Agent

open Bytes
open PermissionScope
open Word
open Text

/-! ### The JSON text of a set of scopes -/

namespace PermissionScope

/-- The scopes as they are declared, which is the order of the set. -/
def all : List PermissionScope :=
  [.screenView, .inputPointer, .inputKeyboard, .clipboardRead, .clipboardWrite, .fileRead, .fileWrite,
    .audioListen, .audioTalk, .displaySwitch, .displayMultiView, .powerRestart, .powerShutdown,
    .terminalOpen, .privacyBlockLocalInput, .privacyBlankScreen, .secureDesktopView,
    .secureDesktopControl]

/-- The name of the variant, as serde writes it. -/
def name : PermissionScope → String
  | screenView => "ScreenView"
  | inputPointer => "InputPointer"
  | inputKeyboard => "InputKeyboard"
  | clipboardRead => "ClipboardRead"
  | clipboardWrite => "ClipboardWrite"
  | fileRead => "FileRead"
  | fileWrite => "FileWrite"
  | audioListen => "AudioListen"
  | audioTalk => "AudioTalk"
  | displaySwitch => "DisplaySwitch"
  | displayMultiView => "DisplayMultiView"
  | powerRestart => "PowerRestart"
  | powerShutdown => "PowerShutdown"
  | terminalOpen => "TerminalOpen"
  | privacyBlockLocalInput => "PrivacyBlockLocalInput"
  | privacyBlankScreen => "PrivacyBlankScreen"
  | secureDesktopView => "SecureDesktopView"
  | secureDesktopControl => "SecureDesktopControl"

theorem mem_all (scope : PermissionScope) : scope ∈ all := by
  cases scope <;> decide

theorem name_injective : Function.Injective name := by
  have names : ∀ first ∈ all, ∀ second ∈ all, first.name = second.name → first = second := by
    decide
  exact fun first second same => names first (mem_all first) second (mem_all second) same

theorem name_free (scope : PermissionScope) : ∀ byte ∈ bytes scope.name, byte ≠ 0x22 := by
  have free : ∀ scope ∈ all, (bytes scope.name).all (· != 0x22) = true := by
    decide
  exact fun byte member => bne_iff_ne.mp (List.all_eq_true.mp (free scope (mem_all scope)) byte member)

end PermissionScope

/-- A JSON string without escapes. -/
def jsonName (scope : PermissionScope) : List UInt8 := 0x22 :: (bytes scope.name ++ [0x22])

/-- A JSON array of names, without blanks. -/
def jsonNames : List PermissionScope → List UInt8
  | [] => [0x5B, 0x5D]
  | first :: rest => 0x5B :: (jsonName first ++ (rest.flatMap fun scope => 0x2C :: jsonName scope) ++ [0x5D])

/-- `serde_json::to_vec` of a set of scopes. -/
def permissionScopesJson (scopes : PermissionScopes) : List UInt8 :=
  jsonNames (all.filter (· ∈ scopes))

/-! ### The bytes that are digested -/

def AudioDirection.code : AudioDirection → UInt8
  | listen => 1
  | talk => 2
  | duplex => 3

def FileDirection.code : FileDirection → UInt8
  | download => 1
  | upload => 2
  | bidirectional => 3

def AgentCaptureProfile.encoded (profile : AgentCaptureProfile) : List UInt8 :=
  bytes "capture-profile-v1\x00" ++ (littleEndian (ofNat profile.width : UInt32) ++
    (littleEndian (ofNat profile.height : UInt32) ++ (littleEndian (ofNat profile.fps : UInt32) ++
      littleEndian (ofNat profile.bitrateBps : UInt32))))

def RenderSurfaceTarget.encoded (surface : RenderSurfaceTarget) : List UInt8 :=
  littleEndian (ofNat (bytes surface.surfaceId).length : UInt64) ++ bytes surface.surfaceId ++
    littleEndian (ofNat surface.windowHandle : UInt64)

namespace AgentCommand

def kind : AgentCommand → String
  | startCapture .. => "start_capture"
  | stopCapture _ => "stop_capture"
  | startInput .. => "start_input"
  | stopInput _ => "stop_input"
  | startAudio .. => "start_audio"
  | stopAudio _ => "stop_audio"
  | startClipboard _ => "start_clipboard"
  | stopClipboard _ => "stop_clipboard"
  | startFile .. => "start_file"
  | stopFile _ => "stop_file"
  | startRender .. => "start_render"
  | stopRender _ => "stop_render"

/-- The display, of the kinds that have one. -/
def displayId : AgentCommand → Option Nat
  | startCapture _ displayId _ | startRender _ displayId _ => some displayId
  | _ => none

/-- The direction, of the kinds that have one. -/
def directionCode : AgentCommand → Option UInt8
  | startAudio _ direction => some direction.code
  | startFile _ direction => some direction.code
  | _ => none

/-- What follows the display and the direction. -/
def trailer : AgentCommand → List UInt8
  | startRender _ _ surface => surface.encoded
  | startCapture _ _ (some profile) => profile.encoded
  | startInput _ inputScopes =>
    littleEndian (ofNat (permissionScopesJson inputScopes).length : UInt64) ++
      permissionScopesJson inputScopes
  | _ => []

/-- What follows the kind and the resource. -/
def details (command : AgentCommand) : List UInt8 :=
  (command.displayId.elim [] fun displayId => littleEndian (ofNat displayId : UInt32)) ++
    (command.directionCode.elim [] fun direction => [direction]) ++ command.trailer

/-- What `AgentCommand::digest` feeds to the hash. -/
def preimage (command : AgentCommand) : List UInt8 :=
  bytes "mrd-agent-command-v1\x00" ++
    ((littleEndian (ofNat (bytes command.kind).length : UInt16) ++ bytes command.kind) ++
      (command.resourceId.toList ++ command.details))

def digest (sha256 : List UInt8 → Digest) (command : AgentCommand) : Digest := sha256 command.preimage

end AgentCommand

/-- What `ExecuteCommand::command_digest` feeds to the hash. -/
def executePreimage (sha256 : List UInt8 → Digest) (commandId : Id) (command : AgentCommand) : List UInt8 :=
  bytes "mrd-agent-execute-command-v1\x00" ++ (commandId.toList ++ (command.digest sha256).toList)

def ExecuteCommand.commandDigest (sha256 : List UInt8 → Digest) (execute : ExecuteCommand) : Digest :=
  sha256 (executePreimage sha256 execute.commandId execute.command)

/-- The cryptography of the protocol with the digest of commands as it is computed. -/
def Digests.hashing (digests : Digests) (sha256 : List UInt8 → Digest) : Digests :=
  { digests with
    commandDigest := fun commandId command => sha256 (executePreimage sha256 commandId command) }

/-! ### Ranges -/

/-- The settings are words of 32 bits. -/
structure AgentCaptureProfile.Fits (profile : AgentCaptureProfile) : Prop where
  width : profile.width < 2 ^ 32
  height : profile.height < 2 ^ 32
  fps : profile.fps < 2 ^ 32
  bitrateBps : profile.bitrateBps < 2 ^ 32

/-- The numbers of a command are of the widths of their types, and a text is no longer than memory. -/
def AgentCommand.Fits : AgentCommand → Prop
  | .startCapture _ displayId profile => displayId < 2 ^ 32 ∧ ∀ settings ∈ profile, settings.Fits
  | .startRender _ displayId surface =>
    displayId < 2 ^ 32 ∧ (bytes surface.surfaceId).length < 2 ^ 64 ∧ surface.windowHandle < 2 ^ 64
  | _ => True

/-! ### The scopes are read off -/

theorem jsonName_delimits : Framing.SelfDelimiting (fun _ => True) jsonName := by
  intro first second _ _ left right same
  unfold jsonName at same
  rw [List.cons_append, List.cons_append, List.append_assoc, List.append_assoc] at same
  obtain ⟨names, rest⟩ := Framing.terminated first.name_free second.name_free (List.cons.inj same).2
  exact ⟨name_injective (bytes_injective names), rest⟩

theorem jsonNames_injective {first second : List PermissionScope}
    (same : jsonNames first = jsonNames second) : first = second := by
  cases first with
  | nil =>
    cases second with
    | nil => rfl
    | cons scope rest =>
      have heads := (List.cons.inj (List.cons.inj same).2).1
      exact absurd heads (by decide)
  | cons scope rest =>
    cases second with
    | nil =>
      have heads := (List.cons.inj (List.cons.inj same).2).1
      exact absurd heads (by decide)
    | cons other tail =>
      have inner := (List.cons.inj same).2
      rw [List.append_assoc, List.append_assoc] at inner
      obtain ⟨rfl, tails⟩ := jsonName_delimits scope other trivial trivial _ _ inner
      have elements := List.append_cancel_right tails
      have delimits : Framing.SelfDelimiting (fun _ => True) fun scope => 0x2C :: jsonName scope := by
        intro a b _ _ left right equal
        exact jsonName_delimits a b trivial trivial left right (List.cons.inj equal).2
      rw [Framing.flatMap_injective delimits (nofun) (fun _ _ => trivial) (fun _ _ => trivial) elements]

/-- **The scopes are read off their JSON text.** -/
theorem permissionScopes_injective : Function.Injective permissionScopesJson := by
  intro first second same
  have lists := jsonNames_injective same
  ext scope
  have member : scope ∈ all.filter (· ∈ first) ↔ scope ∈ all.filter (· ∈ second) := by rw [lists]
  simpa [mem_all] using member

theorem length_jsonName (scope : PermissionScope) : (jsonName scope).length ≤ 26 := by
  cases scope <;> decide

theorem length_jsonNames (scopes : List PermissionScope) :
    (jsonNames scopes).length ≤ 2 + 27 * scopes.length := by
  cases scopes with
  | nil => decide
  | cons first rest =>
    have tail : ∀ list : List PermissionScope,
        (list.flatMap fun scope => 0x2C :: jsonName scope).length ≤ 27 * list.length := by
      intro list
      induction list with
      | nil => exact Nat.le_refl 0
      | cons scope others ih =>
        have one := length_jsonName scope
        rw [List.flatMap_cons, List.length_append, List.length_cons, List.length_cons]
        omega
    have one := length_jsonName first
    have others := tail rest
    rw [jsonNames, List.length_cons, List.length_append, List.length_append, List.length_singleton,
      List.length_cons]
    omega

theorem permissionScopes_fit (scopes : PermissionScopes) :
    (permissionScopesJson scopes).length < 256 ^ width UInt64 := by
  have names := length_jsonNames (all.filter (· ∈ scopes))
  have count := List.length_filter_le (· ∈ scopes) all
  have all : all.length = 18 := rfl
  have room : 2 + 27 * 18 < 256 ^ width UInt64 := by decide
  unfold permissionScopesJson
  omega

/-! ### One encoding, one command -/

theorem AudioDirection.code_injective : Function.Injective AudioDirection.code := by
  intro first second same
  cases first <;> cases second <;> first | rfl | cases same

theorem FileDirection.code_injective : Function.Injective FileDirection.code := by
  intro first second same
  cases first <;> cases second <;> first | rfl | cases same

theorem display_delimits {first second : Nat} (fits : first < 2 ^ 32) (other : second < 2 ^ 32)
    {left right : List UInt8}
    (same : littleEndian (ofNat first : UInt32) ++ left =
      littleEndian (ofNat second : UInt32) ++ right) : first = second ∧ left = right :=
  Framing.littleWord UInt32 first second fits other left right same

theorem encoded_profile_injective {first second : AgentCaptureProfile} (fits : first.Fits)
    (other : second.Fits) (same : first.encoded = second.encoded) : first = second := by
  have fields := List.append_cancel_left same
  obtain ⟨width, fields⟩ := display_delimits fits.width other.width fields
  obtain ⟨height, fields⟩ := display_delimits fits.height other.height fields
  obtain ⟨fps, fields⟩ := display_delimits fits.fps other.fps fields
  obtain ⟨bitrate, -⟩ := display_delimits fits.bitrateBps other.bitrateBps (congrArg (· ++ []) fields)
  cases first
  cases second
  simpa using ⟨width, height, fps, bitrate⟩

theorem encoded_profile_ne_nil (profile : AgentCaptureProfile) : profile.encoded ≠ [] := by
  intro empty
  have text := (List.append_eq_nil_iff.mp empty).1
  exact absurd text (by decide)

theorem encoded_surface_injective {first second : RenderSurfaceTarget}
    (short : (bytes first.surfaceId).length < 2 ^ 64) (fits : first.windowHandle < 2 ^ 64)
    (small : (bytes second.surfaceId).length < 2 ^ 64) (other : second.windowHandle < 2 ^ 64)
    (same : first.encoded = second.encoded) : first = second := by
  obtain ⟨texts, handles⟩ := Framing.littleFramed UInt64 _ _ short small _ _ same
  obtain ⟨handle, -⟩ := Framing.littleWord UInt64 _ _ fits other [] [] (congrArg (· ++ []) handles)
  cases first
  cases second
  simpa using ⟨bytes_injective texts, handle⟩

namespace AgentCommand

theorem kind_short (command : AgentCommand) :
    (bytes command.kind).length < 256 ^ width UInt16 := by
  cases command <;> dsimp only [kind] <;> decide

variable {second first : AgentCommand}

/-- Of one kind and resource, the details tell the command. -/
theorem eq_of_details (fits : first.Fits) (other : second.Fits) (kinds : first.kind = second.kind)
    (resources : first.resourceId = second.resourceId) (same : first.details = second.details) :
    first = second := by
  cases first with
  | startCapture resource display profile =>
    cases second with
    | startCapture _ shown settings =>
      cases resources
      have fields : littleEndian (ofNat display : UInt32) ++
          trailer (.startCapture resource display profile) =
          littleEndian (ofNat shown : UInt32) ++ trailer (.startCapture resource shown settings) := by
        simpa [details, AgentCommand.displayId, directionCode] using same
      obtain ⟨rfl, trailers⟩ := display_delimits fits.1 other.1 fields
      cases profile with
      | none =>
        cases settings with
        | none => rfl
        | some given => exact absurd trailers.symm (encoded_profile_ne_nil given)
      | some given =>
        cases settings with
        | none => exact absurd trailers (encoded_profile_ne_nil given)
        | some chosen =>
          rw [encoded_profile_injective (fits.2 given rfl) (other.2 chosen rfl) trailers]
    | _ => simp [kind] at kinds
  | startInput resource scopes =>
    cases second with
    | startInput _ granted =>
      cases resources
      obtain ⟨texts, -⟩ := Framing.littleFramed UInt64 _ _ (permissionScopes_fit scopes)
        (permissionScopes_fit granted) [] [] (congrArg (· ++ []) same)
      rw [permissionScopes_injective texts]
    | _ => simp [kind] at kinds
  | startAudio resource direction =>
    cases second with
    | startAudio _ chosen =>
      cases resources
      rw [AudioDirection.code_injective (List.cons.inj same).1]
    | _ => simp [kind] at kinds
  | startFile resource direction =>
    cases second with
    | startFile _ chosen =>
      cases resources
      rw [FileDirection.code_injective (List.cons.inj same).1]
    | _ => simp [kind] at kinds
  | startRender resource display surface =>
    cases second with
    | startRender _ shown target =>
      cases resources
      have fields : littleEndian (ofNat display : UInt32) ++ surface.encoded =
          littleEndian (ofNat shown : UInt32) ++ target.encoded := by
        simpa [details, AgentCommand.displayId, directionCode, trailer] using same
      obtain ⟨rfl, surfaces⟩ := display_delimits fits.1 other.1 fields
      rw [encoded_surface_injective fits.2.1 fits.2.2 other.2.1 other.2.2 surfaces]
    | _ => simp [kind] at kinds
  | stopCapture resource =>
    cases second with
    | stopCapture _ => exact congrArg _ resources
    | _ => simp [kind] at kinds
  | stopInput resource =>
    cases second with
    | stopInput _ => exact congrArg _ resources
    | _ => simp [kind] at kinds
  | stopAudio resource =>
    cases second with
    | stopAudio _ => exact congrArg _ resources
    | _ => simp [kind] at kinds
  | startClipboard resource =>
    cases second with
    | startClipboard _ => exact congrArg _ resources
    | _ => simp [kind] at kinds
  | stopClipboard resource =>
    cases second with
    | stopClipboard _ => exact congrArg _ resources
    | _ => simp [kind] at kinds
  | stopFile resource =>
    cases second with
    | stopFile _ => exact congrArg _ resources
    | _ => simp [kind] at kinds
  | stopRender resource =>
    cases second with
    | stopRender _ => exact congrArg _ resources
    | _ => simp [kind] at kinds

/-- **One encoding, one command.** -/
theorem preimage_injective (fits : first.Fits) (other : second.Fits)
    (same : first.preimage = second.preimage) : first = second := by
  have fields := List.append_cancel_left same
  obtain ⟨kinds, rest⟩ :=
    Framing.littleFramed UInt16 _ _ first.kind_short second.kind_short _ _ fields
  obtain ⟨resources, details⟩ := List.append_inj rest (by rw [Vector.length_toList, Vector.length_toList])
  exact eq_of_details fits other (bytes_injective kinds) (Vector.toList_inj.mp resources) details

end AgentCommand

/-! ### One digest, one command -/

/-- SHA-256 does not collide on what is digested for the two commands. -/
structure NoCollision (sha256 : List UInt8 → Digest) (first second : ExecuteCommand) : Prop where
  inner : sha256 first.command.preimage = sha256 second.command.preimage →
    first.command.preimage = second.command.preimage
  outer : first.commandDigest sha256 = second.commandDigest sha256 →
    executePreimage sha256 first.commandId first.command =
      executePreimage sha256 second.commandId second.command

theorem same_command {sha256 : List UInt8 → Digest} {first second : ExecuteCommand}
    (fits : first.command.Fits) (other : second.command.Fits) (free : NoCollision sha256 first second)
    (same : first.commandDigest sha256 = second.commandDigest sha256) :
    first.commandId = second.commandId ∧ first.command = second.command := by
  have fields := List.append_cancel_left (free.outer same)
  obtain ⟨ids, digests⟩ := List.append_inj fields (by rw [Vector.length_toList, Vector.length_toList])
  have commands := free.inner (Vector.toList_inj.mp digests)
  exact ⟨Vector.toList_inj.mp ids, AgentCommand.preimage_injective fits other commands⟩

/-- **A digest binds one command with its id.** Two commands with one digest are the same command under the
same id; and a grant that one of them is executed under does not let the other be executed, whatever the
contexts. -/
theorem digest_binds {sha256 : List UInt8 → Digest} {first second : ExecuteCommand}
    (fits : first.command.Fits) (other : second.command.Fits) (free : NoCollision sha256 first second) :
    (first.commandDigest sha256 = second.commandDigest sha256 →
      first.commandId = second.commandId ∧ first.command = second.command) ∧
    ∀ (digests : Digests) (context later : ExecutionContext) (authorized again : AuthorizedCommand),
      validateExecuteCommand (digests.hashing sha256) first context = .ok authorized →
      validateExecuteCommand (digests.hashing sha256) second later = .ok again →
      first.grant = second.grant →
      authorized.commandId = again.commandId ∧ authorized.command = again.command := by
  refine ⟨same_command fits other free, ?_⟩
  intro digests context later authorized again passed valid grants
  obtain ⟨rfl, -, -, -, -, digest, -⟩ := validateExecuteCommand_ok passed
  obtain ⟨rfl, -, -, -, -, bound, -⟩ := validateExecuteCommand_ok valid
  rw [grants, bound] at digest
  exact same_command fits other free digest.symm

/-- A sum in place of SHA-256, of as many bytes. -/
def sampleDigest (bytes : List UInt8) : Digest := .replicate 32 (bytes.foldl (· + ·) 0)

/-- A resource of audio, to listen and to talk. -/
theorem digest_binds_audio :
    let listen := ExecuteCommand.sample 1 (.startAudio (.replicate 16 1) .listen)
    let talk := ExecuteCommand.sample 1 (.startAudio (.replicate 16 1) .talk)
    listen.commandDigest sampleDigest = talk.commandDigest sampleDigest →
      listen.commandId = talk.commandId ∧ listen.command = talk.command :=
  (@digest_binds sampleDigest (.sample 1 (.startAudio (.replicate 16 1) .listen))
    (.sample 1 (.startAudio (.replicate 16 1) .talk)) trivial trivial
    ⟨fun collision => absurd collision (by decide),
      fun collision => absurd collision (by decide +kernel)⟩).1

end MiniRemoteDesktop.Agent
