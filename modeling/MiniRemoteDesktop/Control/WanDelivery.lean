/-
**Acknowledgements of control input over the WAN route.**

The controller moves on in a lane only when an event was acknowledged as accepted. The target uses a
sequence number up when it first sees it, whatever becomes of the acknowledgement. So the target is level
with the controller or one event behind it, and it is level where an event was taken that the controller
does not know of: from then on the lane is stuck.

* `control_lane_ready` — **exactly when the next event of a lane goes through**; and in every run an event
  is handed to the injector at most once, and accepted only if it was injected.
* `lost_acknowledgement_wedges` — one lost acknowledgement, and the lane refuses the next event.
-/

import MiniRemoteDesktop.Lib.Checked
import MiniRemoteDesktop.Lib.Execution
import MiniRemoteDesktop.Control.WanInput

namespace MiniRemoteDesktop.Control

open WanControl (finish loseRoute)
open List (map_map mem_cons mem_map)
open Option (bind_eq_some_iff bind_some isSome_iff_exists map_eq_some_iff)
open Function (update_of_ne update_self)
open UInt64 (le_iff_toNat_le le_of_eq le_of_lt le_refl le_trans lt_iff_toNat_lt lt_irrefl ne_of_lt
  not_lt toNat_add toNat_inj)
open Execution
open Input (ControlInputLane)
open Session (ControlSequenceDecision ControlSequenceError replayFloor)
open AuthenticatedControlReplayState (InOrder ReplayCall lastSequence lt_max_of_ne mem_orderedOf
  mem_realtimeOf new_remembers observe orderedOf realtimeOf)

/-! ### What the target saw on a lane -/

/-- The transport lane of a replay lane. -/
def AuthenticatedControlReplayLane.transport : AuthenticatedControlReplayLane → TransportLane
  | .reliable | .cleanup => .controlReliable
  | .realtime => .controlRealtime

/-- The replay lane of an envelope. -/
abbrev ControlWire.replayLane {E : Type} (wire : ControlWire E) (envelope : ControlEnvelope E) :
    AuthenticatedControlReplayLane := .fromInputLane (wire.eventLane envelope.event)

theorem ControlWire.replayLane_transport {E : Type} (wire : ControlWire E) (envelope : ControlEnvelope E) :
    (wire.replayLane envelope).transport = wire.laneOf envelope := by
  unfold replayLane laneOf
  cases wire.eventLane envelope.event <;> rfl

/-- The calls of one transport lane. -/
def laneCalls : TransportLane → List ReplayCall → List ReplayCall
  | .controlReliable, calls => orderedOf calls
  | .controlRealtime, calls => realtimeOf calls

variable {lane : TransportLane} {call : ReplayCall}

theorem mem_laneCalls {calls : List ReplayCall} :
    call ∈ laneCalls lane calls ↔ call ∈ calls ∧ call.lane.transport = lane := by
  cases lane with
  | controlReliable =>
    refine mem_orderedOf.trans (and_congr_right fun _ => ?_)
    cases call.lane <;> decide
  | controlRealtime =>
    refine mem_realtimeOf.trans (and_congr_right fun _ => ?_)
    cases call.lane <;> decide

theorem laneCalls_cons (lane : TransportLane) (call : ReplayCall) (calls : List ReplayCall) :
    laneCalls lane (call :: calls) =
      if call.lane.transport = lane then call :: laneCalls lane calls else laneCalls lane calls := by
  cases lane <;> cases kind : call.lane <;>
    simp [laneCalls, orderedOf, realtimeOf, kind, AuthenticatedControlReplayLane.transport]

/-- The last sequence number that the target used up on a lane. -/
def usedUp (lane : TransportLane) (seen : List ReplayCall) : UInt64 := lastSequence (laneCalls lane seen)

theorem usedUp_cons_self (seen : List ReplayCall) (on : call.lane.transport = lane) :
    usedUp lane (call :: seen) = call.sequence := by
  unfold usedUp
  rw [laneCalls_cons, if_pos on]
  rfl

theorem usedUp_cons_other (seen : List ReplayCall) (off : call.lane.transport ≠ lane) :
    usedUp lane (call :: seen) = usedUp lane seen := by
  simp [usedUp, laneCalls_cons, off]

variable {commitment : Session.Commitment} {sequence eventId : UInt64}

section Remembered

variable {replay : AuthenticatedControlReplayState} {seen : List ReplayCall}
  (remembers : replay.Remembers seen)

include remembers

theorem inOrder_lane (lane : TransportLane) : InOrder (laneCalls lane seen) := by
  cases lane with
  | controlReliable => exact remembers.ordered.inOrder
  | controlRealtime => exact remembers.current.inOrder

theorem le_usedUp (listed : call ∈ seen) :
    call.sequence ≤ usedUp call.lane.transport seen :=
  (inOrder_lane remembers _).le_last call (mem_laneCalls.mpr ⟨listed, rfl⟩)

theorem unique_on_lane {first second : ReplayCall} (one : first ∈ seen) (other : second ∈ seen)
    (lane : first.lane.transport = second.lane.transport) (same : first.sequence = second.sequence) :
    first = second :=
  (inOrder_lane remembers second.lane.transport).unique (mem_laneCalls.mpr ⟨one, lane⟩)
    (mem_laneCalls.mpr ⟨other, rfl⟩) same

/-- A retry whose acknowledgement is cached finds the one of the call that was seen first. -/
theorem cached_retry {lane : AuthenticatedControlReplayLane} {ack : List UInt8}
    (retry : (replay.observe lane sequence eventId commitment).2 = .ok .exactRetry)
    (cached : replay.cachedAck lane sequence = some ack) :
    ∃ call ∈ seen, call.lane = lane ∧ call.sequence = sequence ∧ call.ack = ack := by
  obtain ⟨call, listed, realtime, same, -, -, found⟩ :=
    remembers.replaySafe.retry lane sequence eventId commitment retry
  have lanes : call.lane = lane := by
    by_cases isRealtime : lane = .realtime
    · exact (realtime.mpr isRealtime).trans isRealtime.symm
    · obtain ⟨-, other, among, on, number⟩ :=
        remembers.ordered.acked lane sequence isRealtime (Option.isSome_of_eq_some cached)
      have ordered : call ∈ orderedOf seen := mem_orderedOf.mpr
        ⟨listed, fun is => isRealtime (realtime.mp is)⟩
      simp [remembers.ordered.inOrder.unique ordered among (same.trans number.symm), on]
  exact ⟨call, listed, lanes, same, Option.some.inj ((found lanes).symm.trans cached)⟩

end Remembered

/-! ### The invariant -/

namespace WanControl

variable {E : Type} {wire : ControlWire E} {authorization : ControlAuthorization}
  {state : WanControl E}

/-- What tells events apart: their lane, their sequence number and their identifier. -/
def eventKey (wire : ControlWire E) (envelope : ControlEnvelope E) : TransportLane × UInt64 × UInt64 :=
  (wire.laneOf envelope, envelope.sequence, envelope.eventId)

def callKey (call : ReplayCall) : TransportLane × UInt64 × UInt64 :=
  (call.lane.transport, call.sequence, call.eventId)

/-- The call for an envelope, with its acknowledgement. -/
abbrev callOf (wire : ControlWire E) (envelope : ControlEnvelope E) (ack : List UInt8) : ReplayCall :=
  ⟨wire.replayLane envelope, envelope.sequence, envelope.eventId, wire.commitment envelope, ack⟩

theorem callKey_callOf (wire : ControlWire E) (envelope : ControlEnvelope E) (ack : List UInt8) :
    callKey (callOf wire envelope ack) = eventKey wire envelope := by
  show (_, _, _) = (_, _, _)
  rw [wire.replayLane_transport]

/-- **An acknowledgement is vouched for**: it names an event that was signed, and if it accepts, that
event was injected. -/
def Vouched (wire : ControlWire E) (signed : List (ControlEnvelope E))
    (injections : List (ControlEnvelope E × Option Nat)) (lane : TransportLane) (payload : List UInt8) :
    Prop :=
  ∃ ack, wire.decodeAck payload = some ack ∧ (∃ envelope ∈ signed, envelope.eventId = ack.eventId) ∧
    (ack.accepted = true → ∃ envelope, (envelope, some ack.eventCount) ∈ injections ∧
      eventKey wire envelope = (lane, ack.sequence, ack.eventId))

variable {payload : List UInt8}

theorem Vouched.mono {signed longer : List (ControlEnvelope E)}
    {injections more : List (ControlEnvelope E × Option Nat)}
    (vouched : Vouched wire signed injections lane payload)
    (lasts : ∀ envelope ∈ signed, envelope ∈ longer)
    (grows : ∀ injection ∈ injections, injection ∈ more) : Vouched wire longer more lane payload := by
  obtain ⟨ack, read, ⟨envelope, listed, named⟩, accepted⟩ := vouched
  refine ⟨ack, read, ⟨envelope, lasts envelope listed, named⟩, fun accepts => ?_⟩
  obtain ⟨other, injected, key⟩ := accepted accepts
  exact ⟨other, grows _ injected, key⟩

theorem denial_vouched {signed : List (ControlEnvelope E)} {envelope : ControlEnvelope E}
    (listed : envelope ∈ signed) (injections : List (ControlEnvelope E × Option Nat))
    (lane : TransportLane) (code : RemoteReasonCode) (issuedAtMs : Nat) :
    Vouched wire signed injections lane (signedAck wire envelope (.error code) issuedAtMs) :=
  ⟨_, wire.decode_encode _, ⟨envelope, listed, rfl⟩, fun accepts => nomatch accepts⟩

/-- **The controller's part**: everything in flight was signed, with the number that its lane has or
had. -/
structure Controlled (wire : ControlWire E) (state : WanControl E) : Prop where
  requested : ∀ envelope ∈ state.requests, envelope ∈ state.signed
  sending : ∀ lane send, state.sending lane = some send → send.envelope ∈ state.signed ∧
    wire.laneOf send.envelope = lane ∧ send.envelope.sequence = state.sender.sequenceFor lane
  ahead : ∀ envelope ∈ state.signed, envelope.sequence ≤ state.sender.sequenceFor (wire.laneOf envelope)
  positive : ∀ lane, 0 < state.sender.sequenceFor lane
  counter : state.sender.nextEventId = UInt64.ofNat (state.drawn + 1)
  /-- As long as the counter of event identifiers has not wrapped, they are all different. -/
  distinct : state.drawn < 2 ^ 64 → (state.signed.Pairwise fun later earlier =>
    earlier.eventId < later.eventId) ∧ ∀ envelope ∈ state.signed, envelope.eventId.toNat ≤ state.drawn

/-- **The target's part**: what it saw was signed, and what it answers is vouched for. -/
structure Taken (wire : ControlWire E) (state : WanControl E) : Prop where
  remembers : state.replay.Remembers state.seen
  seen : ∀ call ∈ state.seen, call.sequence ≠ UInt64.ofNat (2 ^ 64 - 1) ∧
    Vouched wire state.signed state.injections call.lane.transport call.ack ∧
    ∃ envelope ∈ state.signed, eventKey wire envelope = callKey call
  acks : ∀ frame ∈ state.acks, Vouched wire state.signed state.injections frame.lane frame.payload
  injected : (state.injections.map fun injection => eventKey wire injection.1).Sublist
    (state.seen.map callKey)
  injectedSigned : ∀ injection ∈ state.injections, injection.1 ∈ state.signed

/-- **The two parties together**: the target is level with the controller on each lane, or one event
behind, and every accepted event was injected. -/
structure Sound (wire : ControlWire E) (state : WanControl E) : Prop where
  controlled : state.Controlled wire
  taken : state.Taken wire
  paced : ∀ lane, usedUp lane state.seen = state.sender.sequenceFor lane ∨
    (usedUp lane state.seen).toNat + 1 = (state.sender.sequenceFor lane).toNat
  results : ∀ envelope count, (envelope, .ok count) ∈ state.results → envelope ∈ state.signed ∧
    ∃ other, (other, some count) ∈ state.injections ∧ eventKey wire other = eventKey wire envelope

theorem new_sound (replayExpiresAtMs : UInt64) :
    (new replayExpiresAtMs : WanControl E).Sound wire where
  controlled :=
    { requested := fun _ listed => nomatch listed
      sending := fun _ _ found => nomatch found
      ahead := fun _ listed => nomatch listed
      positive := fun lane => by cases lane <;> exact (by decide : (0 : UInt64) < 1)
      counter := rfl
      distinct := fun _ => ⟨.nil, fun _ listed => nomatch listed⟩ }
  taken :=
    { remembers := new_remembers _
      seen := fun _ listed => nomatch listed
      acks := fun _ listed => nomatch listed
      injected := .slnil
      injectedSigned := fun _ listed => nomatch listed }
  paced lane := by cases lane <;> exact .inr rfl
  results _ _ listed := nomatch listed

/-! ### The controller's steps -/

variable {send : ControlSend E} {next : WanControl E}

/-- **What an action of the controller on a lane leaves alone**: the target, and the other lane. -/
structure Acts (lane : TransportLane) (state next : WanControl E) : Prop where
  replay : next.replay = state.replay
  seen : next.seen = state.seen
  acks : next.acks = state.acks
  injections : next.injections = state.injections
  signed : ∀ envelope ∈ state.signed, envelope ∈ next.signed
  results : ∀ result ∈ state.results, result ∈ next.results
  elsewhere : ∀ other, other ≠ lane → next.sending other = state.sending other

/-- **A turn with the event of a lane**: its send goes on, or it ends, with a success only where the event
was injected. -/
inductive Turn (wire : ControlWire E) (lane : TransportLane) (send : ControlSend E) (state : WanControl E) :
    WanControl E → Prop
  | goesOn (requests : List (ControlEnvelope E)) (more : ControlSend E) :
      more.envelope = send.envelope →
      (∀ request ∈ requests, request = send.envelope ∨ request ∈ state.requests) →
      Turn wire lane send state
        { state with requests, sending := Function.update state.sending lane (some more) }
  | ends (result : ControlResult) :
      (∀ count, result = .ok count → ∃ other, (other, some count) ∈ state.injections ∧
        eventKey wire other = (lane, send.envelope.sequence, send.envelope.eventId)) →
      Turn wire lane send state (state.finish lane send result)

theorem Turn.acts (turn : Turn wire lane send state next) : Acts lane state next := by
  cases turn with
  | goesOn =>
    exact ⟨rfl, rfl, rfl, rfl, fun _ => id, fun _ => id, fun _ differs => update_of_ne differs _ _⟩
  | ends =>
    exact ⟨rfl, rfl, rfl, rfl, fun _ => id, fun _ listed => .tail _ listed,
      fun _ differs => update_of_ne differs _ _⟩

theorem loseRoute_turn (state : WanControl E) (lane : TransportLane) (send : ControlSend E) :
    Turn wire lane send state (state.loseRoute lane send) := by
  unfold loseRoute
  split
  · exact .goesOn _ _ rfl fun _ => .inr
  · exact .ends _ fun _ same => nomatch same

theorem transmit_turn (state : WanControl E) (lane : TransportLane) (send : ControlSend E)
    (outcome : TransportSendOutcome) : Turn wire lane send state (state.transmit lane send outcome) := by
  cases outcome with
  | enqueued | replacedStale => exact .goesOn _ _ rfl fun _ listed => mem_cons.mp listed
  | backpressured => exact loseRoute_turn state lane send
  | closed => exact .ends _ fun _ same => nomatch same

variable {count : Nat}

/-- An acknowledgement that is accepted names the event. -/
theorem validateAck_ok {request : ControlEnvelope E} {bytes : List UInt8} {nowMs : Nat}
    (valid : validateAck wire authorization request bytes nowMs = .ok count) :
    ∃ ack, wire.decodeAck bytes = some ack ∧ ack.accepted = true ∧ ack.sequence = request.sequence ∧
      ack.eventId = request.eventId ∧ ack.eventCount = count := by
  unfold validateAck at valid
  split at valid
  · cases valid
  rename_i ack read
  obtain ⟨-, valid⟩ := Checked.refused_ok valid
  obtain ⟨matches', valid⟩ := Checked.refused_ok valid
  push Not at matches'
  split at valid
  next accepted =>
    obtain ⟨-, valid⟩ := Checked.refused_ok valid
    split at valid
    · exact ⟨ack, read, accepted, matches'.1, matches'.2.1, Except.ok.inj valid⟩
    · cases valid
  · obtain ⟨-, ⟨⟩⟩ := Checked.refused_ok valid

theorem Taken.receive_turn (taken : state.Taken wire) {frame : AckFrame} (listed : frame ∈ state.acks)
    (send : ControlSend E) (framesLeft nowMs : Nat) :
    Turn wire frame.lane send state
      (state.receive wire authorization frame.lane send framesLeft frame nowMs) := by
  unfold WanControl.receive
  split
  · split
    · exact .ends _ fun _ same => nomatch same
    · exact .goesOn _ _ rfl fun _ => .inr
  unfold conclude
  split
  · exact loseRoute_turn state frame.lane send
  · refine .ends _ fun count answered => ?_
    obtain ⟨ack, read, accepted, sequence, eventId, rfl⟩ := validateAck_ok answered
    obtain ⟨vouching, read', -, injected⟩ := taken.acks frame listed
    cases Option.some.inj (read'.symm.trans read)
    simp [← sequence, ← eventId, injected accepted]

theorem sequenceFor_advance_self (sender : WanControlSenderState) (lane : TransportLane) :
    (sender.advance lane).sequenceFor lane = saturatingSucc (sender.sequenceFor lane) := by
  cases lane <;> rfl

theorem sequenceFor_advance_other (sender : WanControlSenderState) {other : TransportLane}
    (differs : other ≠ lane) : (sender.advance lane).sequenceFor other = sender.sequenceFor other := by
  cases lane <;> cases other <;> first | rfl | exact absurd rfl differs

theorem sequenceFor_draw (state : WanControl E) (lane : TransportLane) :
    state.draw.sender.sequenceFor lane = state.sender.sequenceFor lane := by
  cases lane <;> rfl

theorem saturatingSucc_toNat {value : UInt64} (differs : value ≠ .ofNat (2 ^ 64 - 1)) :
    (saturatingSucc value).toNat = value.toNat + 1 := by
  have below := lt_max_of_ne differs
  rw [saturatingSucc, if_neg differs, toNat_add]
  show (value.toNat + 1) % 2 ^ 64 = _
  omega

theorem le_saturatingSucc (value : UInt64) : value ≤ saturatingSucc value := by
  by_cases top : value = .ofNat (2 ^ 64 - 1)
  · simp [saturatingSucc, top]
  · simp [le_iff_toNat_le, saturatingSucc_toNat top]

theorem finish_sequence (lane other : TransportLane) (send : ControlSend E) (result : ControlResult) :
    state.sender.sequenceFor other ≤ (state.finish lane send result).sender.sequenceFor other := by
  unfold finish
  split
  · by_cases here : other = lane
    · simp [here, sequenceFor_advance_self, le_saturatingSucc _]
    · simp [sequenceFor_advance_other state.sender here]
  · exact le_refl _

theorem Controlled.turn (controlled : state.Controlled wire) (busy : state.sending lane = some send)
    (turn : Turn wire lane send state next) : next.Controlled wire := by
  obtain ⟨signed, on, number⟩ := controlled.sending lane send busy
  cases turn with
  | goesOn requests more same among =>
    refine ⟨fun request listed => ?_, fun other found held => ?_, controlled.ahead, controlled.positive,
      controlled.counter, controlled.distinct⟩
    · rcases among request listed with rfl | listed
      · exact signed
      · exact controlled.requested request listed
    · dsimp only at held
      by_cases here : other = lane
      · subst here
        rw [update_self] at held
        cases held
        rw [same]
        exact ⟨signed, on, number⟩
      · rw [update_of_ne here] at held
        exact controlled.sending _ _ held
  | ends result =>
    refine ⟨controlled.requested, fun other found held => ?_, fun envelope listed => ?_, fun other => ?_,
      ?_, controlled.distinct⟩
    · unfold finish at held ⊢
      dsimp only at held ⊢
      by_cases here : other = lane
      · simp [here] at held
      · rw [update_of_ne here] at held
        obtain ⟨listed, on, number⟩ := controlled.sending _ _ held
        refine ⟨listed, on, number.trans ?_⟩
        split
        · exact (sequenceFor_advance_other state.sender here).symm
        · rfl
    · exact le_trans (controlled.ahead envelope listed) (finish_sequence _ _ _ _)
    · exact UInt64.lt_of_lt_of_le (controlled.positive other) (finish_sequence _ _ _ _)
    · refine Eq.trans ?_ controlled.counter
      unfold finish
      split
      · cases lane <;> rfl
      · rfl

/-- Its part stays true for the target. -/
theorem Taken.of_acts (taken : state.Taken wire) (acts : Acts lane state next) : next.Taken wire where
  remembers := by
    simp [acts.replay, acts.seen, taken.remembers]
  seen call listed := by
    rw [acts.seen] at listed
    rw [acts.injections]
    obtain ⟨below, vouched, envelope, among, same⟩ := taken.seen call listed
    exact ⟨below, vouched.mono acts.signed fun _ => id, envelope, acts.signed envelope among, same⟩
  acks frame listed := by
    rw [acts.acks] at listed
    rw [acts.injections]
    exact (taken.acks frame listed).mono acts.signed fun _ => id
  injected := by
    simp [acts.injections, acts.seen, taken.injected]
  injectedSigned injection listed := by
    rw [acts.injections] at listed
    exact acts.signed _ (taken.injectedSigned injection listed)

variable {envelope : ControlEnvelope E}

theorem Taken.injected_seen (taken : state.Taken wire) {count : Option Nat}
    (injected : (envelope, count) ∈ state.injections) :
    ∃ call ∈ state.seen, callKey call = eventKey wire envelope := by
  obtain ⟨call, listed, same⟩ := mem_map.mp (taken.injected.mem
    (List.mem_map_of_mem (f := fun injection => eventKey wire injection.1) injected))
  exact ⟨call, listed, same⟩

/-- **A turn of the controller.** Where the event is accepted, the target was level with the controller,
and both move on. -/
theorem Sound.turn (sound : state.Sound wire) (busy : state.sending lane = some send)
    (turn : Turn wire lane send state next) : next.Sound wire := by
  obtain ⟨signed, on, number⟩ := sound.controlled.sending lane send busy
  refine ⟨sound.controlled.turn busy turn, sound.taken.of_acts turn.acts, fun other => ?_,
    fun envelope count listed => ?_⟩
  · cases turn with
    | goesOn => exact sound.paced other
    | ends result earned =>
      cases result with
      | error code => exact sound.paced other
      | ok count =>
        show usedUp other state.seen = (state.sender.advance lane).sequenceFor other ∨
          (usedUp other state.seen).toNat + 1 = ((state.sender.advance lane).sequenceFor other).toNat
        by_cases here : other = lane
        · obtain ⟨injection, injected, same⟩ := earned count rfl
          obtain ⟨call, listed, key⟩ := sound.taken.injected_seen injected
          obtain ⟨transport, rest⟩ := Prod.mk.inj (key.trans same)
          have below := (sound.taken.seen call listed).1
          have reached := le_usedUp sound.taken.remembers listed
          rw [transport] at reached
          rw [(Prod.mk.inj rest).1, number] at below reached
          rw [here, sequenceFor_advance_self, saturatingSucc_toNat below]
          rcases sound.paced lane with level | behind
          · simp [level]
          · rw [le_iff_toNat_le] at reached
            omega
        · simp [sequenceFor_advance_other state.sender here, sound.paced other]
  · cases turn with
    | goesOn => exact sound.results envelope count listed
    | ends result earned =>
      rcases mem_cons.mp listed with same | listed
      · obtain ⟨rfl, ended⟩ := Prod.mk.inj same
        obtain ⟨other, injected, same⟩ := earned count ended.symm
        refine ⟨signed, other, injected, same.trans ?_⟩
        rw [← on]
        rfl
      · exact sound.results envelope count listed

theorem eventId_toNat (controlled : state.Controlled wire) (few : state.drawn + 1 < 2 ^ 64) :
    state.sender.eventId.toNat = state.drawn + 1 := by
  have drawn : state.sender.nextEventId.toNat = state.drawn + 1 := by
    rw [controlled.counter, UInt64.toNat_ofNat_of_lt' few]
  show (if state.sender.nextEventId ≤ 1 then 1 else state.sender.nextEventId).toNat = state.drawn + 1
  split
  next first =>
    rw [le_iff_toNat_le, drawn] at first
    have one : (1 : UInt64).toNat = 1 := rfl
    omega
  · exact drawn

theorem Controlled.draw (controlled : state.Controlled wire) : state.draw.Controlled wire where
  requested := controlled.requested
  sending lane send busy := by
    rw [sequenceFor_draw]
    exact controlled.sending lane send busy
  ahead envelope listed := by
    rw [sequenceFor_draw]
    exact controlled.ahead envelope listed
  positive lane := by
    simp [sequenceFor_draw, controlled.positive lane]
  counter := by
    show state.sender.nextEventId + 1 = _
    rw [controlled.counter]
    exact (UInt64.ofNat_add (state.drawn + 1) 1).symm
  distinct few := by
    obtain ⟨distinct, bounded⟩ := controlled.distinct (Nat.lt_of_succ_lt few)
    exact ⟨distinct, fun envelope listed => Nat.le_succ_of_le (bounded envelope listed)⟩

theorem Acts.begin (wire : ControlWire E) (authorization : ControlAuthorization) (state : WanControl E)
    (event : E) (nowMs : Nat) :
    Acts (transportLane (wire.eventLane event)) state (state.begin wire authorization event nowMs) := by
  unfold WanControl.begin
  dsimp only
  split
  · exact ⟨rfl, rfl, rfl, rfl, fun _ => id, fun _ => id, fun _ _ => rfl⟩
  · exact ⟨rfl, rfl, rfl, rfl, fun _ listed => .tail _ listed, fun _ => id,
      fun _ differs => update_of_ne differs _ _⟩

theorem Controlled.begin (controlled : state.Controlled wire) (event : E) (nowMs : Nat) :
    (state.begin wire authorization event nowMs).Controlled wire := by
  have drawn := controlled.draw
  unfold WanControl.begin
  dsimp only
  split
  · exact drawn
  refine ⟨fun envelope listed => .tail _ (drawn.requested envelope listed), fun lane send busy => ?_,
    fun envelope listed => ?_, drawn.positive, drawn.counter, fun few => ?_⟩
  · dsimp only at busy ⊢
    by_cases here : lane = transportLane (wire.eventLane event)
    · subst here
      erw [update_self] at busy
      cases busy
      exact ⟨(.head _), rfl, (sequenceFor_draw _ _).symm⟩
    · erw [update_of_ne here] at busy
      obtain ⟨listed, on, same⟩ := drawn.sending lane send busy
      exact ⟨.tail _ listed, on, same⟩
  · rcases mem_cons.mp listed with rfl | listed
    · exact le_of_eq (sequenceFor_draw _ _).symm
    · exact drawn.ahead envelope listed
  · obtain ⟨distinct, bounded⟩ := controlled.distinct (Nat.lt_of_succ_lt few)
    have fresh := eventId_toNat controlled few
    refine ⟨.cons (fun earlier listed => ?_) distinct, fun envelope listed => ?_⟩
    · rw [lt_iff_toNat_lt]
      exact lt_of_le_of_lt (bounded earlier listed) (lt_of_lt_of_eq (Nat.lt_succ_self _) fresh.symm)
    · rcases mem_cons.mp listed with rfl | listed
      · exact fresh.le
      · exact Nat.le_succ_of_le (bounded envelope listed)

/-- A new event gets the number of its lane and an identifier of its own. -/
theorem Sound.begin (sound : state.Sound wire) (event : E) (nowMs : Nat) :
    (state.begin wire authorization event nowMs).Sound wire := by
  have acts := Acts.begin wire authorization state event nowMs
  refine ⟨sound.controlled.begin event nowMs, sound.taken.of_acts acts, fun lane => ?_,
    fun envelope count listed => ?_⟩
  · have same : (state.begin wire authorization event nowMs).sender.sequenceFor lane =
        state.sender.sequenceFor lane := by
      unfold WanControl.begin
      dsimp only
      split <;> exact sequenceFor_draw state lane
    simp [acts.seen, same, sound.paced lane]
  · have earlier : (state.begin wire authorization event nowMs).results = state.results := by
      unfold WanControl.begin
      dsimp only
      split <;> rfl
    rw [earlier] at listed
    obtain ⟨among, injected⟩ := sound.results envelope count listed
    rw [acts.injections]
    exact ⟨acts.signed _ among, injected⟩

/-! ### The target's steps -/

variable {replay : AuthenticatedControlReplayState} {seen : List ReplayCall}

/-- An event that is seen first is remembered with its acknowledgement. -/
theorem take_remembers (remembers : replay.Remembers seen) {lane : AuthenticatedControlReplayLane}
    (first : (replay.observe lane sequence eventId commitment).2 = .ok .firstSeen) (ack : List UInt8) :
    ((replay.observe lane sequence eventId commitment).1.cacheAck lane sequence ack).Remembers
      (⟨lane, sequence, eventId, commitment, ack⟩ :: seen) := by
  have delivered := remembers.deliver ⟨lane, sequence, eventId, commitment, ack⟩
  unfold AuthenticatedControlReplayState.deliver at delivered
  dsimp only at delivered
  rw [if_pos first] at delivered
  rcases delivered with ⟨-, next⟩ | ⟨other, -⟩
  · exact next
  · exact absurd first other

/-- Anything but an event that is seen first leaves the replay state as it was. -/
theorem observe_same (replay : AuthenticatedControlReplayState) (lane : AuthenticatedControlReplayLane)
    (sequence eventId : UInt64) (commitment : Session.Commitment)
    (later : (replay.observe lane sequence eventId commitment).2 ≠ .ok .firstSeen) :
    (replay.observe lane sequence eventId commitment).1 = replay := by
  have observed := replay.observe_observed lane sequence eventId commitment
  generalize replay.observe lane sequence eventId commitment = outcome at observed later
  cases observed with
  | realtime | ordered => exact absurd rfl later
  | retryRealtime | retryOrdered | refused => rfl

theorem Sound.answer (sound : state.Sound wire) (envelope : ControlEnvelope E)
    (vouched : Vouched wire state.signed state.injections (wire.laneOf envelope) payload) :
    (state.answer wire envelope payload).Sound wire where
  controlled := ⟨sound.controlled.requested, sound.controlled.sending, sound.controlled.ahead,
    sound.controlled.positive, sound.controlled.counter, sound.controlled.distinct⟩
  taken := ⟨sound.taken.remembers, sound.taken.seen, fun frame listed => by
    rcases mem_cons.mp listed with rfl | listed
    · exact vouched
    · exact sound.taken.acks frame listed, sound.taken.injected, sound.taken.injectedSigned⟩
  paced := sound.paced
  results := sound.results

variable {moment : TargetMoment}

theorem inject_ok {result : ControlInputLane × Nat}
    (accepted : (inject wire authorization envelope moment).1 = .ok result) :
    (inject wire authorization envelope moment).2.1 = true ∧ moment.injector = some result.2 := by
  unfold inject at accepted ⊢
  split at accepted
  · cases accepted
  rename_i timely
  rw [if_neg timely]
  split at accepted
  · cases accepted
  rename_i healthy
  rw [if_neg healthy]
  split at accepted
  next count answered =>
    rw [answered]
    exact ⟨rfl, congrArg (fun pair => some pair.2) (Except.ok.inj accepted)⟩
  · cases accepted

theorem signedAck_accepted {result : Except RemoteReasonCode (ControlInputLane × Nat)}
    {issuedAtMs : Nat} {ack : WanControlAck}
    (read : wire.decodeAck (signedAck wire envelope result issuedAtMs) = some ack)
    (accepted : ack.accepted = true) :
    ∃ lane count, result = .ok (lane, count) ∧ ack.eventCount = count ∧
      ack.sequence = envelope.sequence ∧ ack.eventId = envelope.eventId := by
  cases Option.some.inj ((wire.decode_encode _).symm.trans read)
  cases result with
  | error code => cases accepted
  | ok pair => exact ⟨pair.1, pair.2, rfl, rfl, rfl, rfl⟩

/-- What the target answers when it observes an envelope. -/
def observed (wire : ControlWire E) (state : WanControl E) (envelope : ControlEnvelope E) :
    AuthenticatedControlReplayState × Except ControlSequenceError ControlSequenceDecision :=
  state.replay.observe (wire.replayLane envelope) envelope.sequence envelope.eventId
    (wire.commitment envelope)

variable (authorization) in
/-- **An event that is seen first** uses up the number that its lane has. -/
theorem Sound.take (sound : state.Sound wire) (moment : TargetMoment)
    (requested : envelope ∈ state.requests) (shaped : envelope.sequence ≠ .ofNat (2 ^ 64 - 1))
    (first : (observed wire state envelope).2 = .ok .firstSeen) :
    (WanControl.take wire authorization { state with replay := (observed wire state envelope).1 }
      envelope moment).Sound wire := by
  have signed := sound.controlled.requested envelope requested
  unfold WanControl.take
  generalize injected : inject wire authorization envelope moment = outcome
  dsimp only
  generalize acknowledged : signedAck wire envelope outcome.1 moment.injectionAtMs = ack
  have remembers := take_remembers sound.taken.remembers first ack
  generalize made : (if outcome.2.1 then (envelope, moment.injector) :: state.injections
    else state.injections) = injections
  have grows : ∀ injection ∈ state.injections, injection ∈ injections := by
    intro injection listed
    rw [← made]
    split
    · exact .tail _ listed
    · exact listed
  have transport := wire.replayLane_transport envelope
  have vouched : Vouched wire state.signed injections (wire.laneOf envelope) ack := by
    rw [← acknowledged]
    refine ⟨_, wire.decode_encode _, ⟨envelope, signed, rfl⟩, fun accepts => ?_⟩
    obtain ⟨lane, count, succeeded, counted, sequence, eventId⟩ :=
      signedAck_accepted (wire.decode_encode _) accepts
    rw [← injected] at succeeded made
    obtain ⟨handed, answered⟩ := inject_ok succeeded
    refine ⟨envelope, ?_, by rw [sequence, eventId]; rfl⟩
    simp [← made, handed, answered, counted]
  refine ⟨⟨sound.controlled.requested, sound.controlled.sending, sound.controlled.ahead,
    sound.controlled.positive, sound.controlled.counter, sound.controlled.distinct⟩,
    ⟨remembers, fun call listed => ?_, fun frame listed => ?_, ?_, fun injection listed => ?_⟩,
    fun lane => ?_, fun other count listed => ?_⟩
  · rcases mem_cons.mp listed with rfl | listed
    · exact ⟨shaped, transport ▸ vouched, envelope, signed, (callKey_callOf wire envelope ack).symm⟩
    · obtain ⟨below, earlier, named⟩ := sound.taken.seen call listed
      exact ⟨below, earlier.mono (fun _ => id) grows, named⟩
  · rcases mem_cons.mp listed with rfl | listed
    · exact vouched
    · exact (sound.taken.acks frame listed).mono (fun _ => id) grows
  · show (injections.map _).Sublist (callKey (callOf wire envelope ack) :: state.seen.map callKey)
    rw [← made, callKey_callOf]
    split
    · exact sound.taken.injected.cons_cons _
    · exact sound.taken.injected.cons _
  · dsimp only [WanControl.answer] at listed
    rw [← made] at listed
    split at listed
    · rcases mem_cons.mp listed with rfl | listed
      · exact signed
      · exact sound.taken.injectedSigned injection listed
    · exact sound.taken.injectedSigned injection listed
  · show usedUp lane (_ :: state.seen) = state.sender.sequenceFor lane ∨
      (usedUp lane (_ :: state.seen)).toNat + 1 = (state.sender.sequenceFor lane).toNat
    by_cases here : wire.laneOf envelope = lane
    · refine .inl ?_
      rw [usedUp_cons_self _ (transport.trans here)]
      have follows := (inOrder_lane remembers lane)
      rw [laneCalls_cons, if_pos (transport.trans here)] at follows
      have above : usedUp lane state.seen < envelope.sequence := follows.1.lt
      have within := sound.controlled.ahead envelope signed
      rw [here] at within
      show envelope.sequence = state.sender.sequenceFor lane
      rw [lt_iff_toNat_lt] at above
      rw [le_iff_toNat_le] at within
      rcases sound.paced lane with level | behind
      · rw [level] at above
        omega
      · exact toNat_inj.mp (by omega)
    · rw [usedUp_cons_other _ fun same => here (transport.symm.trans same)]
      exact sound.paced lane
  · obtain ⟨among, earlier, kept, same⟩ := sound.results other count listed
    exact ⟨among, earlier, grows _ kept, same⟩

section

variable (wire : ControlWire E) (authorization : ControlAuthorization) (state : WanControl E)
  (envelope : ControlEnvelope E) (moment : TargetMoment)

/-- **What becomes of an envelope that is delivered.** -/
inductive Delivered : WanControl E → Prop
  | ignored : Delivered state
  | denied (shaped : wellShaped envelope moment.receivedAtMs = true)
      (withdrawn : ¬ (state.granted ∧ authorization.covers moment.receivedAtMs)) :
      Delivered
        (state.answer wire envelope (signedAck wire envelope (.error .policyChanged) moment.injectionAtMs))
  | taken (shaped : wellShaped envelope moment.receivedAtMs = true)
      (granted : state.granted ∧ authorization.covers moment.receivedAtMs)
      (first : (observed wire state envelope).2 = .ok .firstSeen) :
      Delivered
        (take wire authorization { state with replay := (observed wire state envelope).1 } envelope moment)
  | repeated {ack : List UInt8} (retry : (observed wire state envelope).2 = .ok .exactRetry)
      (cached : state.replay.cachedAck (wire.replayLane envelope) envelope.sequence = some ack) :
      Delivered (state.answer wire envelope ack)
  | refused {error : ControlSequenceError} (shaped : wellShaped envelope moment.receivedAtMs = true)
      (granted : state.granted ∧ authorization.covers moment.receivedAtMs)
      (refused : (observed wire state envelope).2 = .error error) :
      Delivered
        (state.answer wire envelope (signedAck wire envelope (.error .replayDetected) moment.injectionAtMs))

theorem deliver_delivered :
    Delivered wire authorization state envelope moment (state.deliver wire authorization envelope moment) := by
  unfold WanControl.deliver
  split
  · exact .ignored
  rename_i shaped
  have shaped := not_not.mp shaped
  split
  next withdrawn =>
    exact .denied shaped withdrawn
  rename_i granted
  have granted := not_not.mp granted
  have same := observe_same state.replay (wire.replayLane envelope) envelope.sequence envelope.eventId
    (wire.commitment envelope)
  dsimp only
  split
  next first =>
    exact .taken shaped granted first
  next retry =>
    rw [same (by rw [retry]; decide)]
    split
    next ack cached =>
      exact .repeated retry cached
    · exact .ignored
  next error refused =>
    rw [same (by rw [refused]; exact fun first => nomatch first)]
    exact .refused shaped granted refused

end

theorem Sound.deliver (sound : state.Sound wire) (moment : TargetMoment)
    (requested : envelope ∈ state.requests) :
    (state.deliver wire authorization envelope moment).Sound wire := by
  have signed := sound.controlled.requested envelope requested
  have delivered := deliver_delivered wire authorization state envelope moment
  generalize state.deliver wire authorization envelope moment = next at delivered
  cases delivered with
  | ignored => exact sound
  | denied | refused => exact sound.answer envelope (denial_vouched signed _ _ _ _)
  | taken shaped _ first =>
    exact sound.take authorization moment requested (of_decide_eq_true shaped).2.1 first
  | repeated retry cached =>
    refine sound.answer envelope ?_
    obtain ⟨call, listed, lane, -, rfl⟩ := cached_retry sound.taken.remembers retry cached
    have vouched := (sound.taken.seen call listed).2.1
    simpa [lane, wire.replayLane_transport] using vouched

/-! ### Runs -/

section

variable (wire : ControlWire E) (authorization : ControlAuthorization) (state : WanControl E)

/-- **What a step can do**: the controller acts on a lane, in the way of its label, or the target takes a
delivery. -/
inductive Stepped : Step E → WanControl E → Prop
  | begin {event : E} {nowMs : Nat} (free : state.sending (transportLane (wire.eventLane event)) = none) :
      Stepped (.begin event nowMs) (state.begin wire authorization event nowMs)
  | transmit {lane : TransportLane} {send : ControlSend E} {outcome : TransportSendOutcome}
      (busy : state.sending lane = some send) :
      Stepped (.transmit lane outcome) (state.transmit lane send outcome)
  | deliver {index : Nat} {moment : TargetMoment} {envelope : ControlEnvelope E}
      (found : state.requests[index]? = some envelope) :
      Stepped (.deliver index moment) (state.deliver wire authorization envelope moment)
  | receive {index nowMs framesLeft : Nat} {frame : AckFrame} {send : ControlSend E}
      (found : state.acks[index]? = some frame) (busy : state.sending frame.lane = some send)
      (waits : send.framesLeft = some framesLeft) :
      Stepped (.receive index nowMs)
        (state.receive wire authorization frame.lane send framesLeft frame nowMs)
  | lose {lane : TransportLane} {send : ControlSend E} (busy : state.sending lane = some send) :
      Stepped (.lose lane) (state.loseRoute lane send)

end

variable {label : Step E}

theorem step_stepped (taken : state.step wire authorization label = some next) :
    Stepped wire authorization state label next := by
  cases label with
  | begin event nowMs =>
    unfold step at taken
    dsimp only at taken
    split at taken
    · cases taken
    next free =>
      cases taken
      exact .begin (Option.not_isSome_iff_eq_none.mp free)
  | transmit lane outcome =>
    unfold step at taken
    dsimp only at taken
    split at taken
    next busy =>
      cases taken
      exact .transmit busy
    · cases taken
  | deliver index moment =>
    obtain ⟨envelope, found, rfl⟩ := map_eq_some_iff.mp taken
    exact .deliver found
  | receive index nowMs =>
    unfold step at taken
    dsimp only at taken
    split at taken
    · cases taken
    rename_i frame found
    split at taken
    next busy =>
      cases taken
      exact .receive found busy rfl
    · cases taken
  | lose lane =>
    unfold step at taken
    dsimp only at taken
    split at taken
    next busy =>
      cases taken
      exact .lose busy
    · cases taken

/-- **Every step keeps the invariant**, and what the target saw and the controller answered. -/
theorem step_sound (sound : state.Sound wire) (taken : state.step wire authorization label = some next) :
    next.Sound wire ∧ (∀ call ∈ state.seen, call ∈ next.seen) ∧
      ∀ result ∈ state.results, result ∈ next.results := by
  have turned {lane send} (busy : state.sending lane = some send) (turn : Turn wire lane send state next) :
      next.Sound wire ∧ (∀ call ∈ state.seen, call ∈ next.seen) ∧
        ∀ result ∈ state.results, result ∈ next.results :=
    ⟨sound.turn busy turn, fun call listed => turn.acts.seen ▸ listed, turn.acts.results⟩
  cases step_stepped taken with
  | @begin event nowMs =>
    have acts := Acts.begin wire authorization state event nowMs
    exact ⟨sound.begin event nowMs, fun call listed => acts.seen ▸ listed, acts.results⟩
  | transmit busy => exact turned busy (transmit_turn _ _ _ _)
  | receive found busy => exact turned busy (sound.taken.receive_turn (List.mem_of_getElem? found) _ _ _)
  | lose busy => exact turned busy (loseRoute_turn _ _ _)
  | @deliver _ moment envelope found =>
    refine ⟨sound.deliver moment (List.mem_of_getElem? found), ?_⟩
    have delivered := deliver_delivered wire authorization state envelope moment
    generalize state.deliver wire authorization envelope moment = next at delivered
    cases delivered with
    | taken => exact ⟨fun call listed => .tail _ listed, fun _ => id⟩
    | ignored | denied | repeated | refused => exact ⟨fun _ => id, fun _ => id⟩

variable {later : WanControl E}

theorem Sound.run (sound : state.Sound wire)
    (reached : Reach (step wire authorization) always state later) :
    later.Sound wire ∧ ∀ call ∈ state.seen, call ∈ later.seen := by
  refine reached.invariant (I := fun later => later.Sound wire ∧ ∀ call ∈ state.seen, call ∈ later.seen)
    ⟨sound, fun _ => id⟩ fun middle _ _ ⟨sound, seen⟩ _ taken => ?_
  obtain ⟨still, more, -⟩ := step_sound sound taken
  exact ⟨still, fun call listed => more call (seen call listed)⟩

/-! ### The number of an event -/

/-- **The target takes the next number of a lane**, under an identifier it has not seen. -/
theorem observe_next (remembers : replay.Remembers seen) {lane : AuthenticatedControlReplayLane}
    (commitment : Session.Commitment) (next : (usedUp lane.transport seen).toNat + 1 = sequence.toNat)
    (below : sequence ≠ UInt64.ofNat (2 ^ 64 - 1)) (valid : eventId ≠ 0)
    (fresh : ∀ call ∈ seen, call.eventId ≠ eventId) :
    (replay.observe lane sequence eventId commitment).2 = .ok .firstSeen := by
  have positive : sequence ≠ 0 := by
    rintro rfl
    exact absurd next (Nat.succ_ne_zero _)
  by_cases realtime : lane = .realtime
  · subst realtime
    have current := remembers.current
    have newest : replay.realtimeHighestSequence = usedUp .controlRealtime seen := current.highest
    have above : ∀ call ∈ realtimeOf seen, call.sequence.toNat < sequence.toNat := by
      intro call listed
      have under := le_iff_toNat_le.mp (current.inOrder.le_last call listed)
      exact lt_of_le_of_lt under (Nat.lt_of_succ_le next.le)
    have accepts : replay.realtimeWindow.Accepts sequence eventId := by
      refine ⟨positive, valid, ?_, ?_, fun highest top => ?_⟩
      · refine Option.eq_none_iff_forall_not_mem.mpr fun observation found => ?_
        obtain ⟨call, listed, same, -⟩ := current.observed sequence observation found
        exact absurd (same ▸ above call listed) (Nat.lt_irrefl _)
      · refine Option.eq_none_iff_forall_not_mem.mpr fun earlier found => ?_
        obtain ⟨commitment, held⟩ := (current.history.consistent.inverse earlier eventId).mp found
        obtain ⟨call, listed, -, is⟩ := current.observed earlier _ held
        refine fresh call (mem_realtimeOf.mp listed).1 ?_
        exact (congrArg Session.ControlSequenceObservation.eventId is).symm
      · obtain ⟨call, listed, rfl⟩ := mem_map.mp (current.history.greatest highest top).1
        have under := above call listed
        rw [le_iff_toNat_le, replayFloor, Session.saturatingSub_toNat]
        omega
    have notBelow : ¬ sequence < replay.realtimeHighestSequence := by
      rw [newest, lt_iff_toNat_lt]
      have next : (usedUp .controlRealtime seen).toNat + 1 = sequence.toNat := next
      omega
    unfold observe
    rw [if_pos rfl, if_neg notBelow]
    rcases Session.ControlSequenceWindow.observe_cases replay.realtimeWindow sequence eventId commitment with
      ⟨-, answer⟩ | ⟨refuses, -⟩ | ⟨refuses, -⟩
    · rw [answer]
    · exact absurd accepts refuses
    · exact absurd accepts refuses
  · have ordered := remembers.ordered
    have used : usedUp lane.transport seen = lastSequence (orderedOf seen) := by
      cases lane with
      | reliable | cleanup => rfl
      | realtime => exact absurd rfl realtime
    have same : replay.reliableNextSequence = sequence := by
      refine toNat_inj.mp ?_
      rw [ordered.next, ← used, next]
    have unused : replay.reliableSequenceByEvent.lookup eventId = none := by
      refine Option.eq_none_iff_forall_not_mem.mpr fun earlier found => ?_
      obtain ⟨commitment, held⟩ := (ordered.inverse earlier eventId).mp found
      obtain ⟨call, listed, -, is, -⟩ := ordered.observed earlier _ held
      exact fresh call (mem_orderedOf.mp listed).1 (congrArg Prod.fst is)
    unfold observe
    have well : ¬ (sequence = 0 ∨ sequence = UInt64.ofNat (2 ^ 64 - 1) ∨ eventId = 0) := by
      rintro (zero | top | none)
      · exact positive zero
      · exact below top
      · exact valid none
    rw [if_neg realtime, if_neg well, same, unused]
    have notLater : ¬ saturatingSucc sequence < sequence :=
      not_lt.mpr (le_saturatingSucc sequence)
    have notEarlier : ¬ sequence < sequence := lt_irrefl sequence
    by_cases cleanup : lane = .cleanup
    · simp [cleanup, notLater, notEarlier]
    · simp [cleanup, notEarlier]

theorem head_of_last {calls : List ReplayCall} (inOrder : InOrder calls) (listed : call ∈ calls)
    (last : lastSequence calls = call.sequence) : calls.head? = some call := by
  cases calls with
  | nil => cases listed
  | cons first rest => exact congrArg some (inOrder.unique (.head _) listed last)

/-- **The target knows the last event of a lane again.** -/
theorem observe_again (remembers : replay.Remembers seen) (listed : call ∈ seen)
    (last : usedUp call.lane.transport seen = call.sequence) (positive : call.sequence ≠ 0)
    (below : call.sequence ≠ UInt64.ofNat (2 ^ 64 - 1)) (valid : call.eventId ≠ 0) :
    (replay.observe call.lane call.sequence call.eventId call.commitment).2 = .ok .exactRetry := by
  by_cases realtime : call.lane = .realtime
  · have among := mem_realtimeOf.mpr ⟨listed, realtime⟩
    have newest : lastSequence (realtimeOf seen) = call.sequence := by
      rw [realtime] at last
      exact last
    have current := remembers.current
    have held : replay.realtimeWindow.bySequence.lookup call.sequence =
        some ⟨call.eventId, call.commitment⟩ := by
      have accepted := List.mem_map_of_mem (f := (·.sequence)) among
      cases top : replay.realtimeWindow.highest with
      | none =>
        simp [current.history.nothing top] at accepted
      | some highest =>
        obtain ⟨reached, greatest⟩ := current.history.greatest highest top
        obtain ⟨other, within, rfl⟩ := mem_map.mp reached
        have same := UInt64.le_antisymm (newest ▸ current.inOrder.le_last other within)
          (greatest _ accepted)
        have above : replayFloor other.sequence replay.realtimeWindow.width ≤ call.sequence := by
          simp [le_iff_toNat_le, replayFloor, Session.saturatingSub_toNat, same]
        obtain ⟨observation, found⟩ := isSome_iff_exists.mp
          (current.history.remembers _ accepted _ top above)
        obtain ⟨retained, kept, number, is⟩ := current.observed _ _ found
        rw [found, is, current.inOrder.unique kept among number]
    have notBelow : ¬ call.sequence < replay.realtimeHighestSequence := by
      simp [current.highest, newest]
    unfold observe
    rw [if_pos realtime, if_neg notBelow]
    rcases Session.ControlSequenceWindow.observe_cases replay.realtimeWindow call.sequence call.eventId
        call.commitment with ⟨accepts, -⟩ | ⟨-, -, answer⟩ | ⟨-, noRetry, -⟩
    · simp [accepts.2.2.1] at held
    · rw [answer]
    · exact absurd ⟨positive, valid, held⟩ noRetry
  · have ordered := remembers.ordered
    have among := mem_orderedOf.mpr ⟨listed, realtime⟩
    have newest : lastSequence (orderedOf seen) = call.sequence := by
      cases lane : call.lane with
      | reliable | cleanup =>
        rw [lane] at last
        exact last
      | realtime => exact absurd lane realtime
    have held := ordered.newest call (head_of_last ordered.inOrder among newest)
    have past : call.sequence < replay.reliableNextSequence := by
      simp [lt_iff_toNat_lt, ordered.next, newest]
    have within : ¬ replay.reliableNextSequence < call.sequence := not_lt.mpr (le_of_lt past)
    have near : ¬ saturatingSucc replay.reliableNextSequence < call.sequence :=
      not_lt.mpr (le_trans (le_of_lt past) (le_saturatingSucc _))
    unfold observe AuthenticatedControlReplayState.earlier
    rw [if_neg realtime, if_neg (by rintro (zero | top | none) <;> contradiction), if_neg near,
      if_neg within, if_pos past, if_pos past, held]
    simp

theorem laneCalls_eq (lane : TransportLane) (calls : List ReplayCall) :
    laneCalls lane calls = calls.filter fun call => call.lane.transport = lane := by
  induction calls with
  | nil => cases lane <;> rfl
  | cons call rest ih =>
    rw [laneCalls_cons, List.filter_cons, ih]
    by_cases on : call.lane.transport = lane
    · simp
    · rw [if_neg on, if_neg (by rw [decide_eq_false on]; exact Bool.false_ne_true)]

theorem seen_once (remembers : replay.Remembers seen) :
    (seen.map fun call => (call.lane.transport, call.sequence)).Nodup := by
  have ordered : ∀ lane, seen.Pairwise fun later earlier => later.lane.transport = lane →
      earlier.lane.transport = lane → earlier.sequence < later.sequence := by
    intro lane
    have increasing := (inOrder_lane remembers lane).increasing
    rw [laneCalls_eq, List.pairwise_filter] at increasing
    exact increasing.imp fun less one other => less (decide_eq_true one) (decide_eq_true other)
  refine List.pairwise_map.mpr (((ordered .controlReliable).and (ordered .controlRealtime)).imp ?_)
  rintro later earlier ⟨reliable, realtime⟩ same
  obtain ⟨lane, sequence⟩ := Prod.mk.inj same
  have less : earlier.sequence < later.sequence := by
    cases on : later.lane.transport with
    | controlReliable => exact reliable on (lane ▸ on)
    | controlRealtime => exact realtime on (lane ▸ on)
  exact ne_of_lt less sequence.symm

/-! ### While an event is sent -/

/-- The controller is sending the event of an envelope. -/
def Sends (wire : ControlWire E) (state : WanControl E) (envelope : ControlEnvelope E) : Prop :=
  (state.sending (wire.laneOf envelope)).map (·.envelope) = some envelope

/-- An acknowledgement names the event of an envelope. -/
def Names (wire : ControlWire E) (envelope : ControlEnvelope E) (frame : AckFrame) : Prop :=
  frame.lane = wire.laneOf envelope ∧ frame.sequence = envelope.sequence ∧
    (wire.decodeAck frame.payload).map (·.eventId) = some envelope.eventId

/-- **The channel carries an event, and the target takes it**: its envelope is handed over, with as many
attempts as it has; where it arrives while it is valid the target is authorized and healthy and its
injector takes the event; and where its acknowledgement arrives that is still valid. -/
def Carries (wire : ControlWire E) (authorization : ControlAuthorization) (envelope : ControlEnvelope E)
    (state : WanControl E) : Step E → Prop
  | .begin _ _ => True
  | .transmit lane outcome => lane = wire.laneOf envelope → outcome = .enqueued ∨ outcome = .replacedStale ∨
      outcome = .backpressured ∧ ∀ send ∈ state.sending lane, 0 < send.attemptsLeft
  | .lose lane => lane = wire.laneOf envelope → ∀ send ∈ state.sending lane, 0 < send.attemptsLeft
  | .deliver index moment => ∀ request ∈ state.requests[index]?, request = envelope →
      wellShaped envelope moment.receivedAtMs = true →
        (state.granted = true ∧ authorization.covers moment.receivedAtMs = true) ∧
        moment.injectionAtMs ≤ envelope.expiresAtMs ∧ moment.securityIsHealthy = true ∧
        moment.injector.isSome = true
  | .receive index nowMs => ∀ frame ∈ state.acks[index]?, Names wire envelope frame →
      authorization.covers nowMs = true ∧ ∀ ack ∈ wire.decodeAck frame.payload,
        ack.issuedAtMs ≤ saturatingAdd nowMs 2000 ∧ nowMs ≤ ack.expiresAtMs

/-- No event of the lane was taken under the number. -/
def Unused (state : WanControl E) (lane : TransportLane) (sequence : UInt64) : Prop :=
  ∀ call ∈ state.seen, call.lane.transport = lane → call.sequence ≠ sequence

/-- **The lane is ready**: the target has not used up the number that the controller gives next. -/
def Ready (state : WanControl E) (lane : TransportLane) : Prop :=
  state.sender.sequenceFor lane ≠ UInt64.ofNat (2 ^ 64 - 1) ∧
    Unused state lane (state.sender.sequenceFor lane)

/-- **Nothing from before comes between**: the target does not take another event of the lane under the
number, and the controller receives no acknowledgement of another event under it, and not so many under
other numbers that it gives up. -/
def Clear (wire : ControlWire E) (authorization : ControlAuthorization) (envelope : ControlEnvelope E)
    (state : WanControl E) : Step E → Prop
  | .deliver index moment => ∀ request ∈ state.requests[index]?,
      wire.laneOf request = wire.laneOf envelope → request.sequence = envelope.sequence →
      request ≠ envelope → ¬ (wellShaped request moment.receivedAtMs = true ∧ (state.granted = true ∧
          authorization.covers moment.receivedAtMs = true) ∧
          Unused state (wire.laneOf envelope) envelope.sequence)
  | .receive index _ => ∀ frame ∈ state.acks[index]?, frame.lane = wire.laneOf envelope →
      Names wire envelope frame ∨ frame.sequence ≠ envelope.sequence ∧
        ∀ send ∈ state.sending frame.lane, ∀ left ∈ send.framesLeft, 1 < left
  | _ => True

/-- The number of a lane that is ready comes right after the last one that was used up. -/
theorem Sound.next_of_ready (sound : state.Sound wire) (ready : state.Ready lane) :
    (usedUp lane state.seen).toNat + 1 = (state.sender.sequenceFor lane).toNat := by
  rcases sound.paced lane with level | behind
  · unfold usedUp at level
    generalize calls : laneCalls lane state.seen = listed at level
    cases listed with
    | nil =>
      exact absurd level (ne_of_lt (sound.controlled.positive lane))
    | cons call rest =>
      have among := mem_laneCalls.mp (calls ▸ (.head _) : call ∈ laneCalls lane state.seen)
      exact absurd level (ready.2 call among.1 among.2)
  · exact behind

section

variable (wire : ControlWire E) (authorization : ControlAuthorization) (envelope : ControlEnvelope E)
  (state : WanControl E)

/-- A step while an event is sent that the channel carries. -/
def Carried (label : Step E) : Prop :=
  Sends wire state envelope ∧ Carries wire authorization envelope state label

/-- **The condition** on such a step, with the counter of event identifiers not wrapped. -/
def Served (label : Step E) : Prop :=
  Carried wire authorization envelope state label ∧ Clear wire authorization envelope state label ∧
    state.drawn < 2 ^ 64

/-- The event of an envelope was acknowledged to the caller. -/
def Accepted : Prop := ∃ count, (envelope, .ok count) ∈ state.results

/-- The send of an event begins. -/
structure Begins (event : E) (sentAtMs : Nat) (begun : WanControl E) : Prop where
  named : envelope = state.nextEnvelope wire authorization event sentAtMs
  taken : state.step wire authorization (.begin event sentAtMs) = some begun
  sends : Sends wire begun envelope
  few : state.drawn + 1 < 2 ^ 64

/-- **An event goes through**: in every run of allowed steps, an acknowledgement of it that the controller
receives is the end of its send with its acceptance. -/
def GoesThrough (allowed : WanControl E → Step E → Prop) : Prop :=
  ∀ later, Reach (step wire authorization) allowed state later →
    ∀ index nowMs frame final, later.acks[index]? = some frame → Names wire envelope frame →
      allowed later (.receive index nowMs) →
      later.step wire authorization (.receive index nowMs) = some final → Accepted envelope final

end

/-- An acknowledgement that accepts the event of an envelope. -/
def Accepts (wire : ControlWire E) (envelope : ControlEnvelope E) (payload : List UInt8) : Prop :=
  ∃ count issuedAtMs, issuedAtMs ≤ u64Max ∧
    payload = signedAck wire envelope (.ok (wire.eventLane envelope.event, count)) issuedAtMs

/-- **What is true while an event is sent**: what the target has taken under its number is the event
itself, and every acknowledgement that names it accepts it. -/
structure Under (wire : ControlWire E) (authorization : ControlAuthorization) (state : WanControl E)
    (envelope : ControlEnvelope E) : Prop where
  sends : Sends wire state envelope
  signed : envelope ∈ state.signed
  lasts : envelope.expiresAtMs ≤ authorization.expiresAtMs ∧ envelope.expiresAtMs ≤ u64Max
  calls : ∀ call ∈ state.seen, call.lane.transport = wire.laneOf envelope →
    call.sequence = envelope.sequence → Accepts wire envelope call.ack ∧
      call = callOf wire envelope call.ack
  acks : ∀ frame ∈ state.acks, Names wire envelope frame → Accepts wire envelope frame.payload

theorem Under.of_acts (under : Under wire authorization state envelope) (acts : Acts lane state next)
    (sends : Sends wire next envelope) : Under wire authorization next envelope where
  sends := sends
  signed := acts.signed _ under.signed
  lasts := under.lasts
  calls := acts.seen ▸ under.calls
  acks := acts.acks ▸ under.acks

theorem Sends.elsewhere (sends : Sends wire state envelope) (acts : Acts lane state next)
    (differs : lane ≠ wire.laneOf envelope) : Sends wire next envelope := by
  simpa [Sends, acts.elsewhere _ (Ne.symm differs)] using sends

theorem Controlled.eventIds (controlled : state.Controlled wire) (few : state.drawn < 2 ^ 64) :
    (state.signed.map fun envelope => envelope.eventId).Nodup :=
  List.pairwise_map.mpr ((controlled.distinct few).1.imp fun less => (ne_of_lt less).symm)

/-- An acknowledgement of another event does not name this one. -/
theorem names_of_answer {request : ControlEnvelope E} (controlled : state.Controlled wire)
    (few : state.drawn < 2 ^ 64) (signed : envelope ∈ state.signed) (asked : request ∈ state.signed)
    {result : Except RemoteReasonCode (ControlInputLane × Nat)} {issuedAtMs : Nat}
    (names : Names wire envelope
      ⟨wire.laneOf request, request.sequence, signedAck wire request result issuedAtMs⟩) :
    request = envelope := by
  obtain ⟨ack, read, named⟩ := map_eq_some_iff.mp names.2.2
  cases Option.some.inj ((wire.decode_encode _).symm.trans read)
  exact List.inj_on_of_nodup_map (controlled.eventIds few) asked signed named

/-- An acknowledgement that is added and does not name the event changes nothing. -/
theorem Under.answer (under : Under wire authorization state envelope) {request : ControlEnvelope E}
    (accepts : Names wire envelope ⟨wire.laneOf request, request.sequence, payload⟩ →
      Accepts wire envelope payload) :
    Under wire authorization (state.answer wire request payload) envelope where
  sends := under.sends
  signed := under.signed
  lasts := under.lasts
  calls := under.calls
  acks frame listed names := by
    rcases mem_cons.mp listed with rfl | listed
    · exact accepts names
    · exact under.acks frame listed names

/-- **The target never refuses the event**: if it has not taken it, it takes it now, and if it has, it
knows it again. -/
theorem Under.not_refused (under : Under wire authorization state envelope) (sound : state.Sound wire)
    (few : state.drawn < 2 ^ 64) (shaped : wellShaped envelope moment.receivedAtMs = true)
    {error : ControlSequenceError} : (observed wire state envelope).2 ≠ .error error := by
  obtain ⟨positive, below, valid, -⟩ := of_decide_eq_true shaped
  have transport := wire.replayLane_transport envelope
  have within := sound.controlled.ahead envelope under.signed
  obtain ⟨send, sending, same⟩ := map_eq_some_iff.mp under.sends
  have number : envelope.sequence = state.sender.sequenceFor (wire.laneOf envelope) :=
    same ▸ (sound.controlled.sending _ send sending).2.2
  intro refused
  by_cases unused : Unused state (wire.laneOf envelope) envelope.sequence
  · have first : (observed wire state envelope).2 = .ok .firstSeen :=
      observe_next sound.taken.remembers (wire.commitment envelope) ?_ below valid fun call listed same => ?_
    · cases first.symm.trans refused
    · simpa [transport, number] using sound.next_of_ready ⟨number ▸ below, number ▸ unused⟩
    · obtain ⟨-, -, earlier, signed, key⟩ := sound.taken.seen call listed
      obtain ⟨lane, rest⟩ := Prod.mk.inj key
      obtain ⟨sequence, eventId⟩ := Prod.mk.inj rest
      cases List.inj_on_of_nodup_map (sound.controlled.eventIds few) signed under.signed (eventId.trans same)
      exact unused call listed lane.symm sequence.symm
  · unfold Unused at unused
    push Not at unused
    obtain ⟨call, listed, on, sequence⟩ := unused
    have is := (under.calls call listed on sequence).2
    have last : usedUp call.lane.transport state.seen = call.sequence := by
      have reached := le_usedUp sound.taken.remembers listed
      rw [on] at reached ⊢
      rw [sequence, number] at reached ⊢
      rcases sound.paced (wire.laneOf envelope) with level | behind
      · exact level
      · rw [le_iff_toNat_le] at reached
        omega
    have again := observe_again sound.taken.remembers listed last (sequence ▸ positive) (sequence ▸ below)
      (by rw [is]; exact valid)
    rw [is] at again
    simp [observed, again] at refused

/-- What a target does with an event that comes in time. -/
theorem inject_timely {count : Nat} (lasts : envelope.expiresAtMs ≤ authorization.expiresAtMs)
    (injected : moment.injectionAtMs ≤ envelope.expiresAtMs) (healthy : moment.securityIsHealthy = true)
    (answered : moment.injector = some count) :
    inject wire authorization envelope moment =
      (.ok (wire.eventLane envelope.event, count), true, false) := by
  unfold inject
  rw [if_neg (by omega), if_neg fun unhealthy => unhealthy.1 healthy, answered]

/-- **A delivery keeps it.** -/
theorem Under.deliver (under : Under wire authorization state envelope) (sound : state.Sound wire)
    {index : Nat} {request : ControlEnvelope E} (found : state.requests[index]? = some request)
    (served : Served wire authorization envelope state (.deliver index moment)) :
    Under wire authorization (state.deliver wire authorization request moment) envelope := by
  obtain ⟨⟨-, carries⟩, clear, few⟩ := served
  have carries := carries request found
  have clear := clear request found
  have asked := sound.controlled.requested request (List.mem_of_getElem? found)
  have after : (state.deliver wire authorization _ moment).Sound wire :=
    sound.deliver moment (List.mem_of_getElem? found)
  have delivered := deliver_delivered wire authorization state request moment
  generalize state.deliver wire authorization request moment = next at delivered after
  cases delivered with
  | ignored => exact under
  | denied shaped withdrawn =>
    refine under.answer fun names => ?_
    cases names_of_answer sound.controlled few under.signed asked names
    exact absurd (carries rfl shaped).1 withdrawn
  | refused shaped granted refused =>
    refine under.answer fun names => ?_
    cases names_of_answer sound.controlled few under.signed asked names
    exact absurd refused (under.not_refused sound few shaped)
  | repeated retry cached =>
    refine under.answer fun names => ?_
    obtain ⟨call, listed, lane, sequence, rfl⟩ := cached_retry sound.taken.remembers retry cached
    refine (under.calls call listed ?_ (sequence.trans names.2.1)).1
    rw [lane, wire.replayLane_transport]
    exact names.1
  | taken shaped granted first =>
    have transport := wire.replayLane_transport request
    have itself : wire.laneOf request = wire.laneOf envelope → request.sequence = envelope.sequence →
        request = envelope := by
      intro lane sequence
      by_contra other
      refine clear lane sequence other ⟨shaped, granted, fun call listed on same => ?_⟩
      have once := seen_once after.taken.remembers
      refine (List.nodup_cons.mp once).1 (mem_map.mpr ⟨call, listed, ?_⟩)
      exact Prod.ext (on.trans (lane.symm.trans transport.symm)) (same.trans sequence.symm)
    have accepts : request = envelope → Accepts wire envelope
        (signedAck wire request (inject wire authorization request moment).1 moment.injectionAtMs) := by
      rintro rfl
      obtain ⟨-, injected, healthy, answers⟩ := carries rfl shaped
      obtain ⟨count, answered⟩ := isSome_iff_exists.mp answers
      rw [inject_timely under.lasts.1 injected healthy answered]
      exact ⟨count, _, injected.trans under.lasts.2, rfl⟩
    refine ⟨under.sends, under.signed, under.lasts, fun call listed on sequence => ?_,
      fun frame listed names => ?_⟩
    · rcases mem_cons.mp listed with rfl | listed
      · have same := itself (transport.symm.trans on) sequence
        refine ⟨accepts same, ?_⟩
        cases same
        rfl
      · exact under.calls call listed on sequence
    · rcases mem_cons.mp listed with rfl | listed
      · exact accepts (names_of_answer sound.controlled few under.signed asked names)
      · exact under.acks frame listed names

variable {send : ControlSend E}

theorem Sends.found (sends : Sends wire state envelope)
    (busy : state.sending (wire.laneOf envelope) = some send) : send.envelope = envelope := by
  unfold Sends at sends
  rw [busy] at sends
  exact Option.some.inj sends

/-- A turn of the controller keeps it, if the send of the event goes on. -/
theorem Under.turn (under : Under wire authorization state envelope) (busy : state.sending lane = some send)
    (turn : Turn wire lane send state next)
    (going : lane = wire.laneOf envelope → (next.sending lane).isSome) :
    Under wire authorization next envelope := by
  refine under.of_acts turn.acts ?_
  by_cases here : lane = wire.laneOf envelope
  · have going := going here
    subst here
    have same := under.sends.found busy
    cases turn with
    | goesOn requests more kept => simp [Sends, kept, same]
    | ends => simp [finish] at going
  · exact under.sends.elsewhere turn.acts here

/-- **An acknowledgement that accepts the event** is the end of its send. -/
theorem validateAck_accepts (accepts : Accepts wire envelope payload) {nowMs : Nat}
    (current : authorization.covers nowMs = true ∧ ∀ ack ∈ wire.decodeAck payload,
      ack.issuedAtMs ≤ saturatingAdd nowMs 2000 ∧ nowMs ≤ ack.expiresAtMs) :
    ∃ count, validateAck wire authorization envelope payload nowMs = .ok count := by
  obtain ⟨count, issuedAtMs, within, rfl⟩ := accepts
  obtain ⟨covered, current⟩ := current
  have read := wire.decode_encode (ackPayload wire envelope (.ok (wire.eventLane envelope.event, count))
    issuedAtMs)
  obtain ⟨soon, late⟩ := current _ read
  refine ⟨count, ?_⟩
  unfold validateAck signedAck
  rw [read]
  dsimp only
  rw [if_neg (not_not.mpr covered), if_neg ?_]
  · rw [if_pos (by rfl), if_neg ?_, if_pos (by rfl)]
    · rfl
    · exact Bool.false_ne_true
  · have lifetime : wanControlAckLifetimeMs = 2000 := rfl
    unfold ackPayload at soon late ⊢
    dsimp only at soon late ⊢
    unfold saturatingAdd at soon late ⊢
    rintro (sequence | eventId | commitment | early | reversed | expired | long)
    · exact sequence rfl
    · exact eventId rfl
    · exact commitment rfl
    · omega
    · omega
    · omega
    · omega

/-- **A frame that is received** ends the send with its acceptance, or the controller waits on. -/
theorem Under.receive (under : Under wire authorization state envelope) (sound : state.Sound wire)
    {index nowMs framesLeft : Nat} {frame : AckFrame} (found : state.acks[index]? = some frame)
    (busy : state.sending frame.lane = some send) (waits : send.framesLeft = some framesLeft)
    (served : Served wire authorization envelope state (.receive index nowMs)) :
    (¬ Names wire envelope frame ∧ Under wire authorization
      (state.receive wire authorization frame.lane send framesLeft frame nowMs) envelope) ∨
    Accepted envelope (state.receive wire authorization frame.lane send framesLeft frame nowMs) := by
  obtain ⟨⟨-, carries⟩, clear, -⟩ := served
  have listed := List.mem_of_getElem? found
  by_cases names : Names wire envelope frame
  · have same := under.sends.found (names.1 ▸ busy)
    obtain ⟨count, valid⟩ := validateAck_accepts (under.acks frame listed names) (carries frame found names)
    refine .inr ⟨count, ?_⟩
    simpa [WanControl.receive, same, not_not.mpr names.2.1, valid] using same ▸ .head _
  · refine .inl ⟨names, under.turn busy (sound.taken.receive_turn listed _ _ _) fun here => ?_⟩
    obtain ⟨differs, more⟩ := (clear frame found here).resolve_left names
    have long := more send busy framesLeft waits
    have same := under.sends.found (here ▸ busy)
    simp [WanControl.receive, same, differs, Nat.not_le.mpr long]

/-- **Every step that meets the condition keeps it**, until the send ends with the acceptance of the
event. -/
theorem Under.keep (under : Under wire authorization state envelope) (sound : state.Sound wire)
    (served : Served wire authorization envelope state label)
    (taken : state.step wire authorization label = some next) :
    Under wire authorization next envelope ∨ Accepted envelope next := by
  have carries := served.1.2
  cases step_stepped taken with
  | @begin event nowMs free =>
    have acts := Acts.begin wire authorization state event nowMs
    refine .inl (under.of_acts acts (under.sends.elsewhere acts fun here => ?_))
    have sends := under.sends
    simp [Sends, ← here, free] at sends
  | transmit busy =>
    refine .inl (under.turn busy (transmit_turn _ _ _ _) fun here => ?_)
    rcases carries here with rfl | rfl | ⟨rfl, more⟩
    · simp [WanControl.transmit]
    · simp [WanControl.transmit]
    · simp [WanControl.transmit, loseRoute, retry, more _ busy]
  | deliver found => exact .inl (under.deliver sound found served)
  | receive found busy waits => exact (under.receive sound found busy waits served).imp_left And.right
  | lose busy =>
    refine .inl (under.turn busy (loseRoute_turn _ _ _) fun here => ?_)
    simp [loseRoute, retry, carries here _ busy]

variable {event : E} {sentAtMs : Nat} {begun : WanControl E}

/-- What begins with an event is the state after its first lines. -/
theorem Begins.state_begun (begins : Begins wire authorization envelope state event sentAtMs begun) :
    begun = state.begin wire authorization event sentAtMs ∧ state.sending (wire.laneOf envelope) = none := by
  obtain ⟨rfl, taken, -, -⟩ := begins
  cases step_stepped taken with
  | begin free => exact ⟨rfl, free⟩

/-- The identifier of the event is later than those of all events before it. -/
theorem Begins.fresh (begins : Begins wire authorization envelope state event sentAtMs begun)
    (sound : state.Sound wire) : ∀ earlier ∈ state.signed, earlier.eventId ≠ envelope.eventId := by
  intro earlier signed same
  have known := (sound.controlled.distinct (Nat.lt_of_succ_lt begins.few)).2 earlier signed
  have drawn : envelope.eventId = state.sender.eventId := by rw [begins.named]; rfl
  rw [same, drawn, eventId_toNat sound.controlled begins.few] at known
  omega

/-- **An event that goes to a lane that is ready** is under way. -/
theorem Begins.under (begins : Begins wire authorization envelope state event sentAtMs begun)
    (sound : state.Sound wire) (ready : state.Ready (wire.laneOf envelope)) :
    Under wire authorization begun envelope := by
  have fresh := begins.fresh sound
  obtain ⟨rfl, free⟩ := begins.state_begun
  obtain ⟨rfl, -, sends, -⟩ := begins
  have acts := Acts.begin wire authorization state event sentAtMs
  refine ⟨sends, ?_, ?_, fun call listed on sequence => ?_, fun frame listed names => ?_⟩
  · unfold WanControl.begin Sends at *
    dsimp only at *
    split at sends
    · simp [show state.draw.sending = state.sending from rfl, free] at sends
    next signs =>
      rw [if_neg signs]
      exact .head _
  · show min _ _ ≤ _ ∧ min _ _ ≤ _
    unfold saturatingAdd
    omega
  · rw [acts.seen] at listed
    exact absurd sequence (ready.2 call listed on)
  · rw [acts.acks] at listed
    obtain ⟨ack, read, ⟨earlier, signed, named⟩, -⟩ := sound.taken.acks frame listed
    obtain ⟨other, same, identifier⟩ := map_eq_some_iff.mp names.2.2
    cases Option.some.inj (read.symm.trans same)
    exact absurd (named.trans identifier) (fresh _ signed)

/-- **A run that meets the condition**: the event is under way, or it was accepted. -/
theorem Under.run (under : Under wire authorization state envelope) (sound : state.Sound wire)
    (reached : Reach (step wire authorization) (Served wire authorization envelope) state later) :
    later.Sound wire ∧ (Under wire authorization later envelope ∨ Accepted envelope later) := by
  refine reached.invariant (I := fun state => state.Sound wire ∧
    (Under wire authorization state envelope ∨ Accepted envelope state)) ⟨sound, .inl under⟩ ?_
  rintro state label next ⟨sound, going⟩ served taken
  obtain ⟨still, -, kept⟩ := step_sound sound taken
  refine ⟨still, ?_⟩
  rcases going with under | ⟨count, listed⟩
  · exact under.keep sound served taken
  · exact .inr ⟨count, kept _ listed⟩

/-- The other way round: an event that was accepted found its lane ready. -/
theorem Begins.ready_of_accepted (begins : Begins wire authorization envelope state event sentAtMs begun)
    (sound : state.Sound wire) (reached : Reach (step wire authorization) always begun later)
    (accepted : Accepted envelope later) : state.Ready (wire.laneOf envelope) := by
  have fresh := begins.fresh sound
  obtain ⟨rfl, -⟩ := begins.state_begun
  obtain ⟨rfl, -, -, -⟩ := begins
  obtain ⟨after, kept⟩ := (sound.begin event sentAtMs).run reached
  obtain ⟨count, accepted⟩ := accepted
  have acts := Acts.begin wire authorization state event sentAtMs
  obtain ⟨-, other, injected, key⟩ := after.results _ count accepted
  obtain ⟨call, listed, same⟩ := after.taken.injected_seen injected
  obtain ⟨lane, rest⟩ := Prod.mk.inj (same.trans key)
  obtain ⟨sequence, eventId⟩ := Prod.mk.inj rest
  refine ⟨?_, fun earlier before on taken => ?_⟩
  · have below := (after.taken.seen call listed).1
    rw [sequence] at below
    exact below
  · -- The number would belong to an earlier event, whose identifier is another one.
    have one := unique_on_lane after.taken.remembers (kept earlier (acts.seen ▸ before)) listed
      (on.trans lane.symm) (taken.trans sequence.symm)
    obtain ⟨-, -, envelope, signed, named⟩ := sound.taken.seen earlier before
    obtain ⟨-, rest⟩ := Prod.mk.inj named
    rw [one] at rest
    exact fresh _ signed ((Prod.mk.inj rest).2.trans eventId)

/-! ### The result -/

/-- **Control input over the WAN route**, in every state of every run. No number of a lane, and so no
event, is handed to the injector twice. While the counter of event identifiers has not wrapped, an event is
acknowledged to the caller only if it was injected itself. And an event that goes to a free lane is
accepted only if the lane was ready; if it was, it goes through, and in every run that meets the condition
it is accepted or still under way. -/
theorem control_lane_ready (wire : ControlWire E) (authorization : ControlAuthorization)
    (replayExpiresAtMs : UInt64) (state : WanControl E)
    (reached : Reach (step wire authorization) always (new replayExpiresAtMs) state) :
    (state.injections.map fun injection =>
      (wire.laneOf injection.1, injection.1.sequence)).Nodup ∧
    (state.drawn < 2 ^ 64 → ∀ envelope count, (envelope, .ok count) ∈ state.results →
      (envelope, some count) ∈ state.injections) ∧
    ∀ envelope event sentAtMs begun, Begins wire authorization envelope state event sentAtMs begun →
      (∀ later, Reach (step wire authorization) always begun later → Accepted envelope later →
        state.Ready (wire.laneOf envelope)) ∧
      (state.Ready (wire.laneOf envelope) →
        GoesThrough wire authorization envelope begun (Served wire authorization envelope) ∧
        ∀ later, Reach (step wire authorization) (Served wire authorization envelope) begun later →
          Sends wire later envelope ∨ Accepted envelope later) := by
  have sound := ((new_sound replayExpiresAtMs).run reached).1
  refine ⟨?_, fun few envelope count listed => ?_, fun envelope event sentAtMs begun begins => ?_⟩
  · have once := seen_once sound.taken.remembers
    have among := sound.taken.injected.map fun key : TransportLane × UInt64 × UInt64 => (key.1, key.2.1)
    rw [map_map, map_map] at among
    exact List.Nodup.sublist among once
  · obtain ⟨signed, other, injected, key⟩ := sound.results envelope count listed
    obtain ⟨-, rest⟩ := Prod.mk.inj key
    have same := List.inj_on_of_nodup_map (sound.controlled.eventIds few)
      (sound.taken.injectedSigned _ injected) signed (Prod.mk.inj rest).2
    exact same ▸ injected
  · refine ⟨fun later after => begins.ready_of_accepted sound after, fun ready => ?_⟩
    have under := begins.under sound ready
    have first := (step_sound sound begins.taken).1
    refine ⟨fun later served index nowMs frame final found names last taken => ?_,
      fun later served => (under.run first served).2.imp_left Under.sends⟩
    obtain ⟨after, under | ⟨count, listed⟩⟩ := under.run first served
    · cases step_stepped taken with
      | receive there busy waits =>
        cases Option.some.inj (there.symm.trans found)
        exact (under.receive after found busy waits last).resolve_left fun other => other.1 names
    · exact ⟨count, (step_sound after taken).2.2 _ listed⟩

/-! ### An example -/

/-- Numbers in unary. -/
def unary (values : List Nat) : List UInt8 := values.flatMap fun value => List.replicate value 0 ++ [1]

def readUnary : List UInt8 → List Nat
  | [] => []
  | 0 :: rest => (readUnary rest).modifyHead (· + 1)
  | _ :: rest => 0 :: readUnary rest

theorem readUnary_unary (values : List Nat) : readUnary (unary values) = values := by
  induction values with
  | nil => rfl
  | cons value rest ih =>
    induction value with
    | zero => exact congrArg (0 :: ·) ih
    | succ value more => exact congrArg (List.modifyHead (· + 1)) more

def sampleReasons : List (Option RemoteReasonCode) :=
  [none, some .grantExpired, some .policyChanged, some .replayDetected, some .protocolDowngradeBlocked,
    some .routeLost]

def sampleLanes : List (Option ControlInputLane) :=
  [none, some .reliable, some .realtime, some .cleanup]

/-- The fields of an acknowledgement one after the other, the digest last. -/
def sampleEncode (ack : WanControlAck) : List UInt8 :=
  unary (ack.sequence.toNat :: ack.eventId.toNat :: ack.accepted.toNat :: sampleReasons.idxOf ack.reason ::
    sampleLanes.idxOf ack.lane :: ack.eventCount :: ack.issuedAtMs :: ack.expiresAtMs ::
    ack.requestCommitment.toList.map UInt8.toNat)

def sampleDecode (bytes : List UInt8) : Option WanControlAck :=
  match readUnary bytes with
  | sequence :: eventId :: accepted :: reason :: lane :: eventCount :: issuedAtMs :: expiresAtMs :: digest =>
    if sized : (digest.map UInt8.ofNat).toArray.size = 32 then
      some ⟨.ofNat sequence, .ofNat eventId, ⟨_, sized⟩, accepted = 1, (sampleReasons[reason]?).join,
        (sampleLanes[lane]?).join, eventCount, issuedAtMs, expiresAtMs⟩
    else none
  | _ => none

theorem sampleDecode_encode (ack : WanControlAck) : sampleDecode (sampleEncode ack) = some ack := by
  have reasons : (sampleReasons[sampleReasons.idxOf ack.reason]?).join = ack.reason := by
    rcases ack.reason with _ | reason
    · rfl
    · cases reason <;> rfl
  have lanes : (sampleLanes[sampleLanes.idxOf ack.lane]?).join = ack.lane := by
    rcases ack.lane with _ | lane
    · rfl
    · cases lane <;> rfl
  have bit : decide (ack.accepted.toNat = 1) = ack.accepted := by cases ack.accepted <;> rfl
  have digest : (ack.requestCommitment.toList.map UInt8.toNat).map UInt8.ofNat =
      ack.requestCommitment.toList := by simp [Function.comp_def]
  unfold sampleDecode sampleEncode
  simp only [readUnary_unary, digest, reasons, lanes, bit, UInt64.ofNat_toNat]
  rw [dif_pos (by simp)]
  congr 1

/-- The events are the lanes they go through. -/
def sampleWire : ControlWire ControlInputLane where
  eventLane := id
  commitment _ := Vector.replicate 32 0
  fits _ := true
  encodeAck := sampleEncode
  decodeAck := sampleDecode
  decode_encode := sampleDecode_encode

def sampleAuthorization : ControlAuthorization := ⟨1, 10000⟩

def sampleMoment : TargetMoment := ⟨10, 10, true, some 1⟩

section Decidable

variable [DecidableEq E] (wire : ControlWire E) (authorization : ControlAuthorization)
  (envelope : ControlEnvelope E) (state : WanControl E)

instance : Decidable (Sends wire state envelope) :=
  inferInstanceAs (Decidable (_ = _))

instance (frame : AckFrame) : Decidable (Names wire envelope frame) :=
  inferInstanceAs (Decidable (_ ∧ _ ∧ _))

instance (lane : TransportLane) (sequence : UInt64) : Decidable (Unused state lane sequence) :=
  inferInstanceAs (Decidable (∀ _ ∈ state.seen, _))

instance (lane : TransportLane) : Decidable (Ready state lane) :=
  inferInstanceAs (Decidable (_ ∧ _))

instance : (label : Step E) → Decidable (Carries wire authorization envelope state label)
  | .begin _ _ => .isTrue trivial
  | .transmit _ _ => inferInstanceAs (Decidable (_ → _))
  | .lose lane => inferInstanceAs (Decidable (_ → ∀ send ∈ state.sending lane, 0 < send.attemptsLeft))
  | .deliver index _ => inferInstanceAs (Decidable (∀ request ∈ state.requests[index]?, _))
  | .receive index _ => inferInstanceAs (Decidable (∀ frame ∈ state.acks[index]?, _))

instance : (label : Step E) → Decidable (Clear wire authorization envelope state label)
  | .begin _ _ | .transmit _ _ | .lose _ => .isTrue trivial
  | .deliver index _ => inferInstanceAs (Decidable (∀ request ∈ state.requests[index]?, _))
  | .receive index _ => inferInstanceAs (Decidable (∀ frame ∈ state.acks[index]?, _))

instance (label : Step E) : Decidable (Carried wire authorization envelope state label) :=
  inferInstanceAs (Decidable (_ ∧ _))

instance (label : Step E) : Decidable (Served wire authorization envelope state label) :=
  inferInstanceAs (Decidable (_ ∧ _ ∧ _))

end Decidable

/-- The envelope of a reliable event that is sent next. -/
def sampleEnvelope (state : WanControl ControlInputLane) : ControlEnvelope ControlInputLane :=
  state.nextEnvelope sampleWire sampleAuthorization .reliable 10

/-- An event is accepted on the reliable lane, and another one goes out on the realtime lane. -/
def samplePast : List (Step ControlInputLane) :=
  [.begin .reliable 10, .transmit .controlReliable .enqueued, .deliver 0 sampleMoment, .receive 0 10,
    .begin .realtime 10, .transmit .controlRealtime .enqueued]

/-- A reliable event meets backpressure, the acknowledgement of the one before it comes again, both other
requests are delivered, and the acknowledgement of the first attempt is lost. -/
def sampleCourse : List (Step ControlInputLane) :=
  [.transmit .controlReliable .backpressured, .transmit .controlReliable .enqueued, .receive 0 10,
    .deliver 1 sampleMoment, .deliver 2 sampleMoment, .deliver 0 sampleMoment, .lose .controlReliable,
    .transmit .controlReliable .enqueued, .deliver 0 sampleMoment]

/-- An event is sent, and after a course of allowed steps the first acknowledgement names it: the results
once the controller has received that. -/
def sampleView (allowed : ControlEnvelope ControlInputLane → WanControl ControlInputLane →
    Step ControlInputLane → Bool) (course : List (Step ControlInputLane))
    (state : WanControl ControlInputLane) :
    Option (List (ControlEnvelope ControlInputLane × ControlResult)) := do
  let begun ← state.step sampleWire sampleAuthorization (.begin .reliable 10)
  let later ← runChecked (allowed (sampleEnvelope state)) (step sampleWire sampleAuthorization) begun course
  let frame ← later.acks[0]?
  let final ← later.step sampleWire sampleAuthorization (.receive 0 10)
  if Sends sampleWire begun (sampleEnvelope state) ∧ state.drawn + 1 < 2 ^ 64 ∧
      Names sampleWire (sampleEnvelope state) frame ∧
      allowed (sampleEnvelope state) later (.receive 0 10) = true then some final.results
  else none

theorem sampleView_spec {allowed : ControlEnvelope ControlInputLane → WanControl ControlInputLane →
    Step ControlInputLane → Bool} {course : List (Step ControlInputLane)}
    {state : WanControl ControlInputLane}
    {outcome : List (ControlEnvelope ControlInputLane × ControlResult)}
    (viewed : sampleView allowed course state = some outcome) :
    ∃ begun later frame final,
      Begins sampleWire sampleAuthorization (sampleEnvelope state) state .reliable 10 begun ∧
      runChecked (allowed (sampleEnvelope state)) (step sampleWire sampleAuthorization) begun course =
        some later ∧
      later.acks[0]? = some frame ∧ Names sampleWire (sampleEnvelope state) frame ∧
      allowed (sampleEnvelope state) later (.receive 0 10) = true ∧
      later.step sampleWire sampleAuthorization (.receive 0 10) = some final ∧ final.results = outcome := by
  obtain ⟨begun, began, viewed⟩ := bind_eq_some_iff.mp viewed
  obtain ⟨later, ran, viewed⟩ := bind_eq_some_iff.mp viewed
  obtain ⟨frame, found, viewed⟩ := bind_eq_some_iff.mp viewed
  obtain ⟨final, taken, viewed⟩ := bind_eq_some_iff.mp viewed
  split at viewed
  next holds =>
    exact ⟨begun, later, frame, final, ⟨rfl, began, holds.1, holds.2.1⟩, ran, found, holds.2.2.1,
      holds.2.2.2, taken, Option.some.inj viewed⟩
  · cases viewed

/-- **Among other frames**: the event is accepted. -/
theorem control_lane_ready_sample : ∃ past begun later final,
    run (step sampleWire sampleAuthorization) (new 10000) samplePast = some past ∧
      Begins sampleWire sampleAuthorization (sampleEnvelope past) past .reliable 10 begun ∧
      run (step sampleWire sampleAuthorization) begun sampleCourse = some later ∧
      later.step sampleWire sampleAuthorization (.receive 0 10) = some final ∧
      Accepted (sampleEnvelope past) final := by
  have viewed : (run (step sampleWire sampleAuthorization) (new 10000) samplePast).map (fun past =>
      (decide (Ready past .controlReliable), (sampleView (fun envelope state label =>
        Served sampleWire sampleAuthorization envelope state label) sampleCourse past).isSome)) =
        some (true, true) := by decide +kernel
  obtain ⟨past, ran, viewed⟩ := map_eq_some_iff.mp viewed
  obtain ⟨ready, viewed⟩ := Prod.mk.inj viewed
  obtain ⟨_, viewed⟩ := isSome_iff_exists.mp viewed
  obtain ⟨begun, later, frame, final, begins, served, found, names, last, taken, -⟩ := sampleView_spec viewed
  have exactly := control_lane_ready sampleWire sampleAuthorization 10000 past (run_reach ran)
  have reached : Reach _ (Served sampleWire sampleAuthorization (sampleEnvelope past)) _ _ :=
    runChecked_reach served fun _ _ => of_decide_eq_true
  have ready := of_decide_eq_true ready
  exact ⟨past, begun, later, final, ran, begins, run_of_runChecked served, taken,
    ((exactly.2.2 _ _ _ _ begins).2 ready).1 later reached 0 10 frame final found names
      (of_decide_eq_true last) taken⟩

/-- An event is sent on the reliable lane and injected; the acknowledgements of all attempts are lost. -/
def lostAcknowledgements : List (Step ControlInputLane) :=
  [.begin .reliable 10, .transmit .controlReliable .enqueued, .deliver 0 sampleMoment,
    .lose .controlReliable, .transmit .controlReliable .enqueued, .lose .controlReliable,
    .transmit .controlReliable .enqueued, .lose .controlReliable]

/-- **A lost acknowledgement wedges the lane**: the target has used the number up, and refuses the next
event under it. -/
theorem lost_acknowledgement_wedges : ¬ ∀ (wire : ControlWire ControlInputLane)
    (authorization : ControlAuthorization) (replayExpiresAtMs : UInt64)
    (state : WanControl ControlInputLane),
    Reach (step wire authorization) always (new replayExpiresAtMs) state →
    ∀ envelope event sentAtMs begun, Begins wire authorization envelope state event sentAtMs begun →
      GoesThrough wire authorization envelope begun (Carried wire authorization envelope) := by
  intro claimed
  have viewed : (run (step sampleWire sampleAuthorization) (new 10000) lostAcknowledgements).map
      (fun past => (sampleView (fun envelope state label =>
        Carried sampleWire sampleAuthorization envelope state label)
        [.transmit .controlReliable .enqueued, .deliver 0 sampleMoment] past).map fun results =>
          results.all fun result => !result.2.toBool) = some (some true) := by
    decide +kernel
  obtain ⟨past, ran, viewed⟩ := map_eq_some_iff.mp viewed
  obtain ⟨_, viewed, none⟩ := map_eq_some_iff.mp viewed
  obtain ⟨begun, later, frame, final, begins, carried, found, names, last, taken, rfl⟩ := sampleView_spec viewed
  have reached : Reach _ (Carried sampleWire sampleAuthorization (sampleEnvelope past)) _ _ :=
    runChecked_reach carried fun _ _ => of_decide_eq_true
  obtain ⟨count, accepted⟩ := claimed sampleWire sampleAuthorization 10000 past (run_reach ran) _ _ _ _
    begins later reached 0 10 frame final found names (of_decide_eq_true last) taken
  cases List.all_eq_true.mp none _ accepted

end WanControl

end MiniRemoteDesktop.Control
