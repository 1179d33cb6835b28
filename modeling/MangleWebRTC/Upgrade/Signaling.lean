import MangleWebRTC.Machine.RoundProtocol
import MangleWebRTC.Upgrade.RoundTrip

/-! # Signaling messages

The two ends exchange values of four types over one connection, in untagged
frames. A frame of the log remembers the upgrade round in which it was sent;
the round is not part of the bytes.
-/

namespace MangleWebRTC.Upgrade

open Machine

/-- `RTCMessage`, which the server sends. -/
inductive RTCMessage (Sdp CandidateInit : Type) where
  | sdpAnswer (answer : Sdp)
  | ice (candidate : CandidateInit)
  deriving DecidableEq, Repr

/-- The types at which objects are sent or received: the offer, the first
answer, the server's candidates and the client's candidates. -/
inductive WireType where
  | sessionDescription
  | rtcMessage
  | optionRtcMessage
  | optionIceCandidate
  deriving DecidableEq, Repr

/-- The values of each type. -/
abbrev WireValue (Sdp Candidate CandidateInit : Type) : WireType → Type
  | .sessionDescription => Sdp
  | .rtcMessage => RTCMessage Sdp CandidateInit
  | .optionRtcMessage => Option (RTCMessage Sdp CandidateInit)
  | .optionIceCandidate => Option Candidate

/-- What the session takes from outside the repository: descriptions and
candidates of webrtc, their serialization, the build profile of the 64-bit
target, and how many bytes each direction of the transport can hold. -/
structure Environment where
  Sdp : Type
  Candidate : Type
  CandidateInit : Type
  Err : Type
  toJson : Candidate → CandidateInit
  codec : Codec WireType (WireValue Sdp Candidate CandidateInit) Err
  overflowChecks : Bool
  clientCapacity : Option Nat
  serverCapacity : Option Nat

namespace Environment

variable (env : Environment)

/-- The values that the two ends of the environment exchange. -/
abbrev Value : WireType → Type := WireValue env.Sdp env.Candidate env.CandidateInit

/-- Sessions run on a target of 64 bits. -/
abbrev target : Target := .usize64 env.overflowChecks

end Environment

/-- One message of a direction: the description that opens a round, a candidate,
or the end-of-candidates marker. -/
inductive Frame (Sdp Item : Type) where
  | opening (round : Nat) (description : Sdp)
  | candidate (round : Nat) (ice : Option Item)
  deriving DecidableEq, Repr

namespace Frame

variable {Sdp Item : Type}

/-- The round that the message belongs to. -/
def round : Frame Sdp Item → Nat
  | opening round _ => round
  | candidate round _ => round

/-- The part that the message has in its round. -/
def part : Frame Sdp Item → RoundPart
  | opening _ _ => .opening
  | candidate _ (some _) => .item
  | candidate _ none => .closing

/-- Between rounds the next message opens the round. -/
theorem advance_before {round : Nat} {frame : Frame Sdp Item} {later : Stage} :
    (Stage.before round).advance frame.part frame.round = some later ↔
      ∃ description, frame = opening round description ∧ later = .within round := by
  cases frame with
  | opening current description =>
      simp only [Stage.advance_eq_some, part, Frame.round, opening.injEq]
      grind
  | candidate current ice => cases ice <;> simp [Stage.advance_eq_some, part]

/-- Within a round the next message is a candidate event; the marker closes the round. -/
theorem advance_within {round : Nat} {frame : Frame Sdp Item} {later : Stage} :
    (Stage.within round).advance frame.part frame.round = some later ↔
      ∃ ice, frame = candidate round ice ∧
        later = if ice.isNone then .before (round + 1) else .within round := by
  cases frame with
  | opening current description => simp [Stage.advance_eq_some, part]
  | candidate current ice =>
      cases ice <;> simp only [Stage.advance_eq_some, part, Frame.round, candidate.injEq] <;> grind

/-- The candidate events of one round, in the order they were sent. -/
def ices (current : Nat) (frames : List (Frame Sdp Item)) : List (Option Item) :=
  frames.filterMap fun
    | opening _ _ => none
    | candidate round ice => if round = current then some ice else none

@[simp] theorem ices_nil (current : Nat) : ices current ([] : List (Frame Sdp Item)) = [] := rfl

@[simp] theorem ices_append (current : Nat) (first second : List (Frame Sdp Item)) :
    ices current (first ++ second) = ices current first ++ ices current second :=
  List.filterMap_append

@[simp] theorem ices_opening (current round : Nat) (description : Sdp)
    (frames : List (Frame Sdp Item)) :
    ices current (opening round description :: frames) = ices current frames := by
  simp [ices]

@[simp] theorem ices_candidate_self (current : Nat) (ice : Option Item)
    (frames : List (Frame Sdp Item)) :
    ices current (candidate current ice :: frames) = ice :: ices current frames := by
  simp [ices]

theorem ices_candidate_of_ne {current round : Nat} (hne : round ≠ current) (ice : Option Item)
    (frames : List (Frame Sdp Item)) :
    ices current (candidate round ice :: frames) = ices current frames := by
  simp [ices, hne]

theorem ices_perm (current : Nat) {first second : List (Frame Sdp Item)}
    (hperm : first.Perm second) : (ices current first).Perm (ices current second) :=
  hperm.filterMap _

/-- Frames of other rounds carry no candidate of this round. -/
theorem ices_eq_nil {current : Nat} {frames : List (Frame Sdp Item)}
    (hrounds : ∀ frame ∈ frames, frame.round ≠ current) : ices current frames = [] := by
  induction frames with
  | nil => rfl
  | cons frame frames ih =>
      have hrest := ih fun later hlater => hrounds later (List.mem_cons_of_mem _ hlater)
      cases frame with
      | opening round description => rwa [ices_opening]
      | candidate round ice =>
          have hne : round ≠ current := hrounds _ List.mem_cons_self
          rwa [ices_candidate_of_ne hne]

theorem none_mem_ices {current : Nat} {frames : List (Frame Sdp Item)} :
    none ∈ ices current frames ↔
      ∃ frame ∈ frames, frame.part = .closing ∧ frame.round = current := by
  induction frames with
  | nil => simp
  | cons frame frames ih =>
      cases frame with
      | opening round description => simp [ih, part]
      | candidate round ice =>
          by_cases hround : round = current
          · subst hround
            cases ice <;> simp [ih, part, Frame.round]
          · cases ice <;> simp [ices_candidate_of_ne hround, ih, part, Frame.round, hround]

end Frame

/-- How the client's messages are encoded: the offer as a session description,
its candidates as `Option<RTCIceCandidate>`. -/
def clientWire (env : Environment) : Frame env.Sdp env.Candidate → (ty : WireType) × env.Value ty
  | .opening _ offer => ⟨.sessionDescription, offer⟩
  | .candidate _ ice => ⟨.optionIceCandidate, ice⟩

/-- How the server's messages are encoded: the answer as an `RTCMessage`, its
candidates as `Option<RTCMessage>`. -/
def serverWire (env : Environment) :
    Frame env.Sdp env.CandidateInit → (ty : WireType) × env.Value ty
  | .opening _ answer => ⟨.rtcMessage, RTCMessage.sdpAnswer answer⟩
  | .candidate _ ice => ⟨.optionRtcMessage, ice.map RTCMessage.ice⟩

end MangleWebRTC.Upgrade
