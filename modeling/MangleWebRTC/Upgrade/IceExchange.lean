import MangleWebRTC.Machine.Mailbox
import MangleWebRTC.Upgrade.Signaling
import Mathlib.Logic.Function.Basic

/-! # The exchange of candidates at one end

What the client's `upgrade` and the server's connection task share: a peer
connection whose gathering feeds a registered handler, the handler's bounded
channel, and a loop that ends when it has both sent and received an
end-of-candidates marker.
-/

namespace MangleWebRTC.Upgrade

open Machine

/-- The state of a peer connection and of its candidate handler. The handler
sends into `mpsc::channel(3)`; webrtc awaits it before the next event. -/
structure Peer (Candidate : Type) where
  remoteDescription : Bool
  gathering : Bool
  ended : Bool
  handler : Bool
  channel : Mailbox (Option Candidate) 3

/-- `new_peer_connection`, without a handler. -/
def Peer.new {Candidate : Type} : Peer Candidate := ⟨false, false, false, false, .empty⟩

/-- A call of `add_ice_candidate`, and whether the remote description was set. -/
structure AddedCandidate (CandidateInit : Type) where
  candidate : CandidateInit
  afterRemote : Bool
  deriving DecidableEq, Repr

/-- One end in one of its rounds. By round it remembers the events its peer
emitted, those that met no handler, and the candidates added to its peer. -/
structure Endpoint (env : Environment) (Phase : Type) where
  round : Nat
  phase : Phase
  peer : Peer env.Candidate
  emitted : Nat → List (Option env.Candidate)
  dropped : Nat → List (Option env.Candidate)
  added : Nat → List (AddedCandidate env.CandidateInit)

namespace Endpoint

variable {env : Environment} {Phase : Type}

/-- An end before its first round. -/
def start (phase : Phase) : Endpoint env Phase :=
  ⟨0, phase, .new, fun _ => [], fun _ => [], fun _ => []⟩

/-- The peer emits a candidate or, once, the end marker. Gathering runs from
`set_local_description` on; an event without a registered handler is dropped. -/
def emit (endpoint : Endpoint env Phase) (ice : Option env.Candidate) :
    Option (Endpoint env Phase) :=
  if endpoint.peer.gathering ∧ ¬ endpoint.peer.ended then
    let emitted := Function.update endpoint.emitted endpoint.round
      (endpoint.emitted endpoint.round ++ [ice])
    -- The handler call waits for a slot of its channel.
    if endpoint.peer.handler then
      some { endpoint with
        peer := { endpoint.peer with
          ended := ice.isNone, channel := endpoint.peer.channel.offer ice }
        emitted := emitted }
    else
      some { endpoint with
        peer := { endpoint.peer with ended := ice.isNone }
        emitted := emitted
        dropped := Function.update endpoint.dropped endpoint.round
          (endpoint.dropped endpoint.round ++ [ice]) }
  else none

/-- A handler call gets a slot of the channel. -/
def enqueue (endpoint : Endpoint env Phase) : Option (Endpoint env Phase) :=
  endpoint.peer.channel.enqueue.map fun channel =>
    { endpoint with peer := { endpoint.peer with channel := channel } }

/-- `peer.add_ice_candidate`. -/
def addIceCandidate (endpoint : Endpoint env Phase) (candidate : env.CandidateInit) :
    Endpoint env Phase :=
  { endpoint with
    added := Function.update endpoint.added endpoint.round
      (endpoint.added endpoint.round ++ [⟨candidate, endpoint.peer.remoteDescription⟩]) }

/-- The next round starts with a new peer connection. -/
def nextRound (endpoint : Endpoint env Phase) (phase : Phase) : Endpoint env Phase :=
  { endpoint with round := endpoint.round + 1, phase := phase, peer := .new }

end Endpoint

/-- Where a loop iteration is: waiting in `select!`, in the arm that sends an
event, or in the arm that applies a received candidate. -/
inductive LoopPoint (Out In : Type) where
  | select
  | sending (ice : Option Out)
  | applying (ice : In)

/-- The loop of a candidate exchange, with its two flags. -/
structure IceLoop (Out In : Type) where
  doneSendingIce : Bool
  doneReceivingIce : Bool
  point : LoopPoint Out In

namespace IceLoop

variable {Out In : Type}

/-- The loop begins with both flags unset. -/
def start : IceLoop Out In := ⟨false, false, .select⟩

/-- After `send_obj` has returned. The absent loop is its `break`. -/
def afterSend (loop : IceLoop Out In) (ice : Option Out) : Option (IceLoop Out In) :=
  match ice with
  | some _ => some { loop with point := .select }
  | none =>
      if loop.doneReceivingIce then none
      else some { loop with doneSendingIce := true, point := .select }

/-- After the end marker of the other end has been received. -/
def afterEnd (loop : IceLoop Out In) : Option (IceLoop Out In) :=
  if loop.doneSendingIce then none
  else some { loop with doneReceivingIce := true, point := .select }

/-- Candidate events sent by this loop: the marker closes the round. -/
def outStage (loop : IceLoop Out In) (round : Nat) : Stage :=
  match loop.doneSendingIce, loop.point with
  -- Without an end marker the round is open; its send closes the round at once.
  | true, _ => .before (round + 1)
  | false, .sending none => .before (round + 1)
  | false, _ => .within round

/-- Candidate events received by this loop. -/
def inStage (loop : IceLoop Out In) (round : Nat) : Stage :=
  if loop.doneReceivingIce then .before (round + 1) else .within round

/-- A received candidate that is not applied yet. -/
def pending (loop : IceLoop Out In) : List In :=
  match loop.point with
  | .applying ice => [ice]
  | _ => []

end IceLoop

end MangleWebRTC.Upgrade
