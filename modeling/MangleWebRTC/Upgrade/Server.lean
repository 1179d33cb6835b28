import MangleWebRTC.Upgrade.IceExchange

/-! # The connection task of `UpgradeWebRTCServer::run`

The server's side of a round, one phase for every await of the task's outer
loop. The candidate handler is registered with the creation of the peer.
-/

namespace MangleWebRTC.Upgrade

open Machine

/-- The task sends JSON forms and receives candidates. -/
abbrev ServerLoop (env : Environment) : Type := IceLoop env.CandidateInit env.Candidate

/-- The await at which the task stands; `succeeded` is the callback `on_success`, and
`failed` the end of a task to which `recv_obj` has returned an error. -/
inductive ServerPhase (env : Environment) where
  | awaitingOffer
  | settingRemote (offer : env.Sdp)
  | creatingAnswer
  | sendingAnswer (answer : env.Sdp)
  | settingLocal (answer : env.Sdp)
  | iceLoop (loop : ServerLoop env)
  | succeeded
  | failed (error : RecvError env.Err)

namespace ServerPhase

variable {env : Environment}

/-- The loop, or `on_success` when it was left by `break`. -/
def ofLoop : Option (ServerLoop env) → ServerPhase env
  | some loop => iceLoop loop
  | none => succeeded

/-- The type at which a phase calls `recv_obj`. -/
def expects : ServerPhase env → Option WireType
  | awaitingOffer => some .sessionDescription
  | iceLoop ⟨_, _, .select⟩ => some .optionIceCandidate
  | _ => none

/-- How far the server's own messages of a round have been handed to the writer. -/
def outStage (phase : ServerPhase env) (round : Nat) : Stage :=
  match phase with
  | sendingAnswer _ | settingLocal _ => .within round
  | iceLoop loop => loop.outStage round
  | succeeded => .before (round + 1)
  | _ => .before round

/-- How far the client's messages of a round have been received. -/
def inStage (phase : ServerPhase env) (round : Nat) : Stage :=
  match phase with
  | awaitingOffer => .before round
  | iceLoop loop => loop.inStage round
  | succeeded => .before (round + 1)
  | _ => .within round

/-- A candidate received and not yet added to the peer. -/
def pending : ServerPhase env → List env.Candidate
  | iceLoop loop => loop.pending
  | _ => []

end ServerPhase

/-- The server's end of a session. -/
abbrev Server (env : Environment) : Type := Endpoint env (ServerPhase env)

/-- What the task does with the result of its call. An offer creates the peer,
with its candidate handler. -/
def Server.receive {env : Environment} (server : Server env) (result : Received env.Value env.Err) :
    Option (Server env) :=
  match server.phase, result with
  | .awaitingOffer, ⟨.sessionDescription, result⟩ =>
      match result with
      -- `new_peer_connection` and `on_ice_candidate`, before any await on the peer.
      | .ok offer => some { server with
          phase := .settingRemote offer, peer := { Peer.new with handler := true } }
      | .error error => some { server with phase := .failed error }
  | .iceLoop loop, ⟨.optionIceCandidate, result⟩ =>
      match result with
      | .ok (some candidate) =>
          some { server with phase := .iceLoop { loop with point := .applying candidate } }
      | .ok none => some { server with phase := .ofLoop loop.afterEnd }
      | .error error => some { server with phase := .failed error }
  | _, _ => none

/-- Steps of the task other than receiving. -/
inductive ServerAction (env : Environment) where
  | setRemoteDescription
  | createAnswer (answer : env.Sdp)
  | sent
  | setLocalDescription
  | addIceCandidate
  | takeIce
  | onSuccessDone

end MangleWebRTC.Upgrade
