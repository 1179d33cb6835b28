import MangleWebRTC.Upgrade.IceExchange

/-! # `UpgradeWebRTCClient::upgrade`

The client's side of a round, one phase for every await of the source.
-/

namespace MangleWebRTC.Upgrade

open Machine

/-- `ClientError<DE>`. -/
inductive ClientError (DE WebRTCError : Type) where
  | webRTCError (error : WebRTCError)
  | ioError (error : IoError)
  | deserializeError (error : DE)
  | unexpectedMessage
  deriving DecidableEq, Repr

/-- `From<RecvError<DE>> for ClientError<DE>`. -/
def ClientError.ofRecvError {DE WebRTCError : Type} :
    RecvError DE → ClientError DE WebRTCError
  | .deserializeError error => .deserializeError error
  | .ioError error => .ioError error

/-- The client sends candidates and receives their JSON form. -/
abbrev ClientLoop (env : Environment) : Type := IceLoop env.Candidate env.CandidateInit

/-- The await at which `upgrade` stands. The handler is registered behind the
candidates that came before the answer, on the way into the loop. Webrtc does not fail. -/
inductive ClientPhase (env : Environment) where
  | start
  | sendingOffer (offer : env.Sdp)
  | settingLocal (offer : env.Sdp)
  | awaitingAnswer (ices : List env.CandidateInit)
  | settingRemote (answer : env.Sdp) (ices : List env.CandidateInit)
  | addingIces (ices : List env.CandidateInit)
  | iceLoop (loop : ClientLoop env)
  | returned
  | failed (error : ClientError env.Err Empty)

namespace ClientPhase

variable {env : Environment}

/-- The loop, or `Ok` when it was left by `break`. -/
def ofLoop : Option (ClientLoop env) → ClientPhase env
  | some loop => iceLoop loop
  | none => returned

/-- The type at which a phase calls `recv_obj`. -/
def expects : ClientPhase env → Option WireType
  | awaitingAnswer _ => some .rtcMessage
  | iceLoop ⟨_, _, .select⟩ => some .optionRtcMessage
  | _ => none

/-- What a phase does with the result of its call. -/
def receive : ClientPhase env → Received env.Value env.Err → Option (ClientPhase env)
  | awaitingAnswer ices, ⟨.rtcMessage, result⟩ =>
      match result with
      | .ok (.sdpAnswer answer) => some (settingRemote answer ices)
      | .ok (.ice candidate) => some (awaitingAnswer (ices ++ [candidate]))
      | .error error => some (failed (.ofRecvError error))
  | iceLoop loop, ⟨.optionRtcMessage, result⟩ =>
      match result with
      | .ok (some (.ice candidate)) => some (iceLoop { loop with point := .applying candidate })
      | .ok none => some (ofLoop loop.afterEnd)
      | .ok (some (.sdpAnswer _)) => some (failed .unexpectedMessage)
      | .error error => some (failed (.ofRecvError error))
  | _, _ => none

/-- How far the client's own messages of a round have been handed to the writer. -/
def outStage (phase : ClientPhase env) (round : Nat) : Stage :=
  match phase with
  | start => .before round
  | iceLoop loop => loop.outStage round
  | returned => .before (round + 1)
  | _ => .within round

/-- How far the server's messages of a round have been received. -/
def inStage (phase : ClientPhase env) (round : Nat) : Stage :=
  match phase with
  | settingRemote _ _ | addingIces _ => .within round
  | iceLoop loop => loop.inStage round
  | returned => .before (round + 1)
  | _ => .before round

/-- Candidates received and not yet added to the peer. -/
def pending : ClientPhase env → List env.CandidateInit
  | awaitingAnswer ices | settingRemote _ ices | addingIces ices => ices
  | iceLoop loop => loop.pending
  | _ => []

end ClientPhase

/-- The client's end of a session. -/
abbrev Client (env : Environment) : Type := Endpoint env (ClientPhase env)

/-- Steps of `upgrade` other than receiving. -/
inductive ClientAction (env : Environment) where
  | createOffer (offer : env.Sdp)
  | sent
  | setLocalDescription
  | setRemoteDescription
  | addIceCandidate
  | registerHandler
  | takeIce
  | upgradeAgain

end MangleWebRTC.Upgrade
