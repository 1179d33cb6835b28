import MangleWebRTC.Machine.TransitionSystem
import MangleWebRTC.Upgrade.IceExchange

/-! # The connection task of `UpgradeWebRTCServer::run`, with its failures

One phase for every await of the task, and one event for every result the await
can have. The trace records the peer connections the task creates, closes and hands
over, the end markers it processes, and the callbacks it calls.
-/

namespace MangleWebRTC.Upgrade

open Machine

/-- What the connection task takes from outside the repository, with the errors of
the listener and of webrtc. -/
structure ServerEnvironment extends Environment where
  AcceptError : Type
  WebRTCError : Type

namespace ConnectionTask

/-- `ServerError<AE, DE>`. -/
inductive ServerError (env : ServerEnvironment) where
  | acceptError (error : env.AcceptError)
  | badMessage (error : env.Err) (clientId : String)
  | ioError (error : IoError)
  | webRTCError (error : env.WebRTCError)

/-- What the task makes of an error of `recv_obj`. -/
def ServerError.ofRecvError {env : ServerEnvironment} (clientId : String) :
    RecvError env.Err → ServerError env
  | .deserializeError error => .badMessage error clientId
  | .ioError error => .ioError error

/-- The candidates of both directions have been converted with `to_json`. -/
abbrev Loop (env : ServerEnvironment) : Type := IceLoop env.CandidateInit env.CandidateInit

/-- The awaits at which the task owns a peer connection. The last one is
`peer.close()` in `returning!`. -/
inductive RoundPoint (env : ServerEnvironment) where
  | settingRemote (offer : env.Sdp)
  | creatingAnswer
  | sendingAnswer (answer : env.Sdp)
  | settingLocal (answer : env.Sdp)
  | iceLoop (loop : Loop env)
  | closing (error : ServerError env)

/-- The awaits of the task: for an offer, for a new peer, those that own a peer, and the two
callbacks; and its ends. -/
inductive Phase (env : ServerEnvironment) where
  | awaitingOffer
  | creatingPeer (offer : env.Sdp)
  | inRound (peer : Nat) (point : RoundPoint env)
  | succeeding (peer : Nat)
  | reporting (error : ServerError env)
  | ended
  | panicked
  | aborted

/-- Peer connections are numbered in the order of their creation. -/
inductive Action (env : ServerEnvironment) where
  | created (peer : Nat)
  | endSent (peer : Nat)
  | endReceived (peer : Nat)
  | closed (peer : Nat)
  | onSuccess (peer : Nat) (clientId : String)
  | onErr (error : ServerError env)

/-- The results of the awaits. A candidate comes with the result of its conversion. -/
inductive Event (env : ServerEnvironment) where
  | receivedOffer (result : Except (RecvError env.Err) env.Sdp)
  | createdPeer (result : Except env.WebRTCError Unit)
  | setRemote (result : Except env.WebRTCError Unit)
  | createdAnswer (result : Except env.WebRTCError env.Sdp)
  | sentAnswer (result : Except IoError Unit)
  | setLocal (result : Except env.WebRTCError Unit)
  | tookIce (ice : Option (Except env.WebRTCError env.CandidateInit))
  | sentIce (result : Except IoError Unit)
  | receivedIce (result : Except (RecvError env.Err)
      (Option (Except env.WebRTCError env.CandidateInit)))
  | addedIce (result : Except env.WebRTCError Unit)
  | closedPeer
  | onSuccessReturned
  | onErrReturned
  /-- The awaited call panics: a callback, an `expect` of `send_obj`, the `unwrap` of a
  candidate channel without sender. -/
  | panics
  /-- `handle.abort()`. -/
  | abort

end ConnectionTask

/-- The task, with the number of its peers so far and its trace. -/
structure ConnectionTask (env : ServerEnvironment) where
  phase : ConnectionTask.Phase env
  peers : Nat
  trace : List (ConnectionTask.Action env)

namespace ConnectionTask

variable {env : ServerEnvironment}

/-- The task is spawned and awaits its first offer. -/
def start : ConnectionTask env := ⟨.awaitingOffer, 0, []⟩

/-- The task does something that its trace shows. -/
def record (task : ConnectionTask env) (action : Action env) : ConnectionTask env :=
  { task with trace := task.trace ++ [action] }

/-- The task goes on to the next await at which it owns the peer. -/
def goto (task : ConnectionTask env) (peer : Nat) (point : RoundPoint env) : ConnectionTask env :=
  { task with phase := .inRound peer point }

/-- `on_err(..).await`, after which the task returns. -/
def report (task : ConnectionTask env) (error : ServerError env) : ConnectionTask env :=
  { task.record (.onErr error) with phase := .reporting error }

/-- `returning!`: the peer is closed before the argument, a call of `on_err`, is evaluated. -/
def returning (task : ConnectionTask env) (peer : Nat) (error : ServerError env) :
    ConnectionTask env :=
  task.goto peer (.closing error)

/-- `webrtc_unwrap!`. -/
def webrtcUnwrap {Val : Type} (task : ConnectionTask env) (peer : Nat)
    (result : Except env.WebRTCError Val) (next : Val → RoundPoint env) : ConnectionTask env :=
  match result with
  | .ok value => task.goto peer (next value)
  | .error error => task.returning peer (.webRTCError error)

/-- The loop goes on, or its `break` hands the peer over. -/
def afterLoop (clientId : String) (task : ConnectionTask env) (peer : Nat) :
    Option (Loop env) → ConnectionTask env
  | some loop => task.goto peer (.iceLoop loop)
  | none => { task.record (.onSuccess peer clientId) with phase := .succeeding peer }

/-- The result of `recv_obj::<Option<RTCIceCandidate>>` in the loop. -/
def receiveIce (clientId : String) (task : ConnectionTask env) (peer : Nat) (loop : Loop env) :
    Except (RecvError env.Err) (Option (Except env.WebRTCError env.CandidateInit)) →
      ConnectionTask env
  | .ok (some candidate) =>
      task.webrtcUnwrap peer candidate fun init => .iceLoop { loop with point := .applying init }
  | .ok none => (task.record (.endReceived peer)).afterLoop clientId peer loop.afterEnd
  | .error error => task.returning peer (.ofRecvError clientId error)

/-- The result of `send_obj` in the loop. -/
def sendIce (clientId : String) (task : ConnectionTask env) (peer : Nat) (loop : Loop env)
    (ice : Option env.CandidateInit) : Except IoError Unit → ConnectionTask env
  | .ok () =>
      let sent := if ice.isNone then task.record (.endSent peer) else task
      sent.afterLoop clientId peer (loop.afterSend ice)
  | .error error => task.returning peer (.ioError error)

/-- The task has neither ended nor been stopped. -/
def Phase.running : Phase env → Bool
  | ended | panicked | aborted => false
  | _ => true

/-- The result of one await, with the code of the task up to the next await. -/
def step (clientId : String) (task : ConnectionTask env) (event : Event env) :
    Option (ConnectionTask env) :=
  match task.phase, event with
  | .awaitingOffer, .receivedOffer (.ok offer) => some { task with phase := .creatingPeer offer }
  | .awaitingOffer, .receivedOffer (.error error) =>
      some (task.report (.ofRecvError clientId error))
  | .creatingPeer offer, .createdPeer (.ok ()) =>
      some { (task.record (.created task.peers)).goto task.peers (.settingRemote offer) with
        peers := task.peers + 1 }
  | .creatingPeer _, .createdPeer (.error error) => some (task.report (.webRTCError error))
  | .inRound peer (.settingRemote _), .setRemote result =>
      some (task.webrtcUnwrap peer result fun _ => .creatingAnswer)
  | .inRound peer .creatingAnswer, .createdAnswer result =>
      some (task.webrtcUnwrap peer result .sendingAnswer)
  | .inRound peer (.sendingAnswer answer), .sentAnswer (.ok ()) =>
      some (task.goto peer (.settingLocal answer))
  | .inRound peer (.sendingAnswer _), .sentAnswer (.error error) =>
      some (task.returning peer (.ioError error))
  | .inRound peer (.settingLocal _), .setLocal result =>
      some (task.webrtcUnwrap peer result fun _ => .iceLoop .start)
  | .inRound peer (.iceLoop ⟨sending, receiving, .select⟩), .tookIce none =>
      some (task.goto peer (.iceLoop ⟨sending, receiving, .sending none⟩))
  | .inRound peer (.iceLoop ⟨sending, receiving, .select⟩), .tookIce (some candidate) =>
      some (task.webrtcUnwrap peer candidate fun init =>
        .iceLoop ⟨sending, receiving, .sending (some init)⟩)
  | .inRound peer (.iceLoop ⟨sending, receiving, .sending ice⟩), .sentIce result =>
      some (task.sendIce clientId peer ⟨sending, receiving, .sending ice⟩ ice result)
  | .inRound peer (.iceLoop ⟨sending, receiving, .select⟩), .receivedIce result =>
      some (task.receiveIce clientId peer ⟨sending, receiving, .select⟩ result)
  | .inRound peer (.iceLoop ⟨sending, receiving, .applying _⟩), .addedIce result =>
      some (task.webrtcUnwrap peer result fun _ => .iceLoop ⟨sending, receiving, .select⟩)
  | .inRound peer (.closing error), .closedPeer =>
      some ((task.record (.closed peer)).report error)
  | .succeeding _, .onSuccessReturned => some { task with phase := .awaitingOffer }
  | .reporting _, .onErrReturned => some { task with phase := .ended }
  | phase, .panics => if phase.running then some { task with phase := .panicked } else none
  | phase, .abort => if phase.running then some { task with phase := .aborted } else none
  | _, _ => none

/-- The result of an await, neither a panic nor an abort. -/
def Event.Ordinary : Event env → Prop
  | panics | abort => False
  | _ => True

instance : (event : Event env) → Decidable event.Ordinary
  | .panics | .abort => inferInstanceAs (Decidable False)
  | .receivedOffer _ | .createdPeer _ | .setRemote _ | .createdAnswer _ | .sentAnswer _
  | .setLocal _ | .tookIce _ | .sentIce _ | .receivedIce _ | .addedIce _ | .closedPeer
  | .onSuccessReturned | .onErrReturned => inferInstanceAs (Decidable True)

end ConnectionTask

/-- All runs of one connection task, whatever its awaits result in. -/
def connectionSystem (env : ServerEnvironment) (clientId : String) :
    TransitionSystem (ConnectionTask env) (ConnectionTask.Event env) where
  init task := task = .start
  step := ConnectionTask.step clientId

end MangleWebRTC.Upgrade
