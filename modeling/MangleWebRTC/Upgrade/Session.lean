import MangleWebRTC.Machine.TransitionSystem
import MangleWebRTC.Upgrade.Link
import MangleWebRTC.Upgrade.Client
import MangleWebRTC.Upgrade.Server

/-! # A signaling session

One client and one connection task of the server, joined by two links. The
events interleave freely: steps of either program, gathering of either peer,
handler calls entering a channel, bytes accepted by the transport, and the
pieces of the `recv_obj` calls. No transport or webrtc failure occurs.
-/

namespace MangleWebRTC.Upgrade

open Machine

/-- Both ends of a session and the two directions of the transport between them. -/
structure Session (env : Environment) where
  client : Client env
  server : Server env
  c2s : Link env env.Candidate
  s2c : Link env env.CandidateInit

/-- The steps of the two programs, the pieces of their `recv_obj` calls, the transport's writes, and
the events of the two peers with their handlers. -/
inductive SessionEvent (env : Environment) where
  | client (action : ClientAction env)
  | server (action : ServerAction env)
  | clientRecv (action : RecvAction)
  | serverRecv (action : RecvAction)
  | clientWrite (count : Nat)
  | serverWrite (count : Nat)
  | clientEmit (ice : Option env.Candidate)
  | serverEmit (ice : Option env.Candidate)
  | clientEnqueue
  | serverEnqueue

namespace Session

variable {env : Environment}

/-- No upgrade has begun and the task waits for its first offer. -/
def initial (env : Environment) : Session env :=
  ⟨.start .start, .start .awaitingOffer, .empty, .empty⟩

/-- Steps of `upgrade`. A send that has begun is over when its bytes are written.
Taking the sending arm of `select!` drops the pending `recv_obj`. -/
def clientAct (session : Session env) (action : ClientAction env) : Option (Session env) :=
  let client := session.client
  match client.phase, action with
  | .start, .createOffer offer => do
      let c2s ← session.c2s.beginSend (clientWire env) (.opening client.round offer)
      return { session with client := { client with phase := .sendingOffer offer }, c2s := c2s }
  | .sendingOffer offer, .sent =>
      if session.c2s.outgoing.isEmpty then
        some { session with client := { client with phase := .settingLocal offer } }
      else none
  | .settingLocal _, .setLocalDescription =>
      some { session with client := { client with
        phase := .awaitingAnswer [], peer := { client.peer with gathering := true } } }
  | .settingRemote _ ices, .setRemoteDescription =>
      some { session with client := { client with
        phase := .addingIces ices, peer := { client.peer with remoteDescription := true } } }
  | .addingIces (ice :: ices), .addIceCandidate =>
      some { session with
        client := { client.addIceCandidate ice with phase := .addingIces ices } }
  | .addingIces [], .registerHandler =>
      some { session with client := { client with
        phase := .iceLoop .start, peer := { client.peer with handler := true } } }
  | .iceLoop ⟨doneSending, doneReceiving, .select⟩, .takeIce => do
      let (ice, channel) ← client.peer.channel.take
      let c2s ← session.c2s.beginSend (clientWire env) (.candidate client.round ice)
      return { session with
        client := { client with
          phase := .iceLoop ⟨doneSending, doneReceiving, .sending ice⟩
          peer := { client.peer with channel := channel } }
        c2s := c2s
        -- The other arm of the `select!` is abandoned.
        s2c := session.s2c.dropCall }
  | .iceLoop ⟨doneSending, doneReceiving, .sending ice⟩, .sent =>
      if session.c2s.outgoing.isEmpty then
        some { session with client := { client with
          phase := .ofLoop (IceLoop.afterSend ⟨doneSending, doneReceiving, .sending ice⟩ ice) } }
      else none
  | .iceLoop ⟨doneSending, doneReceiving, .applying ice⟩, .addIceCandidate =>
      some { session with client := { client.addIceCandidate ice with
        phase := .iceLoop ⟨doneSending, doneReceiving, .select⟩ } }
  | .returned, .upgradeAgain => some { session with client := client.nextRound .start }
  | _, _ => none

/-- Steps of the connection task. -/
def serverAct (session : Session env) (action : ServerAction env) : Option (Session env) :=
  let server := session.server
  match server.phase, action with
  | .settingRemote _, .setRemoteDescription =>
      some { session with server := { server with
        phase := .creatingAnswer, peer := { server.peer with remoteDescription := true } } }
  | .creatingAnswer, .createAnswer answer => do
      let s2c ← session.s2c.beginSend (serverWire env) (.opening server.round answer)
      return { session with
        server := { server with phase := .sendingAnswer answer }, s2c := s2c }
  | .sendingAnswer answer, .sent =>
      if session.s2c.outgoing.isEmpty then
        some { session with server := { server with phase := .settingLocal answer } }
      else none
  | .settingLocal _, .setLocalDescription =>
      some { session with server := { server with
        phase := .iceLoop .start, peer := { server.peer with gathering := true } } }
  | .iceLoop ⟨doneSending, doneReceiving, .select⟩, .takeIce => do
      let (ice, channel) ← server.peer.channel.take
      let ice := ice.map env.toJson
      let s2c ← session.s2c.beginSend (serverWire env) (.candidate server.round ice)
      return { session with
        server := { server with
          phase := .iceLoop ⟨doneSending, doneReceiving, .sending ice⟩
          peer := { server.peer with channel := channel } }
        c2s := session.c2s.dropCall
        s2c := s2c }
  | .iceLoop ⟨doneSending, doneReceiving, .sending ice⟩, .sent =>
      if session.s2c.outgoing.isEmpty then
        some { session with server := { server with
          phase := .ofLoop (IceLoop.afterSend ⟨doneSending, doneReceiving, .sending ice⟩ ice) } }
      else none
  | .iceLoop ⟨doneSending, doneReceiving, .applying ice⟩, .addIceCandidate =>
      some { session with server := { server.addIceCandidate (env.toJson ice) with
        phase := .iceLoop ⟨doneSending, doneReceiving, .select⟩ } }
  | .succeeded, .onSuccessDone =>
      some { session with server := server.nextRound .awaitingOffer }
  | _, _ => none

/-- The client's `recv_obj`: a result is consumed by the phase that waits for it. -/
def clientRecv (session : Session env) (action : RecvAction) : Option (Session env) := do
  let ty ← session.client.phase.expects
  match ← session.s2c.recv ty action with
  | (s2c, none) => return { session with s2c := s2c }
  | (s2c, some result) =>
      let phase ← session.client.phase.receive result
      return { session with client := { session.client with phase := phase }, s2c := s2c }

/-- The server's `recv_obj`. -/
def serverRecv (session : Session env) (action : RecvAction) : Option (Session env) := do
  let ty ← session.server.phase.expects
  match ← session.c2s.recv ty action with
  | (c2s, none) => return { session with c2s := c2s }
  | (c2s, some result) =>
      let server ← session.server.receive result
      return { session with server := server, c2s := c2s }

/-- One step of either program, of the transport, or of either peer. -/
def step (session : Session env) : SessionEvent env → Option (Session env)
  | .client action => session.clientAct action
  | .server action => session.serverAct action
  | .clientRecv action => session.clientRecv action
  | .serverRecv action => session.serverRecv action
  | .clientWrite count =>
      (session.c2s.write env.clientCapacity count).map fun c2s => { session with c2s := c2s }
  | .serverWrite count =>
      (session.s2c.write env.serverCapacity count).map fun s2c => { session with s2c := s2c }
  | .clientEmit ice =>
      (session.client.emit ice).map fun client => { session with client := client }
  | .serverEmit ice =>
      (session.server.emit ice).map fun server => { session with server := server }
  | .clientEnqueue => session.client.enqueue.map fun client => { session with client := client }
  | .serverEnqueue => session.server.enqueue.map fun server => { session with server := server }

end Session

/-- All interleavings of a session. -/
def sessionSystem (env : Environment) : TransitionSystem (Session env) (SessionEvent env) where
  init session := session = Session.initial env
  step := Session.step

end MangleWebRTC.Upgrade
