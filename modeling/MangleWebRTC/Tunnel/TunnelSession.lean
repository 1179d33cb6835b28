import MangleWebRTC.Tunnel.Server
import MangleWebRTC.Tunnel.TunnelClient
import Mathlib.Data.List.Perm.Basic

/-! # Both ends of the tunnel

The tasks of the client, the task of the server, and the data channels between them. A
data channel is announced at the server some time after it was created; its messages are
delivered as its parameters demand. The `init` channel and those of UDP entries carry
anything.
-/

namespace MangleWebRTC.Tunnel

open Machine

namespace RTCDataChannelInit

/-- A message in flight that can be delivered: the oldest one of an ordered channel, any
one of the others. -/
def receive (init : RTCDataChannelInit) (inFlight : List (List UInt8)) (index : Nat) :
    Option (List UInt8 × List (List UInt8)) :=
  if init.ordered = some true ∧ index ≠ 0 then none
  else inFlight[index]?.map fun msg => (msg, inFlight.eraseIdx index)

/-- A message is given up after the retransmissions of a channel that limits them. -/
def abandon (init : RTCDataChannelInit) (inFlight : List (List UInt8)) (index : Nat) :
    Option (List (List UInt8)) :=
  if init.maxRetransmits.isSome ∨ init.maxPacketLifeTime.isSome then
    inFlight[index]?.map fun _ => inFlight.eraseIdx index
  else none

theorem receive_eq_some {init : RTCDataChannelInit} {inFlight rest : List (List UInt8)}
    {index : Nat} {msg : List UInt8} (hreceive : init.receive inFlight index = some (msg, rest)) :
    inFlight.Perm (msg :: rest) := by
  unfold receive at hreceive
  split at hreceive
  · cases hreceive
  · obtain ⟨found, hfound, heq⟩ := Option.map_eq_some_iff.mp hreceive
    obtain ⟨rfl, rfl⟩ := Prod.mk.inj heq
    obtain ⟨hlength, rfl⟩ := List.getElem?_eq_some_iff.mp hfound
    exact (List.getElem_cons_eraseIdx_perm hlength).symm

theorem abandon_eq_some {init : RTCDataChannelInit} {inFlight rest : List (List UInt8)}
    {index : Nat} (habandon : init.abandon inFlight index = some rest) :
    rest.Sublist inFlight := by
  unfold abandon at habandon
  split at habandon
  · obtain ⟨_, _, rfl⟩ := Option.map_eq_some_iff.mp habandon
    exact List.eraseIdx_sublist inFlight index
  · cases habandon

end RTCDataChannelInit

/-- `announced` has the connection of every channel of the server, if it is one of a TCP
entry; `toServer` and `toClient` have the messages in flight by connection. -/
structure TunnelSession where
  client : TunnelClient
  server : ServerTask
  announced : List (Option Nat)
  toServer : Nat → List (List UInt8)
  toClient : Nat → List (List UInt8)

/-- The steps of the two ends, the announcement of data channels, and the messages of the network,
which are delivered in an arbitrary order or lost. -/
inductive TunnelEvent where
  | client (event : TunnelClientEvent)
  | server (event : ServerEvent)
  | announce (id : Nat)
  | announceOther (protocol : String)
  | messageOther (channel : Nat) (msg : List UInt8)
  | deliverToServer (channel index : Nat)
  | deliverToClient (id index : Nat)
  | abandonToServer (id index : Nat)
  | abandonToClient (id index : Nat)
  deriving DecidableEq, Repr

/-- A message comes out of the network. -/
def TunnelClientEvent.isDelivery : TunnelClientEvent → Bool
  | .connection _ (.message _) => true
  | _ => false

/-- A channel or a message comes out of the network. -/
def ServerEvent.isDelivery : ServerEvent → Bool
  | .announce _ | .message _ _ => true
  | _ => false

namespace TunnelSession

/-- Both ends have connected and nothing is in flight. -/
def start (clientConfig : List Channel) : TunnelSession :=
  ⟨.start clientConfig, .start, [], fun _ => [], fun _ => []⟩

/-- The messages in flight after one more was sent on a connection. -/
def push (inFlight : Nat → List (List UInt8)) (id : Nat) (msg : List UInt8) :
    Nat → List (List UInt8) :=
  Function.update inFlight id (inFlight id ++ [msg])

/-- What the client sends by a step: the relay's `data_channel.send`. -/
def clientSends (session : TunnelSession) : TunnelClientEvent → Nat → List (List UInt8)
  | .connection id (.sendReturns count) =>
      match session.client.connections[id]? with
      | some ⟨_, _, _, ⟨.sending bytes sentN, _, _, _, _⟩⟩ =>
          push session.toServer id ((tcpSlice bytes sentN).take count)
      | _ => session.toServer
  | _ => session.toServer

/-- What the server sends by a step: the answer of the channel that it serves. -/
def serverSends (session : TunnelSession) (event : ServerEvent) : Nat → List (List UInt8) :=
  match event, session.server.phase with
  | .sent, .relaying channel _ (.sending bytes) =>
      match session.announced[channel]? with
      | some (some id) => push session.toClient id bytes
      | _ => session.toClient
  | _, _ => session.toClient

variable (occupied : SocketKind → Port → Bool) (serverConfig : List Channel)

/-- One step of an end, with what it puts into the network, or of the network. -/
def step (session : TunnelSession) : TunnelEvent → Option TunnelSession
  | .client event =>
      if event.isDelivery then none
      else (session.client.step occupied event).map fun client =>
        { session with client := client, toServer := session.clientSends event }
  | .server event =>
      if event.isDelivery then none
      else (session.server.step serverConfig event).map fun server =>
        { session with server := server, toClient := session.serverSends event }
  | .announce id => do
      let connection ← session.client.connections[id]?
      if some id ∈ session.announced then none
      else
        let server ← session.server.step serverConfig
          (.announce (connection.init.protocol.getD ""))
        some { session with server := server, announced := session.announced ++ [some id] }
  | .announceOther protocol =>
      (session.server.step serverConfig (.announce protocol)).map fun server =>
        { session with server := server, announced := session.announced ++ [none] }
  | .messageOther channel msg =>
      if session.announced[channel]? = some none then
        (session.server.step serverConfig (.message channel msg)).map fun server =>
          { session with server := server }
      else none
  | .deliverToServer channel index =>
      match session.announced[channel]? with
      | some (some id) => do
          let connection ← session.client.connections[id]?
          let (msg, rest) ← connection.init.receive (session.toServer id) index
          let server ← session.server.step serverConfig (.message channel msg)
          some { session with
            server := server, toServer := Function.update session.toServer id rest }
      | _ => none
  | .deliverToClient id index => do
      let connection ← session.client.connections[id]?
      let (msg, rest) ← connection.init.receive (session.toClient id) index
      let client ← session.client.step occupied (.connection id (.message msg))
      some { session with
        client := client, toClient := Function.update session.toClient id rest }
  | .abandonToServer id index => do
      let connection ← session.client.connections[id]?
      let rest ← connection.init.abandon (session.toServer id) index
      some { session with toServer := Function.update session.toServer id rest }
  | .abandonToClient id index => do
      let connection ← session.client.connections[id]?
      let rest ← connection.init.abandon (session.toClient id) index
      some { session with toClient := Function.update session.toClient id rest }

variable {occupied : SocketKind → Port → Bool} {serverConfig : List Channel}

/-- The successful steps of both ends and of the network between them. -/
inductive Step (occupied : SocketKind → Port → Bool) (serverConfig : List Channel)
    (session : TunnelSession) : TunnelEvent → TunnelSession → Prop
  | client (event : TunnelClientEvent) (client : TunnelClient) (hevent : event.isDelivery = false)
      (hclient : session.client.step occupied event = some client) :
      Step occupied serverConfig session (.client event)
        { session with client := client, toServer := session.clientSends event }
  | server (event : ServerEvent) (server : ServerTask) (hevent : event.isDelivery = false)
      (hserver : session.server.step serverConfig event = some server) :
      Step occupied serverConfig session (.server event)
        { session with server := server, toClient := session.serverSends event }
  | announce (id : Nat) (connection : Connection) (server : ServerTask)
      (hconnection : session.client.connections[id]? = some connection)
      (hfirst : some id ∉ session.announced) (hserver : session.server.step serverConfig
        (.announce (connection.init.protocol.getD "")) = some server) :
      Step occupied serverConfig session (.announce id)
        { session with server := server, announced := session.announced ++ [some id] }
  | announceOther (protocol : String) (server : ServerTask)
      (hserver : session.server.step serverConfig (.announce protocol) = some server) :
      Step occupied serverConfig session (.announceOther protocol)
        { session with server := server, announced := session.announced ++ [none] }
  | messageOther (channel : Nat) (msg : List UInt8) (server : ServerTask)
      (hother : session.announced[channel]? = some none)
      (hserver : session.server.step serverConfig (.message channel msg) = some server) :
      Step occupied serverConfig session (.messageOther channel msg)
        { session with server := server }
  | deliverToServer (channel index id : Nat) (msg : List UInt8) (rest : List (List UInt8))
      (server : ServerTask) (hannounced : session.announced[channel]? = some (some id))
      (hreceive : (session.toServer id).Perm (msg :: rest))
      (hserver : session.server.step serverConfig (.message channel msg) = some server) :
      Step occupied serverConfig session (.deliverToServer channel index)
        { session with server := server, toServer := Function.update session.toServer id rest }
  | deliverToClient (id index : Nat) (msg : List UInt8) (rest : List (List UInt8))
      (client : TunnelClient) (hreceive : (session.toClient id).Perm (msg :: rest))
      (hclient : session.client.step occupied (.connection id (.message msg)) = some client) :
      Step occupied serverConfig session (.deliverToClient id index)
        { session with client := client, toClient := Function.update session.toClient id rest }
  | abandonToServer (id index : Nat) (rest : List (List UInt8))
      (habandon : rest.Sublist (session.toServer id)) :
      Step occupied serverConfig session (.abandonToServer id index)
        { session with toServer := Function.update session.toServer id rest }
  | abandonToClient (id index : Nat) (rest : List (List UInt8))
      (habandon : rest.Sublist (session.toClient id)) :
      Step occupied serverConfig session (.abandonToClient id index)
        { session with toClient := Function.update session.toClient id rest }

theorem Step.of_step {session next : TunnelSession} {event : TunnelEvent}
    (hstep : session.step occupied serverConfig event = some next) :
    Step occupied serverConfig session event next := by
  cases event with
  | client event =>
      simp only [step] at hstep
      split at hstep
      · cases hstep
      next hevent =>
        obtain ⟨client, hclient, rfl⟩ := Option.map_eq_some_iff.mp hstep
        exact .client event client (Bool.eq_false_iff.mpr hevent) hclient
  | server event =>
      simp only [step] at hstep
      split at hstep
      · cases hstep
      next hevent =>
        obtain ⟨server, hserver, rfl⟩ := Option.map_eq_some_iff.mp hstep
        exact .server event server (Bool.eq_false_iff.mpr hevent) hserver
  | announce id =>
      obtain ⟨connection, hconnection, hrest⟩ := Option.bind_eq_some_iff.mp hstep
      split at hrest
      · cases hrest
      next hfirst =>
        obtain ⟨server, hserver, hnext⟩ := Option.bind_eq_some_iff.mp hrest
        exact Option.some.inj hnext ▸ .announce id connection server hconnection hfirst hserver
  | announceOther protocol =>
      simp only [step] at hstep
      obtain ⟨server, hserver, rfl⟩ := Option.map_eq_some_iff.mp hstep
      exact .announceOther protocol server hserver
  | messageOther channel msg =>
      simp only [step] at hstep
      split at hstep
      next hother =>
        obtain ⟨server, hserver, rfl⟩ := Option.map_eq_some_iff.mp hstep
        exact .messageOther channel msg server hother hserver
      · cases hstep
  | deliverToServer channel index =>
      simp only [step] at hstep
      split at hstep
      next id hannounced =>
        obtain ⟨connection, _, hrest⟩ := Option.bind_eq_some_iff.mp hstep
        obtain ⟨⟨msg, rest⟩, hreceive, hrest⟩ := Option.bind_eq_some_iff.mp hrest
        obtain ⟨server, hserver, hnext⟩ := Option.bind_eq_some_iff.mp hrest
        exact Option.some.inj hnext ▸ .deliverToServer channel index id msg rest server hannounced
          (RTCDataChannelInit.receive_eq_some hreceive) hserver
      · cases hstep
  | deliverToClient id index =>
      obtain ⟨connection, _, hrest⟩ := Option.bind_eq_some_iff.mp hstep
      obtain ⟨⟨msg, rest⟩, hreceive, hrest⟩ := Option.bind_eq_some_iff.mp hrest
      obtain ⟨client, hclient, hnext⟩ := Option.bind_eq_some_iff.mp hrest
      exact Option.some.inj hnext ▸ .deliverToClient id index msg rest client
        (RTCDataChannelInit.receive_eq_some hreceive) hclient
  | abandonToServer id index =>
      obtain ⟨connection, _, hrest⟩ := Option.bind_eq_some_iff.mp hstep
      obtain ⟨rest, habandon, hnext⟩ := Option.bind_eq_some_iff.mp hrest
      exact Option.some.inj hnext ▸
        .abandonToServer id index rest (RTCDataChannelInit.abandon_eq_some habandon)
  | abandonToClient id index =>
      obtain ⟨connection, _, hrest⟩ := Option.bind_eq_some_iff.mp hstep
      obtain ⟨rest, habandon, hnext⟩ := Option.bind_eq_some_iff.mp hrest
      exact Option.some.inj hnext ▸
        .abandonToClient id index rest (RTCDataChannelInit.abandon_eq_some habandon)

end TunnelSession

/-- A client and a server with their configurations. -/
def tunnelSystem (occupied : SocketKind → Port → Bool) (clientConfig serverConfig : List Channel) :
    TransitionSystem TunnelSession TunnelEvent where
  init session := session = .start clientConfig
  step := TunnelSession.step occupied serverConfig

end MangleWebRTC.Tunnel
