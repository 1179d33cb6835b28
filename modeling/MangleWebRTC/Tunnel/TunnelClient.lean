import MangleWebRTC.Machine.Slots
import MangleWebRTC.Tunnel.ClientTcp
import MangleWebRTC.Tunnel.Config

/-! # The tasks of the tunnel client

`client_command` after it has connected: one task for each entry of the configuration, which
is not empty, and a relay for each TCP connection. A TCP task binds its listener, accepts a
stream, creates its data channel and waits until that is open before it accepts the next
stream. All tasks count their data channels together.
-/

namespace MangleWebRTC.Tunnel

open Machine

/-- The parameters of a data channel. -/
structure RTCDataChannelInit where
  ordered : Option Bool
  maxPacketLifeTime : Option UInt16
  maxRetransmits : Option UInt16
  protocol : Option String
  negotiated : Option UInt16
  deriving DecidableEq, Repr

/-- `TCP_DATA_CHANNEL`: ordered, and reliable but for its bound on retransmits. -/
def tcpDataChannel : RTCDataChannelInit := ⟨some true, none, some 65535, none, none⟩

/-- `UDP_DATA_CHANNEL`: unordered, sent once. -/
def udpDataChannel : RTCDataChannelInit := ⟨some false, none, some 0, none, none⟩

/-- `RELIABLE_UNORDERED_DATA_CHANNEL`. -/
def reliableUnorderedDataChannel : RTCDataChannelInit := ⟨some false, none, some 65535, none, none⟩

/-- `Into<RTCDataChannelInit> for Quality`. -/
def Quality.into : Quality → RTCDataChannelInit
  | udp => udpDataChannel
  | tcp => tcpDataChannel
  | reliableUnordered => reliableUnorderedDataChannel

namespace Channel

/-- The quality of an entry, which only the client needs. -/
def quality : Channel → Option Quality
  | udp _ _ quality | tcp _ _ quality | localSocket _ _ quality => quality

/-- Where the task of an entry listens: `remap.unwrap_or(port)`. -/
def listensAt : Channel → Option (SocketKind × Port)
  | udp port remap _ => some (.udp, remap.getD port)
  | tcp port remap _ => some (.tcp, remap.getD port)
  | localSocket _ _ _ => none

/-- The parameters of the data channels of an entry. -/
def init : Channel → Option RTCDataChannelInit
  | udp port _ quality | tcp port _ quality =>
      quality.map fun quality => { quality.into with protocol := some (toString port.val) }
  | localSocket _ _ _ => none

end Channel

/-- How a task ends: a panic of `expect` or `todo!`, or the error of an await. -/
inductive ListenerEnd where
  | panicked
  | bind
  | accept
  | createDataChannel
  | udp
  deriving DecidableEq, Repr

/-- The await at which a task stands: its first poll, its `select!`, `create_data_channel`
with the index it has taken, or `open_receiver` of a connection. -/
inductive ListenerPhase where
  | starting
  | serving
  | creating (channelIdx : Nat)
  | opening (id : Nat)
  | ended (result : ListenerEnd)
  deriving DecidableEq, Repr

/-- The task of an entry. -/
structure Listener where
  entry : Channel
  phase : ListenerPhase
  deriving DecidableEq, Repr

/-- An accepted stream with its data channel, from `create_data_channel` on. -/
structure Connection where
  listener : Nat
  channelIdx : Nat
  init : RTCDataChannelInit
  tcp : ClientTcp

/-- The label of the data channel. -/
def Connection.label (connection : Connection) : String := toString connection.channelIdx

/-- The tasks by entry, the connections by the order of their data channels, and whether
`client_command` is over. -/
structure TunnelClient where
  listeners : List Listener
  channelCounter : Nat
  connections : List Connection
  returned : Bool

/-- The results of the awaits of the tasks, the steps of the connections, and the two arms of the
`select!` in `client_command`; `joinNone` is the `unwrap` on an empty set. -/
inductive TunnelClientEvent where
  | start (index : Nat)
  | accept (index : Nat)
  | acceptFails (index : Nat)
  | created (index : Nat)
  | createFails (index : Nat)
  | establish (index : Nat)
  | openFails (index : Nat)
  | connection (id : Nat) (event : ClientTcpEvent)
  | udpCounts (index : Nat)
  | udpFails (index : Nat)
  | joinNext (index : Nat)
  | joinNone
  | ctrlC
  deriving DecidableEq, Repr

namespace TunnelClient

/-- All tasks are spawned and none has had its first poll. -/
def start (config : List Channel) : TunnelClient where
  listeners := config.map fun entry => ⟨entry, .starting⟩
  channelCounter := 0
  connections := []
  returned := false

/-- A task takes a step; the others stay as they are. -/
def setListener (client : TunnelClient) (index : Nat) (listener : Listener) : TunnelClient :=
  { client with listeners := client.listeners.set index listener }

/-- A connection takes a step; the others stay as they are. -/
def setConnection (client : TunnelClient) (id : Nat) (connection : Connection) : TunnelClient :=
  { client with connections := client.connections.set id connection }

/-- The task has bound its listener and holds it. -/
def Listener.holds (listener : Listener) : Bool :=
  match listener.phase with
  | .serving | .creating _ | .opening _ => true
  | .starting | .ended _ => false

/-- `bind` fails with `AddrInUse`: a task of the process has the address, or another
process does. -/
def addrInUse (occupied : SocketKind → Port → Bool) (client : TunnelClient) (kind : SocketKind)
    (port : Port) : Bool :=
  client.listeners.any (fun listener =>
    Listener.holds listener && decide (listener.entry.listensAt = some (kind, port))) ||
  occupied kind port

/-- The code of a task up to its loop. -/
def startPhase (occupied : SocketKind → Port → Bool) (client : TunnelClient) (entry : Channel) :
    ListenerPhase :=
  match entry.listensAt with
  | none => .ended .panicked
  | some (kind, port) =>
      if entry.quality = none then .ended .panicked
      else if client.addrInUse occupied kind port then .ended .bind
      else .serving

/-- A step of the loop of a TCP task. -/
def tcpTask (client : TunnelClient) (index : Nat) (listener : Listener) :
    TunnelClientEvent → Option TunnelClient
  | .accept _ =>
      if listener.phase = .serving then
        some { client.setListener index { listener with
            phase := .creating client.channelCounter } with
          channelCounter := client.channelCounter + 1 }
      else none
  | .acceptFails _ =>
      if listener.phase = .serving then
        some (client.setListener index { listener with phase := .ended .accept })
      else none
  | .created _ =>
      match listener.phase, listener.entry.init with
      | .creating channelIdx, some init =>
          some { client.setListener index { listener with
              phase := .opening client.connections.length } with
            connections := client.connections ++ [⟨index, channelIdx, init, .start⟩] }
      | _, _ => none
  | .createFails _ =>
      match listener.phase with
      | .creating _ =>
          some (client.setListener index { listener with phase := .ended .createDataChannel })
      | _ => none
  | .establish _ =>
      match listener.phase with
      | .opening id => do
          let connection ← client.connections[id]?
          let tcp ← connection.tcp.step .establish
          some ((client.setListener index { listener with phase := .serving }).setConnection id
            { connection with tcp := tcp })
      | _ => none
  -- The handler was dropped without a call: on to the next stream.
  | .openFails _ =>
      match listener.phase with
      | .opening id => do
          let connection ← client.connections[id]?
          if connection.tcp.opened then none
          else some (client.setListener index { listener with phase := .serving })
      | _ => none
  | _ => none

/-- A UDP task as the others see it: it counts its data channels and may fail. -/
def udpTask (client : TunnelClient) (index : Nat) (listener : Listener) :
    TunnelClientEvent → Option TunnelClient
  | .udpCounts _ =>
      if listener.phase = .serving then
        some { client with channelCounter := client.channelCounter + 1 }
      else none
  | .udpFails _ =>
      if listener.phase = .serving then
        some (client.setListener index { listener with phase := .ended .udp })
      else none
  | _ => none

/-- A step of the task of an entry behind its first poll, which a `LocalSocket` entry does not get
past. -/
def task (client : TunnelClient) (index : Nat) (event : TunnelClientEvent) :
    Option TunnelClient := do
  let listener ← client.listeners[index]?
  match listener.entry with
  | .tcp _ _ _ => client.tcpTask index listener event
  | .udp _ _ _ => client.udpTask index listener event
  | .localSocket _ _ _ => none

/-- One step of the command after it has connected: of a task, of a connection, or its end. -/
def step (occupied : SocketKind → Port → Bool) (client : TunnelClient)
    (event : TunnelClientEvent) : Option TunnelClient :=
  -- The process ends with `client_command`.
  if client.returned then none
  else match event with
  | .start index => do
      let listener ← client.listeners[index]?
      if listener.phase = .starting then
        some (client.setListener index { listener with
          phase := client.startPhase occupied listener.entry })
      else none
  | .accept index | .acceptFails index | .created index | .createFails index
  | .establish index | .openFails index | .udpCounts index | .udpFails index =>
      client.task index event
  -- `establish` is a step of the listening task.
  | .connection id event =>
      if event = .establish then none
      else do
        let connection ← client.connections[id]?
        let tcp ← connection.tcp.step event
        some (client.setConnection id { connection with tcp := tcp })
  | .joinNext index => do
      let listener ← client.listeners[index]?
      match listener.phase with
      | .ended _ => some { client with returned := true }
      | _ => none
  -- `join_next` on an empty set gives `None`, and `unwrap` panics.
  | .joinNone => if client.listeners = [] then some { client with returned := true } else none
  | .ctrlC => some { client with returned := true }

end TunnelClient

/-- The tasks of a configuration, with the addresses that other processes hold. -/
def tunnelClientSystem (occupied : SocketKind → Port → Bool) (config : List Channel) :
    TransitionSystem TunnelClient TunnelClientEvent where
  init client := client = .start config
  step := TunnelClient.step occupied

end MangleWebRTC.Tunnel
