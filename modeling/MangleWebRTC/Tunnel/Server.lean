import MangleWebRTC.Machine.TransitionSystem
import MangleWebRTC.Tunnel.Config
import MangleWebRTC.Tunnel.Inbox

/-! # The tunnel server's task for one client

`on_success` takes the opened data channels of one peer from a queue, one after
another. For each it connects a local socket, registers the message handler and
runs a single `select!` between the socket and the channel.
-/

namespace MangleWebRTC.Tunnel

open Machine

namespace SocketKind

/-- The size of the buffer a local read goes to. -/
def bufSize : SocketKind → Nat
  | udp => 512
  | tcp => 2048

/-- What one read can get: a datagram, or some bytes of the stream. -/
def Readable : SocketKind → List UInt8 → Prop
  | udp, _ => True
  | tcp, chunk => chunk ≠ [] ∧ chunk.length ≤ tcp.bufSize

instance : (kind : SocketKind) → (chunk : List UInt8) → Decidable (kind.Readable chunk)
  | udp, _ => inferInstanceAs (Decidable True)
  | tcp, chunk => inferInstanceAs (Decidable (chunk ≠ [] ∧ chunk.length ≤ tcp.bufSize))

/-- The writes of one message: `write_all` and `flush`, or the loop over
`socket.send`. A datagram is sent whole, so the loop runs once, and not at all for
an empty message. -/
def writes : SocketKind → List UInt8 → List (List UInt8)
  | udp, msg => if msg.length = 0 then [] else [msg]
  | tcp, msg => [msg]

end SocketKind

/-- A data channel at the server, its local socket once connected, and the traffic:
what the socket has yet to hand out and has been given in all, read by read, what
was read from it and sent on the data channel, and what was written to it. -/
structure ServerChannel where
  protocol : String
  opened : Bool
  closed : Bool
  inbox : Inbox
  socket : Option (SocketKind × Port)
  incoming : List (List UInt8)
  delivered : List (List UInt8)
  read : List (List UInt8)
  sent : List (List UInt8)
  written : List (List UInt8)

/-- A channel that was announced with a protocol, before it opens. -/
def ServerChannel.new (protocol : String) : ServerChannel :=
  ⟨protocol, false, false, .new, none, [], [], [], [], []⟩

/-- Where the `select!` of a channel is: waiting, in the arm that sends what was
read, or in the arm that writes a message. -/
inductive RelayPoint where
  | select
  | sending (bytes : List UInt8)
  | writing (msg : List UInt8)
  deriving DecidableEq, Repr

/-- Where the task of `on_success` is: at `recv` for the next channel, at the connect of the
channel's local socket, in the `select!` of the channel or one of its arms, or panicked. -/
inductive TaskPhase where
  | idle
  | connecting (id : Nat) (kind : SocketKind) (port : Port)
  | relaying (id : Nat) (kind : SocketKind) (point : RelayPoint)
  | panicked
  deriving DecidableEq, Repr

/-- The channels of the peer by the order of their announcement, the queue of
opened channels, and the task. -/
structure ServerTask where
  channels : List ServerChannel
  queue : Mailbox Nat 1
  phase : TaskPhase

/-- What the task sees: channels and messages of the peer, data of the local sockets, and the
results of its own awaits; `fails` is the `unwrap` of an error. -/
inductive ServerEvent where
  | announce (protocol : String)
  | opens (id : Nat)
  | message (id : Nat) (msg : List UInt8)
  | localData (id : Nat) (chunk : List UInt8)
  | localEof
  | fails
  | enqueueChannel
  | takeChannel
  | connected
  | enqueueMessage (id : Nat)
  | readLocal
  | sent
  | takeMessage
  | wrote
  deriving DecidableEq, Repr

/-- Steps of the server's own code; the others are the environment's. -/
def ServerEvent.isProgram : ServerEvent → Bool
  | announce _ | opens _ | message _ _ | localData _ _ | localEof | fails => false
  | _ => true

namespace ServerTask

/-- The peer is connected and no channel was announced. -/
def start : ServerTask := ⟨[], .empty, .idle⟩

/-- A channel takes a step; the others stay as they are. -/
def setChannel (task : ServerTask) (id : Nat) (channel : ServerChannel) : ServerTask :=
  { task with channels := task.channels.set id channel }

/-- The match on the channel's entry; `LocalSocket` entries are passed over. -/
def dispatch (id : Nat) : Option (SocketKind × Port) → TaskPhase
  | some (kind, port) => .connecting id kind port
  | none => .idle

variable (config : List Channel)

/-- One step of the peer connection or of the task, which serves one channel at a time and is done
with a channel after one item in either direction. -/
def step (task : ServerTask) : ServerEvent → Option ServerTask
  | .announce protocol => some { task with channels := task.channels ++ [.new protocol] }
  | .opens id => do
      let channel ← task.channels[id]?
      if channel.opened then none
      else some { task.setChannel id { channel with opened := true } with
        queue := task.queue.offer id }
  | .message id msg => do
      let channel ← task.channels[id]?
      if channel.opened then
        some (task.setChannel id { channel with inbox := channel.inbox.arrive msg })
      else none
  | .localData id chunk => do
      let channel ← task.channels[id]?
      let (kind, _) ← channel.socket
      if kind.Readable chunk then
        some (task.setChannel id { channel with
          incoming := channel.incoming ++ [chunk], delivered := channel.delivered ++ [chunk] })
      else none
  | .enqueueChannel => task.queue.enqueue.map fun queue => { task with queue := queue }
  | .takeChannel =>
      match task.phase with
      | .idle => do
          let (id, queue) ← task.queue.take
          let channel ← task.channels[id]?
          match allowedChannels config channel.protocol with
          -- No entry for the protocol: `data_channel.close()` and on to the next channel.
          | none => some { task.setChannel id { channel with closed := true } with queue := queue }
          | some entry => some { task with queue := queue, phase := dispatch id entry.target }
      | _ => none
  | .connected =>
      match task.phase with
      | .connecting id kind port => do
          let channel ← task.channels[id]?
          some { task.setChannel id { channel with
              inbox := channel.inbox.register, socket := some (kind, port) } with
            phase := .relaying id kind .select }
      | _ => none
  | .enqueueMessage id => do
      let channel ← task.channels[id]?
      let inbox ← channel.inbox.enqueue
      some (task.setChannel id { channel with inbox := inbox })
  | .readLocal =>
      match task.phase with
      | .relaying id kind .select => do
          let channel ← task.channels[id]?
          match channel.incoming with
          | [] => none
          | chunk :: rest =>
              some { task.setChannel id { channel with
                  incoming := rest, read := channel.read ++ [chunk.take kind.bufSize] } with
                phase := .relaying id kind (.sending (chunk.take kind.bufSize)) }
      | _ => none
  | .localEof =>
      match task.phase with
      -- A read of no bytes is sent like any other.
      | .relaying id .tcp .select => some { task with phase := .relaying id .tcp (.sending []) }
      | _ => none
  | .sent =>
      match task.phase with
      | .relaying id _ (.sending bytes) => do
          let channel ← task.channels[id]?
          some { task.setChannel id { channel with
              inbox := channel.inbox.dropReceiver, sent := channel.sent ++ [bytes] } with
            phase := .idle }
      | _ => none
  | .takeMessage =>
      match task.phase with
      | .relaying id kind .select => do
          let channel ← task.channels[id]?
          let (msg, inbox) ← channel.inbox.take
          some { task.setChannel id { channel with inbox := inbox } with
            phase := .relaying id kind (.writing msg) }
      | _ => none
  -- The arm ends the `select!`, and there is no loop around it.
  | .wrote =>
      match task.phase with
      | .relaying id kind (.writing msg) => do
          let channel ← task.channels[id]?
          some { task.setChannel id { channel with
              inbox := channel.inbox.dropReceiver
              written := channel.written ++ kind.writes msg } with
            phase := .idle }
      | _ => none
  | .fails =>
      match task.phase with
      | .connecting _ _ _ => some { task with phase := .panicked }
      | .relaying id _ _ => do
          let channel ← task.channels[id]?
          some { task.setChannel id { channel with inbox := channel.inbox.dropReceiver } with
            phase := .panicked }
      | _ => none

end ServerTask

/-- All runs of the task of one peer, under a configuration. -/
def serverSystem (config : List Channel) : TransitionSystem ServerTask ServerEvent where
  init task := task = .start
  step := ServerTask.step config

end MangleWebRTC.Tunnel
