import MangleWebRTC.Machine.TransitionSystem
import MangleWebRTC.Tunnel.Inbox
import Mathlib.Logic.Function.Basic
import Mathlib.Order.Nat

/-! # The UDP sessions of the tunnel client

A listener hands the payloads of its datagrams to sessions, one for each source
address, and keeps the sender of a session's queue until a send on it fails. The
session tasks relay on their own and may end at any time. A payload is a token here:
how it is cut from the receive buffer does not matter.
-/

namespace MangleWebRTC.Tunnel

open Machine

/-- Where the loop of a session task is: waiting in `select!`, in `data_channel.send`,
in `socket.send`, or over. -/
inductive UdpSessionPoint where
  | select
  | sending (payload : List UInt8)
  | writing (msg : List UInt8)
  | ended
  deriving DecidableEq, Repr

/-- A session: its source, whether its data channel is open, the queue
`mpsc::channel(3)` from the listener, the inbox of its data channel, and the traffic:
payloads put into the queue, payloads sent on the data channel, messages sent by the
socket. -/
structure UdpSession (Addr : Type) where
  addr : Addr
  opened : Bool
  queue : Mailbox (List UInt8) 3
  inbox : Inbox
  point : UdpSessionPoint
  accepted : List (List UInt8)
  sent : List (List UInt8)
  written : List (List UInt8)

/-- The open event and the messages of the data channel, and the results of the session's awaits. -/
inductive UdpSessionEvent where
  | opens
  | message (msg : List UInt8)
  | enqueueMessage
  | takePayload
  | sent
  | takeMessage
  | wrote
  | ends
  deriving DecidableEq, Repr

namespace UdpSession

variable {Addr : Type}

/-- `create_data_channel` has returned, the first payload is in the queue and the
handler is registered. -/
def start (addr : Addr) (payload : List UInt8) : UdpSession Addr where
  addr := addr
  opened := false
  queue := ⟨[payload], [], by simp⟩
  inbox := Inbox.new.register
  point := .select
  accepted := [payload]
  sent := []
  written := []

/-- The listener's `send` succeeds: the session runs and its queue has a slot. -/
def accept (session : UdpSession Addr) (payload : List UInt8) : Option (UdpSession Addr) :=
  if session.point = .ended then none
  else (session.queue.offer payload).enqueue.map fun queue =>
    { session with queue := queue, accepted := session.accepted ++ [payload] }

/-- Steps of a session task and of its data channel. -/
def step (session : UdpSession Addr) : UdpSessionEvent → Option (UdpSession Addr)
  | .opens => if session.opened then none else some { session with opened := true }
  | .message msg =>
      if session.opened then some { session with inbox := session.inbox.arrive msg } else none
  | .enqueueMessage =>
      session.inbox.enqueue.map fun inbox => { session with inbox := inbox }
  | .takePayload =>
      match session.point with
      -- The loop `while sent_n < bytes.len()` makes no call for an empty payload.
      | .select => session.queue.take.map fun (payload, queue) =>
          { session with
            queue := queue, point := if payload = [] then .select else .sending payload }
      | _ => none
  | .sent =>
      match session.point with
      | .sending payload =>
          some { session with point := .select, sent := session.sent ++ [payload] }
      | _ => none
  | .takeMessage =>
      match session.point with
      | .select => session.inbox.take.map fun (msg, inbox) =>
          { session with inbox := inbox, point := .writing msg }
      | _ => none
  | .wrote =>
      match session.point with
      | .writing msg =>
          some { session with point := .select, written := session.written ++ [msg] }
      | _ => none
  -- A failed `unwrap`, or the end of one of the two queues; both receivers are dropped.
  | .ends =>
      if session.point = .ended then none
      else some { session with
        point := .ended, queue := .empty, inbox := session.inbox.dropReceiver }

end UdpSession

/-- The listener waits for a datagram, or for a slot in the queue of a session. -/
inductive UdpListenerPoint (Addr : Type) where
  | receiving
  | sending (addr : Addr) (id : Nat) (payload : List UInt8)
  deriving DecidableEq

/-- The listener task with `existing_channel_senders`, the sessions in the order of
their creation, and by source the payloads that arrived and those that were discarded. -/
structure UdpSessions (Addr : Type) where
  point : UdpListenerPoint Addr
  existingChannelSenders : List (Addr × Nat)
  sessions : List (UdpSession Addr)
  arrived : Addr → List (List UInt8)
  discarded : Addr → List (List UInt8)

/-- A datagram for the listener, a result of its send to a session, or a step of a session. -/
inductive UdpSessionsEvent (Addr : Type) where
  | datagram (addr : Addr) (payload : List UInt8)
  | handed
  | sendFails
  | session (id : Nat) (event : UdpSessionEvent)

namespace UdpSessions

variable {Addr : Type} [DecidableEq Addr]

/-- The listener is bound and no datagram has come. -/
def start : UdpSessions Addr := ⟨.receiving, [], [], fun _ => [], fun _ => []⟩

/-- `existing_channel_senders.entry(addr)`. -/
def entry (udp : UdpSessions Addr) (addr : Addr) : Option Nat :=
  (udp.existingChannelSenders.find? fun held => held.1 = addr).map Prod.snd

/-- One step of the listener or of a session. A new source gets a session, a known one waits for a
slot, and a session that has ended loses its entry with the payload. -/
def step (udp : UdpSessions Addr) : UdpSessionsEvent Addr → Option (UdpSessions Addr)
  | .datagram addr payload =>
      match udp.point with
      | .receiving =>
          let arrived := Function.update udp.arrived addr (udp.arrived addr ++ [payload])
          match udp.entry addr with
          | some id => some { udp with point := .sending addr id payload, arrived := arrived }
          | none => some { udp with
              existingChannelSenders :=
                (addr, udp.sessions.length) :: udp.existingChannelSenders
              sessions := udp.sessions ++ [.start addr payload]
              arrived := arrived }
      | .sending _ _ _ => none
  | .handed =>
      match udp.point with
      | .sending _ id payload => do
          let session ← udp.sessions[id]?
          let session ← session.accept payload
          some { udp with point := .receiving, sessions := udp.sessions.set id session }
      | .receiving => none
  | .sendFails =>
      match udp.point with
      | .sending addr id payload => do
          let session ← udp.sessions[id]?
          if session.point = .ended then
            some { udp with
              point := .receiving
              existingChannelSenders :=
                udp.existingChannelSenders.filter fun held => held.1 ≠ addr
              discarded :=
                Function.update udp.discarded addr (udp.discarded addr ++ [payload]) }
          else none
      | .receiving => none
  | .session id event => do
      let session ← udp.sessions[id]?
      let session ← session.step event
      some { udp with sessions := udp.sessions.set id session }

end UdpSessions

/-- All interleavings of a listener with its sessions. -/
def udpSessionsSystem (Addr : Type) [DecidableEq Addr] :
    TransitionSystem (UdpSessions Addr) (UdpSessionsEvent Addr) where
  init udp := udp = .start
  step := UdpSessions.step

end MangleWebRTC.Tunnel
