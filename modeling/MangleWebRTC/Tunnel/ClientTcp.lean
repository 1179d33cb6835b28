import MangleWebRTC.Machine.TransitionSystem
import MangleWebRTC.Tunnel.Inbox
import MangleWebRTC.Tunnel.Outbound

/-! # A TCP connection of the tunnel client

From the accepted `TcpStream` on: the data channel opens, the waiting task
registers the handler, and a relay task loops over `select!`.
-/

namespace MangleWebRTC.Tunnel

open Machine

/-- The await at which the connection stands: `open_receiver.await`, or a point of
the relay's loop. A failed `unwrap` ends the relay. -/
inductive ClientTcpPhase where
  | awaitingOpen
  | select
  | sending (bytes : List UInt8) (sentN : Nat)
  | writing (msg : List UInt8)
  | ended
  deriving DecidableEq, Repr

/-- One connection: whether its data channel is open, its inbox, the bytes accepted
by the data channel and the messages written to the stream. -/
structure ClientTcp where
  phase : ClientTcpPhase
  opened : Bool
  inbox : Inbox
  accepted : List UInt8
  written : List (List UInt8)

/-- What a connection sees: the open event and messages of its data channel, its stream's bytes,
and the results of its own awaits; `fails` is an error or a panic. -/
inductive ClientTcpEvent where
  | opens
  | establish
  | message (msg : List UInt8)
  | enqueueMessage
  | read (chunk : List UInt8)
  | sendReturns (count : Nat)
  | takeMessage
  | wrote
  | fails
  deriving DecidableEq, Repr

namespace ClientTcp

/-- `create_data_channel` has returned and `on_open` is set. -/
def start : ClientTcp := ⟨.awaitingOpen, false, .new, [], []⟩

/-- The loop condition `sent_n < n`. -/
def sendingPhase (bytes : List UInt8) (sentN : Nat) : ClientTcpPhase :=
  if sentN < bytes.length then .sending bytes sentN else .select

/-- The open event makes `open_receiver` ready; the task goes on later. Messages
arrive on an open channel only. -/
def step (tcp : ClientTcp) : ClientTcpEvent → Option ClientTcp
  | .opens => if tcp.opened then none else some { tcp with opened := true }
  | .establish =>
      if tcp.opened ∧ tcp.phase = .awaitingOpen then
        some { tcp with phase := .select, inbox := tcp.inbox.register }
      else none
  | .message msg =>
      if tcp.opened then some { tcp with inbox := tcp.inbox.arrive msg } else none
  | .enqueueMessage => tcp.inbox.enqueue.map fun inbox => { tcp with inbox := inbox }
  | .read chunk =>
      if tcp.phase = .select ∧ chunk.length ≤ 2048 then
        some { tcp with phase := sendingPhase chunk 0 }
      else none
  | .sendReturns count =>
      match tcp.phase with
      | .sending bytes sentN =>
          -- The offer is the slice behind the chunk, so nothing is ever accepted.
          let offered := tcpSlice bytes sentN
          if count ≤ offered.length ∧ (offered ≠ [] → 0 < count) then
            some { tcp with
              phase := sendingPhase bytes (sentN + count)
              accepted := tcp.accepted ++ offered.take count }
          else none
      | _ => none
  | .takeMessage =>
      if tcp.phase = .select then
        tcp.inbox.take.map fun (msg, inbox) => { tcp with phase := .writing msg, inbox := inbox }
      else none
  | .wrote =>
      match tcp.phase with
      | .writing msg => some { tcp with phase := .select, written := tcp.written ++ [msg] }
      | _ => none
  | .fails =>
      match tcp.phase with
      | .select | .sending _ _ | .writing _ =>
          some { tcp with phase := .ended, inbox := tcp.inbox.dropReceiver }
      | _ => none

/-- What a step does, with the facts that its guards leave. -/
inductive Step (tcp : ClientTcp) : ClientTcpEvent → ClientTcp → Prop
  | opens : Step tcp .opens { tcp with opened := true }
  | establish (hopened : tcp.opened = true) (hphase : tcp.phase = .awaitingOpen) :
      Step tcp .establish { tcp with phase := .select, inbox := tcp.inbox.register }
  | message (msg : List UInt8) (hopened : tcp.opened = true) :
      Step tcp (.message msg) { tcp with inbox := tcp.inbox.arrive msg }
  | enqueueMessage (inbox : Inbox) (henqueue : tcp.inbox.enqueue = some inbox) :
      Step tcp .enqueueMessage { tcp with inbox := inbox }
  | read (chunk : List UInt8) (hselect : tcp.phase = .select) :
      Step tcp (.read chunk) { tcp with phase := sendingPhase chunk 0 }
  | sendReturns (count : Nat) (bytes : List UInt8) (sentN : Nat)
      (hsending : tcp.phase = .sending bytes sentN) : Step tcp (.sendReturns count) { tcp with
        phase := sendingPhase bytes (sentN + count)
        accepted := tcp.accepted ++ (tcpSlice bytes sentN).take count }
  | takeMessage (msg : List UInt8) (inbox : Inbox) (hselect : tcp.phase = .select)
      (htake : tcp.inbox.take = some (msg, inbox)) :
      Step tcp .takeMessage { tcp with phase := .writing msg, inbox := inbox }
  | wrote (msg : List UInt8) (hwriting : tcp.phase = .writing msg) :
      Step tcp .wrote { tcp with phase := .select, written := tcp.written ++ [msg] }
  | fails (hawaiting : tcp.phase ≠ .awaitingOpen) :
      Step tcp .fails { tcp with phase := .ended, inbox := tcp.inbox.dropReceiver }

theorem Step.of_step {tcp next : ClientTcp} {event : ClientTcpEvent}
    (hstep : tcp.step event = some next) : tcp.Step event next := by
  cases event with
  | opens =>
      simp only [step] at hstep
      split at hstep
      · cases hstep
      · exact Option.some.inj hstep ▸ .opens
  | establish =>
      simp only [step] at hstep
      split at hstep
      next henabled => exact Option.some.inj hstep ▸ .establish henabled.1 henabled.2
      · cases hstep
  | message msg =>
      simp only [step] at hstep
      split at hstep
      next hopened => exact Option.some.inj hstep ▸ .message msg hopened
      · cases hstep
  | enqueueMessage =>
      obtain ⟨inbox, henqueue, rfl⟩ := Option.map_eq_some_iff.mp hstep
      exact .enqueueMessage inbox henqueue
  | read chunk =>
      simp only [step] at hstep
      split at hstep
      next henabled => exact Option.some.inj hstep ▸ .read chunk henabled.1
      · cases hstep
  | sendReturns count =>
      simp only [step] at hstep
      split at hstep
      next bytes sentN hsending =>
        split at hstep
        · exact Option.some.inj hstep ▸ .sendReturns count bytes sentN hsending
        · cases hstep
      · cases hstep
  | takeMessage =>
      simp only [step] at hstep
      split at hstep
      next hselect =>
        obtain ⟨⟨msg, inbox⟩, htake, rfl⟩ := Option.map_eq_some_iff.mp hstep
        exact .takeMessage msg inbox hselect htake
      · cases hstep
  | wrote =>
      simp only [step] at hstep
      split at hstep
      next msg hwriting => exact Option.some.inj hstep ▸ .wrote msg hwriting
      · cases hstep
  | fails =>
      simp only [step] at hstep
      split at hstep
      next hphase => exact Option.some.inj hstep ▸ .fails (by simp [hphase])
      next bytes sentN hphase => exact Option.some.inj hstep ▸ .fails (by simp [hphase])
      next msg hphase => exact Option.some.inj hstep ▸ .fails (by simp [hphase])
      · cases hstep

end ClientTcp

/-- All runs of one connection. -/
def clientTcpSystem : TransitionSystem ClientTcp ClientTcpEvent where
  init tcp := tcp = .start
  step := ClientTcp.step

end MangleWebRTC.Tunnel
