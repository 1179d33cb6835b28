import MangleWebRTC.Machine.Mailbox

/-! # Messages of a data channel

The relays of both tunnel ends register an `on_message` handler that sends into
`mpsc::channel(2)`. Without a handler webrtc discards a message, and without a
receiver the handler does.
-/

namespace MangleWebRTC.Tunnel

open Machine

/-- The handler and the bytes channel of one relay, with the messages that arrived
since the channel opened, those the handler was called with, and those that have
entered the bytes queue. -/
structure Inbox where
  handler : Bool
  receiver : Bool
  bytes : Mailbox (List UInt8) 2
  arrived : List (List UInt8)
  handled : List (List UInt8)
  queued : List (List UInt8)

namespace Inbox

/-- The data channel has opened, and no handler is registered. -/
def new : Inbox := ⟨false, false, .empty, [], [], []⟩

/-- `mpsc::channel(2)` and `data_channel.on_message`. -/
def register (inbox : Inbox) : Inbox := { inbox with handler := true, receiver := true }

/-- A message arrives on the open data channel. -/
def arrive (inbox : Inbox) (msg : List UInt8) : Inbox :=
  if inbox.handler then
    { inbox with
      bytes := if inbox.receiver then inbox.bytes.offer msg else inbox.bytes
      arrived := inbox.arrived ++ [msg]
      handled := inbox.handled ++ [msg] }
  else { inbox with arrived := inbox.arrived ++ [msg] }

/-- A handler call gets a slot of the queue. -/
def enqueue (inbox : Inbox) : Option Inbox :=
  inbox.bytes.enqueue.map fun bytes =>
    { inbox with bytes := bytes, queued := inbox.queued ++ inbox.bytes.waiting.head?.toList }

/-- `webrtc_bytes_recv.recv()`. -/
def take (inbox : Inbox) : Option (List UInt8 × Inbox) :=
  inbox.bytes.take.map fun (msg, bytes) => (msg, { inbox with bytes := bytes })

/-- The relay is over: the receiver and what it holds are dropped, and the
handler's sends fail. -/
def dropReceiver (inbox : Inbox) : Inbox := { inbox with receiver := false, bytes := .empty }

/-- Every message since the channel opened has entered the bytes queue, in order,
or waits for a slot. -/
def Heard (inbox : Inbox) : Prop := inbox.arrived = inbox.queued ++ inbox.bytes.waiting

theorem heard_new : new.Heard := Eq.refl []

theorem Heard.register {inbox : Inbox} (hheard : inbox.Heard) : inbox.register.Heard := hheard

/-- A message is heard if and only if there are a handler and a receiver for it. -/
theorem heard_arrive_iff {inbox : Inbox} (hheard : inbox.Heard) (msg : List UInt8) :
    (inbox.arrive msg).Heard ↔ inbox.handler = true ∧ inbox.receiver = true := by
  unfold Heard at hheard
  unfold arrive Heard
  cases inbox.handler <;> cases inbox.receiver <;> simp [hheard, Mailbox.offer]

theorem enqueue_eq_some {inbox next : Inbox} (henqueue : inbox.enqueue = some next) :
    ∃ msg bytes, inbox.bytes.enqueue = some bytes ∧
      inbox.bytes.waiting = msg :: bytes.waiting ∧
      next = { inbox with bytes := bytes, queued := inbox.queued ++ [msg] } := by
  obtain ⟨bytes, hbytes, rfl⟩ := Option.map_eq_some_iff.mp henqueue
  obtain ⟨msg, hwaiting, _⟩ := Mailbox.enqueue_eq_some hbytes
  exact ⟨msg, bytes, hbytes, hwaiting, by simp [hwaiting]⟩

theorem Heard.enqueue {inbox next : Inbox} (hheard : inbox.Heard)
    (henqueue : inbox.enqueue = some next) : next.Heard := by
  obtain ⟨msg, bytes, _, hwaiting, rfl⟩ := enqueue_eq_some henqueue
  unfold Heard at hheard ⊢
  rw [hheard, hwaiting]
  simp

theorem take_eq_some {inbox next : Inbox} {msg : List UInt8}
    (htake : inbox.take = some (msg, next)) :
    ∃ bytes, inbox.bytes.take = some (msg, bytes) ∧ next = { inbox with bytes := bytes } := by
  obtain ⟨⟨first, bytes⟩, hbytes, hnext⟩ := Option.map_eq_some_iff.mp htake
  obtain ⟨rfl, rfl⟩ := Prod.mk.inj hnext
  exact ⟨bytes, hbytes, rfl⟩

theorem Heard.take {inbox next : Inbox} {msg : List UInt8} (hheard : inbox.Heard)
    (htake : inbox.take = some (msg, next)) : next.Heard := by
  obtain ⟨bytes, hbytes, rfl⟩ := take_eq_some htake
  obtain ⟨_, hwaiting⟩ := Mailbox.take_eq_some hbytes
  unfold Heard at hheard ⊢
  rwa [hwaiting]

/-- The end of a relay is harmless if and only if no handler call waits. -/
theorem heard_dropReceiver_iff {inbox : Inbox} (hheard : inbox.Heard) :
    inbox.dropReceiver.Heard ↔ inbox.bytes.waiting = [] := by
  unfold Heard at hheard
  unfold dropReceiver Heard
  rw [hheard]
  simp [Mailbox.empty]

end Inbox

end MangleWebRTC.Tunnel
