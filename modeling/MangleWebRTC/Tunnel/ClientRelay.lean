import MangleWebRTC.Tunnel.ClientTcp

/-! # The relay task of a TCP connection, poll by poll

The relay of the tunnel client again, with the local stream, the polls of the two
`select!` arms and the pieces in which `write_all` writes. The arm that is ready
first is taken and the other is dropped. Every step is a step of `ClientTcp` or
leaves it alone.
-/

namespace MangleWebRTC.Tunnel

open Machine

/-- A connection with its local `TcpStream`. `localSent` are all bytes of the local
peer, `incoming` those that no read has taken, `finished` its end of file, and
`chunks` what the body of the reading arm got. `output` are the bytes written to
the stream, and `progress` counts those of the current message. -/
structure ClientRelay where
  tcp : ClientTcp
  senders : Bool
  localSent : List UInt8
  incoming : List UInt8
  finished : Bool
  readPending : Bool
  recvPending : Bool
  chunks : List (List UInt8)
  progress : Nat
  output : List UInt8

/-- What can happen. The webrtc and the local peer act at any time; the rest are
steps of the relay task. -/
inductive ClientRelayEvent where
  | opens
  | message (msg : List UInt8)
  | enqueueMessage
  | dropHandler
  | localBytes (bytes : List UInt8)
  | localEof
  | establish
  | pollRead (count : Nat)
  | pollRecv
  | sendReturns (count : Nat)
  | writeSome (count : Nat)
  | wrote
  | fails
  deriving DecidableEq, Repr

/-- The steps that the relay task takes, in contrast to those of its surroundings. -/
def ClientRelayEvent.OfTask : ClientRelayEvent → Prop
  | .establish | .pollRead _ | .pollRecv | .sendReturns _ | .writeSome _ | .wrote | .fails => True
  | .opens | .message _ | .enqueueMessage | .dropHandler | .localBytes _ | .localEof => False

namespace ClientRelay

/-- A connection that was just accepted. -/
def start : ClientRelay :=
  ⟨.start, true, [], [], false, false, false, [], 0, []⟩

/-- An arm has completed: its body goes on, and the other arm's future is dropped
with what it holds. The next `select!` polls both anew. -/
def takeArm (relay : ClientRelay) (tcp : ClientTcp) : ClientRelay :=
  { relay with tcp := tcp, readPending := false, recvPending := false }

/-- The reading arm is polled. A read takes bytes off the stream only when it
completes; at the end of file it completes with none. -/
def pollRead (relay : ClientRelay) (count : Nat) : Option ClientRelay :=
  if relay.tcp.phase = .select ∧ relay.readPending = false then
    if relay.incoming = [] ∧ relay.finished = false then
      some { relay with readPending := true }
    else if count ≤ relay.incoming.length ∧ (relay.incoming ≠ [] → 0 < count) then
      let chunk := relay.incoming.take count
      (relay.tcp.step (.read chunk)).map fun tcp =>
        { relay.takeArm tcp with
          incoming := relay.incoming.drop count
          chunks := relay.chunks ++ [chunk] }
    else none
  else none

/-- The receiving arm is polled. It completes with the oldest message of the queue,
or with `None` when no sender is left, which is the only `break` of the loop. -/
def pollRecv (relay : ClientRelay) : Option ClientRelay :=
  if relay.tcp.phase = .select ∧ relay.recvPending = false then
    match relay.tcp.step .takeMessage with
    | some tcp => some { relay.takeArm tcp with progress := 0 }
    | none =>
        if relay.senders = false ∧ relay.tcp.inbox.bytes.contents = [] then
          some (relay.takeArm
            { relay.tcp with phase := .ended, inbox := relay.tcp.inbox.dropReceiver })
        else some { relay with recvPending := true }
  else none

/-- One step. The callbacks of a data channel are called one at a time, each awaited,
so a message comes only when no callback waits. A pending arm is polled again after
a wake. -/
def step (relay : ClientRelay) : ClientRelayEvent → Option ClientRelay
  | .opens => (relay.tcp.step .opens).map fun tcp => { relay with tcp := tcp }
  | .message msg =>
      if relay.senders ∧ relay.tcp.inbox.bytes.waiting = [] then
        (relay.tcp.step (.message msg)).map fun tcp => { relay with tcp := tcp }
      else none
  | .enqueueMessage =>
      (relay.tcp.step .enqueueMessage).map fun tcp =>
        { relay with tcp := tcp, recvPending := false }
  | .dropHandler =>
      if relay.tcp.inbox.handler then
        some { relay with senders := false, recvPending := false }
      else none
  | .localBytes bytes =>
      if relay.finished then none
      else some { relay with
        localSent := relay.localSent ++ bytes
        incoming := relay.incoming ++ bytes
        readPending := false }
  | .localEof => some { relay with finished := true, readPending := false }
  | .establish => (relay.tcp.step .establish).map fun tcp => { relay with tcp := tcp }
  | .pollRead count => relay.pollRead count
  | .pollRecv => relay.pollRecv
  | .sendReturns count =>
      (relay.tcp.step (.sendReturns count)).map fun tcp => { relay with tcp := tcp }
  | .writeSome count =>
      match relay.tcp.phase with
      | .writing msg =>
          if 0 < count ∧ relay.progress + count ≤ msg.length then
            some { relay with
              progress := relay.progress + count
              output := relay.output ++ (msg.drop relay.progress).take count }
          else none
      | _ => none
  -- `write_all` returns when all of the message is written.
  | .wrote =>
      match relay.tcp.phase with
      | .writing msg =>
          if relay.progress = msg.length then
            (relay.tcp.step .wrote).map fun tcp => { relay with tcp := tcp }
          else none
      | _ => none
  | .fails => (relay.tcp.step .fails).map fun tcp => { relay with tcp := tcp }

end ClientRelay

/-- All interleavings of the relay's polls with its stream and its data channel. -/
def clientRelaySystem : TransitionSystem ClientRelay ClientRelayEvent where
  init relay := relay = .start
  step := ClientRelay.step

/-! ## The polls refine the loop -/

namespace ClientRelay

/-- What a step does, with the facts that its guards leave. -/
inductive Step (relay : ClientRelay) : ClientRelayEvent → ClientRelay → Prop
  | opens (tcp : ClientTcp) (htcp : relay.tcp.step .opens = some tcp) :
      Step relay .opens { relay with tcp := tcp }
  | message (msg : List UInt8) (tcp : ClientTcp) (hawaited : relay.tcp.inbox.bytes.waiting = [])
      (htcp : relay.tcp.step (.message msg) = some tcp) :
      Step relay (.message msg) { relay with tcp := tcp }
  | enqueueMessage (tcp : ClientTcp) (htcp : relay.tcp.step .enqueueMessage = some tcp) :
      Step relay .enqueueMessage { relay with tcp := tcp, recvPending := false }
  | dropHandler : Step relay .dropHandler { relay with senders := false, recvPending := false }
  | localBytes (bytes : List UInt8) : Step relay (.localBytes bytes) { relay with
      localSent := relay.localSent ++ bytes
      incoming := relay.incoming ++ bytes
      readPending := false }
  | localEof : Step relay .localEof { relay with finished := true, readPending := false }
  | establish (tcp : ClientTcp) (htcp : relay.tcp.step .establish = some tcp) :
      Step relay .establish { relay with tcp := tcp }
  | readWaits (count : Nat) (hincoming : relay.incoming = []) (hfinished : relay.finished = false) :
      Step relay (.pollRead count) { relay with readPending := true }
  | reads (count : Nat) (tcp : ClientTcp) (hselect : relay.tcp.phase = .select)
      (hfinished : relay.incoming = [] → relay.finished = true)
      (hcount : relay.incoming ≠ [] → 0 < count)
      (htcp : relay.tcp.step (.read (relay.incoming.take count)) = some tcp) :
      Step relay (.pollRead count) { relay.takeArm tcp with
        incoming := relay.incoming.drop count
        chunks := relay.chunks ++ [relay.incoming.take count] }
  | receives (tcp : ClientTcp) (hselect : relay.tcp.phase = .select)
      (htcp : relay.tcp.step .takeMessage = some tcp) :
      Step relay .pollRecv { relay.takeArm tcp with progress := 0 }
  | breaks (hselect : relay.tcp.phase = .select) : Step relay .pollRecv (relay.takeArm
      { relay.tcp with phase := .ended, inbox := relay.tcp.inbox.dropReceiver })
  | recvWaits : Step relay .pollRecv { relay with recvPending := true }
  | sendReturns (count : Nat) (tcp : ClientTcp)
      (htcp : relay.tcp.step (.sendReturns count) = some tcp) :
      Step relay (.sendReturns count) { relay with tcp := tcp }
  | writeSome (count : Nat) (msg : List UInt8) (hwriting : relay.tcp.phase = .writing msg) :
      Step relay (.writeSome count) { relay with
        progress := relay.progress + count
        output := relay.output ++ (msg.drop relay.progress).take count }
  | wrote (msg : List UInt8) (tcp : ClientTcp) (hwriting : relay.tcp.phase = .writing msg)
      (hall : relay.progress = msg.length) (htcp : relay.tcp.step .wrote = some tcp) :
      Step relay .wrote { relay with tcp := tcp }
  | fails (tcp : ClientTcp) (htcp : relay.tcp.step .fails = some tcp) :
      Step relay .fails { relay with tcp := tcp }

theorem Step.of_pollRead {relay next : ClientRelay} {count : Nat}
    (hpoll : relay.pollRead count = some next) : relay.Step (.pollRead count) next := by
  unfold pollRead at hpoll
  split at hpoll
  next hselect =>
    split at hpoll
    next hempty => exact Option.some.inj hpoll ▸ .readWaits count hempty.1 hempty.2
    next hready =>
      split at hpoll
      next hcount =>
        obtain ⟨tcp, htcp, rfl⟩ := Option.map_eq_some_iff.mp hpoll
        have hfinished : relay.incoming = [] → relay.finished = true :=
          fun hempty => by simpa [hempty] using hready
        exact .reads count tcp hselect.1 hfinished hcount.2 htcp
      · cases hpoll
  · cases hpoll

theorem Step.of_pollRecv {relay next : ClientRelay} (hpoll : relay.pollRecv = some next) :
    relay.Step .pollRecv next := by
  unfold pollRecv at hpoll
  split at hpoll
  next hselect =>
    split at hpoll
    next tcp htcp => exact Option.some.inj hpoll ▸ .receives tcp hselect.1 htcp
    · split at hpoll
      · exact Option.some.inj hpoll ▸ .breaks hselect.1
      · exact Option.some.inj hpoll ▸ .recvWaits
  · cases hpoll

theorem Step.of_step {relay next : ClientRelay} {event : ClientRelayEvent}
    (hstep : relay.step event = some next) : relay.Step event next := by
  cases event with
  | opens =>
      obtain ⟨tcp, htcp, rfl⟩ := Option.map_eq_some_iff.mp hstep
      exact .opens tcp htcp
  | message msg =>
      simp only [step] at hstep
      split at hstep
      next hawaited =>
        obtain ⟨tcp, htcp, rfl⟩ := Option.map_eq_some_iff.mp hstep
        exact .message msg tcp hawaited.2 htcp
      · cases hstep
  | enqueueMessage =>
      obtain ⟨tcp, htcp, rfl⟩ := Option.map_eq_some_iff.mp hstep
      exact .enqueueMessage tcp htcp
  | dropHandler =>
      simp only [step] at hstep
      split at hstep
      · exact Option.some.inj hstep ▸ .dropHandler
      · cases hstep
  | localBytes bytes =>
      simp only [step] at hstep
      split at hstep
      · cases hstep
      · exact Option.some.inj hstep ▸ .localBytes bytes
  | localEof => exact Option.some.inj hstep ▸ .localEof
  | establish =>
      obtain ⟨tcp, htcp, rfl⟩ := Option.map_eq_some_iff.mp hstep
      exact .establish tcp htcp
  | pollRead count => exact .of_pollRead hstep
  | pollRecv => exact .of_pollRecv hstep
  | sendReturns count =>
      obtain ⟨tcp, htcp, rfl⟩ := Option.map_eq_some_iff.mp hstep
      exact .sendReturns count tcp htcp
  | writeSome count =>
      simp only [step] at hstep
      split at hstep
      next msg hwriting =>
        split at hstep
        · exact Option.some.inj hstep ▸ .writeSome count msg hwriting
        · cases hstep
      · cases hstep
  | wrote =>
      simp only [step] at hstep
      split at hstep
      next msg hwriting =>
        split at hstep
        next hall =>
          obtain ⟨tcp, htcp, rfl⟩ := Option.map_eq_some_iff.mp hstep
          exact .wrote msg tcp hwriting hall htcp
        · cases hstep
      · cases hstep
  | fails =>
      obtain ⟨tcp, htcp, rfl⟩ := Option.map_eq_some_iff.mp hstep
      exact .fails tcp htcp

/-- A step of the relay is a step of its connection or leaves the connection alone.
The `break` ends the connection as a failure does. -/
theorem step_tcp {relay next : ClientRelay} {event : ClientRelayEvent}
    (hstep : relay.step event = some next) :
    next.tcp = relay.tcp ∨ ∃ base, relay.tcp.step base = some next.tcp := by
  cases Step.of_step hstep with
  | opens tcp htcp | message _ tcp _ htcp | enqueueMessage tcp htcp | establish tcp htcp
  | reads _ tcp _ _ _ htcp | receives tcp _ htcp | sendReturns _ tcp htcp
  | wrote _ tcp _ _ htcp | fails tcp htcp => exact .inr ⟨_, htcp⟩
  | breaks hselect => exact .inr ⟨.fails, by simp [ClientTcp.step, hselect, takeArm]⟩
  | dropHandler | localBytes | localEof | readWaits | recvWaits | writeSome => exact .inl rfl

theorem reachable_tcp {relay : ClientRelay} (hreach : clientRelaySystem.Reachable relay) :
    clientTcpSystem.Reachable relay.tcp := by
  refine hreach.map ClientRelay.tcp (fun _ => True) ?_ ?_
  · rintro start rfl
    exact ⟨trivial, rfl⟩
  · intro state event next _ _ hnext
    obtain hsame | ⟨base, hbase⟩ := step_tcp hnext
    · exact ⟨trivial, .inl hsame⟩
    · exact ⟨trivial, .inr ⟨base, trivial, hbase⟩⟩

end ClientRelay

end MangleWebRTC.Tunnel
