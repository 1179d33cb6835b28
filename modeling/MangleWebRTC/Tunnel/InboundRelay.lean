import MangleWebRTC.Tunnel.ClientRelay

/-! # Messages from the data channel to the local stream

What the handler was called with moves through the bytes channel and the relay to
the local stream. The arms of the relay drop each other's futures all the time;
nothing is lost by it in either direction.
-/

namespace MangleWebRTC.Tunnel

open Machine

/-! ## Messages on their way to the stream -/

/-- The message that is being written to the stream. -/
def ClientTcpPhase.current : ClientTcpPhase → List (List UInt8)
  | .writing msg => [msg]
  | _ => []

@[simp] theorem current_sendingPhase (bytes : List UInt8) (sentN : Nat) :
    (ClientTcp.sendingPhase bytes sentN).current = [] := by
  unfold ClientTcp.sendingPhase
  split <;> rfl

namespace ClientTcp

/-- What a step does to the messages: one arrives, enters the queue, leaves it for
the stream or is completely written, the relay ends, or they stay where they are. -/
inductive InboundStep (tcp next : ClientTcp) : ClientTcpEvent → Prop
  | arrived (msg : List UInt8) (hinbox : next.inbox = tcp.inbox.arrive msg)
      (hphase : next.phase = tcp.phase) (hwritten : next.written = tcp.written) :
      InboundStep tcp next (.message msg)
  | queued (hinbox : tcp.inbox.enqueue = some next.inbox) (hphase : next.phase = tcp.phase)
      (hwritten : next.written = tcp.written) : InboundStep tcp next .enqueueMessage
  | taken (msg : List UInt8) (hselect : tcp.phase = .select)
      (hinbox : tcp.inbox.take = some (msg, next.inbox)) (hphase : next.phase = .writing msg)
      (hwritten : next.written = tcp.written) : InboundStep tcp next .takeMessage
  | wrote (msg : List UInt8) (hwriting : tcp.phase = .writing msg)
      (hinbox : next.inbox = tcp.inbox) (hphase : next.phase = .select)
      (hwritten : next.written = tcp.written ++ [msg]) : InboundStep tcp next .wrote
  | ended (hphase : next.phase = .ended) (hinbox : next.inbox = tcp.inbox.dropReceiver) :
      InboundStep tcp next .fails
  | quiet {event : ClientTcpEvent}
      (hinbox : next.inbox = tcp.inbox ∨ next.inbox = tcp.inbox.register)
      (hrunning : tcp.phase = .ended → next.phase = .ended)
      (hcurrent : next.phase.current = tcp.phase.current) (hwritten : next.written = tcp.written) :
      InboundStep tcp next event

theorem step_inbound {tcp next : ClientTcp} {event : ClientTcpEvent}
    (hstep : tcp.step event = some next) : InboundStep tcp next event := by
  cases Step.of_step hstep with
  | opens => exact .quiet (.inl rfl) id rfl rfl
  | establish _ hphase => exact .quiet (.inr rfl) (by simp [hphase]) (by rw [hphase]; rfl) rfl
  | message msg => exact .arrived msg rfl rfl rfl
  | enqueueMessage inbox henqueue => exact .queued henqueue rfl rfl
  | read chunk hselect =>
      have hcurrent : (sendingPhase chunk 0).current = tcp.phase.current := by
        rw [current_sendingPhase, hselect]
        rfl
      exact .quiet (.inl rfl) (by simp [hselect]) hcurrent rfl
  | sendReturns count bytes sentN hsending =>
      have hcurrent : (sendingPhase bytes (sentN + count)).current = tcp.phase.current := by
        rw [current_sendingPhase, hsending]
        rfl
      exact .quiet (.inl rfl) (by simp [hsending]) hcurrent rfl
  | takeMessage msg inbox hselect htake => exact .taken msg hselect htake rfl rfl
  | wrote msg hwriting => exact .wrote msg hwriting rfl rfl rfl
  | fails => exact .ended rfl rfl

/-- While callbacks are called one at a time, at most one waits for the queue. -/
theorem waiting_le_one {tcp next : ClientTcp} {event : ClientTcpEvent}
    (hstep : tcp.step event = some next)
    (hawaited : ∀ msg, event = .message msg → tcp.inbox.bytes.waiting = [])
    (hsingle : tcp.inbox.bytes.waiting.length ≤ 1) :
    next.inbox.bytes.waiting.length ≤ 1 := by
  cases step_inbound hstep with
  | arrived msg hinbox =>
      have hnone := hawaited msg rfl
      rw [hinbox]
      unfold Inbox.arrive
      split
      · split <;> simp [hnone, Mailbox.offer]
      · simp [hnone]
  | queued hinbox =>
      obtain ⟨msg, bytes, -, hwaiting, hnext⟩ := Inbox.enqueue_eq_some hinbox
      rw [hwaiting, List.length_cons] at hsingle
      simp only [hnext]
      omega
  | taken msg hselect hinbox =>
      obtain ⟨bytes, hbytes, hnext⟩ := Inbox.take_eq_some hinbox
      simpa only [hnext, (Mailbox.take_eq_some hbytes).2] using hsingle
  | wrote msg hwriting hinbox => rwa [hinbox]
  | ended hphase hinbox => simp [hinbox, Inbox.dropReceiver, Mailbox.empty]
  | quiet hinbox =>
      obtain hsame | hregister := hinbox
      · rwa [hsame]
      · rwa [hregister]

/-- The steps that touch neither the stream nor the message being written to it. -/
theorem step_written {tcp next : ClientTcp} {event : ClientTcpEvent}
    (hstep : tcp.step event = some next)
    (hevent : event ≠ .takeMessage ∧ event ≠ .wrote ∧ event ≠ .fails) :
    next.written = tcp.written ∧ next.phase.current = tcp.phase.current ∧
      (tcp.phase = .ended → next.phase = .ended) := by
  cases step_inbound hstep with
  | arrived msg hinbox hphase hwritten => exact ⟨hwritten, by rw [hphase], by rw [hphase]; exact id⟩
  | queued hinbox hphase hwritten => exact ⟨hwritten, by rw [hphase], by rw [hphase]; exact id⟩
  | taken => exact absurd rfl hevent.1
  | wrote => exact absurd rfl hevent.2.1
  | ended => exact absurd rfl hevent.2.2
  | quiet hinbox hrunning hcurrent hwritten => exact ⟨hwritten, hcurrent, hrunning⟩

/-- Every message that the handler was called with is written, being written, or in
the bytes channel, in this order; a handler has a receiver. -/
structure Inbound (tcp : ClientTcp) : Prop where
  receiver : tcp.inbox.handler = true → tcp.inbox.receiver = true
  handled : tcp.inbox.handled = tcp.written ++ tcp.phase.current ++ tcp.inbox.bytes.contents

theorem Inbound.step {tcp next : ClientTcp} {event : ClientTcpEvent}
    (hinbound : tcp.phase ≠ .ended → tcp.Inbound) (hstep : tcp.step event = some next)
    (hrunning : next.phase ≠ .ended) : next.Inbound := by
  cases step_inbound hstep with
  | arrived msg hinbox hphase hwritten =>
      obtain ⟨hreceiver, hhandled⟩ := hinbound (hphase ▸ hrunning)
      unfold Inbox.arrive at hinbox
      split at hinbox
      next hhandler =>
        rw [if_pos (hreceiver hhandler)] at hinbox
        refine ⟨fun _ => by rw [hinbox]; exact hreceiver hhandler, ?_⟩
        simp [hinbox, hwritten, hphase, hhandled]
      next hhandler =>
        exact ⟨by simp [hinbox, hhandler], by simpa [hinbox, hwritten, hphase] using hhandled⟩
  | queued hinbox hphase hwritten =>
      obtain ⟨hreceiver, hhandled⟩ := hinbound (hphase ▸ hrunning)
      obtain ⟨msg, bytes, hbytes, -, hnext⟩ := Inbox.enqueue_eq_some hinbox
      rw [← Mailbox.contents_enqueue hbytes] at hhandled
      exact ⟨by simpa [hnext] using hreceiver, by simpa [hnext, hwritten, hphase] using hhandled⟩
  | taken msg hselect hinbox hphase hwritten =>
      obtain ⟨hreceiver, hhandled⟩ := hinbound (by simp [hselect])
      obtain ⟨bytes, hbytes, hnext⟩ := Inbox.take_eq_some hinbox
      rw [Mailbox.contents_take hbytes, hselect] at hhandled
      refine ⟨by simpa [hnext] using hreceiver, ?_⟩
      simpa [hnext, hwritten, hphase, ClientTcpPhase.current] using hhandled
  | wrote msg hwriting hinbox hphase hwritten =>
      obtain ⟨hreceiver, hhandled⟩ := hinbound (by simp [hwriting])
      rw [hwriting] at hhandled
      refine ⟨by rwa [hinbox], ?_⟩
      simpa [hinbox, hwritten, hphase, ClientTcpPhase.current] using hhandled
  | ended hphase hinbox => exact absurd hphase hrunning
  | quiet hinbox hended hcurrent hwritten =>
      obtain ⟨hreceiver, hhandled⟩ := hinbound (mt hended hrunning)
      rw [← hwritten, ← hcurrent] at hhandled
      obtain hsame | hregister := hinbox
      · exact ⟨by rwa [hsame], by rwa [hsame]⟩
      · exact ⟨fun _ => by rw [hregister]; rfl, by rwa [hregister]⟩

theorem Inbound.of_reachable {tcp : ClientTcp} (hreach : clientTcpSystem.Reachable tcp)
    (hrunning : tcp.phase ≠ .ended) : tcp.Inbound := by
  refine hreach.invariant (fun tcp => tcp.phase ≠ .ended → tcp.Inbound) ?_ ?_ hrunning
  · rintro start rfl -
    exact ⟨Bool.noConfusion, rfl⟩
  · intro tcp event next hinbound _ hnext
    exact Inbound.step hinbound hnext

end ClientTcp

namespace ClientRelay

/-! ## Nothing is lost between the arms -/

/-- At most one callback waits for the queue. The bytes of the local peer are still
to be read or were given to the body of the reading arm. While the relay runs, the
output is the written messages and a beginning of the current one. -/
structure Lossless (relay : ClientRelay) : Prop where
  single : relay.tcp.inbox.bytes.waiting.length ≤ 1
  outbound : relay.localSent = relay.chunks.flatten ++ relay.incoming
  output : relay.tcp.phase ≠ .ended → relay.output =
    relay.tcp.written.flatten ++ relay.tcp.phase.current.flatten.take relay.progress

theorem lossless_start : start.Lossless := ⟨Nat.zero_le 1, rfl, fun _ => rfl⟩

/-- A step of the connection that leaves the local stream's output alone. -/
theorem Lossless.of_tcp {relay next : ClientRelay} {base : ClientTcpEvent}
    (hlossless : relay.Lossless) (htcp : relay.tcp.step base = some next.tcp)
    (hbase : base ≠ .takeMessage ∧ base ≠ .wrote ∧ base ≠ .fails)
    (hawaited : ∀ msg, base = .message msg → relay.tcp.inbox.bytes.waiting = [])
    (houtbound : next.localSent = next.chunks.flatten ++ next.incoming)
    (hprogress : next.progress = relay.progress) (houtput : next.output = relay.output) :
    next.Lossless := by
  obtain ⟨hwritten, hcurrent, hended⟩ := ClientTcp.step_written htcp hbase
  refine ⟨ClientTcp.waiting_le_one htcp hawaited hlossless.single, houtbound, fun hrunning => ?_⟩
  rw [houtput, hwritten, hcurrent, hprogress]
  exact hlossless.output (mt hended hrunning)

theorem Lossless.step {relay next : ClientRelay} {event : ClientRelayEvent}
    (hlossless : relay.Lossless) (hstep : relay.step event = some next) : next.Lossless := by
  cases Step.of_step hstep with
  | opens tcp htcp | enqueueMessage tcp htcp | establish tcp htcp | sendReturns _ tcp htcp =>
      exact hlossless.of_tcp htcp (by simp) (by simp) hlossless.outbound rfl rfl
  | message msg tcp hawaited htcp =>
      exact hlossless.of_tcp htcp (by simp) (fun _ _ => hawaited) hlossless.outbound rfl rfl
  | dropHandler | localEof | readWaits | recvWaits =>
      exact ⟨hlossless.single, hlossless.outbound, hlossless.output⟩
  | localBytes bytes =>
      exact ⟨hlossless.single, by simp [hlossless.outbound], hlossless.output⟩
  | reads count tcp hselect hfinished hcount htcp =>
      -- What the read takes off the stream is what the body of the arm gets.
      exact hlossless.of_tcp htcp (by simp) (by simp) (by simp [takeArm, hlossless.outbound])
        rfl rfl
  | receives tcp hselect htcp =>
      have hsingle := ClientTcp.waiting_le_one htcp (by simp) hlossless.single
      have houtput := hlossless.output (by simp [hselect])
      refine ⟨hsingle, hlossless.outbound, fun _ => ?_⟩
      cases ClientTcp.Step.of_step htcp with
      | takeMessage msg inbox => simpa [takeArm, hselect, ClientTcpPhase.current] using houtput
  | breaks => exact ⟨Nat.zero_le 1, hlossless.outbound, fun hrunning => absurd rfl hrunning⟩
  | writeSome count msg hwriting =>
      refine ⟨hlossless.single, hlossless.outbound, fun hrunning => ?_⟩
      simp only [hlossless.output hrunning, hwriting, ClientTcpPhase.current,
        List.flatten_singleton, List.take_add, List.append_assoc]
  | wrote msg tcp hwriting hall htcp =>
      have houtput := hlossless.output (by simp [hwriting])
      cases ClientTcp.Step.of_step htcp with
      | wrote last hlast =>
          obtain rfl := ClientTcpPhase.writing.inj (hwriting.symm.trans hlast)
          refine ⟨hlossless.single, hlossless.outbound, fun _ => ?_⟩
          simpa [hwriting, ClientTcpPhase.current, hall] using houtput
  | fails tcp htcp =>
      have hsingle := ClientTcp.waiting_le_one htcp (by simp) hlossless.single
      cases ClientTcp.Step.of_step htcp with
      | fails => exact ⟨hsingle, hlossless.outbound, fun hrunning => absurd rfl hrunning⟩

/-- The inbound relay of the tunnel client in every reachable state, for every
interleaving of callbacks, queue, local reads and both arms, while the task runs:
the payloads the handler was called with are those written completely, then at most
one being written, then those in the queue of two slots, then at most one waiting to
enter it. The bytes on the stream are the written payloads and a beginning of the
current one. And every byte of the local peer is still to be read or was given to
the body of the reading arm: a dropped arm discards none. -/
theorem tcp_inbound_lossless (relay : ClientRelay) (hreach : clientRelaySystem.Reachable relay)
    (hrunning : relay.tcp.phase ≠ .ended) :
    relay.tcp.inbox.handled = relay.tcp.written ++ relay.tcp.phase.current ++
      relay.tcp.inbox.bytes.slots ++ relay.tcp.inbox.bytes.waiting ∧
    relay.tcp.phase.current.length ≤ 1 ∧ relay.tcp.inbox.bytes.slots.length ≤ 2 ∧
    relay.tcp.inbox.bytes.waiting.length ≤ 1 ∧
    relay.output =
      relay.tcp.written.flatten ++ relay.tcp.phase.current.flatten.take relay.progress ∧
    relay.localSent = relay.chunks.flatten ++ relay.incoming := by
  have hlossless : relay.Lossless := by
    refine hreach.invariant Lossless ?_ fun _ _ _ hlossless _ hnext => hlossless.step hnext
    rintro start rfl
    exact lossless_start
  have hinbound := ClientTcp.Inbound.of_reachable (reachable_tcp hreach) hrunning
  refine ⟨?_, ?_, relay.tcp.inbox.bytes.bounded, hlossless.single, hlossless.output hrunning,
    hlossless.outbound⟩
  · rw [hinbound.handled, Mailbox.contents, List.append_assoc _ _ relay.tcp.inbox.bytes.waiting]
  · cases relay.tcp.phase <;> simp [ClientTcpPhase.current]

/-- Both arms are polled, four messages come one after another, the first is partly
written with the reading arm dropped, and the last waits for a slot. -/
theorem tcp_inbound_lossless_backpressure :
    let events : List ClientRelayEvent := [.opens, .establish, .pollRead 0, .pollRecv,
      .message [1, 2], .enqueueMessage, .message [3], .enqueueMessage, .pollRecv, .writeSome 1,
      .localBytes [9], .message [4], .enqueueMessage, .message [5]]
    ∃ relay, clientRelaySystem.run start events = some relay ∧
      relay.tcp.phase = .writing [1, 2] ∧
      relay.tcp.inbox.handled = relay.tcp.written ++ relay.tcp.phase.current ++
        relay.tcp.inbox.bytes.slots ++ relay.tcp.inbox.bytes.waiting ∧
      relay.tcp.phase.current.length ≤ 1 ∧ relay.tcp.inbox.bytes.slots.length ≤ 2 ∧
      relay.tcp.inbox.bytes.waiting.length ≤ 1 ∧
      relay.output =
        relay.tcp.written.flatten ++ relay.tcp.phase.current.flatten.take relay.progress ∧
      relay.localSent = relay.chunks.flatten ++ relay.incoming := by
  intro events
  obtain ⟨relay, hrun, hphase⟩ := clientRelaySystem.exists_run_of_any start events
    (fun relay => decide (relay.tcp.phase = .writing [1, 2])) (by decide +kernel)
  have hwriting := of_decide_eq_true hphase
  exact ⟨relay, hrun, hwriting,
    tcp_inbound_lossless relay (.of_run rfl hrun) (by simp [hwriting])⟩

end ClientRelay

end MangleWebRTC.Tunnel
