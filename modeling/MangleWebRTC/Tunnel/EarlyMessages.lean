import MangleWebRTC.Tunnel.ClientTcp
import MangleWebRTC.Tunnel.ServerInvariant

/-! # Messages that arrive before a relay is ready

Between the open event of a data channel and the registration of its handler lie
an await on the client, and a queue, other channels and a connect on the server.
Messages of that time are lost, as are those that come after the relay. All others
reach the bytes queue.
-/

namespace MangleWebRTC.Tunnel

open Machine

namespace ClientTcp

/-- A message finds a handler and a receiver, and a relay that fails has no handler
call waiting. -/
def HandlerReady (tcp : ClientTcp) : ClientTcpEvent → Prop
  | .message _ => tcp.inbox.handler = true ∧ tcp.inbox.receiver = true
  | .fails => tcp.inbox.bytes.waiting = []
  | _ => True

instance (tcp : ClientTcp) : (event : ClientTcpEvent) → Decidable (tcp.HandlerReady event)
  | .message _ => inferInstanceAs
      (Decidable (tcp.inbox.handler = true ∧ tcp.inbox.receiver = true))
  | .fails => inferInstanceAs (Decidable (tcp.inbox.bytes.waiting = []))
  | .opens | .establish | .enqueueMessage | .read _ | .sendReturns _ | .takeMessage | .wrote =>
      inferInstanceAs (Decidable True)

/-- The handler of the connection was called with every message so far. -/
def Heard (tcp : ClientTcp) : Prop := tcp.inbox.Heard

/-- A step keeps the messages heard exactly when it meets the condition. -/
theorem heard_step_iff {tcp next : ClientTcp} {event : ClientTcpEvent} (hheard : tcp.Heard)
    (hstep : tcp.step event = some next) : next.Heard ↔ tcp.HandlerReady event := by
  cases Step.of_step hstep with
  | message msg => exact Inbox.heard_arrive_iff hheard msg
  | fails => exact Inbox.heard_dropReceiver_iff hheard
  | enqueueMessage inbox henqueue =>
      exact iff_of_true (Inbox.Heard.enqueue hheard henqueue) trivial
  | takeMessage msg inbox _ htake => exact iff_of_true (Inbox.Heard.take hheard htake) trivial
  | establish => exact iff_of_true (Inbox.Heard.register hheard) trivial
  | opens | read | sendReturns | wrote => exact iff_of_true hheard trivial

end ClientTcp

namespace ServerTask

variable (config : List Channel)

/-- Every message on a channel with an entry has reached its relay's bytes queue, or
waits for a slot. -/
def Heard (task : ServerTask) : Prop :=
  ∀ (id : Nat) (channel : ServerChannel), task.channels[id]? = some channel →
    (servedBy config channel.protocol).isSome = true → channel.inbox.Heard

/-- The handler calls that wait at the channel being relayed. -/
def relayWaiting (task : ServerTask) : List (List UInt8) :=
  match task.phase with
  | .relaying id _ _ => (task.channels[id]?).elim [] (·.inbox.bytes.waiting)
  | _ => []

/-- A message on a channel with an entry finds a handler and a receiver, and a relay
that ends has no handler call waiting. -/
def HandlerReady (task : ServerTask) : ServerEvent → Prop
  | .message id _ => ∀ channel ∈ task.channels[id]?,
      (servedBy config channel.protocol).isSome = true →
        channel.inbox.handler = true ∧ channel.inbox.receiver = true
  | .sent | .wrote | .fails => task.relayWaiting = []
  | _ => True

instance (task : ServerTask) : (event : ServerEvent) → Decidable (task.HandlerReady config event)
  | .message id _ => inferInstanceAs (Decidable (∀ channel ∈ task.channels[id]?,
      (servedBy config channel.protocol).isSome = true →
        channel.inbox.handler = true ∧ channel.inbox.receiver = true))
  | .sent | .wrote | .fails => inferInstanceAs (Decidable (task.relayWaiting = []))
  | .announce _ | .opens _ | .localData _ _ | .localEof | .enqueueChannel | .takeChannel
  | .connected | .enqueueMessage _ | .readLocal | .takeMessage => inferInstanceAs (Decidable True)

variable {config} {task : ServerTask}

/-- Traffic of one channel: the others are heard as before. -/
theorem heard_setChannel_iff (hheard : task.Heard config) {id : Nat}
    {channel next : ServerChannel} (hchannel : task.channels[id]? = some channel)
    (hprotocol : next.protocol = channel.protocol) :
    (task.setChannel id next).Heard config ↔
      ((servedBy config channel.protocol).isSome = true → next.inbox.Heard) := by
  constructor
  · intro hnext hserved
    apply hnext id next
    · rw [getElem?_setChannel hchannel, if_pos rfl]
    · rwa [hprotocol]
  · intro hnext other kept hkept hserved
    rw [getElem?_setChannel hchannel] at hkept
    split at hkept
    · obtain rfl := Option.some.inj hkept
      exact hnext (hprotocol ▸ hserved)
    · exact hheard other kept hkept hserved

/-- Steps that leave a channel's messages heard. -/
theorem Heard.setChannel (hheard : task.Heard config) {id : Nat} {channel next : ServerChannel}
    (hchannel : task.channels[id]? = some channel)
    (hprotocol : next.protocol = channel.protocol)
    (hnext : channel.inbox.Heard → next.inbox.Heard) :
    (task.setChannel id next).Heard config := by
  apply (heard_setChannel_iff hheard hchannel hprotocol).mpr
  intro hserved
  exact hnext (hheard id channel hchannel hserved)

/-- The end of the relay of a channel. -/
theorem heard_end_iff (horderly : task.Orderly config) (hheard : task.Heard config) {id : Nat}
    {kind : SocketKind} {point : RelayPoint} {channel next : ServerChannel}
    (hphase : task.phase = .relaying id kind point)
    (hchannel : task.channels[id]? = some channel)
    (hprotocol : next.protocol = channel.protocol)
    (hinbox : next.inbox = channel.inbox.dropReceiver) :
    (task.setChannel id next).Heard config ↔
      task.relayWaiting = [] := by
  obtain ⟨found, port, hfound, hsocket⟩ := horderly.relaying id kind point hphase
  obtain rfl := Option.some.inj (hchannel.symm.trans hfound)
  have hserved : (servedBy config channel.protocol).isSome = true := by
    rw [(horderly.served id channel hchannel _ hsocket).2]
    rfl
  have hwaiting : task.relayWaiting = channel.inbox.bytes.waiting := by
    simp only [relayWaiting, hphase, hchannel, Option.elim_some]
  rw [heard_setChannel_iff hheard hchannel hprotocol, hinbox, hwaiting,
    Inbox.heard_dropReceiver_iff (hheard id channel hchannel hserved)]
  exact ⟨fun hready => hready hserved, fun hready _ => hready⟩

theorem heard_step_iff {next : ServerTask} {event : ServerEvent} (horderly : task.Orderly config)
    (hheard : task.Heard config) (hstep : Step config task event next) :
    next.Heard config ↔ task.HandlerReady config event := by
  cases hstep with
  -- Only here and at the end of a relay can a message be lost.
  | message id msg channel hchannel =>
      refine Iff.trans (heard_setChannel_iff hheard hchannel rfl) ?_
      constructor
      · intro hnext found hfound hserved
        obtain rfl := Option.some.inj (hchannel.symm.trans hfound)
        exact (Inbox.heard_arrive_iff (hheard id channel hchannel hserved) msg).mp (hnext hserved)
      · intro hready hserved
        apply (Inbox.heard_arrive_iff (hheard id channel hchannel hserved) msg).mpr
        exact hready channel hchannel hserved
  | sent id kind bytes channel hphase hchannel =>
      exact heard_end_iff horderly hheard hphase hchannel rfl rfl
  | wrote id kind msg channel hphase hchannel =>
      exact heard_end_iff horderly hheard hphase hchannel rfl rfl
  | failsRelaying id kind point channel hphase hchannel =>
      exact heard_end_iff horderly hheard hphase hchannel rfl rfl
  | failsConnecting id kind port hphase =>
      refine iff_of_true hheard ?_
      simp only [HandlerReady, relayWaiting, hphase]
  | announce protocol =>
      refine iff_of_true ?_ trivial
      intro id channel hchannel hserved
      rcases List.mem_append.mp (List.mem_of_getElem? hchannel) with hmem | hmem
      · obtain ⟨before, hbefore⟩ := List.getElem?_of_mem hmem
        exact hheard before channel hbefore hserved
      · rw [List.mem_singleton.mp hmem]
        exact Inbox.heard_new
  | opens id channel hchannel _ =>
      exact iff_of_true (hheard.setChannel hchannel rfl fun hbefore => hbefore) trivial
  | localData id chunk channel kind port hchannel _ =>
      exact iff_of_true (hheard.setChannel hchannel rfl fun hbefore => hbefore) trivial
  | enqueueChannel queue _ => exact iff_of_true hheard trivial
  | close id queue channel _ _ hchannel =>
      exact iff_of_true (hheard.setChannel hchannel rfl fun hbefore => hbefore) trivial
  | pass id queue _ _ => exact iff_of_true hheard trivial
  | serve id queue channel kind port _ _ _ _ => exact iff_of_true hheard trivial
  | connected id kind port channel _ hchannel =>
      exact iff_of_true (hheard.setChannel hchannel rfl Inbox.Heard.register) trivial
  | enqueueMessage id channel inbox hchannel hinbox =>
      exact iff_of_true
        (hheard.setChannel hchannel rfl fun hbefore => hbefore.enqueue hinbox) trivial
  | readLocal id kind channel chunk rest _ hchannel _ =>
      exact iff_of_true (hheard.setChannel hchannel rfl fun hbefore => hbefore) trivial
  | localEof id _ => exact iff_of_true hheard trivial
  | takeMessage id kind channel msg inbox _ hchannel htake =>
      exact iff_of_true
        (hheard.setChannel hchannel rfl fun hbefore => hbefore.take htake) trivial

end ServerTask

/-- On both ends, all messages since the open event are heard throughout a run if
and only if every one of them finds its handler and receiver, and no relay ends
while a handler call waits. -/
theorem early_messages_heard_iff {tcpEvents : List ClientTcpEvent} {tcpFinal : ClientTcp}
    (htcp : clientTcpSystem.run .start tcpEvents = some tcpFinal) {config : List Channel}
    {events : List ServerEvent} {final : ServerTask}
    (hserver : (serverSystem config).run .start events = some final) :
    (clientTcpSystem.Throughout ClientTcp.Heard .start tcpEvents ↔
      clientTcpSystem.Guarded ClientTcp.HandlerReady .start tcpEvents) ∧
    ((serverSystem config).Throughout (ServerTask.Heard config) .start events ↔
      (serverSystem config).Guarded (ServerTask.HandlerReady config) .start events) := by
  constructor
  · have hstart : ClientTcp.start.Heard := Inbox.heard_new
    apply TransitionSystem.throughout_iff_guarded ClientTcp.Heard (fun _ => id) ?_ ?_ hstart htcp
    · intro tcp event next hheard hready hstep
      exact (ClientTcp.heard_step_iff hheard hstep).mpr hready
    · intro tcp event next hheard hready hstep hnext
      exact hready ((ClientTcp.heard_step_iff hheard hstep).mp hnext)
  · apply TransitionSystem.throughout_iff_guarded
      (fun task : ServerTask => task.Orderly config ∧ task.Heard config) (fun _ => And.right)
      ?_ ?_ ⟨ServerTask.orderly_start, ?_⟩ hserver
    · rintro task event next ⟨horderly, hheard⟩ hready hstep
      have hcases := ServerTask.Step.of_step hstep
      exact ⟨horderly.step hcases,
        (ServerTask.heard_step_iff horderly hheard hcases).mpr hready⟩
    · rintro task event next ⟨horderly, hheard⟩ hready hstep hnext
      have hcases := ServerTask.Step.of_step hstep
      exact hready ((ServerTask.heard_step_iff horderly hheard hcases).mp hnext)
    · intro id channel hchannel
      simp [ServerTask.start] at hchannel

/-- A message after the setup, on each end. -/
theorem early_messages_heard_after_setup :
    ∃ tcp task,
      clientTcpSystem.run .start [.opens, .establish, .message [1], .enqueueMessage] = some tcp ∧
      (serverSystem webConfig).run .start [.announce "80", .opens 0, .enqueueChannel,
        .takeChannel, .connected, .message 0 [1], .enqueueMessage 0, .takeMessage, .wrote] =
          some task ∧
      tcp.inbox.queued = [[1]] ∧ tcp.Heard ∧ task.Heard webConfig := by
  obtain ⟨tcp, htcp, hqueued⟩ := clientTcpSystem.exists_run_of_any .start
    [.opens, .establish, .message [1], .enqueueMessage]
    (fun tcp => tcp.inbox.queued = [[1]]) (by decide +kernel)
  obtain ⟨task, htask, _⟩ := (serverSystem webConfig).exists_run_of_any .start
    [.announce "80", .opens 0, .enqueueChannel, .takeChannel, .connected, .message 0 [1],
      .enqueueMessage 0, .takeMessage, .wrote] (fun _ => true) (by decide +kernel)
  obtain ⟨hclient, hserver⟩ := early_messages_heard_iff htcp htask
  refine ⟨tcp, task, htcp, htask, of_decide_eq_true hqueued, ?_, ?_⟩
  · apply (hclient.mpr _).final htcp
    apply TransitionSystem.guarded_of_check
    decide +kernel
  · apply (hserver.mpr _).final htask
    apply TransitionSystem.guarded_of_check
    decide +kernel

/-- The remote sends as soon as the channel is open. The client has not yet gone on
from its await, and the server connects its socket: the message is gone. -/
theorem early_messages_lost :
    (∃ tcp, clientTcpSystem.run .start [.opens, .message [1], .establish] = some tcp ∧
      tcp.inbox.arrived = [[1]] ∧ tcp.inbox.handled = [] ∧ ¬ tcp.Heard) ∧
    ∃ task, (serverSystem webConfig).run .start [.announce "80", .opens 0, .enqueueChannel,
        .takeChannel, .message 0 [1], .connected] = some task ∧ ¬ task.Heard webConfig := by
  constructor
  · obtain ⟨tcp, htcp, htest⟩ := clientTcpSystem.exists_run_of_any .start
      [.opens, .message [1], .establish]
      (fun tcp => tcp.inbox.arrived = [[1]] ∧ tcp.inbox.handled = [] ∧
        tcp.inbox.queued ++ tcp.inbox.bytes.waiting = []) (by decide +kernel)
    obtain ⟨harrived, hhandled, hqueued⟩ := of_decide_eq_true htest
    refine ⟨tcp, htcp, harrived, hhandled, fun hheard => ?_⟩
    exact List.cons_ne_nil _ _ (harrived.symm.trans (hheard.trans hqueued))
  · obtain ⟨task, htask, htest⟩ := (serverSystem webConfig).exists_run_of_any .start
      [.announce "80", .opens 0, .enqueueChannel, .takeChannel, .message 0 [1], .connected]
      (fun task => (task.channels[0]?).any fun channel =>
        (servedBy webConfig channel.protocol).isSome ∧ channel.inbox.arrived = [[1]] ∧
          channel.inbox.queued ++ channel.inbox.bytes.waiting = []) (by decide +kernel)
    obtain ⟨channel, hchannel, hlost⟩ := (Option.any_eq_true _ _).mp htest
    obtain ⟨hserved, harrived, hqueued⟩ := of_decide_eq_true hlost
    refine ⟨task, htask, fun hheard => ?_⟩
    have hmessage := hheard 0 channel hchannel hserved
    exact List.cons_ne_nil _ _ (harrived.symm.trans (hmessage.trans hqueued))

end MangleWebRTC.Tunnel
