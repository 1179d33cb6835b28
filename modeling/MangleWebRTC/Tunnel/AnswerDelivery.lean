import MangleWebRTC.Tunnel.AcceptOrder
import MangleWebRTC.Tunnel.OpenOrder
import MangleWebRTC.Tunnel.TunnelIsolation

/-! # When an answer can still be written

The relay of a stream writes what comes back from its `select!` only. While an answer is
on its way it can be written as long as the relay is in its `select!`, or its task waits for
the data channel. Once a chunk was read from the stream the relay never leaves the loop that
sends it, and the answer is lost.
-/

namespace MangleWebRTC.Tunnel

open Machine

namespace ClientTcp

/-! ## The relay of a stream -/

/-- The relay is over, or in the loop that sends a chunk. -/
def Silenced (tcp : ClientTcp) : Prop :=
  tcp.phase = .ended ∨ ∃ bytes sentN, tcp.phase = .sending bytes sentN ∧ sentN < bytes.length

/-- The offer is empty, so that a send returns 0 and the loop goes on. -/
theorem sendReturns_eq_some {tcp next : ClientTcp} {count : Nat}
    (hstep : tcp.step (.sendReturns count) = some next) : count = 0 := by
  simp only [step] at hstep
  split at hstep
  next bytes sentN _ =>
    split at hstep
    next hcount =>
      rw [tcpSlice, List.drop_length] at hcount
      exact Nat.le_zero.mp hcount.1
    · cases hstep
  · cases hstep

theorem Silenced.step {tcp next : ClientTcp} {event : ClientTcpEvent} (hsilenced : tcp.Silenced)
    (hstep : tcp.step event = some next) : next.Silenced ∧ next.written = tcp.written := by
  have hphase : tcp.phase = .ended ∨ ∃ bytes sentN, tcp.phase = .sending bytes sentN :=
    hsilenced.imp_right fun ⟨bytes, sentN, hsending, _⟩ => ⟨bytes, sentN, hsending⟩
  cases Step.of_step hstep with
  | opens | message | enqueueMessage => exact ⟨hsilenced, rfl⟩
  | establish _ hother | read _ hother | takeMessage _ _ hother | wrote _ hother =>
      rw [hother] at hphase
      simp at hphase
  | sendReturns count bytes sentN hsending =>
      obtain rfl := sendReturns_eq_some hstep
      refine ⟨.inr ⟨bytes, sentN, ?_⟩, rfl⟩
      rcases hsilenced with hended | ⟨_, _, hsame, hmore⟩
      · cases hsending.symm.trans hended
      · obtain ⟨rfl, rfl⟩ := ClientTcpPhase.sending.inj (hsending.symm.trans hsame)
        exact ⟨if_pos hmore, hmore⟩
  | fails => exact ⟨.inl rfl, rfl⟩

/-- The loop of sends is only entered and only gone on with while bytes are left. -/
theorem lt_length_of_reachable {tcp : ClientTcp} (hreach : clientTcpSystem.Reachable tcp)
    {bytes : List UInt8} {sentN : Nat} (hsending : tcp.phase = .sending bytes sentN) :
    sentN < bytes.length := by
  have hentered : ∀ {chunk : List UInt8} {count : Nat} {bytes : List UInt8} {sentN : Nat},
      sendingPhase chunk count = .sending bytes sentN → sentN < bytes.length := by
    intro chunk count bytes sentN hphase
    unfold sendingPhase at hphase
    split at hphase
    next hmore =>
      obtain ⟨rfl, rfl⟩ := ClientTcpPhase.sending.inj hphase
      exact hmore
    · cases hphase
  have hinv : ∀ bytes sentN, tcp.phase = .sending bytes sentN → sentN < bytes.length := by
    apply hreach.invariant fun tcp =>
      ∀ bytes sentN, tcp.phase = .sending bytes sentN → sentN < bytes.length
    · rintro start rfl bytes sentN hphase
      cases hphase
    · intro tcp event next hinv _ hstep bytes sentN hphase
      cases Step.of_step hstep with
      | opens | message | enqueueMessage => exact hinv bytes sentN hphase
      | read | sendReturns => exact hentered hphase
      | establish | takeMessage | wrote | fails => cases hphase
  exact hinv bytes sentN hsending

/-- The handler is set before the relay starts. -/
theorem handler_of_reachable {tcp : ClientTcp} (hreach : clientTcpSystem.Reachable tcp) :
    tcp.phase = .awaitingOpen ∨ tcp.inbox.handler = true := by
  apply hreach.invariant fun tcp => tcp.phase = .awaitingOpen ∨ tcp.inbox.handler = true
  · rintro start rfl
    exact .inl rfl
  · intro tcp event next hinv _ hstep
    cases Step.of_step hstep with
    | opens => exact hinv
    | establish => exact .inr rfl
    | message msg => exact hinv.imp_right (ServerTask.handler_arrive tcp.inbox msg).trans
    | enqueueMessage inbox henqueue =>
        obtain ⟨_, _, _, _, rfl⟩ := Inbox.enqueue_eq_some henqueue
        exact hinv
    | takeMessage msg inbox hphase htake =>
        obtain ⟨_, _, rfl⟩ := Inbox.take_eq_some htake
        exact .inr (hinv.resolve_left (by simp [hphase]))
    | read _ hphase | sendReturns _ _ _ hphase | wrote _ hphase =>
        exact .inr (hinv.resolve_left (by simp [hphase]))
    | fails hawaiting => exact .inr (hinv.resolve_left hawaiting)

/-- The first message that arrives at a relay in its `select!` can be written. -/
theorem exists_written {tcp : ClientTcp} (hreach : clientTcpSystem.Reachable tcp)
    (hselect : tcp.phase = .select) (hnone : tcp.inbox.arrived = []) (msg : List UInt8) :
    ∃ arrived next, tcp.step (.message msg) = some arrived ∧
      clientTcpSystem.run arrived [.enqueueMessage, .takeMessage, .wrote] = some next ∧
      next.written = [msg] := by
  have hopened := (opened_of_reachable hreach).resolve_left (by simp [hselect])
  have hhandler := (handler_of_reachable hreach).resolve_left (by simp [hselect])
  have hinbound := Inbound.of_reachable hreach (by simp [hselect])
  have hreceiver := hinbound.receiver hhandler
  have hhandled : tcp.inbox.handled = [] :=
    List.sublist_nil.mp (hnone ▸ (Relayed.of_reachable hreach).heard)
  have hempty := hinbound.handled
  rw [hhandled, eq_comm, List.append_eq_nil_iff, List.append_eq_nil_iff] at hempty
  obtain ⟨⟨hwritten, _⟩, hcontents⟩ := hempty
  obtain ⟨phase, opened, ⟨handler, receiver, ⟨slots, waiting, hbounded⟩, arrived, handled, queued⟩,
    accepted, written⟩ := tcp
  obtain ⟨rfl, rfl⟩ := List.append_eq_nil_iff.mp hcontents
  subst hselect hopened hhandler hreceiver hwritten
  exact ⟨_, _, rfl, rfl, rfl⟩

end ClientTcp

namespace TunnelClient

variable {occupied : SocketKind → Port → Bool} {config : List Channel} {client : TunnelClient}

/-! ## The tasks of the client -/

/-- The relay of the stream is in its `select!`, or the task of its entry waits for its
data channel. -/
def Answerable (client : TunnelClient) (id : Nat) : Prop :=
  client.returned = false ∧ ∃ connection, client.connections[id]? = some connection ∧
    (connection.tcp.phase = .select ∨ ∃ (index : Nat) (listener : Listener),
      client.listeners[index]? = some listener ∧ listener.phase = .opening id)

/-- Nothing more is written to the stream: its relay will not do it, or will not start. -/
def Mute (client : TunnelClient) (id : Nat) (connection : Connection) : Prop :=
  client.returned = true ∨ connection.tcp.Silenced ∨
    connection.tcp.phase = .awaitingOpen ∧ ∀ (index : Nat) (listener : Listener),
      client.listeners[index]? = some listener → listener.phase ≠ .opening id

theorem Mute.setListener {id index : Nat} {connection : Connection} {listener : Listener}
    (hmute : client.Mute id connection) (hlistener : client.listeners[index]? = some listener)
    {phase : ListenerPhase} (hphase : phase ≠ .opening id) :
    (client.setListener index { listener with phase := phase }).Mute id connection := by
  refine hmute.imp_right fun hmute => hmute.imp_right fun ⟨hawaiting, hnobody⟩ => ⟨hawaiting, ?_⟩
  intro other found hfound
  rcases eq_or_getElem?_of_set hlistener hfound with ⟨_, rfl⟩ | ⟨_, hbefore⟩
  · exact hphase
  · exact hnobody other found hbefore

/-- A step of a connection. -/
theorem Mute.connection_step {id other : Nat} {connection found : Connection} {tcp : ClientTcp}
    {event : ClientTcpEvent} (hmute : client.Mute id connection)
    (hreturned : client.returned = false) (hconnection : client.connections[id]? = some connection)
    (hfound : client.connections[other]? = some found) (hevent : event ≠ .establish)
    (htcp : found.tcp.step event = some tcp) :
    ∃ after, (client.setConnection other { found with tcp := tcp }).connections[id]? = some after ∧
      after.tcp.written = connection.tcp.written ∧
      (client.setConnection other { found with tcp := tcp }).Mute id after := by
  have hget := @getElem?_set_of_some _ client.connections other found
    { found with tcp := tcp } hfound id
  by_cases hsame : id = other
  · subst hsame
    obtain rfl := Option.some.inj (hconnection.symm.trans hfound)
    refine ⟨_, hget.trans (if_pos rfl), ?_⟩
    rcases hmute with hover | hsilenced | ⟨hawaiting, hnobody⟩
    · cases hreturned.symm.trans hover
    · obtain ⟨hnext, hwritten⟩ := hsilenced.step htcp
      exact ⟨hwritten, .inr (.inl hnext)⟩
    · refine ⟨?_, .inr (.inr ⟨ClientTcp.awaitingOpen_step htcp hevent hawaiting, hnobody⟩)⟩
      cases ClientTcp.Step.of_step htcp with
      | wrote _ hwriting => cases hawaiting.symm.trans hwriting
      | _ => rfl
  · exact ⟨connection, hget.trans ((if_neg hsame).trans hconnection), rfl, hmute⟩

/-- Whatever the tasks do, a stream that nothing more is written to stays so. -/
theorem Mute.step {next : TunnelClient} {event : TunnelClientEvent} {id : Nat}
    {connection : Connection} (hmute : client.Mute id connection)
    (hconnection : client.connections[id]? = some connection)
    (hstep : client.step occupied event = some next) :
    ∃ after, next.connections[id]? = some after ∧
      after.tcp.written = connection.tcp.written ∧ next.Mute id after := by
  have hreturned : client.returned = false := by
    rw [Bool.eq_false_iff]
    intro hover
    simp [TunnelClient.step, hover] at hstep
  cases Step.of_step hstep with
  | start index listener hlistener hphase =>
      refine ⟨connection, hconnection, rfl, hmute.setListener hlistener ?_⟩
      rcases startPhase_cases occupied client listener.entry with heq | ⟨_, heq⟩ <;> simp [heq]
  | accept index listener hlistener hphase =>
      have hset : (client.setListener index { listener with
          phase := .creating client.channelCounter }).Mute id connection :=
        hmute.setListener hlistener ListenerPhase.noConfusion
      exact ⟨connection, hconnection, rfl, hset⟩
  | created index listener channelIdx init hlistener hphase =>
      obtain ⟨hlength, _⟩ := List.getElem?_eq_some_iff.mp hconnection
      have hset : (client.setListener index { listener with
          phase := .opening client.connections.length }).Mute id connection :=
        hmute.setListener hlistener fun hopening =>
          hlength.ne (ListenerPhase.opening.inj hopening).symm
      exact ⟨connection, (List.getElem?_append_left hlength).trans hconnection, rfl, hset⟩
  | establish index listener other found tcp hlistener hphase hfound htcp =>
      have hset : (client.setListener index { listener with phase := .serving }).Mute id
          connection := hmute.setListener hlistener ListenerPhase.noConfusion
      have hne : id ≠ other := by
        rintro rfl
        obtain rfl := Option.some.inj (hconnection.symm.trans hfound)
        cases ClientTcp.Step.of_step htcp with
        | establish _ hawaiting =>
            rcases hmute with hover | (hended | ⟨_, _, hsending, _⟩) | ⟨_, hnobody⟩
            · cases hreturned.symm.trans hover
            · cases hawaiting.symm.trans hended
            · cases hawaiting.symm.trans hsending
            · exact hnobody index listener hlistener hphase
      exact ⟨connection, (getElem?_set_of_some hfound id).trans ((if_neg hne).trans hconnection),
        rfl, hset⟩
  | openFails index listener other hlistener hphase =>
      exact ⟨connection, hconnection, rfl,
        hmute.setListener hlistener ListenerPhase.noConfusion⟩
  | ends event index listener result _ hlistener =>
      exact ⟨connection, hconnection, rfl,
        hmute.setListener hlistener ListenerPhase.noConfusion⟩
  | connection other event found tcp hfound hevent htcp =>
      exact hmute.connection_step hreturned hconnection hfound hevent htcp
  | udpCounts => exact ⟨connection, hconnection, rfl, hmute⟩
  | returns => exact ⟨connection, hconnection, rfl, .inl rfl⟩

/-- A stream with an answer on its way is mute if it is not answerable. -/
theorem mute_of_not_answerable {id : Nat} {connection : Connection}
    (hreach : clientTcpSystem.Reachable connection.tcp)
    (hconnection : client.connections[id]? = some connection)
    (hnone : connection.tcp.inbox.arrived = []) (hanswerable : ¬ client.Answerable id) :
    client.Mute id connection := by
  cases hreturned : client.returned with
  | true => exact .inl hreturned
  | false =>
      have hnot := fun hcases => hanswerable ⟨hreturned, connection, hconnection, hcases⟩
      cases hphase : connection.tcp.phase with
      | awaitingOpen =>
          refine .inr (.inr ⟨hphase, fun index listener hlistener hopening => ?_⟩)
          exact hnot (.inr ⟨index, listener, hlistener, hopening⟩)
      | select => exact absurd (.inl hphase) hnot
      | sending bytes sentN =>
          exact .inr (.inl (.inr ⟨bytes, sentN, hphase,
            ClientTcp.lt_length_of_reachable hreach hphase⟩))
      | writing msg =>
          -- What is being written has arrived.
          have hrelayed := ClientTcp.Relayed.of_reachable hreach
          have hcurrent := hrelayed.order.sublist.trans hrelayed.heard
          rw [hphase, hnone] at hcurrent
          simp [ClientTcpPhase.current] at hcurrent
      | ended => exact .inr (.inl (.inl hphase))

end TunnelClient

namespace TunnelSession

variable {occupied : SocketKind → Port → Bool} {clientConfig serverConfig : List Channel}
variable {session : TunnelSession}

/-! ## Both ends -/

/-- Some continuation of the run writes the message to the stream. -/
def CanAnswer (occupied : SocketKind → Port → Bool) (clientConfig serverConfig : List Channel)
    (session : TunnelSession) (id : Nat) (msg : List UInt8) : Prop :=
  ∃ later connection, (tunnelSystem occupied clientConfig serverConfig).ReachableFrom
      (fun _ _ => True) session later ∧ later.client.connections[id]? = some connection ∧
    connection.tcp.written = [msg]

/-- What was written to the stream of a connection, once there is one. -/
def writtenOn (session : TunnelSession) (id : Nat) : Option (List (List UInt8)) :=
  session.client.connections[id]?.map fun connection => connection.tcp.written

/-- A step of the tunnel is one of the client, or leaves the client as it is. -/
theorem client_of_step {next : TunnelSession} {event : TunnelEvent}
    (hstep : session.step occupied serverConfig event = some next) :
    next.client = session.client ∨
      ∃ event, session.client.step occupied event = some next.client := by
  cases Step.of_step hstep with
  | client event client _ hclient => exact .inr ⟨event, hclient⟩
  | deliverToClient id index msg rest client _ hclient =>
      exact .inr ⟨.connection id (.message msg), hclient⟩
  | _ => exact .inl rfl

theorem written_of_mute {later : TunnelSession} {id : Nat} {connection : Connection}
    (hmute : session.client.Mute id connection)
    (hconnection : session.client.connections[id]? = some connection)
    (hlater : (tunnelSystem occupied clientConfig serverConfig).ReachableFrom
      (fun _ _ => True) session later) :
    ∃ after, later.client.connections[id]? = some after ∧
      after.tcp.written = connection.tcp.written ∧ later.client.Mute id after := by
  apply hlater.invariant fun later => ∃ after, later.client.connections[id]? = some after ∧
    after.tcp.written = connection.tcp.written ∧ later.client.Mute id after
  · exact ⟨connection, hconnection, rfl, hmute⟩
  · rintro state event next ⟨before, hbefore, hwritten, hmute⟩ _ hstep
    rcases client_of_step hstep with hsame | ⟨event, hclient⟩
    · exact hsame ▸ ⟨before, hbefore, hwritten, hmute⟩
    · obtain ⟨after, hafter, hkept, hmute⟩ := hmute.step hbefore hclient
      exact ⟨after, hafter, hkept.trans hwritten, hmute⟩

/-- An answer on its way is the only one. -/
theorem answer_alone (hreach : (tunnelSystem occupied clientConfig serverConfig).Reachable session)
    {id : Nat} {msg : List UInt8} (hflight : msg ∈ session.toClient id) :
    session.toClient id = [msg] ∧ ∃ connection, session.client.connections[id]? = some connection ∧
      clientTcpSystem.Reachable connection.tcp ∧ connection.tcp.inbox.arrived = [] := by
  have hlinked := linked_of_reachable hreach
  by_cases hannounced : some id ∈ session.announced
  · obtain ⟨index, hindex⟩ := List.mem_iff_getElem?.mp hannounced
    obtain ⟨connection, channel, hconnection, hchannel, hpaired⟩ := hlinked.paired index id hindex
    have hanswers := ServerTask.answers_of_reachable hlinked.server hchannel
    have hone : channel.sent.length ≤ 1 := by
      rcases hanswers.sent_cases with hsent | hsent | ⟨_, _, _, _, _, _, hsent⟩ <;> simp [hsent]
    have hlength := hpaired.answers.length_le.trans hone
    rw [List.length_append] at hlength
    have hpositive := List.length_pos_of_mem hflight
    obtain ⟨answer, hanswer⟩ := List.length_eq_one_iff.mp
      (Nat.le_antisymm (Nat.le_of_add_left_le hlength) hpositive)
    obtain rfl := List.mem_singleton.mp (hanswer ▸ hflight)
    refine ⟨hanswer, connection, hconnection, ?_, List.length_eq_zero_iff.mp (by omega)⟩
    exact (TunnelClient.registered_of_reachable hlinked.client).runs connection
      (List.mem_of_getElem? hconnection)
  · rw [(hlinked.unheard id hannounced).1] at hflight
    exact absurd hflight List.not_mem_nil

/-- What a connection can do alone it can do in the tunnel. -/
theorem exists_connection_run {id : Nat} {connection : Connection} {tcp : ClientTcp}
    {events : List ClientTcpEvent} (hreturned : session.client.returned = false)
    (hconnection : session.client.connections[id]? = some connection)
    (hevents : ∀ event ∈ events, event ≠ .establish ∧
      (TunnelClientEvent.connection id event).isDelivery = false)
    (hrun : clientTcpSystem.run connection.tcp events = some tcp) :
    ∃ later, (tunnelSystem occupied clientConfig serverConfig).run session
        (events.map fun event => .client (.connection id event)) = some later ∧
      later.client.connections[id]? = some { connection with tcp := tcp } := by
  induction events generalizing session connection with
  | nil =>
      obtain rfl := Option.some.inj hrun
      exact ⟨session, rfl, hconnection⟩
  | cons event rest ih =>
      obtain ⟨middle, hmiddle, hrest⟩ := Option.bind_eq_some_iff.mp hrun
      obtain ⟨hestablish, hdelivery⟩ := hevents event List.mem_cons_self
      have hclient : session.client.step occupied (.connection id event) =
          some (session.client.setConnection id { connection with tcp := middle }) := by
        have htcp : connection.tcp.step event = some middle := hmiddle
        simp [TunnelClient.step, hreturned, hestablish, hconnection, htcp]
      have hstep : (tunnelSystem occupied clientConfig serverConfig).step session
          (.client (.connection id event)) = some { session with
            client := session.client.setConnection id { connection with tcp := middle }
            toServer := session.clientSends (.connection id event) } := by
        simp [tunnelSystem, step, hdelivery, hclient]
      obtain ⟨later, hlater, hfinal⟩ := @ih { session with
          client := session.client.setConnection id { connection with tcp := middle }
          toServer := session.clientSends (.connection id event) } { connection with tcp := middle }
        hreturned (getElem?_set_self_of_some hconnection)
        (fun later hmem => hevents later (List.mem_cons_of_mem _ hmem)) hrest
      refine ⟨later, ?_, hfinal⟩
      rw [List.map_cons, TransitionSystem.run_cons, hstep]
      exact hlater

/-- The data channel of a stream that is waited for can open. -/
theorem exists_opened {id : Nat} {connection : Connection}
    (hreturned : session.client.returned = false)
    (hconnection : session.client.connections[id]? = some connection)
    (hawaiting : connection.tcp.phase = .awaitingOpen) :
    ∃ later opened, (tunnelSystem occupied clientConfig serverConfig).ReachableFrom
        (fun _ _ => True) session later ∧ later.client.returned = false ∧
      later.client.listeners = session.client.listeners ∧ later.toClient = session.toClient ∧
      later.client.connections[id]? = some opened ∧ opened.tcp.opened = true ∧
      opened.tcp.phase = .awaitingOpen := by
  cases hopened : connection.tcp.opened with
  | true =>
      exact ⟨session, connection, .refl, hreturned, rfl, rfl, hconnection, hopened, hawaiting⟩
  | false =>
      have hstep : (tunnelSystem occupied clientConfig serverConfig).step session
          (.client (.connection id .opens)) = some { session with
            client := session.client.setConnection id
              { connection with tcp := { connection.tcp with opened := true } } } := by
        simp [tunnelSystem, step, TunnelClient.step, ClientTcp.step, clientSends,
          TunnelClientEvent.isDelivery, hreturned, hconnection, hopened]
      exact ⟨_, _, .tail .refl trivial hstep, hreturned, rfl, rfl,
        getElem?_set_self_of_some hconnection, rfl, hawaiting⟩

/-- The relay of an answerable stream can get to its `select!`. -/
theorem exists_select (hreach : (tunnelSystem occupied clientConfig serverConfig).Reachable session)
    {id : Nat} (hanswerable : session.client.Answerable id) :
    ∃ later selecting, (tunnelSystem occupied clientConfig serverConfig).ReachableFrom
        (fun _ _ => True) session later ∧ later.client.returned = false ∧
      later.toClient = session.toClient ∧
      later.client.connections[id]? = some selecting ∧ selecting.tcp.phase = .select := by
  obtain ⟨hreturned, connection, hconnection, hselect | ⟨index, listener, hlistener, hphase⟩⟩ :=
    hanswerable
  · exact ⟨session, connection, .refl, hreturned, rfl, hconnection, hselect⟩
  · have hregistered := TunnelClient.registered_of_reachable (linked_of_reachable hreach).client
    obtain ⟨found, hfound, _, hawaiting⟩ := hregistered.opening index listener id hlistener hphase
    obtain ⟨port, remap, quality, hentry⟩ := hregistered.entry_of_opening hlistener hphase
    obtain ⟨middle, opened, hmiddle, hrunning, hlisteners, hanswers, hget, hopened, hwaits⟩ :=
      @exists_opened occupied clientConfig serverConfig session id found hreturned hfound hawaiting
    obtain ⟨client, hclient, hgoes, _, _, selecting, hselecting, hselect⟩ :=
      @TunnelClient.exists_establish occupied middle.client index id listener opened port remap
        quality hrunning (hlisteners ▸ hlistener) hphase hentry hget hopened hwaits
    have hstep : (tunnelSystem occupied clientConfig serverConfig).step middle
        (.client (.establish index)) = some { middle with client := client } := by
      simp [tunnelSystem, step, clientSends, TunnelClientEvent.isDelivery, hclient]
    exact ⟨_, selecting, .tail hmiddle trivial hstep, hgoes, hanswers, hselecting, hselect⟩

/-- A relay in its `select!` can write the answer that is on its way. -/
theorem exists_answered
    (hreach : (tunnelSystem occupied clientConfig serverConfig).Reachable session)
    {id : Nat} {msg : List UInt8} (hflight : msg ∈ session.toClient id)
    (hreturned : session.client.returned = false) {connection : Connection}
    (hconnection : session.client.connections[id]? = some connection)
    (hselect : connection.tcp.phase = .select) :
    session.CanAnswer occupied clientConfig serverConfig id msg := by
  obtain ⟨halone, found, hfound, hruns, hnone⟩ := answer_alone hreach hflight
  obtain rfl := Option.some.inj (hconnection.symm.trans hfound)
  obtain ⟨arrived, tcp, hmessage, hrun, hwritten⟩ :=
    ClientTcp.exists_written hruns hselect hnone msg
  have hclient : session.client.step occupied (.connection id (.message msg)) =
      some (session.client.setConnection id { connection with tcp := arrived }) := by
    simp [TunnelClient.step, hreturned, hconnection, hmessage]
  have hdelivered : (tunnelSystem occupied clientConfig serverConfig).step session
      (.deliverToClient id 0) = some { session with
        client := session.client.setConnection id { connection with tcp := arrived }
        toClient := Function.update session.toClient id [] } := by
    simp [tunnelSystem, step, RTCDataChannelInit.receive, hconnection, halone, hclient]
  obtain ⟨later, hlater, hfinal⟩ := @exists_connection_run occupied clientConfig serverConfig
    { session with
      client := session.client.setConnection id { connection with tcp := arrived }
      toClient := Function.update session.toClient id [] } id { connection with tcp := arrived }
    tcp _ hreturned (getElem?_set_self_of_some hconnection)
    (by simp [TunnelClientEvent.isDelivery]) hrun
  have hfirst : (tunnelSystem occupied clientConfig serverConfig).ReachableFrom
      (fun _ _ => True) session _ := .tail .refl trivial hdelivered
  exact ⟨later, _, hfirst.trans (.of_run (TransitionSystem.guarded_true _ _) hlater), hfinal,
    hwritten⟩

/-- An answer on its way can be written exactly while its stream is answerable. -/
theorem canAnswer_iff_answerable
    (hreach : (tunnelSystem occupied clientConfig serverConfig).Reachable session)
    {id : Nat} {msg : List UInt8} (hflight : msg ∈ session.toClient id) :
    session.CanAnswer occupied clientConfig serverConfig id msg ↔
      session.client.Answerable id := by
  obtain ⟨_, connection, hconnection, hruns, hnone⟩ := answer_alone hreach hflight
  constructor
  · rintro ⟨later, final, hlater, hfinal, hwritten⟩
    by_contra hanswerable
    have hmute := TunnelClient.mute_of_not_answerable hruns hconnection hnone hanswerable
    obtain ⟨after, hafter, hkept, _⟩ := written_of_mute hmute hconnection hlater
    obtain rfl := Option.some.inj (hafter.symm.trans hfinal)
    have hnothing := ClientTcp.written_sublist_arrived hruns
    rw [hnone, ← hkept, hwritten] at hnothing
    cases hnothing
  · intro hanswerable
    obtain ⟨ready, found, hready, hreturned, hanswers, hfound, hselect⟩ :=
      @exists_select occupied clientConfig serverConfig session hreach id hanswerable
    obtain ⟨later, final, hlater, hfinal, hwritten⟩ := exists_answered (hreach.trans hready)
      (hanswers ▸ hflight) hreturned hfound hselect
    exact ⟨later, final, hready.trans hlater, hfinal, hwritten⟩

/-- A chunk that is read silences the relay of its stream. -/
theorem mute_of_read {next : TunnelSession} {id : Nat} {chunk : List UInt8} (hchunk : chunk ≠ [])
    (hstep : session.step occupied serverConfig (.client (.connection id (.read chunk))) =
      some next) :
    ∃ connection, next.client.connections[id]? = some connection ∧
      next.client.Mute id connection ∧ next.writtenOn id = session.writtenOn id := by
  cases Step.of_step hstep with
  | client event client _ hclient =>
      cases TunnelClient.Step.of_step hclient with
      | connection _ _ connection tcp hconnection _ htcp =>
          have hset := @getElem?_set_self_of_some _ session.client.connections id connection
            { connection with tcp := tcp } hconnection
          cases ClientTcp.Step.of_step htcp with
          | read _ hselect =>
              have hmore : 0 < chunk.length := List.length_pos_iff.mpr hchunk
              refine ⟨_, hset, .inr (.inl (.inr ⟨chunk, 0, if_pos hmore, hmore⟩)), ?_⟩
              have hbefore : session.writtenOn id = some connection.tcp.written :=
                congrArg (Option.map _) hconnection
              exact (congrArg (Option.map _) hset).trans hbefore.symm
      | ends event index listener result hevent => simp at hevent
      | returns event hevent => simp at hevent

/-- In every run of the tunnel: an answer with bytes that is on its way to a stream can still
be written to it if and only if the client runs on and the relay of the stream is in its
`select!`, or its task waits for the data channel. After a read that gets bytes from the stream
nothing is written to it any more, wherever an answer is at that time and whatever happens
later. -/
theorem answer_reaches_iff (session : TunnelSession)
    (hreach : (tunnelSystem occupied clientConfig serverConfig).Reachable session) (id : Nat) :
    (∀ msg ∈ session.toClient id, msg ≠ [] →
      (session.CanAnswer occupied clientConfig serverConfig id msg ↔
        session.client.Answerable id)) ∧
    ∀ (chunk : List UInt8) (next : TunnelSession), chunk ≠ [] →
      session.step occupied serverConfig (.client (.connection id (.read chunk))) = some next →
      ∀ later, (tunnelSystem occupied clientConfig serverConfig).ReachableFrom
        (fun _ _ => True) next later → later.writtenOn id = session.writtenOn id := by
  refine ⟨fun msg hflight _ => canAnswer_iff_answerable hreach hflight, ?_⟩
  intro chunk next hchunk hstep later hlater
  obtain ⟨connection, hconnection, hmute, hsame⟩ := mute_of_read hchunk hstep
  obtain ⟨after, hafter, hwritten, _⟩ := written_of_mute hmute hconnection hlater
  rw [← hsame, writtenOn, writtenOn, hafter, hconnection, Option.map_some, Option.map_some,
    hwritten]

/-- The service of the first stream answers. -/
def answered : List TunnelEvent :=
  [.client (.start 0)] ++ openStream 0 ++
    [.server (.localData 0 [1, 2]), .server .readLocal, .server .sent]

/-- An answer reaches a stream whose peer waits for it. If the peer sends a byte, the answer
is lost, also one that is already in the queue of the relay. -/
theorem answer_reaches_iff_request :
    ∃ waiting queued asking,
      (tunnelSystem (fun _ _ => false) remapped webConfig).run (start remapped) answered =
        some waiting ∧
      waiting.CanAnswer (fun _ _ => false) remapped webConfig 0 [1, 2] ∧
      (tunnelSystem (fun _ _ => false) remapped webConfig).run (start remapped)
        (answered ++ [.deliverToClient 0 0, .client (.connection 0 .enqueueMessage)]) =
        some queued ∧
      queued.step (fun _ _ => false) webConfig (.client (.connection 0 (.read [7]))) =
        some asking ∧
      ∀ later, (tunnelSystem (fun _ _ => false) remapped webConfig).ReachableFrom
        (fun _ _ => True) asking later → later.writtenOn 0 = some [] := by
  obtain ⟨waiting, hwaiting, hready⟩ :=
    (tunnelSystem (fun _ _ => false) remapped webConfig).exists_run_of_any (start remapped)
      answered (fun session => decide ([1, 2] ∈ session.toClient 0) &&
        (decide (session.client.returned = false) &&
          (session.client.connections[0]?).any fun connection : Connection =>
            decide (connection.tcp.phase = .select))) (by decide +kernel)
  obtain ⟨queued, hqueued, hreads⟩ :=
    (tunnelSystem (fun _ _ => false) remapped webConfig).exists_run_of_any (start remapped)
      (answered ++ [.deliverToClient 0 0, .client (.connection 0 .enqueueMessage)])
      (fun session => decide (session.writtenOn 0 = some []) &&
        (session.step (fun _ _ => false) webConfig
          (.client (.connection 0 (.read [7])))).isSome) (by decide +kernel)
  obtain ⟨hflight, hready⟩ := Bool.and_eq_true_iff.mp hready
  obtain ⟨hreturned, hselecting⟩ := Bool.and_eq_true_iff.mp hready
  obtain ⟨connection, hconnection, hselect⟩ := (Option.any_eq_true _ _).mp hselecting
  obtain ⟨hnothing, hreads⟩ := Bool.and_eq_true_iff.mp hreads
  obtain ⟨asking, hasking⟩ := Option.isSome_iff_exists.mp hreads
  refine ⟨waiting, queued, asking, hwaiting, ?_, hqueued, hasking, fun later hlater => ?_⟩
  · exact ((answer_reaches_iff waiting (.of_run rfl hwaiting) 0).1 [1, 2]
      (of_decide_eq_true hflight) (List.cons_ne_nil 1 [2])).mpr
        ⟨of_decide_eq_true hreturned, connection, hconnection, .inl (of_decide_eq_true hselect)⟩
  · have hkept := (answer_reaches_iff queued (.of_run rfl hqueued) 0).2 [7] asking
      (List.cons_ne_nil 7 []) hasking later hlater
    exact hkept.trans (of_decide_eq_true hnothing)

end TunnelSession

end MangleWebRTC.Tunnel
