import MangleWebRTC.Tunnel.TunnelTraffic

/-! # What the tunnel carries

In every run of client, server and network a stream is tied to one socket of the server,
that of its own entry. What comes back on it is at most one message, and what goes out is
empty.
-/

namespace MangleWebRTC.Tunnel

open Machine

namespace ClientTcp

/-- What is written, or being written, are the first of the messages that the handler was
called with, and these are some of those that arrived. -/
structure Relayed (tcp : ClientTcp) : Prop where
  reach : clientTcpSystem.Reachable tcp
  heard : tcp.inbox.handled.Sublist tcp.inbox.arrived
  order : tcp.written ++ tcp.phase.current <+: tcp.inbox.handled

theorem Relayed.step {tcp next : ClientTcp} {event : ClientTcpEvent} (hrelayed : tcp.Relayed)
    (hstep : tcp.step event = some next) : next.Relayed := by
  obtain ⟨hreach, hheard, horder⟩ := hrelayed
  have hafter := reachable_step hreach hstep
  cases step_inbound hstep with
  | arrived msg hinbox hphase hwritten =>
      rw [← hwritten, ← hphase] at horder
      unfold Inbox.arrive at hinbox
      split at hinbox
      · refine ⟨hafter, ?_, ?_⟩ <;> rw [hinbox]
        · exact hheard.append_right [msg]
        · exact horder.trans (List.prefix_append _ _)
      · refine ⟨hafter, ?_, ?_⟩ <;> rw [hinbox]
        · exact hheard.trans (List.sublist_append_left _ _)
        · exact horder
  | queued hinbox hphase hwritten =>
      rw [← hwritten, ← hphase] at horder
      obtain ⟨_, _, _, _, hnext⟩ := Inbox.enqueue_eq_some hinbox
      refine ⟨hafter, ?_, ?_⟩ <;> rw [hnext]
      · exact hheard
      · exact horder
  | taken msg hselect hinbox hphase hwritten =>
      obtain ⟨_, _, hnext⟩ := Inbox.take_eq_some hinbox
      refine ⟨hafter, by rwa [hnext], ?_⟩
      rw [(Inbound.of_reachable hafter (by simp [hphase])).handled]
      exact List.prefix_append _ _
  | wrote msg hwriting hinbox hphase hwritten =>
      refine ⟨hafter, by rwa [hinbox], ?_⟩
      rw [hwriting] at horder
      rw [hinbox, hwritten, hphase]
      simpa [ClientTcpPhase.current] using horder
  | ended hphase hinbox =>
      have hwritten : next.written = tcp.written := by
        cases Step.of_step hstep with
        | fails => rfl
      have hquiet : next.phase.current = [] := by
        rw [hphase]
        rfl
      refine ⟨hafter, by rwa [hinbox], ?_⟩
      rw [hquiet, List.append_nil, hwritten, hinbox]
      exact (List.prefix_append _ _).trans horder
  | quiet hinbox _ hcurrent hwritten =>
      rw [← hwritten, ← hcurrent] at horder
      obtain hsame | hregister := hinbox
      · exact ⟨hafter, by rwa [hsame], by rwa [hsame]⟩
      · exact ⟨hafter, by rwa [hregister], by rwa [hregister]⟩

theorem Relayed.of_reachable {tcp : ClientTcp} (hreach : clientTcpSystem.Reachable tcp) :
    tcp.Relayed := by
  apply hreach.invariant Relayed
  · rintro _ rfl
    exact ⟨⟨_, rfl, .refl⟩, List.nil_sublist _, List.nil_prefix⟩
  · intro state event next hrelayed _ hstep
    exact hrelayed.step hstep

/-- In every run what is written to the stream arrived on the data channel, in this order. -/
theorem written_sublist_arrived {tcp : ClientTcp} (hreach : clientTcpSystem.Reachable tcp) :
    tcp.written.Sublist tcp.inbox.arrived :=
  have hrelayed := Relayed.of_reachable hreach
  ((List.prefix_append _ _).trans hrelayed.order).sublist.trans hrelayed.heard

end ClientTcp

namespace TunnelSession

variable {occupied : SocketKind → Port → Bool} {clientConfig serverConfig : List Channel}

/-- Every accepted TCP stream has its own data channel, and every data channel of a stream at
most one channel of the server, which is served, if at all, with the server's socket for the
port that the entry of the stream names: where the entry listens does not matter. -/
structure Isolated (clientConfig serverConfig : List Channel) (session : TunnelSession) :
    Prop where
  labels : (session.client.connections.map Connection.label).Nodup
  alone : ∀ (index other id : Nat), session.announced[index]? = some (some id) →
    session.announced[other]? = some (some id) → index = other
  routed : ∀ (index id : Nat), session.announced[index]? = some (some id) →
    ∃ connection channel port remap quality,
      session.client.connections[id]? = some connection ∧
      session.server.channels[index]? = some channel ∧
      clientConfig[connection.listener]? = some (.tcp port remap (some quality)) ∧
      connection.init = { quality.into with protocol := some (toString port.val) } ∧
      channel.protocol = toString port.val ∧
      ∀ socket, channel.socket = some socket →
        servedBy serverConfig (toString port.val) = some socket

theorem label_injective : Function.Injective (toString : Nat → String) :=
  fun _ _ htext => Nat.repr_inj.mp htext

/-- An entry whose task creates data channels has a quality. -/
theorem entry_of_init {entry : Channel} {init : RTCDataChannelInit}
    (hkind : entry.target.map Prod.fst = some .tcp) (hinit : entry.init = some init) :
    ∃ port remap quality, entry = .tcp port remap (some quality) ∧
      init = { quality.into with protocol := some (toString port.val) } := by
  cases entry with
  | udp port remap quality => cases hkind
  | tcp port remap quality =>
      obtain ⟨quality, rfl, rfl⟩ := Option.map_eq_some_iff.mp hinit
      exact ⟨port, remap, quality, rfl, rfl⟩
  | localSocket addr remap quality => cases hkind

/-- Whatever the interleaving of the tasks of both ends and whatever the network does, the
accepted TCP streams stay apart. -/
theorem tunnel_isolated (session : TunnelSession)
    (hreach : (tunnelSystem occupied clientConfig serverConfig).Reachable session) :
    session.Isolated clientConfig serverConfig := by
  have hlinked := linked_of_reachable hreach
  have hregistered := TunnelClient.registered_of_reachable hlinked.client
  have horderly := ServerTask.orderly_of_reachable hlinked.server
  refine ⟨?_, hlinked.single, ?_⟩
  · have hlabels : session.client.connections.map Connection.label =
        (session.client.connections.map Connection.channelIdx).map toString := by
      rw [List.map_map]
      rfl
    rw [hlabels]
    exact hregistered.apart.map label_injective
  · intro index id hindex
    obtain ⟨connection, channel, hconnection, hchannel, hpaired⟩ := hlinked.paired index id hindex
    obtain ⟨entry, hentry, hkind, hinit⟩ :=
      hregistered.made connection (List.mem_of_getElem? hconnection)
    obtain ⟨port, remap, quality, rfl, heq⟩ := entry_of_init hkind hinit
    have hprotocol : channel.protocol = toString port.val := by
      rw [hpaired.protocol, heq]
      rfl
    refine ⟨connection, channel, port, remap, quality, hconnection, hchannel, hentry, heq,
      hprotocol, fun socket hsocket => ?_⟩
    exact hprotocol ▸ (horderly.served index channel hchannel socket hsocket).2

theorem web_port : 0 < 80 ∧ 80 < UInt16.size := by decide

/-- Two streams of one entry, remapped at the client. -/
def remapped : List Channel := [.tcp ⟨80, web_port⟩ (some ⟨8000, by decide⟩) (some .tcp)]

/-- A stream is accepted, and its data channel announced, opened and served. -/
def openStream (id : Nat) : List TunnelEvent :=
  [.client (.accept 0), .client (.created 0), .client (.connection id .opens),
    .client (.establish 0), .announce id, .server (.opens id), .server .enqueueChannel,
    .server .takeChannel, .server .connected]

/-- The service of the first stream answers, and the second stream is served after it. -/
theorem tunnel_isolated_two :
    ∃ session, (tunnelSystem (fun _ _ => false) remapped webConfig).run (start remapped)
        ([.client (.start 0)] ++ openStream 0 ++
          [.server (.localData 0 [1]), .server .readLocal, .server .sent] ++ openStream 1) =
        some session ∧
      session.server.channels.map ServerChannel.socket =
        [some (.tcp, ⟨80, by decide⟩), some (.tcp, ⟨80, by decide⟩)] ∧
      session.Isolated remapped webConfig := by
  obtain ⟨session, hrun, htest⟩ :=
    (tunnelSystem (fun _ _ => false) remapped webConfig).exists_run_of_any (start remapped)
      ([.client (.start 0)] ++ openStream 0 ++
        [.server (.localData 0 [1]), .server .readLocal, .server .sent] ++ openStream 1)
      (fun session => decide (session.server.channels.map ServerChannel.socket =
        [some (.tcp, ⟨80, by decide⟩), some (.tcp, ⟨80, by decide⟩)])) (by decide +kernel)
  exact ⟨session, hrun, of_decide_eq_true htest, tunnel_isolated session (.of_run rfl hrun)⟩

/-- What was written to an accepted stream is nothing, or one message: an end of file, or
the beginning of what the socket of this very stream was given first. -/
theorem tunnel_answers (session : TunnelSession)
    (hreach : (tunnelSystem occupied clientConfig serverConfig).Reachable session) (id : Nat)
    (connection : Connection) (hconnection : session.client.connections[id]? = some connection) :
    connection.tcp.written = [] ∨ connection.tcp.written = [[]] ∨
      ∃ (index : Nat) (channel : ServerChannel) (kind : SocketKind) (port : Port)
        (chunk : List UInt8) (rest : List (List UInt8)),
        session.announced[index]? = some (some id) ∧
        session.server.channels[index]? = some channel ∧ channel.socket = some (kind, port) ∧
        channel.delivered = chunk :: rest ∧
        connection.tcp.written = [chunk.take kind.bufSize] := by
  have hlinked := linked_of_reachable hreach
  have hregistered := TunnelClient.registered_of_reachable hlinked.client
  have hwritten := ClientTcp.written_sublist_arrived
    (hregistered.runs connection (List.mem_of_getElem? hconnection))
  by_cases hannounced : some id ∈ session.announced
  · obtain ⟨index, hindex⟩ := List.mem_iff_getElem?.mp hannounced
    obtain ⟨found, channel, hfound, hchannel, hpaired⟩ := hlinked.paired index id hindex
    obtain rfl := Option.some.inj (hconnection.symm.trans hfound)
    have hsent : connection.tcp.written.Subperm channel.sent :=
      (hwritten.trans (List.sublist_append_left _ _)).subperm.trans hpaired.answers
    have hanswers := ServerTask.answers_of_reachable hlinked.server hchannel
    rcases hanswers.sent_cases with hnone | heof | ⟨kind, port, chunk, rest, hsocket, hgiven, hone⟩
    · exact .inl (List.subperm_nil.mp (hnone ▸ hsent))
    · exact (List.subperm_singleton_iff.mp (heof ▸ hsent)).imp_right .inl
    · refine (List.subperm_singleton_iff.mp (hone ▸ hsent)).imp_right fun hanswer => .inr ?_
      exact ⟨index, channel, kind, port, chunk, rest, hindex, hchannel, hsocket, hgiven, hanswer⟩
  · have hnothing := (hlinked.unheard id hannounced).2 connection hconnection
    exact .inl (List.sublist_nil.mp (hnothing ▸ hwritten))

/-- The service of the first stream answers twice, and the stream gets what is sent. -/
def answerFirst : List TunnelEvent :=
  [.client (.start 0)] ++ openStream 0 ++
    [.server (.localData 0 [1, 2]), .server (.localData 0 [3]), .server .readLocal,
      .server .sent, .deliverToClient 0 0, .client (.connection 0 .enqueueMessage),
      .client (.connection 0 .takeMessage), .client (.connection 0 .wrote)]

/-- The service answers twice; the second answer is never read, and the first reaches the
stream. -/
theorem tunnel_answers_one :
    ∃ session connection, (tunnelSystem (fun _ _ => false) remapped webConfig).run (start remapped)
        answerFirst = some session ∧
      session.client.connections[0]? = some connection ∧ connection.tcp.written = [[1, 2]] ∧
      (connection.tcp.written = [] ∨ connection.tcp.written = [[]] ∨
        ∃ (index : Nat) (channel : ServerChannel) (kind : SocketKind) (port : Port)
          (chunk : List UInt8) (rest : List (List UInt8)),
          session.announced[index]? = some (some 0) ∧
          session.server.channels[index]? = some channel ∧ channel.socket = some (kind, port) ∧
          channel.delivered = chunk :: rest ∧
          connection.tcp.written = [chunk.take kind.bufSize]) := by
  obtain ⟨session, hrun, htest⟩ :=
    (tunnelSystem (fun _ _ => false) remapped webConfig).exists_run_of_any (start remapped)
      answerFirst
      (fun session => (session.client.connections[0]?).any fun connection : Connection =>
        decide (connection.tcp.written = [[1, 2]])) (by decide +kernel)
  obtain ⟨connection, hconnection, hwritten⟩ := (Option.any_eq_true _ _).mp htest
  exact ⟨session, connection, hrun, hconnection, of_decide_eq_true hwritten,
    tunnel_answers session (.of_run rfl hrun) 0 connection hconnection⟩

/-- Whatever is read from an accepted stream, the socket that it is tied to is written
nothing but empty messages. -/
theorem tunnel_requests_lost (session : TunnelSession)
    (hreach : (tunnelSystem occupied clientConfig serverConfig).Reachable session)
    (index id : Nat) (hindex : session.announced[index]? = some (some id)) (channel : ServerChannel)
    (hchannel : session.server.channels[index]? = some channel) :
    ∀ msg ∈ channel.written, msg = [] := by
  have hlinked := linked_of_reachable hreach
  obtain ⟨_, found, _, hfound, hpaired⟩ := hlinked.paired index id hindex
  obtain rfl := Option.some.inj (hchannel.symm.trans hfound)
  have hheeds := ServerTask.channels_invariant (fun protocol => heeds_new protocol)
    (fun _ _ _ _ hheeds hservice => hheeds.step hservice) hlinked.server index channel hchannel
  exact fun msg hmem => hpaired.requests msg (hheeds.written msg hmem)

/-- The first stream sends one byte, and the service is written what arrives. -/
def requestFirst : List TunnelEvent :=
  [.client (.start 0)] ++ openStream 0 ++
    [.client (.connection 0 (.read [7])), .client (.connection 0 (.sendReturns 0)),
      .deliverToServer 0 0, .server (.enqueueMessage 0), .server .takeMessage, .server .wrote]

/-- A stream sends one byte; the service gets an empty message for it. -/
theorem tunnel_requests_lost_one :
    ∃ session channel, (tunnelSystem (fun _ _ => false) remapped webConfig).run (start remapped)
        requestFirst = some session ∧
      session.server.channels[0]? = some channel ∧ channel.written = [[]] ∧
      ∀ msg ∈ channel.written, msg = [] := by
  obtain ⟨session, hrun, htest⟩ :=
    (tunnelSystem (fun _ _ => false) remapped webConfig).exists_run_of_any (start remapped)
      requestFirst (fun session => decide (session.announced[0]? = some (some 0)) &&
        (session.server.channels[0]?).any fun channel : ServerChannel =>
          decide (channel.written = [[]]))
      (by decide +kernel)
  obtain ⟨hannounced, hchannel⟩ := Bool.and_eq_true_iff.mp htest
  obtain ⟨channel, hchannel, hwritten⟩ := (Option.any_eq_true _ _).mp hchannel
  exact ⟨session, channel, hrun, hchannel, of_decide_eq_true hwritten,
    tunnel_requests_lost session (.of_run rfl hrun) 0 0 (of_decide_eq_true hannounced) channel
      hchannel⟩

end TunnelSession

end MangleWebRTC.Tunnel
