import MangleWebRTC.Tunnel.InboundRelay
import MangleWebRTC.Tunnel.ServerService
import MangleWebRTC.Tunnel.TunnelClientInvariant
import MangleWebRTC.Tunnel.TunnelSession
import Mathlib.Data.List.Perm.Subperm

/-! # The traffic between the ends of the tunnel

Both ends run as they do alone. A connection of the client and its channel at the server
stay together: what arrives at one of them was sent at the other, in whatever order and
with whatever losses.
-/

namespace MangleWebRTC.Tunnel

open Machine

/-! ## What a step delivers -/

theorem Inbox.arrived_arrive (inbox : Inbox) (msg : List UInt8) :
    (inbox.arrive msg).arrived = inbox.arrived ++ [msg] := by
  unfold arrive
  split <;> rfl

/-- The message that the event delivers to the connection. -/
def ClientTcpEvent.delivered : ClientTcpEvent → List (List UInt8)
  | .message msg => [msg]
  | _ => []

/-- The message that the event delivers to one connection. -/
def TunnelClientEvent.deliveredTo (id : Nat) : TunnelClientEvent → List (List UInt8)
  | .connection other event => if other = id then event.delivered else []
  | _ => []

/-- The message that the event delivers to one channel of the server. -/
def ServerEvent.deliveredTo (id : Nat) : ServerEvent → List (List UInt8)
  | .message other msg => if other = id then [msg] else []
  | _ => []

theorem TunnelClientEvent.deliveredTo_of_not_isDelivery {event : TunnelClientEvent}
    (hevent : event.isDelivery = false) (id : Nat) : event.deliveredTo id = [] := by
  cases event with
  | connection other event =>
      cases event with
      | message msg => cases hevent
      | _ => exact ite_self []
  | _ => rfl

theorem ServerEvent.deliveredTo_of_not_isDelivery {event : ServerEvent}
    (hevent : event.isDelivery = false) (id : Nat) : event.deliveredTo id = [] := by
  cases event with
  | message other msg => cases hevent
  | _ => rfl

theorem ClientTcp.arrived_of_step {tcp next : ClientTcp} {event : ClientTcpEvent}
    (hstep : tcp.step event = some next) :
    next.inbox.arrived = tcp.inbox.arrived ++ event.delivered := by
  cases Step.of_step hstep with
  | message msg => exact Inbox.arrived_arrive tcp.inbox msg
  | enqueueMessage inbox henqueue =>
      obtain ⟨_, _, _, _, rfl⟩ := Inbox.enqueue_eq_some henqueue
      exact (List.append_nil _).symm
  | takeMessage msg inbox _ htake =>
      obtain ⟨_, _, rfl⟩ := Inbox.take_eq_some htake
      exact (List.append_nil _).symm
  | _ => exact (List.append_nil _).symm

namespace TunnelClient

variable {occupied : SocketKind → Port → Bool} {client next : TunnelClient}
variable {event : TunnelClientEvent}

theorem connection_of_set {id : Nat} {connection : Connection} {tcp : ClientTcp}
    {step : ClientTcpEvent} (hconnection : client.connections[id]? = some connection)
    (htcp : connection.tcp.step step = some tcp) {other : Nat} {found : Connection}
    (hfound : client.connections[other]? = some found) :
    ∃ after, (client.connections.set id { connection with tcp := tcp })[other]? = some after ∧
      after.init = found.init ∧ after.tcp.inbox.arrived = found.tcp.inbox.arrived ++
        (TunnelClientEvent.connection id step).deliveredTo other := by
  have hget := @getElem?_set_of_some _ client.connections id connection
    { connection with tcp := tcp } hconnection other
  by_cases hother : other = id
  · subst hother
    obtain rfl := Option.some.inj (hconnection.symm.trans hfound)
    refine ⟨_, hget.trans (if_pos rfl), rfl, ?_⟩
    rw [ClientTcp.arrived_of_step htcp, TunnelClientEvent.deliveredTo, if_pos rfl]
  · refine ⟨found, hget.trans ((if_neg hother).trans hfound), rfl, ?_⟩
    rw [TunnelClientEvent.deliveredTo, if_neg (Ne.symm hother), List.append_nil]

/-- A connection keeps its data channel, and gets the message that is delivered to it. -/
theorem connection_of_step (hstep : client.step occupied event = some next) {id : Nat}
    {connection : Connection} (hconnection : client.connections[id]? = some connection) :
    ∃ after, next.connections[id]? = some after ∧ after.init = connection.init ∧
      after.tcp.inbox.arrived = connection.tcp.inbox.arrived ++ event.deliveredTo id := by
  have hkept : connection.tcp.inbox.arrived = connection.tcp.inbox.arrived ++ [] :=
    (List.append_nil _).symm
  cases Step.of_step hstep with
  | created index listener channelIdx init =>
      obtain ⟨hlength, _⟩ := List.getElem?_eq_some_iff.mp hconnection
      exact ⟨connection, (List.getElem?_append_left hlength).trans hconnection, rfl, hkept⟩
  | establish index listener other found tcp _ _ hfound htcp =>
      obtain ⟨after, hafter, hinit, harrived⟩ := connection_of_set hfound htcp hconnection
      refine ⟨after, hafter, hinit, harrived.trans ?_⟩
      simp [TunnelClientEvent.deliveredTo, ClientTcpEvent.delivered]
  | connection other event found tcp hfound _ htcp =>
      exact connection_of_set hfound htcp hconnection
  | ends event index listener result hevent =>
      rcases hevent with rfl | rfl | rfl <;> exact ⟨connection, hconnection, rfl, hkept⟩
  | returns event hevent =>
      rcases hevent with rfl | rfl | ⟨_, rfl⟩ <;> exact ⟨connection, hconnection, rfl, hkept⟩
  | start | accept | openFails | udpCounts => exact ⟨connection, hconnection, rfl, hkept⟩

/-- Nothing has arrived on a data channel that was not there before. -/
theorem arrived_of_created (hstep : client.step occupied event = some next) {id : Nat}
    {connection : Connection} (hfresh : client.connections[id]? = none)
    (hconnection : next.connections[id]? = some connection) :
    connection.tcp.inbox.arrived = [] := by
  have hlength := List.getElem?_eq_none_iff.mp hfresh
  obtain ⟨hnext, _⟩ := List.getElem?_eq_some_iff.mp hconnection
  cases Step.of_step hstep with
  | created index listener channelIdx init =>
      rw [List.getElem?_append_right hlength] at hconnection
      rw [List.mem_singleton.mp (List.mem_of_getElem? hconnection)]
      rfl
  | establish | connection =>
      rw [setConnection, List.length_set] at hnext
      exact absurd hnext (Nat.not_lt.mpr hlength)
  | start | accept | openFails | ends | udpCounts | returns =>
      exact absurd hnext (Nat.not_lt.mpr hlength)

end TunnelClient

namespace ServerTask

variable {config : List Channel} {task next : ServerTask} {event : ServerEvent}

/-- What a step sends on a channel: the answer of its service. -/
def sentOn (task : ServerTask) (event : ServerEvent) (id : Nat) : List (List UInt8) :=
  match event, task.phase with
  | .sent, .relaying current _ (.sending bytes) => if current = id then [bytes] else []
  | _, _ => []

theorem sentOn_of_ne {id : Nat} (hevent : event ≠ .sent) : task.sentOn event id = [] := by
  cases event with
  | sent => exact absurd rfl hevent
  | _ => rfl

theorem traffic_of_set {id other : Nat} {channel found : ServerChannel} (changed : ServerChannel)
    (arrived sent : Nat → List (List UInt8)) (hchannel : task.channels[id]? = some channel)
    (hprotocol : changed.protocol = channel.protocol)
    (harrived : changed.inbox.arrived = channel.inbox.arrived ++ arrived id)
    (hsent : changed.sent = channel.sent ++ sent id)
    (hothers : ∀ other, other ≠ id → arrived other = [] ∧ sent other = [])
    (hfound : task.channels[other]? = some found) :
    ∃ after, (task.setChannel id changed).channels[other]? = some after ∧
      after.protocol = found.protocol ∧
      after.inbox.arrived = found.inbox.arrived ++ arrived other ∧
      after.sent = found.sent ++ sent other := by
  have hget := @getElem?_setChannel task id channel changed hchannel other
  by_cases hother : other = id
  · subst hother
    obtain rfl := Option.some.inj (hchannel.symm.trans hfound)
    exact ⟨changed, hget.trans (if_pos rfl), hprotocol, harrived, hsent⟩
  · obtain ⟨hnone, hnone'⟩ := hothers other hother
    refine ⟨found, hget.trans ((if_neg hother).trans hfound), rfl, ?_, ?_⟩
    · rw [hnone, List.append_nil]
    · rw [hnone', List.append_nil]

/-- A channel keeps its protocol, gets what is delivered to it and sends what its service
sends. -/
theorem traffic_of_step (hstep : Step config task event next) {id : Nat} {channel : ServerChannel}
    (hchannel : task.channels[id]? = some channel) :
    ∃ after, next.channels[id]? = some after ∧ after.protocol = channel.protocol ∧
      after.inbox.arrived = channel.inbox.arrived ++ event.deliveredTo id ∧
      after.sent = channel.sent ++ task.sentOn event id := by
  have hnil : ∀ list : List (List UInt8), list = list ++ [] := fun list =>
    (List.append_nil list).symm
  -- Most steps at a channel neither deliver nor send.
  have hquiet : ∀ {current : Nat} {found changed : ServerChannel},
      task.channels[current]? = some found → changed.protocol = found.protocol →
      changed.inbox.arrived = found.inbox.arrived → changed.sent = found.sent →
      ∃ after, (task.setChannel current changed).channels[id]? = some after ∧
        after.protocol = channel.protocol ∧
        after.inbox.arrived = channel.inbox.arrived ++ [] ∧ after.sent = channel.sent ++ [] := by
    intro current found changed hfound hprotocol harrived hsent
    exact traffic_of_set changed (fun _ => []) (fun _ => []) hfound hprotocol
      (harrived.trans (hnil _)) (hsent.trans (hnil _)) (fun _ _ => ⟨rfl, rfl⟩) hchannel
  cases hstep with
  | announce protocol =>
      obtain ⟨hlength, _⟩ := List.getElem?_eq_some_iff.mp hchannel
      exact ⟨channel, (List.getElem?_append_left hlength).trans hchannel, rfl, hnil _, hnil _⟩
  | enqueueChannel | pass | serve | localEof | failsConnecting =>
      exact ⟨channel, hchannel, rfl, hnil _, hnil _⟩
  | message current msg found hfound =>
      refine traffic_of_set { found with inbox := found.inbox.arrive msg }
        (fun other => (ServerEvent.message current msg).deliveredTo other) (fun _ => []) hfound rfl
        ?_ (hnil _) (fun other hother => ⟨if_neg (Ne.symm hother), rfl⟩) hchannel
      rw [Inbox.arrived_arrive, ServerEvent.deliveredTo, if_pos rfl]
  | sent current kind bytes found hphase hfound =>
      refine traffic_of_set { found with
        inbox := found.inbox.dropReceiver, sent := found.sent ++ [bytes] } (fun _ => [])
        (task.sentOn .sent) hfound rfl (hnil _) ?_ (fun other hother => ⟨rfl, ?_⟩) hchannel
      · simp [sentOn, hphase]
      · simp [sentOn, hphase, Ne.symm hother]
  | enqueueMessage current found inbox hfound hinbox =>
      obtain ⟨_, _, _, _, rfl⟩ := Inbox.enqueue_eq_some hinbox
      exact hquiet hfound rfl rfl rfl
  | takeMessage current kind found msg inbox _ hfound htake =>
      obtain ⟨_, _, rfl⟩ := Inbox.take_eq_some htake
      exact hquiet hfound rfl rfl rfl
  | opens current found hfound | localData current _ found _ _ hfound
  | close current _ found _ _ hfound | connected current _ _ found _ hfound
  | readLocal current _ found _ _ _ hfound | wrote current _ _ found _ hfound
  | failsRelaying current _ _ found _ hfound => exact hquiet hfound rfl rfl rfl

theorem length_of_step (hstep : Step config task event next) (hevent : ∀ protocol,
    event ≠ .announce protocol) : next.channels.length = task.channels.length := by
  cases hstep with
  | announce protocol => exact absurd rfl (hevent protocol)
  | enqueueChannel | pass | serve | localEof | failsConnecting => rfl
  | _ => exact List.length_set

end ServerTask

/-! ## A connection and its channel -/

/-- The two ends of one data channel: what arrived at the client or is on its way there was
sent by the server, and the client's writes are all empty. -/
structure Paired (connection : Connection) (channel : ServerChannel)
    (inFlight : List (List UInt8)) : Prop where
  protocol : channel.protocol = connection.init.protocol.getD ""
  requests : ∀ msg ∈ channel.inbox.arrived, msg = []
  answers : (connection.tcp.inbox.arrived ++ inFlight).Subperm channel.sent

namespace TunnelSession

variable {occupied : SocketKind → Port → Bool} {clientConfig serverConfig : List Channel}
variable {session : TunnelSession}

/-- The invariant of both ends and what is between them. -/
structure Linked (occupied : SocketKind → Port → Bool) (clientConfig serverConfig : List Channel)
    (session : TunnelSession) : Prop where
  client : (tunnelClientSystem occupied clientConfig).Reachable session.client
  server : (serverSystem serverConfig).Reachable session.server
  length : session.announced.length = session.server.channels.length
  single : ∀ (channel other id : Nat), session.announced[channel]? = some (some id) →
    session.announced[other]? = some (some id) → channel = other
  paired : ∀ (index id : Nat), session.announced[index]? = some (some id) →
    ∃ connection channel, session.client.connections[id]? = some connection ∧
      session.server.channels[index]? = some channel ∧
      Paired connection channel (session.toClient id)
  silent : ∀ id, ∀ msg ∈ session.toServer id, msg = []
  unheard : ∀ id, some id ∉ session.announced → session.toClient id = [] ∧
    ∀ connection, session.client.connections[id]? = some connection →
      connection.tcp.inbox.arrived = []

theorem linked_start : (start clientConfig).Linked occupied clientConfig serverConfig where
  client := ⟨_, rfl, .refl⟩
  server := ⟨_, rfl, .refl⟩
  length := rfl
  single channel other id hchannel := by simp [start] at hchannel
  paired index id hindex := by simp [start] at hindex
  silent id msg hmem := absurd hmem List.not_mem_nil
  unheard id _ := ⟨rfl, fun connection hconnection => by
    simp [start, TunnelClient.start] at hconnection⟩

theorem reachable_client {client next : TunnelClient} {event : TunnelClientEvent}
    (hreach : (tunnelClientSystem occupied clientConfig).Reachable client)
    (hstep : client.step occupied event = some next) :
    (tunnelClientSystem occupied clientConfig).Reachable next := by
  have htaken : (tunnelClientSystem occupied clientConfig).step client event = some next := hstep
  exact hreach.tail trivial htaken

/-- The slice that the relay offers is behind the chunk. -/
theorem clientSends_cases (event : TunnelClientEvent) :
    session.clientSends event = session.toServer ∨
      ∃ id, session.clientSends event = push session.toServer id [] := by
  unfold clientSends
  split
  next id count =>
    split
    next bytes sentN opened inbox accepted written hconnection =>
      refine .inr ⟨id, ?_⟩
      rw [tcpSlice, List.drop_length, List.take_nil]
    · exact .inl rfl
  · exact .inl rfl

theorem silent_clientSends (hlinked : session.Linked occupied clientConfig serverConfig)
    (event : TunnelClientEvent) (id : Nat) : ∀ msg ∈ session.clientSends event id, msg = [] := by
  rcases session.clientSends_cases event with hsends | ⟨other, hsends⟩ <;> rw [hsends]
  · exact hlinked.silent id
  · intro msg hmem
    by_cases hid : id = other
    · subst hid
      rw [push, Function.update_self] at hmem
      exact (List.mem_append.mp hmem).elim (hlinked.silent id msg) List.mem_singleton.mp
    · rw [push, Function.update_of_ne hid] at hmem
      exact hlinked.silent id msg hmem

theorem serverSends_cases (event : ServerEvent) :
    (∃ current kind bytes id, event = .sent ∧
      session.server.phase = .relaying current kind (.sending bytes) ∧
      session.announced[current]? = some (some id) ∧
      session.serverSends event = push session.toClient id bytes) ∨
    session.serverSends event = session.toClient ∧ ∀ index id,
      session.announced[index]? = some (some id) → session.server.sentOn event index = [] := by
  unfold serverSends
  split
  next event phase current kind bytes hphase =>
    split
    next id hannounced => exact .inl ⟨current, kind, bytes, id, rfl, hphase, hannounced, rfl⟩
    next hother =>
      refine .inr ⟨rfl, fun index id hindex => ?_⟩
      have hne : current ≠ index := by
        rintro rfl
        exact hother id hindex
      simp [ServerTask.sentOn, hphase, hne]
  next hrest =>
    refine .inr ⟨rfl, fun index id _ => ?_⟩
    unfold ServerTask.sentOn
    split
    next current kind bytes hphase => exact (hrest current kind bytes rfl hphase).elim
    · rfl

/-- What is on its way to a connection grows by what its channel sends. -/
theorem serverSends_paired (hlinked : session.Linked occupied clientConfig serverConfig)
    {index id : Nat} (hindex : session.announced[index]? = some (some id)) (event : ServerEvent) :
    session.serverSends event id = session.toClient id ++ session.server.sentOn event index := by
  rcases session.serverSends_cases event with
    ⟨current, kind, bytes, other, rfl, hphase, hcurrent, hsends⟩ | ⟨hsends, hnone⟩ <;> rw [hsends]
  · by_cases hsame : current = index
    · subst hsame
      obtain rfl := Option.some.inj (Option.some.inj (hindex.symm.trans hcurrent))
      simp [push, ServerTask.sentOn, hphase]
    · have hne : id ≠ other := by
        rintro rfl
        exact hsame (hlinked.single current index id hcurrent hindex)
      simp [push, ServerTask.sentOn, hphase, hsame, Function.update_of_ne hne]
  · rw [hnone index id hindex, List.append_nil]

theorem serverSends_unannounced {id : Nat} (hid : some id ∉ session.announced)
    (event : ServerEvent) : session.serverSends event id = session.toClient id := by
  rcases session.serverSends_cases event with
    ⟨current, kind, bytes, other, rfl, hphase, hcurrent, hsends⟩ | ⟨hsends, _⟩ <;> rw [hsends]
  have hne : id ≠ other := by
    rintro rfl
    exact hid (List.mem_of_getElem? hcurrent)
  rw [push, Function.update_of_ne hne]

theorem Linked.client_step (hlinked : session.Linked occupied clientConfig serverConfig)
    {event : TunnelClientEvent} {client : TunnelClient} (hevent : event.isDelivery = false)
    (hstep : session.client.step occupied event = some client) :
    Linked occupied clientConfig serverConfig
      { session with client := client, toServer := session.clientSends event } where
  client := reachable_client hlinked.client hstep
  server := hlinked.server
  length := hlinked.length
  single := hlinked.single
  paired index id hindex := by
    obtain ⟨connection, channel, hconnection, hchannel, hpaired⟩ := hlinked.paired index id hindex
    obtain ⟨after, hafter, hinit, harrived⟩ := TunnelClient.connection_of_step hstep hconnection
    rw [TunnelClientEvent.deliveredTo_of_not_isDelivery hevent, List.append_nil] at harrived
    exact ⟨after, channel, hafter, hchannel, hinit ▸ hpaired.protocol, hpaired.requests,
      harrived ▸ hpaired.answers⟩
  silent := silent_clientSends hlinked event
  unheard id hid := by
    obtain ⟨hnothing, harrived⟩ := hlinked.unheard id hid
    refine ⟨hnothing, fun connection hconnection => ?_⟩
    cases hbefore : session.client.connections[id]? with
    | none => exact TunnelClient.arrived_of_created hstep hbefore hconnection
    | some before =>
        obtain ⟨after, hafter, _, hkept⟩ := TunnelClient.connection_of_step hstep hbefore
        obtain rfl := Option.some.inj (hafter.symm.trans hconnection)
        rw [hkept, harrived before hbefore,
          TunnelClientEvent.deliveredTo_of_not_isDelivery hevent, List.append_nil]

theorem Linked.server_step (hlinked : session.Linked occupied clientConfig serverConfig)
    {event : ServerEvent} {server : ServerTask} (hevent : event.isDelivery = false)
    (hstep : session.server.step serverConfig event = some server) :
    Linked occupied clientConfig serverConfig
      { session with server := server, toClient := session.serverSends event } where
  client := hlinked.client
  server := ServerTask.reachable_of_step hlinked.server hstep
  length := by
    refine hlinked.length.trans (ServerTask.length_of_step (.of_step hstep) ?_).symm
    rintro protocol rfl
    cases hevent
  single := hlinked.single
  paired index id hindex := by
    obtain ⟨connection, channel, hconnection, hchannel, hpaired⟩ := hlinked.paired index id hindex
    obtain ⟨after, hafter, hprotocol, harrived, hsent⟩ :=
      ServerTask.traffic_of_step (.of_step hstep) hchannel
    rw [ServerEvent.deliveredTo_of_not_isDelivery hevent, List.append_nil] at harrived
    refine ⟨connection, after, hconnection, hafter, hprotocol.trans hpaired.protocol,
      harrived ▸ hpaired.requests, ?_⟩
    change (connection.tcp.inbox.arrived ++ session.serverSends event id).Subperm after.sent
    rw [serverSends_paired hlinked hindex, hsent, ← List.append_assoc]
    exact hpaired.answers.append (List.Subperm.refl _)
  silent := hlinked.silent
  unheard id hid := by
    have hsends := @serverSends_unannounced session id hid event
    obtain ⟨hnothing, harrived⟩ := hlinked.unheard id hid
    exact ⟨hsends.trans hnothing, harrived⟩

/-- One more channel at the server, of a connection or not. -/
theorem Linked.announce_step (hlinked : session.Linked occupied clientConfig serverConfig)
    {owner : Option Nat} {protocol : String} {server : ServerTask}
    (howner : ∀ id, owner = some id → some id ∉ session.announced ∧ ∃ connection,
      session.client.connections[id]? = some connection ∧
        protocol = connection.init.protocol.getD "")
    (hstep : session.server.step serverConfig (.announce protocol) = some server) :
    Linked occupied clientConfig serverConfig
      { session with server := server, announced := session.announced ++ [owner] } := by
  have hlength := hlinked.length
  have hserver := ServerTask.reachable_of_step hlinked.server hstep
  obtain rfl := Option.some.inj hstep
  -- An index of the longer list is an old one or the new one.
  have hcases : ∀ {index id : Nat}, (session.announced ++ [owner])[index]? = some (some id) →
      session.announced[index]? = some (some id) ∨
        index = session.announced.length ∧ owner = some id := by
    intro index id hindex
    rcases Nat.lt_or_ge index session.announced.length with hlt | hge
    · exact .inl ((List.getElem?_append_left hlt).symm.trans hindex)
    · obtain ⟨hbound, _⟩ := List.getElem?_eq_some_iff.mp hindex
      rw [List.length_append, List.length_singleton] at hbound
      obtain rfl := Nat.le_antisymm (Nat.le_of_lt_succ hbound) hge
      exact .inr ⟨rfl, Option.some.inj (List.getElem?_concat_length.symm.trans hindex)⟩
  refine ⟨hlinked.client, hserver, ?_, ?_, ?_, hlinked.silent, ?_⟩
  · simp [hlength]
  · intro index other id hindex hother
    rcases hcases hindex with hindex | ⟨rfl, hnew⟩ <;>
      rcases hcases hother with hother | ⟨rfl, hnew'⟩
    · exact hlinked.single index other id hindex hother
    · exact absurd (List.mem_of_getElem? hindex) (howner id hnew').1
    · exact absurd (List.mem_of_getElem? hother) (howner id hnew).1
    · rfl
  · intro index id hindex
    rcases hcases hindex with hindex | ⟨rfl, hnew⟩
    · obtain ⟨connection, channel, hconnection, hchannel, hpaired⟩ :=
        hlinked.paired index id hindex
      obtain ⟨hlt, _⟩ := List.getElem?_eq_some_iff.mp hchannel
      exact ⟨connection, channel, hconnection, (List.getElem?_append_left hlt).trans hchannel,
        hpaired⟩
    · obtain ⟨hfirst, connection, hconnection, rfl⟩ := howner id hnew
      obtain ⟨hnothing, harrived⟩ := hlinked.unheard id hfirst
      refine ⟨connection, .new _, hconnection, ?_, rfl, fun msg hmem => ?_, ?_⟩
      · rw [hlength]
        exact List.getElem?_concat_length
      · exact absurd hmem List.not_mem_nil
      · rw [harrived connection hconnection, hnothing]
        exact List.Subperm.refl _
  · intro id hid
    exact hlinked.unheard id fun hmem => hid (List.mem_append_left _ hmem)

/-- A message arrives at the server, in one of its channels. -/
theorem Linked.message_step (hlinked : session.Linked occupied clientConfig serverConfig)
    {index : Nat} {msg : List UInt8} {server : ServerTask}
    (hempty : ∀ id, session.announced[index]? = some (some id) → msg = [])
    (hstep : session.server.step serverConfig (.message index msg) = some server) :
    Linked occupied clientConfig serverConfig { session with server := server } where
  client := hlinked.client
  server := ServerTask.reachable_of_step hlinked.server hstep
  length := hlinked.length.trans
    (ServerTask.length_of_step (.of_step hstep) (fun protocol => by simp)).symm
  single := hlinked.single
  paired other id hother := by
    obtain ⟨connection, channel, hconnection, hchannel, hpaired⟩ := hlinked.paired other id hother
    obtain ⟨after, hafter, hprotocol, harrived, hsent⟩ :=
      ServerTask.traffic_of_step (.of_step hstep) hchannel
    rw [ServerTask.sentOn_of_ne (by simp), List.append_nil] at hsent
    refine ⟨connection, after, hconnection, hafter, hprotocol.trans hpaired.protocol, ?_,
      hsent ▸ hpaired.answers⟩
    intro found hfound
    rw [harrived, ServerEvent.deliveredTo] at hfound
    rcases List.mem_append.mp hfound with hbefore | hnew
    · exact hpaired.requests found hbefore
    · split at hnew
      next hindex => exact (List.mem_singleton.mp hnew).trans (hempty id (hindex ▸ hother))
      · cases hnew
  silent := hlinked.silent
  unheard := hlinked.unheard

/-- A message arrives at the client: it was on its way, so that its channel is announced. -/
theorem Linked.answer_step (hlinked : session.Linked occupied clientConfig serverConfig)
    {id : Nat} {msg : List UInt8} {rest : List (List UInt8)} {client : TunnelClient}
    (hreceive : (session.toClient id).Perm (msg :: rest))
    (hstep : session.client.step occupied (.connection id (.message msg)) = some client) :
    Linked occupied clientConfig serverConfig { session with
      client := client, toClient := Function.update session.toClient id rest } where
  client := reachable_client hlinked.client hstep
  server := hlinked.server
  length := hlinked.length
  single := hlinked.single
  paired index other hindex := by
    obtain ⟨connection, channel, hconnection, hchannel, hpaired⟩ :=
      hlinked.paired index other hindex
    obtain ⟨after, hafter, hinit, harrived⟩ := TunnelClient.connection_of_step hstep hconnection
    refine ⟨after, channel, hafter, hchannel, hinit ▸ hpaired.protocol, hpaired.requests, ?_⟩
    change (after.tcp.inbox.arrived ++ Function.update session.toClient id rest other).Subperm
      channel.sent
    rw [harrived, TunnelClientEvent.deliveredTo]
    by_cases hother : other = id
    · subst hother
      rw [if_pos rfl, Function.update_self, ClientTcpEvent.delivered, List.append_assoc]
      exact (hreceive.symm.append_left _).subperm.trans hpaired.answers
    · rw [if_neg (Ne.symm hother), Function.update_of_ne hother, List.append_nil]
      exact hpaired.answers
  silent := hlinked.silent
  unheard other hid := by
    obtain ⟨hnothing, harrived⟩ := hlinked.unheard other hid
    have hother : other ≠ id := by
      rintro rfl
      rw [hnothing] at hreceive
      exact List.cons_ne_nil _ _ hreceive.nil_eq.symm
    refine ⟨(Function.update_of_ne hother rest session.toClient).trans hnothing, ?_⟩
    intro connection hconnection
    cases hbefore : session.client.connections[other]? with
    | none => exact TunnelClient.arrived_of_created hstep hbefore hconnection
    | some before =>
        obtain ⟨after, hafter, _, hkept⟩ := TunnelClient.connection_of_step hstep hbefore
        obtain rfl := Option.some.inj (hafter.symm.trans hconnection)
        rw [hkept, harrived before hbefore, TunnelClientEvent.deliveredTo, if_neg (Ne.symm hother),
          List.append_nil]

/-- Messages of the client are lost or taken off the network. -/
theorem Linked.toServer_step (hlinked : session.Linked occupied clientConfig serverConfig)
    {id : Nat} {rest : List (List UInt8)} (hrest : ∀ msg ∈ rest, msg ∈ session.toServer id) :
    Linked occupied clientConfig serverConfig
      { session with toServer := Function.update session.toServer id rest } := by
  refine { hlinked with silent := fun other msg hmem => ?_ }
  change msg ∈ Function.update session.toServer id rest other at hmem
  by_cases hother : other = id
  · subst hother
    rw [Function.update_self] at hmem
    exact hlinked.silent other msg (hrest msg hmem)
  · rw [Function.update_of_ne hother] at hmem
    exact hlinked.silent other msg hmem

/-- Answers of the server are lost. -/
theorem Linked.abandon_step (hlinked : session.Linked occupied clientConfig serverConfig)
    {id : Nat} {rest : List (List UInt8)} (hrest : rest.Sublist (session.toClient id)) :
    Linked occupied clientConfig serverConfig
      { session with toClient := Function.update session.toClient id rest } := by
  refine { hlinked with paired := fun index other hindex => ?_, unheard := fun other hid => ?_ }
  · obtain ⟨connection, channel, hconnection, hchannel, hpaired⟩ :=
      hlinked.paired index other hindex
    refine ⟨connection, channel, hconnection, hchannel, hpaired.protocol, hpaired.requests, ?_⟩
    change (connection.tcp.inbox.arrived ++
      Function.update session.toClient id rest other).Subperm channel.sent
    by_cases hother : other = id
    · subst hother
      rw [Function.update_self]
      exact (hrest.append_left _).subperm.trans hpaired.answers
    · rw [Function.update_of_ne hother]
      exact hpaired.answers
  · obtain ⟨hnothing, harrived⟩ := hlinked.unheard other hid
    refine ⟨?_, harrived⟩
    change Function.update session.toClient id rest other = []
    by_cases hother : other = id
    · subst hother
      rw [Function.update_self]
      exact List.sublist_nil.mp (hnothing ▸ hrest)
    · exact (Function.update_of_ne hother rest session.toClient).trans hnothing

theorem Linked.step {next : TunnelSession} {event : TunnelEvent}
    (hlinked : session.Linked occupied clientConfig serverConfig)
    (hstep : session.step occupied serverConfig event = some next) :
    next.Linked occupied clientConfig serverConfig := by
  cases Step.of_step hstep with
  | client event client hevent hclient => exact hlinked.client_step hevent hclient
  | server event server hevent hserver => exact hlinked.server_step hevent hserver
  | announce id connection server hconnection hfirst hserver =>
      refine hlinked.announce_step (fun other hother => ?_) hserver
      obtain rfl := Option.some.inj hother
      exact ⟨hfirst, connection, hconnection, rfl⟩
  | announceOther protocol server hserver => exact hlinked.announce_step (by simp) hserver
  | messageOther channel msg server hother hserver =>
      refine hlinked.message_step (fun id hannounced => ?_) hserver
      cases hother.symm.trans hannounced
  | deliverToServer channel index id msg rest server hannounced hreceive hserver =>
      have hsilent := hlinked.silent id
      have hmem : ∀ found ∈ msg :: rest, found ∈ session.toServer id := fun found hfound =>
        hreceive.mem_iff.mpr hfound
      have hdelivered :
          Linked occupied clientConfig serverConfig { session with server := server } :=
        hlinked.message_step (fun _ _ => hsilent msg (hmem msg List.mem_cons_self)) hserver
      exact hdelivered.toServer_step fun found hfound => hmem found (List.mem_cons_of_mem _ hfound)
  | deliverToClient id index msg rest client hreceive hclient =>
      exact hlinked.answer_step hreceive hclient
  | abandonToServer id index rest habandon =>
      exact hlinked.toServer_step fun msg hmem => habandon.subset hmem
  | abandonToClient id index rest habandon => exact hlinked.abandon_step habandon

theorem linked_of_reachable
    (hreach : (tunnelSystem occupied clientConfig serverConfig).Reachable session) :
    session.Linked occupied clientConfig serverConfig := by
  apply hreach.invariant (Linked occupied clientConfig serverConfig)
  · rintro _ rfl
    exact linked_start
  · intro state event next hlinked _ hstep
    exact hlinked.step hstep

end TunnelSession

end MangleWebRTC.Tunnel
