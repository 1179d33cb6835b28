import MangleWebRTC.Tunnel.TunnelClient

/-! # What a step of the tunnel client can do

A task moves on, or ends, by itself; a connection comes with its data channel and then
runs on its own. The indices of data channels are never taken twice, and a data channel
has the parameters of its entry.
-/

namespace MangleWebRTC.Tunnel

open Machine

namespace TunnelClient

variable {occupied : SocketKind → Port → Bool} {config : List Channel} {client : TunnelClient}

/-- The successful steps, with what they need. -/
inductive Step (occupied : SocketKind → Port → Bool) (client : TunnelClient) :
    TunnelClientEvent → TunnelClient → Prop
  | start (index : Nat) (listener : Listener) (hlistener : client.listeners[index]? = some listener)
      (hphase : listener.phase = .starting) : Step occupied client (.start index)
      (client.setListener index { listener with
        phase := client.startPhase occupied listener.entry })
  | accept (index : Nat) (listener : Listener)
      (hlistener : client.listeners[index]? = some listener)
      (hphase : listener.phase = .serving) : Step occupied client (.accept index)
      { client.setListener index { listener with phase := .creating client.channelCounter } with
        channelCounter := client.channelCounter + 1 }
  | created (index : Nat) (listener : Listener) (channelIdx : Nat) (init : RTCDataChannelInit)
      (hlistener : client.listeners[index]? = some listener)
      (hphase : listener.phase = .creating channelIdx)
      (hkind : listener.entry.target.map Prod.fst = some .tcp)
      (hinit : listener.entry.init = some init) : Step occupied client (.created index)
      { client.setListener index { listener with
          phase := .opening client.connections.length } with
        connections := client.connections ++ [⟨index, channelIdx, init, .start⟩] }
  | establish (index : Nat) (listener : Listener) (id : Nat) (connection : Connection)
      (tcp : ClientTcp) (hlistener : client.listeners[index]? = some listener)
      (hphase : listener.phase = .opening id)
      (hconnection : client.connections[id]? = some connection)
      (htcp : connection.tcp.step .establish = some tcp) : Step occupied client (.establish index)
      ((client.setListener index { listener with phase := .serving }).setConnection id
        { connection with tcp := tcp })
  | openFails (index : Nat) (listener : Listener) (id : Nat)
      (hlistener : client.listeners[index]? = some listener)
      (hphase : listener.phase = .opening id) : Step occupied client (.openFails index)
      (client.setListener index { listener with phase := .serving })
  | ends (event : TunnelClientEvent) (index : Nat) (listener : Listener) (result : ListenerEnd)
      (hevent : event = .acceptFails index ∨ event = .createFails index ∨
        event = .udpFails index)
      (hlistener : client.listeners[index]? = some listener)
      (hphase : listener.phase = .serving ∨ ∃ channelIdx, listener.phase = .creating channelIdx)
      (hresult : result ≠ .panicked ∧ result ≠ .bind) :
      Step occupied client event
        (client.setListener index { listener with phase := .ended result })
  | connection (id : Nat) (event : ClientTcpEvent) (connection : Connection) (tcp : ClientTcp)
      (hconnection : client.connections[id]? = some connection) (hevent : event ≠ .establish)
      (htcp : connection.tcp.step event = some tcp) : Step occupied client (.connection id event)
      (client.setConnection id { connection with tcp := tcp })
  | udpCounts (index : Nat) : Step occupied client (.udpCounts index)
      { client with channelCounter := client.channelCounter + 1 }
  | returns (event : TunnelClientEvent)
      (hevent : event = .ctrlC ∨ event = .joinNone ∨ ∃ index, event = .joinNext index) :
      Step occupied client event { client with returned := true }

theorem Step.of_task {next : TunnelClient} {index : Nat} {event : TunnelClientEvent}
    (hevent : event = .accept index ∨ event = .acceptFails index ∨ event = .created index ∨
      event = .createFails index ∨ event = .establish index ∨ event = .openFails index ∨
      event = .udpCounts index ∨ event = .udpFails index)
    (htask : client.task index event = some next) : Step occupied client event next := by
  obtain ⟨listener, hlistener, htask⟩ := Option.bind_eq_some_iff.mp htask
  split at htask
  next port remap quality hentry =>
    have hkind : listener.entry.target.map Prod.fst = some .tcp := by
      rw [hentry]
      rfl
    rcases hevent with rfl | rfl | rfl | rfl | rfl | rfl | rfl | rfl <;>
      simp only [tcpTask] at htask
    · split at htask
      next hphase => exact Option.some.inj htask ▸ .accept index listener hlistener hphase
      · cases htask
    · split at htask
      next hphase =>
        exact Option.some.inj htask ▸
          .ends _ index listener _ (.inl rfl) hlistener (.inl hphase) (by simp)
      · cases htask
    · split at htask
      next channelIdx init hphase hinit =>
        exact Option.some.inj htask ▸
          .created index listener channelIdx init hlistener hphase hkind hinit
      · cases htask
    · split at htask
      next channelIdx hphase =>
        exact Option.some.inj htask ▸
          .ends _ index listener _ (.inr (.inl rfl)) hlistener (.inr ⟨channelIdx, hphase⟩)
            (by simp)
      · cases htask
    · split at htask
      next id hphase =>
        obtain ⟨connection, hconnection, htask⟩ := Option.bind_eq_some_iff.mp htask
        obtain ⟨tcp, htcp, hnext⟩ := Option.bind_eq_some_iff.mp htask
        exact Option.some.inj hnext ▸
          .establish index listener id connection tcp hlistener hphase hconnection htcp
      · cases htask
    · split at htask
      next id hphase =>
        obtain ⟨connection, _, htask⟩ := Option.bind_eq_some_iff.mp htask
        split at htask
        · cases htask
        · exact Option.some.inj htask ▸ .openFails index listener id hlistener hphase
      · cases htask
    · cases htask
    · cases htask
  next hentry =>
    rcases hevent with rfl | rfl | rfl | rfl | rfl | rfl | rfl | rfl <;>
      simp only [udpTask] at htask
    · cases htask
    · cases htask
    · cases htask
    · cases htask
    · cases htask
    · cases htask
    · split at htask
      · exact Option.some.inj htask ▸ .udpCounts index
      · cases htask
    · split at htask
      next hphase =>
        exact Option.some.inj htask ▸
          .ends _ index listener _ (.inr (.inr rfl)) hlistener (.inl hphase) (by simp)
      · cases htask
  next => cases htask

theorem Step.of_step {next : TunnelClient} {event : TunnelClientEvent}
    (hstep : client.step occupied event = some next) : Step occupied client event next := by
  unfold TunnelClient.step at hstep
  split at hstep
  · cases hstep
  cases event with
  | start index =>
      obtain ⟨listener, hlistener, hrest⟩ := Option.bind_eq_some_iff.mp hstep
      split at hrest
      next hphase => exact Option.some.inj hrest ▸ .start index listener hlistener hphase
      · cases hrest
  | accept index | acceptFails index | created index | createFails index | establish index
  | openFails index | udpCounts index | udpFails index => exact .of_task (by simp) hstep
  | connection id event =>
      simp only at hstep
      split at hstep
      · cases hstep
      next hevent =>
        obtain ⟨connection, hconnection, hrest⟩ := Option.bind_eq_some_iff.mp hstep
        obtain ⟨tcp, htcp, hnext⟩ := Option.bind_eq_some_iff.mp hrest
        exact Option.some.inj hnext ▸ .connection id event connection tcp hconnection hevent htcp
  | joinNext index =>
      obtain ⟨listener, _, hrest⟩ := Option.bind_eq_some_iff.mp hstep
      split at hrest
      · exact Option.some.inj hrest ▸ .returns _ (.inr (.inr ⟨index, rfl⟩))
      · cases hrest
  | joinNone =>
      simp only at hstep
      split at hstep
      · exact Option.some.inj hstep ▸ .returns _ (.inr (.inl rfl))
      · cases hstep
  | ctrlC => exact Option.some.inj hstep ▸ .returns _ (.inl rfl)

end TunnelClient

end MangleWebRTC.Tunnel
