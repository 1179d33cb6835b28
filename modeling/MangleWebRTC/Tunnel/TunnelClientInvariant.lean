import MangleWebRTC.Tunnel.TunnelClientSteps
import Mathlib.Data.List.Nodup

/-! # The data channels of the tunnel client

Whatever the interleaving of the tasks, no index is taken twice, a data channel has the
parameters of the entry whose task created it, and a task waits for the data channel of
its own latest connection. The connections run as they do alone.
-/

namespace MangleWebRTC.Tunnel

open Machine

/-- Until its task goes on, a connection waits for its data channel. -/
theorem ClientTcp.awaitingOpen_step {tcp next : ClientTcp} {event : ClientTcpEvent}
    (hstep : tcp.step event = some next) (hevent : event ≠ .establish)
    (hphase : tcp.phase = .awaitingOpen) : next.phase = .awaitingOpen := by
  cases Step.of_step hstep with
  | opens | message | enqueueMessage => exact hphase
  | establish => exact absurd rfl hevent
  | read _ hselect | takeMessage _ _ hselect => cases hphase.symm.trans hselect
  | sendReturns _ _ _ hsending => cases hphase.symm.trans hsending
  | wrote _ hwriting => cases hphase.symm.trans hwriting
  | fails hawaiting => exact absurd hphase hawaiting

theorem ClientTcp.reachable_step {tcp next : ClientTcp} {event : ClientTcpEvent}
    (hreach : clientTcpSystem.Reachable tcp) (hstep : tcp.step event = some next) :
    clientTcpSystem.Reachable next := by
  have htaken : clientTcpSystem.step tcp event = some next := hstep
  exact hreach.tail trivial htaken

namespace TunnelClient

variable {occupied : SocketKind → Port → Bool} {config : List Channel} {client : TunnelClient}

/-- The bookkeeping of tasks, indices and connections. -/
structure Registered (config : List Channel) (client : TunnelClient) : Prop where
  entries : client.listeners.map Listener.entry = config
  counted : ∀ connection ∈ client.connections, connection.channelIdx < client.channelCounter
  apart : (client.connections.map Connection.channelIdx).Nodup
  creating : ∀ (index : Nat) (listener : Listener) channelIdx,
    client.listeners[index]? = some listener → listener.phase = .creating channelIdx →
    channelIdx < client.channelCounter ∧
      ∀ connection ∈ client.connections, connection.channelIdx ≠ channelIdx
  creatingApart : ∀ (index other : Nat) (listener another : Listener) channelIdx,
    client.listeners[index]? = some listener → client.listeners[other]? = some another →
    listener.phase = .creating channelIdx → another.phase = .creating channelIdx → index = other
  opening : ∀ (index : Nat) (listener : Listener) id, client.listeners[index]? = some listener →
    listener.phase = .opening id → ∃ connection, client.connections[id]? = some connection ∧
      connection.listener = index ∧ connection.tcp.phase = .awaitingOpen
  made : ∀ connection ∈ client.connections, ∃ entry, config[connection.listener]? = some entry ∧
    entry.target.map Prod.fst = some .tcp ∧ entry.init = some connection.init
  runs : ∀ connection ∈ client.connections, clientTcpSystem.Reachable connection.tcp

theorem registered_start (config : List Channel) : (start config).Registered config := by
  have hstarting : ∀ (index : Nat) (listener : Listener),
      (start config).listeners[index]? = some listener → listener.phase = .starting := by
    intro index listener hlistener
    obtain ⟨entry, _, rfl⟩ := List.mem_map.mp (List.mem_of_getElem? hlistener)
    rfl
  refine ⟨?_, by simp [start], List.nodup_nil, ?_, ?_, ?_, by simp [start], by simp [start]⟩
  · rw [start, List.map_map]
    exact List.map_id config
  · intro index listener channelIdx hlistener hphase
    cases (hstarting index listener hlistener).symm.trans hphase
  · intro index other listener another channelIdx hlistener _ hphase
    cases (hstarting index listener hlistener).symm.trans hphase
  · intro index listener id hlistener hphase
    cases (hstarting index listener hlistener).symm.trans hphase

theorem entries_setListener {index : Nat} {listener : Listener}
    (hlistener : client.listeners[index]? = some listener) (phase : ListenerPhase) :
    (client.setListener index { listener with phase := phase }).listeners.map Listener.entry =
      client.listeners.map Listener.entry :=
  map_set_of_eq hlistener rfl

/-- A task moves to a phase in which it neither creates nor awaits a data channel. -/
theorem Registered.setListener (hregistered : client.Registered config) {index : Nat}
    {listener : Listener} (hlistener : client.listeners[index]? = some listener)
    {phase : ListenerPhase} (hcreating : ∀ channelIdx, phase ≠ .creating channelIdx)
    (hopening : ∀ id, phase ≠ .opening id) :
    (client.setListener index { listener with phase := phase }).Registered config := by
  refine ⟨?_, hregistered.counted, hregistered.apart, ?_, ?_, ?_, hregistered.made,
    hregistered.runs⟩
  · exact (entries_setListener hlistener phase).trans hregistered.entries
  · intro other found channelIdx hfound hphase
    rcases eq_or_getElem?_of_set hlistener hfound with ⟨_, rfl⟩ | ⟨_, hbefore⟩
    · exact absurd hphase (hcreating channelIdx)
    · exact hregistered.creating other found channelIdx hbefore hphase
  · intro first second found another channelIdx hfound hanother hphase hphase'
    rcases eq_or_getElem?_of_set hlistener hfound with ⟨_, rfl⟩ | ⟨_, hbefore⟩
    · exact absurd hphase (hcreating channelIdx)
    rcases eq_or_getElem?_of_set hlistener hanother with ⟨_, rfl⟩ | ⟨_, hbefore'⟩
    · exact absurd hphase' (hcreating channelIdx)
    · exact hregistered.creatingApart first second found another channelIdx hbefore hbefore'
        hphase hphase'
  · intro other found id hfound hphase
    rcases eq_or_getElem?_of_set hlistener hfound with ⟨_, rfl⟩ | ⟨_, hbefore⟩
    · exact absurd hphase (hopening id)
    · exact hregistered.opening other found id hbefore hphase

/-- A connection runs on. -/
theorem Registered.setConnection (hregistered : client.Registered config) {id : Nat}
    {connection : Connection} (hconnection : client.connections[id]? = some connection)
    {tcp : ClientTcp} (hreach : clientTcpSystem.Reachable tcp)
    (hawaited : ∀ (index : Nat) (listener : Listener), client.listeners[index]? = some listener →
      listener.phase = .opening id → tcp.phase = .awaitingOpen) :
    (client.setConnection id { connection with tcp := tcp }).Registered config := by
  have hbefore := List.mem_of_getElem? hconnection
  have hmem : ∀ other ∈ client.connections.set id { connection with tcp := tcp },
      ∃ found ∈ client.connections, other.channelIdx = found.channelIdx ∧
        other.listener = found.listener ∧ other.init = found.init := by
    intro other hother
    rcases List.mem_or_eq_of_mem_set hother with hother | rfl
    · exact ⟨other, hother, rfl, rfl, rfl⟩
    · exact ⟨connection, hbefore, rfl, rfl, rfl⟩
  refine ⟨hregistered.entries, ?_, ?_, ?_, hregistered.creatingApart, ?_, ?_, ?_⟩
  · intro other hother
    obtain ⟨found, hfound, hidx, _⟩ := hmem other hother
    exact hidx ▸ hregistered.counted found hfound
  · have hsame : (client.connections.set id { connection with tcp := tcp }).map
        Connection.channelIdx = client.connections.map Connection.channelIdx :=
      map_set_of_eq hconnection rfl
    exact hsame ▸ hregistered.apart
  · intro index listener channelIdx hlistener hphase
    obtain ⟨hcounted, hfresh⟩ := hregistered.creating index listener channelIdx hlistener hphase
    refine ⟨hcounted, fun other hother => ?_⟩
    obtain ⟨found, hfound, hidx, _⟩ := hmem other hother
    exact hidx ▸ hfresh found hfound
  · intro index listener other hlistener hphase
    obtain ⟨found, hfound, howner, hphase'⟩ :=
      hregistered.opening index listener other hlistener hphase
    have hget := @getElem?_set_of_some _ client.connections id connection
      { connection with tcp := tcp } hconnection other
    by_cases hother : other = id
    · subst hother
      obtain rfl := Option.some.inj (hconnection.symm.trans hfound)
      exact ⟨_, hget.trans (if_pos rfl), howner, hawaited index listener hlistener hphase⟩
    · exact ⟨found, hget.trans ((if_neg hother).trans hfound), howner, hphase'⟩
  · intro other hother
    obtain ⟨found, hfound, _, howner, hinit⟩ := hmem other hother
    exact howner ▸ hinit ▸ hregistered.made found hfound
  · intro other hother
    rcases List.mem_or_eq_of_mem_set hother with hother | rfl
    · exact hregistered.runs other hother
    · exact hreach

/-- An accepted stream gets an index that nobody has. -/
theorem Registered.accept (hregistered : client.Registered config) {index : Nat}
    {listener : Listener} (hlistener : client.listeners[index]? = some listener) :
    Registered config { client.setListener index { listener with
        phase := .creating client.channelCounter } with
      channelCounter := client.channelCounter + 1 } := by
  refine ⟨?_, ?_, hregistered.apart, ?_, ?_, ?_, hregistered.made, hregistered.runs⟩
  · exact (entries_setListener hlistener _).trans hregistered.entries
  · exact fun connection hmem => Nat.lt_succ_of_lt (hregistered.counted connection hmem)
  · intro other found channelIdx hfound hphase
    rcases eq_or_getElem?_of_set hlistener hfound with ⟨_, rfl⟩ | ⟨_, hbefore⟩
    · obtain rfl := ListenerPhase.creating.inj hphase
      exact ⟨Nat.lt_succ_self _, fun connection hmem =>
        (hregistered.counted connection hmem).ne⟩
    · obtain ⟨hcounted, hfresh⟩ := hregistered.creating other found channelIdx hbefore hphase
      exact ⟨Nat.lt_succ_of_lt hcounted, hfresh⟩
  · have hlater : ∀ (other : Nat) (found : Listener), client.listeners[other]? = some found →
        found.phase ≠ .creating client.channelCounter := fun other found hfound hphase =>
      (hregistered.creating other found _ hfound hphase).1.ne rfl
    intro first second found another channelIdx hfound hanother hphase hphase'
    rcases eq_or_getElem?_of_set hlistener hfound with ⟨rfl, rfl⟩ | ⟨_, hbefore⟩ <;>
      rcases eq_or_getElem?_of_set hlistener hanother with ⟨rfl, rfl⟩ | ⟨_, hbefore'⟩
    · rfl
    · obtain rfl := ListenerPhase.creating.inj hphase
      exact absurd hphase' (hlater _ _ hbefore')
    · obtain rfl := ListenerPhase.creating.inj hphase'
      exact absurd hphase (hlater _ _ hbefore)
    · exact hregistered.creatingApart first second found another channelIdx hbefore hbefore'
        hphase hphase'
  · intro other found id hfound hphase
    rcases eq_or_getElem?_of_set hlistener hfound with ⟨_, rfl⟩ | ⟨_, hbefore⟩
    · cases hphase
    · exact hregistered.opening other found id hbefore hphase

/-- The data channel of an accepted stream has been created. -/
theorem Registered.created (hregistered : client.Registered config) {index channelIdx : Nat}
    {listener : Listener} {init : RTCDataChannelInit}
    (hlistener : client.listeners[index]? = some listener)
    (hphase : listener.phase = .creating channelIdx)
    (hkind : listener.entry.target.map Prod.fst = some .tcp)
    (hinit : listener.entry.init = some init) :
    Registered config { client.setListener index { listener with
        phase := .opening client.connections.length } with
      connections := client.connections ++ [⟨index, channelIdx, init, .start⟩] } := by
  obtain ⟨hcounted, hfresh⟩ := hregistered.creating index listener channelIdx hlistener hphase
  have hold : ∀ (id : Nat) (connection : Connection),
      client.connections[id]? = some connection → (client.connections ++
        [⟨index, channelIdx, init, .start⟩])[id]? = some connection := by
    intro id connection hconnection
    obtain ⟨hlength, _⟩ := List.getElem?_eq_some_iff.mp hconnection
    exact (List.getElem?_append_left hlength).trans hconnection
  refine ⟨?_, ?_, ?_, ?_, ?_, ?_, ?_, ?_⟩
  · exact (entries_setListener hlistener _).trans hregistered.entries
  · intro connection hmem
    rcases List.mem_append.mp hmem with hmem | hmem
    · exact hregistered.counted connection hmem
    · obtain rfl := List.mem_singleton.mp hmem
      exact hcounted
  · rw [List.map_append, List.map_singleton]
    refine List.nodup_append.mpr ⟨hregistered.apart, List.nodup_singleton _, ?_⟩
    intro taken htaken last hlast heq
    obtain ⟨connection, hmem, rfl⟩ := List.mem_map.mp htaken
    exact hfresh connection hmem (heq.trans (List.mem_singleton.mp hlast))
  · intro other found otherIdx hfound hcreating
    rcases eq_or_getElem?_of_set hlistener hfound with ⟨_, rfl⟩ | ⟨hother, hbefore⟩
    · cases hcreating
    · obtain ⟨hlater, hunused⟩ := hregistered.creating other found otherIdx hbefore hcreating
      refine ⟨hlater, fun connection hmem => ?_⟩
      rcases List.mem_append.mp hmem with hmem | hmem
      · exact hunused connection hmem
      · obtain rfl := List.mem_singleton.mp hmem
        rintro rfl
        exact hother
          (hregistered.creatingApart other index found listener _ hbefore hlistener hcreating
            hphase)
  · intro first second found another otherIdx hfound hanother hcreating hcreating'
    rcases eq_or_getElem?_of_set hlistener hfound with ⟨_, rfl⟩ | ⟨_, hbefore⟩
    · cases hcreating
    rcases eq_or_getElem?_of_set hlistener hanother with ⟨_, rfl⟩ | ⟨_, hbefore'⟩
    · cases hcreating'
    · exact hregistered.creatingApart first second found another otherIdx hbefore hbefore'
        hcreating hcreating'
  · intro other found id hfound hopening
    rcases eq_or_getElem?_of_set hlistener hfound with ⟨rfl, rfl⟩ | ⟨_, hbefore⟩
    · obtain rfl := ListenerPhase.opening.inj hopening
      exact ⟨_, List.getElem?_concat_length, rfl, rfl⟩
    · obtain ⟨connection, hconnection, hrest⟩ :=
        hregistered.opening other found id hbefore hopening
      exact ⟨connection, hold id connection hconnection, hrest⟩
  · intro connection hmem
    rcases List.mem_append.mp hmem with hmem | hmem
    · exact hregistered.made connection hmem
    · obtain rfl := List.mem_singleton.mp hmem
      refine ⟨listener.entry, ?_, hkind, hinit⟩
      rw [← hregistered.entries, List.getElem?_map, hlistener]
      rfl
  · intro connection hmem
    rcases List.mem_append.mp hmem with hmem | hmem
    · exact hregistered.runs connection hmem
    · obtain rfl := List.mem_singleton.mp hmem
      exact ⟨.start, rfl, .refl⟩

theorem startPhase_cases (occupied : SocketKind → Port → Bool) (client : TunnelClient)
    (entry : Channel) : client.startPhase occupied entry = .serving ∨
      ∃ result, client.startPhase occupied entry = .ended result := by
  unfold startPhase
  split
  · exact .inr ⟨_, rfl⟩
  · split
    · exact .inr ⟨_, rfl⟩
    · split
      · exact .inr ⟨_, rfl⟩
      · exact .inl rfl

theorem Registered.step {next : TunnelClient} {event : TunnelClientEvent}
    (hregistered : client.Registered config) (hstep : client.step occupied event = some next) :
    next.Registered config := by
  cases Step.of_step hstep with
  | start index listener hlistener hphase =>
      refine hregistered.setListener hlistener ?_ ?_ <;> intro _ <;>
        rcases startPhase_cases occupied client listener.entry with heq | ⟨_, heq⟩ <;>
        simp [heq]
  | accept index listener hlistener hphase => exact hregistered.accept hlistener
  | created index listener channelIdx init hlistener hphase hkind hinit =>
      exact hregistered.created hlistener hphase hkind hinit
  | establish index listener id connection tcp hlistener hphase hconnection htcp =>
      have hreach := hregistered.runs connection (List.mem_of_getElem? hconnection)
      obtain ⟨found, hfound, howner, _⟩ := hregistered.opening index listener id hlistener hphase
      obtain rfl := Option.some.inj (hconnection.symm.trans hfound)
      have hserving : (client.setListener index { listener with
          phase := .serving }).Registered config :=
        hregistered.setListener hlistener (by simp) (by simp)
      refine hserving.setConnection hconnection (ClientTcp.reachable_step hreach htcp) ?_
      -- Nobody else waits for this connection.
      intro other another hanother hopening
      rcases eq_or_getElem?_of_set hlistener hanother with ⟨_, rfl⟩ | ⟨hother, hbefore⟩
      · cases hopening
      · obtain ⟨found, hfound, howner', _⟩ :=
          hregistered.opening other another id hbefore hopening
        obtain rfl := Option.some.inj (hconnection.symm.trans hfound)
        exact absurd (howner'.symm.trans howner) hother
  | openFails index listener id hlistener hphase =>
      exact hregistered.setListener hlistener (by simp) (by simp)
  | ends _ index listener result hevent hlistener hphase =>
      exact hregistered.setListener hlistener (by simp) (by simp)
  | connection id event connection tcp hconnection hevent htcp =>
      have hreach := hregistered.runs connection (List.mem_of_getElem? hconnection)
      refine hregistered.setConnection hconnection (ClientTcp.reachable_step hreach htcp) ?_
      intro index listener hlistener hphase
      obtain ⟨found, hfound, _, hawaiting⟩ :=
        hregistered.opening index listener id hlistener hphase
      obtain rfl := Option.some.inj (hconnection.symm.trans hfound)
      exact ClientTcp.awaitingOpen_step htcp hevent hawaiting
  | udpCounts index =>
      refine { hregistered with counted := ?_, creating := ?_ }
      · exact fun connection hmem => Nat.lt_succ_of_lt (hregistered.counted connection hmem)
      · intro index listener channelIdx hlistener hphase
        obtain ⟨hcounted, hfresh⟩ :=
          hregistered.creating index listener channelIdx hlistener hphase
        exact ⟨Nat.lt_succ_of_lt hcounted, hfresh⟩
  | returns => exact { hregistered with }

theorem registered_of_reachable
    (hreach : (tunnelClientSystem occupied config).Reachable client) :
    client.Registered config := by
  apply hreach.invariant (Registered config)
  · rintro _ rfl
    exact registered_start config
  · intro state event next hregistered _ hstep
    exact hregistered.step hstep

end TunnelClient

end MangleWebRTC.Tunnel
