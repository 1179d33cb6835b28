import MangleWebRTC.Tunnel.TunnelClientInvariant

/-! # One stream after another

A TCP task of the tunnel client waits for the data channel of a stream inside its accept
loop. Until that data channel opens or fails the entry accepts no other stream.
-/

namespace MangleWebRTC.Tunnel

open Machine

namespace TunnelClient

variable {occupied : SocketKind → Port → Bool} {config : List Channel} {client : TunnelClient}

/-- The streams that the task of an entry has accepted, by the index of their data channel. -/
def streamsOf (client : TunnelClient) (index : Nat) : List Nat :=
  ((client.connections.map fun connection => (connection.listener, connection.channelIdx)).filter
    fun stream => stream.1 = index).map Prod.snd

/-- The task waits for the data channel of its last stream. -/
structure Waits (client : TunnelClient) (index id : Nat) : Prop where
  phase : ∃ listener, client.listeners[index]? = some listener ∧ listener.phase = .opening id
  closed : ∃ connection, client.connections[id]? = some connection ∧
    connection.tcp.opened = false

/-- The data channel opens or its handler is dropped. -/
def Resolves (index id : Nat) (event : TunnelClientEvent) : Prop :=
  event = .connection id .opens ∨ event = .openFails index

theorem streamsOf_of_map {next : TunnelClient} {index : Nat}
    (hsame : next.connections.map (fun connection => (connection.listener, connection.channelIdx)) =
      client.connections.map fun connection => (connection.listener, connection.channelIdx)) :
    next.streamsOf index = client.streamsOf index := by
  rw [streamsOf, hsame, streamsOf]

theorem opened_of_step {tcp next : ClientTcp} {event : ClientTcpEvent}
    (hstep : tcp.step event = some next) (hevent : event ≠ .opens) : next.opened = tcp.opened := by
  cases ClientTcp.Step.of_step hstep with
  | opens => exact absurd rfl hevent
  | _ => rfl

/-- Another task moves. -/
theorem Waits.move {next : TunnelClient} {index id other : Nat} {listener changed : Listener}
    (hwaits : client.Waits index id) (hlistener : client.listeners[other]? = some listener)
    (hphase : listener.phase ≠ .opening id ∨ other ≠ index)
    (hlisteners : next.listeners = client.listeners.set other changed)
    (hconnections : client.connections <+: next.connections)
    (hstreams : next.streamsOf index = client.streamsOf index) :
    next.Waits index id ∧ next.listeners[index]? = client.listeners[index]? ∧
      next.streamsOf index = client.streamsOf index := by
  obtain ⟨⟨waiting, hwaiting, hopening⟩, closed, hclosed, hunopened⟩ := hwaits
  have hne : index ≠ other := by
    rintro rfl
    refine hphase.elim (fun hphase => hphase ?_) fun hne => hne rfl
    exact Option.some.inj (hwaiting.symm.trans hlistener) ▸ hopening
  have hkept : next.listeners[index]? = some waiting := by
    rw [hlisteners, getElem?_set_of_some hlistener, if_neg hne, hwaiting]
  obtain ⟨hlength, _⟩ := List.getElem?_eq_some_iff.mp hclosed
  refine ⟨⟨⟨waiting, hkept, hopening⟩, closed, ?_, hunopened⟩, hkept.trans hwaiting.symm, hstreams⟩
  obtain ⟨later, hlater⟩ := hconnections
  rw [← hlater, List.getElem?_append_left hlength, hclosed]

/-- A step of another task, or of a connection, leaves the waiting task where it is. -/
theorem Waits.step {next : TunnelClient} {event : TunnelClientEvent} {index id : Nat}
    (hwaits : client.Waits index id) (hevent : ¬ Resolves index id event)
    (hstep : client.step occupied event = some next) :
    next.Waits index id ∧ next.listeners[index]? = client.listeners[index]? ∧
      next.streamsOf index = client.streamsOf index := by
  cases Step.of_step hstep with
  | start other listener hlistener hphase | accept other listener hlistener hphase =>
      exact hwaits.move hlistener (.inl (by simp [hphase])) rfl (List.prefix_refl _) rfl
  | openFails other listener id' hlistener hphase =>
      have hne : other ≠ index := by
        rintro rfl
        exact hevent (.inr rfl)
      exact hwaits.move hlistener (.inr hne) rfl (List.prefix_refl _) rfl
  | ends event other listener result _ hlistener hphase =>
      have hmoves : listener.phase ≠ .opening id := by
        rcases hphase with hphase | ⟨_, hphase⟩ <;> simp [hphase]
      exact hwaits.move hlistener (.inl hmoves) rfl (List.prefix_refl _) rfl
  | created other listener channelIdx init hlistener hphase =>
      have hne : other ≠ index := by
        rintro rfl
        obtain ⟨waiting, hwaiting, hopening⟩ := hwaits.phase
        rw [← Option.some.inj (hlistener.symm.trans hwaiting), hphase] at hopening
        cases hopening
      exact hwaits.move hlistener (.inr hne) rfl (List.prefix_append _ _) (by simp [streamsOf, hne])
  | establish other listener id' connection tcp hlistener hphase hconnection htcp =>
      -- The data channel that has opened is not the one that is waited for.
      have hne : id ≠ id' := by
        rintro rfl
        obtain ⟨closed, hclosed, hunopened⟩ := hwaits.closed
        obtain rfl := Option.some.inj (hclosed.symm.trans hconnection)
        cases ClientTcp.Step.of_step htcp with
        | establish hopened => cases hunopened.symm.trans hopened
      have hserving :
          (client.setListener other { listener with phase := .serving }).Waits index id ∧
          (client.setListener other { listener with phase := .serving }).listeners[index]? =
            client.listeners[index]? ∧ client.streamsOf index = client.streamsOf index :=
        hwaits.move hlistener (.inl (by simpa [hphase] using Ne.symm hne)) rfl (List.prefix_refl _)
          rfl
      obtain ⟨⟨hopening, closed, hclosed, hunopened⟩, hkept, _⟩ := hserving
      refine ⟨⟨hopening, closed, ?_, hunopened⟩, hkept,
        streamsOf_of_map (map_set_of_eq hconnection rfl)⟩
      exact (getElem?_set_of_some hconnection id).trans ((if_neg hne).trans hclosed)
  | connection id' event connection tcp hconnection _ htcp =>
      obtain ⟨closed, hclosed, hunopened⟩ := hwaits.closed
      have hget := @getElem?_set_of_some _ client.connections id' connection
        { connection with tcp := tcp } hconnection id
      refine ⟨⟨hwaits.phase, ?_⟩, rfl, streamsOf_of_map (map_set_of_eq hconnection rfl)⟩
      by_cases hsame : id = id'
      · subst hsame
        obtain rfl := Option.some.inj (hclosed.symm.trans hconnection)
        refine ⟨_, hget.trans (if_pos rfl), ?_⟩
        exact (opened_of_step htcp fun hopens => hevent (.inl (hopens ▸ rfl))).trans hunopened
      · exact ⟨closed, hget.trans ((if_neg hsame).trans hclosed), hunopened⟩
  | udpCounts | returns => exact ⟨⟨hwaits.phase, hwaits.closed⟩, rfl, rfl⟩

/-- No stream is taken while the task waits. -/
theorem Waits.accept_eq_none {index id : Nat} (hwaits : client.Waits index id) :
    client.step occupied (.accept index) = none := by
  obtain ⟨listener, hlistener, hphase⟩ := hwaits.phase
  rw [Option.eq_none_iff_forall_ne_some]
  intro next hstep
  cases Step.of_step hstep with
  | accept _ found hfound hserving =>
      obtain rfl := Option.some.inj (hlistener.symm.trans hfound)
      cases hphase.symm.trans hserving
  | ends _ _ _ _ hevent | returns _ hevent => simp at hevent

/-- The task that waits for a data channel is one of a TCP entry. -/
theorem Registered.entry_of_opening (hregistered : client.Registered config) {index id : Nat}
    {listener : Listener} (hlistener : client.listeners[index]? = some listener)
    (hphase : listener.phase = .opening id) :
    ∃ port remap quality, listener.entry = .tcp port remap quality := by
  obtain ⟨connection, hconnection, rfl, _⟩ :=
    hregistered.opening index listener id hlistener hphase
  obtain ⟨entry, hentry, hkind, _⟩ :=
    hregistered.made connection (List.mem_of_getElem? hconnection)
  rw [← hregistered.entries, List.getElem?_map, hlistener] at hentry
  obtain rfl := Option.some.inj hentry
  cases hcases : listener.entry with
  | tcp port remap quality => exact ⟨port, remap, quality, rfl⟩
  | udp port remap quality => rw [hcases] at hkind; cases hkind
  | localSocket addr remap quality => rw [hcases] at hkind; cases hkind

theorem exists_establish {index id : Nat} {listener : Listener} {connection : Connection}
    {port : Port} {remap : Option Port} {quality : Option Quality}
    (hreturned : client.returned = false) (hlistener : client.listeners[index]? = some listener)
    (hphase : listener.phase = .opening id) (hentry : listener.entry = .tcp port remap quality)
    (hconnection : client.connections[id]? = some connection)
    (hopened : connection.tcp.opened = true) (hawaiting : connection.tcp.phase = .awaitingOpen) :
    ∃ next, client.step occupied (.establish index) = some next ∧ next.returned = false ∧
      next.channelCounter = client.channelCounter ∧
      next.listeners[index]? = some { listener with phase := .serving } ∧
      ∃ established, next.connections[id]? = some established ∧
        established.tcp.phase = .select := by
  have hstep : client.step occupied (.establish index) =
      some ((client.setListener index { listener with phase := .serving }).setConnection id
        { connection with tcp := { connection.tcp with
          phase := .select, inbox := connection.tcp.inbox.register } }) := by
    simp [TunnelClient.step, ClientTcp.step, task, tcpTask, hreturned, hlistener, hentry, hphase,
      hconnection, hopened, hawaiting]
  exact ⟨_, hstep, hreturned, rfl, getElem?_set_self_of_some hlistener, _,
    getElem?_set_self_of_some hconnection, rfl⟩

theorem exists_accept {index : Nat} {listener : Listener} {port : Port} {remap : Option Port}
    {quality : Option Quality} (hreturned : client.returned = false)
    (hlistener : client.listeners[index]? = some listener) (hphase : listener.phase = .serving)
    (hentry : listener.entry = .tcp port remap quality) :
    ∃ next, client.step occupied (.accept index) = some next ∧
      next.listeners[index]? =
        some { listener with phase := .creating client.channelCounter } := by
  have hstep : client.step occupied (.accept index) =
      some { client.setListener index { listener with
          phase := .creating client.channelCounter } with
        channelCounter := client.channelCounter + 1 } := by
    simp [TunnelClient.step, task, tcpTask, hreturned, hlistener, hentry, hphase]
  exact ⟨_, hstep, getElem?_set_self_of_some hlistener⟩

/-- A TCP entry whose last stream waits for its data channel: in every run in which that
data channel neither opens nor fails, its task stays where it is and takes no stream,
whatever the other tasks and connections do. It goes on to the next stream as soon as the
data channel has opened. -/
theorem accepts_one_at_a_time (client : TunnelClient)
    (hreach : (tunnelClientSystem occupied config).Reachable client) (index id : Nat)
    (hwaits : client.Waits index id) :
    (∀ later, (tunnelClientSystem occupied config).ReachableFrom
        (fun _ event => ¬ Resolves index id event) client later →
      later.listeners[index]? = client.listeners[index]? ∧
        later.streamsOf index = client.streamsOf index ∧
        later.step occupied (.accept index) = none) ∧
    (client.returned = false → ∃ next listener, (tunnelClientSystem occupied config).run client
        [.connection id .opens, .establish index, .accept index] = some next ∧
      next.listeners[index]? = some listener ∧
      listener.phase = .creating client.channelCounter) := by
  constructor
  · intro later hlater
    have hkept : later.Waits index id ∧ later.listeners[index]? = client.listeners[index]? ∧
        later.streamsOf index = client.streamsOf index := by
      apply hlater.invariant fun later => later.Waits index id ∧
        later.listeners[index]? = client.listeners[index]? ∧
        later.streamsOf index = client.streamsOf index
      · exact ⟨hwaits, rfl, rfl⟩
      · rintro state event next ⟨hwaits, hsame, hstreams⟩ hevent hstep
        obtain ⟨hnext, hkept, hstays⟩ := hwaits.step hevent hstep
        exact ⟨hnext, hkept.trans hsame, hstays.trans hstreams⟩
    exact ⟨hkept.2.1, hkept.2.2, hkept.1.accept_eq_none⟩
  · intro hreturned
    have hregistered := registered_of_reachable hreach
    obtain ⟨⟨listener, hlistener, hphase⟩, connection, hconnection, hunopened⟩ := hwaits
    obtain ⟨found, hfound, _, hawaiting⟩ := hregistered.opening index listener id hlistener hphase
    obtain rfl := Option.some.inj (hconnection.symm.trans hfound)
    obtain ⟨port, remap, quality, hentry⟩ := hregistered.entry_of_opening hlistener hphase
    have hopen := @getElem?_set_self_of_some _ client.connections id connection
      { connection with tcp := { connection.tcp with opened := true } } hconnection
    have hfirst : client.step occupied (.connection id .opens) = some (client.setConnection id
        { connection with tcp := { connection.tcp with opened := true } }) := by
      simp [TunnelClient.step, ClientTcp.step, hreturned, hconnection, hunopened]
    obtain ⟨serving, hsecond, hrunning, hcounter, hserving, _⟩ := @exists_establish occupied
      (client.setConnection id { connection with tcp := { connection.tcp with opened := true } })
      index id listener _ port remap quality hreturned hlistener hphase hentry hopen rfl hawaiting
    obtain ⟨next, hthird, hnext⟩ := @exists_accept occupied serving index _ port remap quality
      hrunning hserving rfl hentry
    refine ⟨next, _, ?_, hnext, congrArg ListenerPhase.creating hcounter⟩
    simp [tunnelClientSystem, TransitionSystem.run, hfirst, hsecond, hthird]

/-- Two TCP entries. -/
def twoEntries : List Channel :=
  [.tcp ⟨143, by decide⟩ none (some .tcp), .tcp ⟨993, by decide⟩ none (some .tcp)]

/-- The first entry waits for its data channel while the second one takes two streams. -/
theorem accepts_one_at_a_time_two :
    ∃ client later, (tunnelClientSystem (fun _ _ => false) twoEntries).run (start twoEntries)
        [.start 0, .start 1, .accept 0, .created 0] = some client ∧
      (tunnelClientSystem (fun _ _ => false) twoEntries).run client
        [.accept 1, .created 1, .connection 1 .opens, .establish 1, .accept 1, .created 1] =
          some later ∧
      later.streamsOf 1 = [1, 2] ∧ later.streamsOf 0 = client.streamsOf 0 ∧
      later.step (fun _ _ => false) (.accept 0) = none := by
  obtain ⟨client, hrun, htest⟩ :=
    (tunnelClientSystem (fun _ _ => false) twoEntries).exists_run_of_any (start twoEntries)
      [.start 0, .start 1, .accept 0, .created 0]
      (fun client => decide (client.listeners[0]?.map Listener.phase = some (.opening 0)) &&
        decide (client.connections[0]?.map (fun connection : Connection => connection.tcp.opened) =
          some false) &&
        (((tunnelClientSystem (fun _ _ => false) twoEntries).run client
          [.accept 1, .created 1, .connection 1 .opens, .establish 1, .accept 1, .created 1]).any
            fun later : TunnelClient => decide (later.streamsOf 1 = [1, 2])))
      (by decide +kernel)
  obtain ⟨hplace, hothers⟩ := Bool.and_eq_true_iff.mp htest
  obtain ⟨hphase, hopened⟩ := Bool.and_eq_true_iff.mp hplace
  obtain ⟨listener, hlistener, hopening⟩ := Option.map_eq_some_iff.mp (of_decide_eq_true hphase)
  obtain ⟨connection, hconnection, hclosed⟩ :=
    Option.map_eq_some_iff.mp (of_decide_eq_true hopened)
  obtain ⟨later, hlater, hstreams⟩ := (Option.any_eq_true _ _).mp hothers
  have hwaits := (accepts_one_at_a_time client (.of_run rfl hrun) 0 0
    ⟨⟨listener, hlistener, hopening⟩, connection, hconnection, hclosed⟩).1 later
    (.of_run (by simp [TransitionSystem.Guarded, Resolves]) hlater)
  exact ⟨client, later, hrun, hlater, of_decide_eq_true hstreams, hwaits.2⟩

end TunnelClient

end MangleWebRTC.Tunnel
