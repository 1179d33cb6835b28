import MangleWebRTC.Tunnel.TunnelClientInvariant

/-! # Starting the tunnel client

The tasks bind their listeners in any order and hold them while they run. Whether all of
them can is decided by the configuration and by the addresses that other processes hold.
-/

namespace MangleWebRTC.Tunnel

open Machine

/-- Every entry has a quality and an address of its own that is free. -/
structure Startable (occupied : SocketKind → Port → Bool) (config : List Channel) : Prop where
  listens : ∀ entry ∈ config, ∃ kind port, entry.listensAt = some (kind, port) ∧
    occupied kind port = false
  quality : ∀ entry ∈ config, entry.quality ≠ none
  apart : (config.map Channel.listensAt).Nodup

namespace TunnelClient

variable {occupied : SocketKind → Port → Bool} {config : List Channel} {client : TunnelClient}

/-- `client_command` is over, or its `select!` can end it without Ctrl-C. -/
def Ending (occupied : SocketKind → Port → Bool) (client : TunnelClient) : Prop :=
  client.returned = true ∨ ∃ index next, client.step occupied (.joinNext index) = some next ∧
    next.returned = true

theorem startPhase_eq_serving {entry : Channel}
    (hserving : client.startPhase occupied entry = .serving) :
    ∃ kind port, entry.listensAt = some (kind, port) ∧ entry.quality ≠ none ∧
      client.addrInUse occupied kind port = false := by
  unfold startPhase at hserving
  split at hserving
  · cases hserving
  next kind port hlistens =>
    split at hserving
    · cases hserving
    next hquality =>
      split at hserving
      · cases hserving
      next hfree => exact ⟨kind, port, hlistens, hquality, Bool.eq_false_iff.mpr hfree⟩

theorem addrInUse_eq_false_iff {kind : SocketKind} {port : Port} :
    client.addrInUse occupied kind port = false ↔ occupied kind port = false ∧
      ∀ listener ∈ client.listeners, Listener.holds listener = true →
        listener.entry.listensAt ≠ some (kind, port) := by
  rw [addrInUse, Bool.or_eq_false_iff, and_comm, List.any_eq_false]
  simp

/-- The tasks that hold a listener have addresses of their own. -/
structure Bound (occupied : SocketKind → Port → Bool) (client : TunnelClient) : Prop where
  own : ∀ (index : Nat) (listener : Listener), client.listeners[index]? = some listener →
    Listener.holds listener = true → ∃ kind port, listener.entry.listensAt = some (kind, port) ∧
      listener.entry.quality ≠ none ∧ occupied kind port = false
  apart : ∀ (index other : Nat) (listener another : Listener),
    client.listeners[index]? = some listener → client.listeners[other]? = some another →
    Listener.holds listener = true → Listener.holds another = true →
    listener.entry.listensAt = another.entry.listensAt → index = other

/-- A task that holds a listener keeps it, or gives it back. -/
theorem Bound.setListener (hbound : client.Bound occupied) {index : Nat} {listener : Listener}
    (hlistener : client.listeners[index]? = some listener) (phase : ListenerPhase)
    (hheld : Listener.holds { listener with phase := phase } = true →
      Listener.holds listener = true) :
    (client.setListener index { listener with phase := phase }).Bound occupied := by
  -- Whoever holds a listener afterwards held it before, for the same entry.
  have hbefore : ∀ {other : Nat} {found : Listener},
      (client.listeners.set index { listener with phase := phase })[other]? = some found →
      Listener.holds found = true → ∃ held, client.listeners[other]? = some held ∧
        Listener.holds held = true ∧ held.entry = found.entry := by
    intro other found hfound hholds
    rcases eq_or_getElem?_of_set hlistener hfound with ⟨rfl, rfl⟩ | ⟨_, hold⟩
    · exact ⟨listener, hlistener, hheld hholds, rfl⟩
    · exact ⟨found, hold, hholds, rfl⟩
  constructor
  · intro other found hfound hholds
    obtain ⟨held, hheld, hholds, hentry⟩ := hbefore hfound hholds
    exact hentry ▸ hbound.own other held hheld hholds
  · intro first second found another hfound hanother hholds hholds' heq
    obtain ⟨held, hheld, hholds, hentry⟩ := hbefore hfound hholds
    obtain ⟨held', hheld', hholds', hentry'⟩ := hbefore hanother hholds'
    exact hbound.apart first second held held' hheld hheld' hholds hholds'
      (hentry ▸ hentry' ▸ heq)

/-- A task binds its listener. -/
theorem Bound.start (hbound : client.Bound occupied) {index : Nat} {listener : Listener}
    (hlistener : client.listeners[index]? = some listener)
    (hserving : client.startPhase occupied listener.entry = .serving) :
    (client.setListener index { listener with phase := .serving }).Bound occupied := by
  obtain ⟨kind, port, hlistens, hquality, hfree⟩ := startPhase_eq_serving hserving
  obtain ⟨hoccupied, hunused⟩ := addrInUse_eq_false_iff.mp hfree
  constructor
  · intro other found hfound hholds
    rcases eq_or_getElem?_of_set hlistener hfound with ⟨rfl, rfl⟩ | ⟨_, hbefore⟩
    · exact ⟨kind, port, hlistens, hquality, hoccupied⟩
    · exact hbound.own other found hbefore hholds
  · intro first second found another hfound hanother hholds hholds' heq
    rcases eq_or_getElem?_of_set hlistener hfound with ⟨rfl, rfl⟩ | ⟨_, hbefore⟩ <;>
      rcases eq_or_getElem?_of_set hlistener hanother with ⟨rfl, rfl⟩ | ⟨_, hbefore'⟩
    · rfl
    · exact absurd (heq.symm.trans hlistens)
        (hunused another (List.mem_of_getElem? hbefore') hholds')
    · exact absurd (heq.trans hlistens) (hunused found (List.mem_of_getElem? hbefore) hholds)
    · exact hbound.apart first second found another hbefore hbefore' hholds hholds' heq

theorem Bound.step {next : TunnelClient} {event : TunnelClientEvent}
    (hbound : client.Bound occupied) (hstep : client.step occupied event = some next) :
    next.Bound occupied := by
  cases Step.of_step hstep with
  | start index listener hlistener hphase =>
      rcases startPhase_cases occupied client listener.entry with hserving | ⟨result, hended⟩
      · exact hserving ▸ hbound.start hlistener hserving
      · rw [hended]
        exact hbound.setListener hlistener _ (by simp [Listener.holds])
  | accept index listener hlistener hphase =>
      have hheld := hbound.setListener hlistener (.creating client.channelCounter) fun _ => by
        rw [Listener.holds, hphase]
      exact ⟨hheld.own, hheld.apart⟩
  | created index listener channelIdx init hlistener hphase =>
      have hheld := hbound.setListener hlistener (.opening client.connections.length) fun _ => by
        rw [Listener.holds, hphase]
      exact ⟨hheld.own, hheld.apart⟩
  | establish index listener id connection tcp hlistener hphase =>
      have hheld := hbound.setListener hlistener (.serving) fun _ => by
        rw [Listener.holds, hphase]
      exact ⟨hheld.own, hheld.apart⟩
  | openFails index listener id hlistener hphase =>
      exact hbound.setListener hlistener .serving fun _ => by rw [Listener.holds, hphase]
  | ends event index listener result _ hlistener =>
      exact hbound.setListener hlistener (.ended result) (by simp [Listener.holds])
  | connection | udpCounts | returns => exact ⟨hbound.own, hbound.apart⟩

theorem bound_of_reachable (hreach : (tunnelClientSystem occupied config).Reachable client) :
    client.Bound occupied := by
  apply hreach.invariant (Bound occupied)
  · rintro _ rfl
    have hfree : ∀ (index : Nat) (listener : Listener),
        (TunnelClient.start config).listeners[index]? = some listener →
        Listener.holds listener ≠ true := by
      intro index listener hlistener
      obtain ⟨entry, _, rfl⟩ := List.mem_map.mp (List.mem_of_getElem? hlistener)
      exact Bool.noConfusion
    exact ⟨fun index listener hlistener hholds => absurd hholds (hfree index listener hlistener),
      fun index _ listener _ hlistener _ hholds => absurd hholds (hfree index listener hlistener)⟩
  · intro state event next hbound _ hstep
    exact hbound.step hstep

/-- No task fails before its loop. -/
def Started (client : TunnelClient) : Prop :=
  ∀ listener ∈ client.listeners,
    listener.phase ≠ .ended .panicked ∧ listener.phase ≠ .ended .bind

theorem Started.setListener (hstarted : client.Started) (index : Nat) (listener : Listener)
    (hphase : listener.phase ≠ .ended .panicked ∧ listener.phase ≠ .ended .bind) :
    (client.setListener index listener).Started := by
  intro found hfound
  rcases List.mem_or_eq_of_mem_set hfound with hbefore | rfl
  · exact hstarted found hbefore
  · exact hphase

/-- The address of a task that has not started is free. -/
theorem startPhase_of_startable (hstartable : Startable occupied config)
    (hregistered : client.Registered config) {index : Nat} {listener : Listener}
    (hlistener : client.listeners[index]? = some listener) (hphase : listener.phase = .starting) :
    client.startPhase occupied listener.entry = .serving := by
  have hentry : listener.entry ∈ config := by
    rw [← hregistered.entries]
    exact List.mem_map_of_mem (List.mem_of_getElem? hlistener)
  obtain ⟨kind, port, hlistens, hfree⟩ := hstartable.listens listener.entry hentry
  have hunused : client.addrInUse occupied kind port = false := by
    refine addrInUse_eq_false_iff.mpr ⟨hfree, fun another hmem hholds heq => ?_⟩
    obtain ⟨other, hother⟩ := List.mem_iff_getElem?.mp hmem
    have hapart := hstartable.apart
    rw [← hregistered.entries, List.map_map] at hapart
    obtain ⟨hlength, _⟩ := List.getElem?_eq_some_iff.mp hlistener
    have hsame : index = other := by
      refine (List.getElem?_inj (by simpa using hlength) hapart).mp ?_
      simp [hlistener, hother, hlistens, heq]
    rw [← hsame, hlistener] at hother
    rw [← Option.some.inj hother, Listener.holds, hphase] at hholds
    exact Bool.noConfusion hholds
  simp [startPhase, hlistens, hstartable.quality listener.entry hentry, hunused]

theorem Started.step {next : TunnelClient} {event : TunnelClientEvent}
    (hstartable : Startable occupied config) (hregistered : client.Registered config)
    (hstarted : client.Started) (hstep : client.step occupied event = some next) :
    next.Started := by
  cases Step.of_step hstep with
  | start index listener hlistener hphase =>
      rw [startPhase_of_startable hstartable hregistered hlistener hphase]
      exact hstarted.setListener index _ (by simp)
  | accept index listener =>
      exact hstarted.setListener index { listener with phase := .creating _ } (by simp)
  | created index listener =>
      exact hstarted.setListener index { listener with phase := .opening _ } (by simp)
  | establish index listener | openFails index listener =>
      exact hstarted.setListener index { listener with phase := .serving } (by simp)
  | ends event index listener result _ _ _ hresult =>
      exact hstarted.setListener index { listener with phase := .ended result } (by simpa)
  | connection | udpCounts | returns => exact hstarted

/-- A task that can be joined ends `client_command`. -/
theorem ending_of_ended {listener : Listener} (hmem : listener ∈ client.listeners)
    {result : ListenerEnd} (hphase : listener.phase = .ended result) : client.Ending occupied := by
  obtain ⟨index, hlistener⟩ := List.mem_iff_getElem?.mp hmem
  cases hreturned : client.returned with
  | true => exact .inl hreturned
  | false =>
      refine .inr ⟨index, { client with returned := true }, ?_, rfl⟩
      simp [step, hreturned, hlistener, hphase]

theorem started_of_startable (hstartable : Startable occupied config)
    (hreach : (tunnelClientSystem occupied config).Reachable client) : client.Started := by
  refine (hreach.invariant (fun client => client.Registered config ∧ client.Started) ?_ ?_).2
  · rintro _ rfl
    refine ⟨registered_start config, fun listener hmem => ?_⟩
    obtain ⟨entry, _, rfl⟩ := List.mem_map.mp hmem
    simp
  · rintro state event next ⟨hregistered, hstarted⟩ _ hstep
    exact ⟨hregistered.step hstep, hstarted.step hstartable hregistered hstep⟩

/-- If all tasks hold their listeners, the configuration has room for them. -/
theorem startable_of_holds (hreach : (tunnelClientSystem occupied config).Reachable client)
    (hholds : ∀ listener ∈ client.listeners, Listener.holds listener = true) :
    Startable occupied config := by
  have hregistered := registered_of_reachable hreach
  have hbound := bound_of_reachable hreach
  have hentries : ∀ entry ∈ config, ∃ kind port, entry.listensAt = some (kind, port) ∧
      entry.quality ≠ none ∧ occupied kind port = false := by
    intro entry hentry
    rw [← hregistered.entries] at hentry
    obtain ⟨listener, hmem, rfl⟩ := List.mem_map.mp hentry
    obtain ⟨index, hlistener⟩ := List.mem_iff_getElem?.mp hmem
    exact hbound.own index listener hlistener (hholds listener hmem)
  refine ⟨?_, ?_, ?_⟩
  · intro entry hentry
    obtain ⟨kind, port, hlistens, _, hfree⟩ := hentries entry hentry
    exact ⟨kind, port, hlistens, hfree⟩
  · intro entry hentry
    obtain ⟨_, _, _, hquality, _⟩ := hentries entry hentry
    exact hquality
  · rw [← hregistered.entries, List.map_map]
    refine List.nodup_iff_getElem?_ne_getElem?.mpr fun index other hlt hlength heq => ?_
    rw [List.length_map] at hlength
    have hfirst := List.getElem?_eq_getElem (hlt.trans hlength)
    have hsecond := List.getElem?_eq_getElem hlength
    rw [List.getElem?_map, List.getElem?_map, hfirst, hsecond] at heq
    exact hlt.ne (hbound.apart index other _ _ hfirst hsecond
      (hholds _ (List.getElem_mem _)) (hholds _ (List.getElem_mem _)) (Option.some.inj heq))

/-- `join_next` always has a task. -/
theorem joinNone_eq_none (hchannels : config ≠ [])
    (hreach : (tunnelClientSystem occupied config).Reachable client) :
    client.step occupied .joinNone = none := by
  have hlisteners : client.listeners ≠ [] := by
    intro hnil
    have hentries := (registered_of_reachable hreach).entries
    rw [hnil] at hentries
    exact hchannels hentries.symm
  simp [step, hlisteners]

/-- In every run of a configuration with channels, for every order in which the tasks
start: `join_next` always has a task, so that its `unwrap` does not panic. All tasks reach
their loops if every entry has a quality and an address of its own that is free. Otherwise
`client_command` ends without Ctrl-C once the tasks have had their first polls. -/
theorem startup_decided (occupied : SocketKind → Port → Bool) {config : List Channel}
    (hchannels : config ≠ []) (client : TunnelClient)
    (hreach : (tunnelClientSystem occupied config).Reachable client) :
    client.step occupied .joinNone = none ∧
    (Startable occupied config → client.Started) ∧
    (¬ Startable occupied config →
      (∀ listener ∈ client.listeners, listener.phase ≠ .starting) → client.Ending occupied) := by
  refine ⟨joinNone_eq_none hchannels hreach,
    fun hstartable => started_of_startable hstartable hreach, fun hunfit hpolled => ?_⟩
  by_contra hending
  refine hunfit (startable_of_holds hreach fun listener hmem => ?_)
  cases hphase : listener.phase with
  | starting => exact absurd hphase (hpolled listener hmem)
  | ended result => exact absurd (ending_of_ended hmem hphase) hending
  | serving | creating _ | opening _ => rw [Listener.holds, hphase]

/-- Two entries that listen at one port. -/
def colliding : List Channel :=
  [.tcp ⟨25, by decide⟩ none (some .tcp), .tcp ⟨587, by decide⟩ (some ⟨25, by decide⟩) (some .tcp)]

/-- A single entry starts; of two entries at one port the later one fails. -/
theorem startup_decided_colliding :
    (∃ client, (tunnelClientSystem (fun _ _ => false) [.udp ⟨53, by decide⟩ none (some .udp)]).run
        (start [.udp ⟨53, by decide⟩ none (some .udp)]) [.start 0] = some client ∧
      client.Started) ∧
    ∃ client, (tunnelClientSystem (fun _ _ => false) colliding).run (start colliding)
        [.start 1, .accept 1, .start 0] = some client ∧
      client.listeners.map Listener.phase = [.ended .bind, .creating 0] ∧
      client.Ending fun _ _ => false := by
  constructor
  · obtain ⟨client, hrun, -⟩ :=
      (tunnelClientSystem (fun _ _ => false)
        [.udp ⟨53, by decide⟩ none (some .udp)]).exists_run_of_any
          (start [.udp ⟨53, by decide⟩ none (some .udp)]) [.start 0] (fun _ => true)
          (by decide +kernel)
    have hdecided := startup_decided (fun _ _ => false) (by simp) client (.of_run rfl hrun)
    refine ⟨client, hrun, hdecided.2.1 ⟨?_, ?_, by simp⟩⟩ <;> intro entry hentry <;>
      obtain rfl := List.mem_singleton.mp hentry
    · exact ⟨.udp, _, rfl, rfl⟩
    · exact Option.some_ne_none _
  · obtain ⟨client, hrun, htest⟩ :=
      (tunnelClientSystem (fun _ _ => false) colliding).exists_run_of_any (start colliding)
        [.start 1, .accept 1, .start 0] (fun client =>
          decide (client.listeners.map Listener.phase = [.ended .bind, .creating 0]))
        (by decide +kernel)
    have hphases := of_decide_eq_true htest
    have hdecided := startup_decided (fun _ _ => false) (by simp [colliding]) client
      (.of_run rfl hrun)
    refine ⟨client, hrun, hphases, hdecided.2.2 ?_ fun listener hmem hphase => ?_⟩
    · intro hstartable
      have hapart := hstartable.apart
      revert hapart
      decide
    · have hmem := List.mem_map_of_mem (f := Listener.phase) hmem
      rw [hphases, hphase] at hmem
      simp at hmem

end TunnelClient

end MangleWebRTC.Tunnel
