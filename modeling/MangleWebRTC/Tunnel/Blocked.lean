import MangleWebRTC.Tunnel.ServerService

/-! # What keeps the server's task from a channel

The task connects and relays one channel at a time, and an error ends it. A channel
that waits behind another one that is idle, or has no socket yet, is not relayed until an
end of the other one acts; and a channel whose `select!` is over is not relayed again.
-/

namespace MangleWebRTC.Tunnel

open Machine

/-- The channel at which the task is. -/
def TaskPhase.current : TaskPhase → Option Nat
  | .connecting id _ _ | .relaying id _ _ => some id
  | .idle | .panicked => none

/-- What an end of a channel hands over: a message of the remote, or what one read of the
local socket can get. -/
inductive Item where
  | message (msg : List UInt8)
  | chunk (bytes : List UInt8)
  deriving DecidableEq, Repr

/-- A channel with a socket of the kind can carry the item; no remote sends an empty one. -/
def Item.Fits (kind : SocketKind) : Item → Prop
  | message msg => msg ≠ []
  | chunk bytes => kind.Readable bytes

/-- The ends of the channel hand over nothing but the pending item. -/
def ServerEvent.Hands (pending : Option Item) : ServerEvent → Prop
  | message _ msg => pending = some (.message msg)
  | localData _ bytes => pending = some (.chunk bytes)
  | _ => True

/-- The task has data of the channel at this point of its `select!`. An end of file is
none. -/
def RelayPoint.Holds (kind : SocketKind) (channel : ServerChannel) : RelayPoint → Prop
  | select => channel.inbox.bytes.contents ≠ [] ∨ channel.incoming ≠ []
  | sending bytes => kind = .tcp → bytes ≠ []
  | writing _ => True

/-- A channel between the steps: nothing waits for it before it has a socket, the socket
offers what one read can get, and while it is relayed its handler's receiver is alive. -/
structure ServerChannel.Stocked (channel : ServerChannel)
    (point : Option (SocketKind × RelayPoint)) : Prop where
  handler : channel.inbox.handler = channel.socket.isSome
  fresh : channel.socket = none →
    channel.inbox.bytes.contents = [] ∧ channel.incoming = []
  readable : ∀ kind port, channel.socket = some (kind, port) →
    ∀ chunk ∈ channel.incoming, kind.Readable chunk
  listening : point ≠ none → channel.inbox.receiver = true

theorem stocked_new (protocol : String) : (ServerChannel.new protocol).Stocked none :=
  ⟨rfl, fun _ => ⟨rfl, rfl⟩, fun _ _ hsocket => (nomatch hsocket),
    fun hpoint => absurd rfl hpoint⟩

theorem receiver_arrive (inbox : Inbox) (msg : List UInt8) :
    (inbox.arrive msg).receiver = inbox.receiver := by
  unfold Inbox.arrive
  split <;> rfl

/-- Without a handler an arrival changes nothing that waits. -/
theorem bytes_arrive {inbox : Inbox} (hhandler : inbox.handler = false) (msg : List UInt8) :
    (inbox.arrive msg).bytes = inbox.bytes := by
  simp [Inbox.arrive, hhandler]

theorem ServerChannel.Stocked.step {channel after : ServerChannel}
    {point later : Option (SocketKind × RelayPoint)} (hstocked : channel.Stocked point)
    (hservice : ServiceStep channel point after later) : after.Stocked later := by
  obtain ⟨hhandler, hfresh, hreadable, hlistening⟩ := hstocked
  cases hservice with
  | rests | opens | closes => exact ⟨hhandler, hfresh, hreadable, hlistening⟩
  | arrives _ msg =>
      refine ⟨(ServerTask.handler_arrive _ msg).trans hhandler, fun hnone => ?_, hreadable,
        fun hpoint => (receiver_arrive _ msg).trans (hlistening hpoint)⟩
      have hdeaf : channel.inbox.handler = false := by rw [hhandler, hnone, Option.isSome_none]
      rw [bytes_arrive hdeaf]
      exact hfresh hnone
  | enqueues _ inbox hinbox =>
      obtain ⟨_, bytes, hbytes, _, rfl⟩ := Inbox.enqueue_eq_some hinbox
      refine ⟨hhandler, fun hnone => ?_, hreadable, hlistening⟩
      exact ⟨(Mailbox.contents_enqueue hbytes).trans (hfresh hnone).1, (hfresh hnone).2⟩
  | localData _ chunk kind port hsocket hchunk =>
      refine ⟨hhandler, fun hnone => ?_, fun other port' hother found hmem => ?_, hlistening⟩
      · cases hsocket.symm.trans hnone
      · obtain ⟨rfl, rfl⟩ := Prod.mk.inj (Option.some.inj (hsocket.symm.trans hother))
        rcases List.mem_append.mp hmem with hmem | hmem
        · exact hreadable kind port hsocket found hmem
        · exact List.mem_singleton.mp hmem ▸ hchunk
  | connected kind port hnone =>
      refine ⟨rfl, fun hsome => (nomatch hsome), fun other port' _ chunk hmem => ?_, fun _ => rfl⟩
      rw [(hfresh hnone).2] at hmem
      cases hmem
  | reads kind chunk rest hincoming =>
      refine ⟨hhandler, fun hnone => ?_, fun other port hother found hmem => ?_,
        fun _ => hlistening (by simp)⟩
      · cases hincoming.symm.trans (hfresh hnone).2
      · exact hreadable other port hother found (hincoming ▸ List.mem_cons_of_mem chunk hmem)
  | eof => exact ⟨hhandler, hfresh, hreadable, fun _ => hlistening (by simp)⟩
  | takes kind msg inbox htake =>
      obtain ⟨bytes, hbytes, rfl⟩ := Inbox.take_eq_some htake
      refine ⟨hhandler, fun hnone => ?_, hreadable, fun _ => hlistening (by simp)⟩
      cases (Mailbox.contents_take hbytes).symm.trans (hfresh hnone).1
  | sent | wrote | fails =>
      exact ⟨hhandler, fun hnone => ⟨rfl, (hfresh hnone).2⟩, hreadable,
        fun hpoint => absurd rfl hpoint⟩

namespace ServerTask

/-- The channel of which an end takes part in an event: the remote opens it or sends on it,
or the local service accepts a connection, sends, closes, fails, or takes the bytes written
to a stream. A UDP socket is bound and connected, and a datagram sent, by the task alone. -/
def endOf (task : ServerTask) : ServerEvent → Option Nat
  | .opens id | .message id _ | .localData id _ => some id
  | .connected =>
      match task.phase with
      | .connecting id .tcp _ => some id
      | _ => none
  | .wrote =>
      match task.phase with
      | .relaying id .tcp _ => some id
      | _ => none
  | .localEof | .fails => task.phase.current
  | _ => none

/-- No end of another channel takes part in the event, and those of this one hand over
nothing but the pending item. -/
def Spares (id : Nat) (pending : Option Item) (task : ServerTask) (event : ServerEvent) : Prop :=
  (∀ other ∈ task.endOf event, other = id) ∧ event.Hands pending

/-- The event completes the relay of data of the channel, in either direction. -/
def Completes (id : Nat) (task : ServerTask) (event : ServerEvent) : Prop :=
  (∃ kind bytes, task.phase = .relaying id kind (.sending bytes) ∧ (kind = .tcp → bytes ≠ []) ∧
    event = .sent) ∨
    ∃ kind msg, task.phase = .relaying id kind (.writing msg) ∧ event = .wrote

/-- The `select!` of the channel is over, or an end of file took it. -/
def Spent (task : ServerTask) (id : Nat) : Prop :=
  task.phase = .relaying id .tcp (.sending []) ∨
    task.phase.current ≠ some id ∧
      ∃ channel, task.channels[id]? = some channel ∧ channel.socket.isSome = true

/-- Some continuation relays the pending data of the channel, without a step of the ends of
other channels. The own ends hand over the pending item only, so that what is relayed is this
item, or what the task has of the channel. -/
def CanRelay (config : List Channel) (task : ServerTask) (id : Nat) (pending : Option Item) :
    Prop :=
  ∃ before after event, (serverSystem config).ReachableFrom (Spares id pending) task before ∧
    Spares id pending before event ∧ before.step config event = some after ∧
    Completes id before event

/-- A channel with a socket stands in the queue before this one. -/
def Behind (config : List Channel) (task : ServerTask) (id : Nat) : Prop :=
  ∃ ahead rest other channel, task.queue.contents = ahead ++ id :: rest ∧ other ∈ ahead ∧
    task.channels[other]? = some channel ∧ (servedBy config channel.protocol).isSome = true

/-- What keeps the task from a channel until an end of another one acts: the task has
panicked, it connects the socket of another channel, it waits for an idle one, it writes to
another stream, or a channel with a socket comes before. A stream is idle while its service
sends nothing, whatever messages there are: their write would wait for the service. A UDP
socket connects without its service, and its channel is idle then. -/
inductive Blocked (config : List Channel) (task : ServerTask) (id : Nat) : Prop
  | panicked (hphase : task.phase = .panicked)
  | connecting (other : Nat) (kind : SocketKind) (port : Port) (hother : other ≠ id)
      (hphase : task.phase = .connecting other kind port)
  | idle (other : Nat) (kind : SocketKind) (channel : ServerChannel) (hother : other ≠ id)
      (hphase : task.phase = .relaying other kind .select)
      (hchannel : task.channels[other]? = some channel) (hincoming : channel.incoming = [])
      (hmessages : kind = .udp → channel.inbox.bytes.contents = [])
  | writing (other : Nat) (msg : List UInt8) (hother : other ≠ id)
      (hphase : task.phase = .relaying other .tcp (.writing msg))
  | behind (hbehind : Behind config task id)

variable {config : List Channel} {task : ServerTask} {pending : Option Item}

/-! ## What a step keeps -/

theorem stocked_of_reachable (hreach : (serverSystem config).Reachable task) {id : Nat}
    {channel : ServerChannel} (hchannel : task.channels[id]? = some channel) :
    channel.Stocked (task.phase.pointAt id) :=
  channels_invariant (fun protocol => stocked_new protocol)
    (fun _ _ _ _ hstocked hservice => hstocked.step hservice) hreach id channel hchannel

/-- No step changes the protocol of a channel or takes its socket, and only its ends bring
data. -/
theorem channel_of_step {next : ServerTask} {event : ServerEvent}
    (hstep : Step config task event next) (id : Nat) (channel : ServerChannel)
    (hchannel : task.channels[id]? = some channel) :
    ∃ kept, next.channels[id]? = some kept ∧ kept.protocol = channel.protocol ∧
      (channel.socket.isSome = true → kept.socket.isSome = true) ∧
      (task.endOf event ≠ some id → (channel.incoming = [] → kept.incoming = []) ∧
        (channel.inbox.bytes.contents = [] → kept.inbox.bytes.contents = [])) := by
  have hset : ∀ (other : Nat) (found changed : ServerChannel),
      task.channels[other]? = some found → changed.protocol = found.protocol →
      (found.socket.isSome = true → changed.socket.isSome = true) →
      (task.endOf event ≠ some other → (found.incoming = [] → changed.incoming = []) ∧
        (found.inbox.bytes.contents = [] → changed.inbox.bytes.contents = [])) →
      ∃ kept, (task.setChannel other changed).channels[id]? = some kept ∧
        kept.protocol = channel.protocol ∧
        (channel.socket.isSome = true → kept.socket.isSome = true) ∧
        (task.endOf event ≠ some id → (channel.incoming = [] → kept.incoming = []) ∧
          (channel.inbox.bytes.contents = [] → kept.inbox.bytes.contents = [])) := by
    intro other found changed hfound hprotocol hsocket hquiet
    rw [getElem?_setChannel hfound]
    by_cases hother : id = other
    · subst hother
      obtain rfl := Option.some.inj (hchannel.symm.trans hfound)
      exact ⟨changed, if_pos rfl, hprotocol, hsocket, hquiet⟩
    · exact ⟨channel, (if_neg hother).trans hchannel, rfl, fun hsome => hsome,
        fun _ => ⟨fun hnone => hnone, fun hnone => hnone⟩⟩
  cases hstep with
  | announce protocol =>
      obtain ⟨hlength, _⟩ := List.getElem?_eq_some_iff.mp hchannel
      exact ⟨channel, (List.getElem?_append_left hlength).trans hchannel, rfl,
        fun hsome => hsome, fun _ => ⟨fun hnone => hnone, fun hnone => hnone⟩⟩
  | enqueueChannel | pass | serve | localEof | failsConnecting =>
      exact ⟨channel, hchannel, rfl, fun hsome => hsome,
        fun _ => ⟨fun hnone => hnone, fun hnone => hnone⟩⟩
  | message other _ found hfound | localData other _ found _ _ hfound =>
      exact hset other found _ hfound rfl (fun hsome => hsome) fun hends => absurd rfl hends
  | readLocal other kind found chunk rest _ hfound hincoming =>
      refine hset other found _ hfound rfl (fun hsome => hsome) fun _ =>
        ⟨fun hnone => ?_, fun hnone => hnone⟩
      cases hincoming.symm.trans hnone
  | enqueueMessage other found inbox hfound hinbox =>
      obtain ⟨_, _, hbytes, _, rfl⟩ := Inbox.enqueue_eq_some hinbox
      exact hset other found _ hfound rfl (fun hsome => hsome) fun _ =>
        ⟨fun hnone => hnone, (Mailbox.contents_enqueue hbytes).trans⟩
  | takeMessage other kind found msg inbox _ hfound htake =>
      obtain ⟨_, hbytes, rfl⟩ := Inbox.take_eq_some htake
      refine hset other found _ hfound rfl (fun hsome => hsome) fun _ =>
        ⟨fun hnone => hnone, fun hnone => ?_⟩
      cases (Mailbox.contents_take hbytes).symm.trans hnone
  | connected other kind port found _ hfound =>
      exact hset other found _ hfound rfl (fun _ => Option.isSome_some) fun _ =>
        ⟨fun hnone => hnone, fun hnone => hnone⟩
  | opens other found hfound | close other _ found _ _ hfound =>
      exact hset other found _ hfound rfl (fun hsome => hsome) fun _ =>
        ⟨fun hnone => hnone, fun hnone => hnone⟩
  | sent other _ _ found _ hfound | wrote other _ _ found _ hfound
  | failsRelaying other _ _ found _ hfound =>
      exact hset other found _ hfound rfl (fun hsome => hsome) fun _ =>
        ⟨fun hnone => hnone, fun _ => rfl⟩

/-- Where the task goes when it takes no channel and no end of its channel acts: it stays, or
has a UDP socket, or reads what a socket offers, or takes a message, or ends a send. -/
theorem phase_of_step {next : ServerTask} {event : ServerEvent}
    (hstep : Step config task event next) (htake : event ≠ .takeChannel)
    (hends : ∀ other, task.phase.current = some other → task.endOf event ≠ some other) :
    next.phase = task.phase ∨
      (∃ other port, task.phase = .connecting other .udp port ∧
        next.phase = .relaying other .udp .select) ∨
      (∃ other kind channel, task.phase = .relaying other kind .select ∧
        task.channels[other]? = some channel ∧ (channel.incoming ≠ [] ∨
          channel.inbox.bytes.contents ≠ [] ∧
            ∃ msg, next.phase = .relaying other kind (.writing msg))) ∨
      (∃ other kind bytes, task.phase = .relaying other kind (.sending bytes)) ∨
      ∃ other msg, task.phase = .relaying other .udp (.writing msg) := by
  cases hstep with
  | announce | opens | message | localData | enqueueChannel | enqueueMessage => exact .inl rfl
  | close | pass | serve => exact absurd rfl htake
  | localEof id hphase | failsConnecting id _ _ hphase | failsRelaying id _ _ _ hphase =>
      refine absurd ?_ (hends id (by rw [hphase, TaskPhase.current]))
      rw [endOf, hphase, TaskPhase.current]
  | connected id kind port channel hphase =>
      cases kind with
      | udp => exact .inr (.inl ⟨id, port, hphase, rfl⟩)
      | tcp =>
          refine absurd ?_ (hends id (by rw [hphase, TaskPhase.current]))
          simp [endOf, hphase]
  | readLocal id kind channel chunk rest hphase hchannel hincoming =>
      exact .inr (.inr (.inl ⟨id, kind, channel, hphase, hchannel, .inl (by simp [hincoming])⟩))
  | takeMessage id kind channel msg inbox hphase hchannel htaken =>
      obtain ⟨_, hbytes, _⟩ := Inbox.take_eq_some htaken
      have hcontents : channel.inbox.bytes.contents ≠ [] := by
        simp [Mailbox.contents_take hbytes]
      exact .inr (.inr (.inl ⟨id, kind, channel, hphase, hchannel, .inr ⟨hcontents, msg, rfl⟩⟩))
  | sent id kind bytes channel hphase =>
      exact .inr (.inr (.inr (.inl ⟨id, kind, bytes, hphase⟩)))
  | wrote id kind msg channel hphase =>
      cases kind with
      | udp => exact .inr (.inr (.inr (.inr ⟨id, msg, hphase⟩)))
      | tcp =>
          refine absurd ?_ (hends id (by rw [hphase, TaskPhase.current]))
          simp [endOf, hphase]

theorem current_of_step {next : ServerTask} {event : ServerEvent}
    (hstep : Step config task event next) (htake : event ≠ .takeChannel) :
    next.phase.current = task.phase.current ∨ next.phase.current = none := by
  cases hstep with
  | announce | opens | message | localData | enqueueChannel | enqueueMessage => exact .inl rfl
  | close | pass | serve => exact absurd rfl htake
  | connected _ _ _ _ hphase | readLocal _ _ _ _ _ hphase | localEof _ hphase
  | takeMessage _ _ _ _ _ hphase =>
      rw [hphase]
      exact .inl rfl
  | sent | wrote | failsConnecting | failsRelaying => exact .inr rfl

/-- Only the task takes channels out of the queue; others come in behind. -/
theorem contents_of_step {next : ServerTask} {event : ServerEvent}
    (hstep : Step config task event next) (htake : event ≠ .takeChannel) :
    ∃ more, next.queue.contents = task.queue.contents ++ more := by
  cases hstep with
  | opens id => exact ⟨[id], Mailbox.contents_offer _ _⟩
  | enqueueChannel queue hqueue => exact ⟨[], by simp [Mailbox.contents_enqueue hqueue]⟩
  | close | pass | serve => exact absurd rfl htake
  | _ => exact ⟨[], (List.append_nil _).symm⟩

/-! ## What stays blocked -/

theorem Behind.step {next : ServerTask} {event : ServerEvent} {id : Nat}
    (hbehind : Behind config task id) (hstep : Step config task event next)
    (htake : event ≠ .takeChannel) : Behind config next id := by
  obtain ⟨ahead, rest, other, channel, hcontents, hmem, hchannel, hserved⟩ := hbehind
  obtain ⟨more, hmore⟩ := contents_of_step hstep htake
  obtain ⟨kept, hkept, hprotocol, _⟩ := channel_of_step hstep other channel hchannel
  refine ⟨ahead, rest ++ more, other, kept, ?_, hmem, hkept, by rwa [hprotocol]⟩
  rw [hmore, hcontents, List.append_assoc, List.cons_append]

/-- A channel that waits in the queue has no socket, so the task is not at it. -/
theorem Orderly.not_current (horderly : task.Orderly config) {id : Nat}
    (hqueued : id ∈ task.queue.contents) : task.phase.current ≠ some id := by
  intro hcurrent
  unfold TaskPhase.current at hcurrent
  split at hcurrent
  next other kind port hphase =>
    obtain rfl := Option.some.inj hcurrent
    exact (horderly.connecting other kind port hphase).1 hqueued
  next other kind point hphase =>
    obtain rfl := Option.some.inj hcurrent
    obtain ⟨channel, port, hchannel, hsocket⟩ := horderly.relaying other kind point hphase
    obtain ⟨found, hfound, _, hnone⟩ := horderly.queued other hqueued
    obtain rfl := Option.some.inj (hchannel.symm.trans hfound)
    cases hsocket.symm.trans hnone
  · cases hcurrent
  · cases hcurrent

/-- Taking a channel out of the queue does not help the ones behind a served channel. -/
theorem Behind.takeChannel {next : ServerTask} {id : Nat} (hbehind : Behind config task id)
    (horderly : task.Orderly config) (hstep : task.step config .takeChannel = some next) :
    Blocked config next id ∧ id ∈ next.queue.contents := by
  obtain ⟨ahead, rest, other, channel, hcontents, hmem, hchannel, hserved⟩ := hbehind
  obtain ⟨first, queue, found, hphase, htake, hfound, hnext⟩ := takeChannel_eq_some hstep
  have hfront := (Mailbox.contents_take htake).symm.trans hcontents
  cases ahead with
  | nil => cases hmem
  | cons head ahead =>
      obtain ⟨rfl, hqueue⟩ := List.cons.inj hfront
      have hqueued : id ∈ next.queue.contents := by
        have hcontents : next.queue.contents = queue.contents := by
          rcases hnext with ⟨_, rfl⟩ | ⟨_, _, rfl⟩ <;> rfl
        rw [hcontents, hqueue]
        exact List.mem_append_right _ List.mem_cons_self
      refine ⟨?_, hqueued⟩
      rcases List.mem_cons.mp hmem with rfl | hmem
      · -- The served channel is the one that is taken.
        obtain rfl := Option.some.inj (hchannel.symm.trans hfound)
        obtain ⟨⟨kind, port⟩, hsocket⟩ := Option.isSome_iff_exists.mp hserved
        obtain ⟨entry, hentry, htarget⟩ := Option.bind_eq_some_iff.mp hsocket
        rcases hnext with ⟨hnone, _⟩ | ⟨found, hfound', rfl⟩
        · cases hnone.symm.trans hentry
        · obtain rfl := Option.some.inj (hentry.symm.trans hfound')
          refine .connecting other kind port ?_ (by rw [htarget]; rfl)
          rintro rfl
          have hnodup := horderly.nodup
          rw [hcontents, List.cons_append] at hnodup
          exact (List.nodup_cons.mp hnodup).1 (List.mem_append_right _ List.mem_cons_self)
      · obtain ⟨kept, hkept, hprotocol, _⟩ :=
          channel_of_step (.of_step hstep) other channel hchannel
        refine .behind ⟨ahead, rest, other, kept, ?_, hmem, hkept, by rwa [hprotocol]⟩
        rcases hnext with ⟨_, rfl⟩ | ⟨_, _, rfl⟩ <;> exact hqueue

/-- A blocked channel of the queue stays blocked until an end of another channel acts. -/
theorem Blocked.step {next : ServerTask} {event : ServerEvent} {id : Nat}
    (hblocked : Blocked config task id) (hqueued : id ∈ task.queue.contents)
    (hreach : (serverSystem config).Reachable task) (hspares : Spares id pending task event)
    (hstep : task.step config event = some next) :
    Blocked config next id ∧ id ∈ next.queue.contents := by
  have horderly := orderly_of_reachable hreach
  have hcases := Step.of_step hstep
  by_cases htake : event = .takeChannel
  · subst htake
    obtain ⟨_, _, _, hphase, _⟩ := takeChannel_eq_some hstep
    cases hblocked with
    | behind hbehind => exact hbehind.takeChannel horderly hstep
    | panicked hother | connecting _ _ _ _ hother | idle _ _ _ _ hother | writing _ _ _ hother =>
        cases hphase.symm.trans hother
  · obtain ⟨more, hmore⟩ := contents_of_step hcases htake
    refine ⟨?_, hmore ▸ List.mem_append_left _ hqueued⟩
    have hcurrent := horderly.not_current hqueued
    have hends : ∀ other, task.phase.current = some other → task.endOf event ≠ some other := by
      intro other hother hends
      exact hcurrent (hother.trans (congrArg some (hspares.1 other hends)))
    have hphases := phase_of_step hcases htake hends
    cases hblocked with
    | behind hbehind => exact .behind (hbehind.step hcases htake)
    | panicked hphase => exact .panicked (by simpa [hphase] using hphases)
    | writing other msg hother hphase =>
        exact .writing other msg hother (by simpa [hphase] using hphases)
    | connecting other kind port hother hphase =>
        rcases hphases with hsame | ⟨udp, port', hudp, hnext⟩ | ⟨_, _, _, hselect, _⟩ |
          ⟨_, _, _, hsending⟩ | ⟨_, _, hwriting⟩
        · exact .connecting other kind port hother (hsame.trans hphase)
        · -- The UDP socket is there, and nothing has come for it.
          obtain ⟨rfl, rfl, rfl⟩ := TaskPhase.connecting.inj (hphase.symm.trans hudp)
          obtain ⟨_, channel, hchannel, _, hnone, _⟩ := horderly.connecting other .udp port hphase
          obtain ⟨hcontents, hincoming⟩ := (stocked_of_reachable hreach hchannel).fresh hnone
          obtain ⟨kept, hkept, _, _, hquiet⟩ := channel_of_step hcases other channel hchannel
          obtain ⟨hsilent, hempty⟩ := hquiet (hends other (by rw [hphase, TaskPhase.current]))
          exact .idle other .udp kept hother hnext hkept (hsilent hincoming)
            fun _ => hempty hcontents
        · cases hphase.symm.trans hselect
        · cases hphase.symm.trans hsending
        · cases hphase.symm.trans hwriting
    | idle other kind channel hother hphase hchannel hincoming hmessages =>
        obtain ⟨kept, hkept, _, _, hquiet⟩ := channel_of_step hcases other channel hchannel
        obtain ⟨hsilent, hempty⟩ := hquiet (hends other (by rw [hphase, TaskPhase.current]))
        rcases hphases with hsame | ⟨_, _, hudp, _⟩ |
          ⟨current, kind', found, hselect, hfound, hnext⟩ | ⟨_, _, _, hsending⟩ | ⟨_, _, hwriting⟩
        · exact .idle other kind kept hother (hsame.trans hphase) hkept (hsilent hincoming)
            fun hkind => hempty (hmessages hkind)
        · cases hphase.symm.trans hudp
        · obtain ⟨rfl, rfl, _⟩ := TaskPhase.relaying.inj (hphase.symm.trans hselect)
          obtain rfl := Option.some.inj (hchannel.symm.trans hfound)
          obtain ⟨hwaits, msg, hmsg⟩ := hnext.resolve_left (absurd hincoming)
          cases kind with
          | udp => exact absurd (hmessages rfl) hwaits
          | tcp => exact .writing other msg hother hmsg
        · cases hphase.symm.trans hsending
        · cases hphase.symm.trans hwriting

theorem Completes.current {id : Nat} {event : ServerEvent} (hcompletes : Completes id task event) :
    task.phase.current = some id := by
  rcases hcompletes with ⟨kind, bytes, hphase, _⟩ | ⟨kind, msg, hphase, _⟩ <;>
    rw [hphase, TaskPhase.current]

/-- A `select!` that an end of file took ends with it. -/
theorem spent_of_eof {next : ServerTask} {event : ServerEvent} {id : Nat}
    (horderly : task.Orderly config) (hphase : task.phase = .relaying id .tcp (.sending []))
    (hstep : Step config task event next) : next.Spent id := by
  obtain ⟨channel, port, hchannel, hsocket⟩ := horderly.relaying id .tcp _ hphase
  obtain ⟨kept, hkept, _, hkeeps, _⟩ := channel_of_step hstep id channel hchannel
  have hover : next.phase.current ≠ some id → next.Spent id := fun hcurrent =>
    .inr ⟨hcurrent, kept, hkept, hkeeps (by rw [hsocket, Option.isSome_some])⟩
  cases hstep with
  | announce | opens | message | localData | enqueueChannel | enqueueMessage => exact .inl hphase
  | close _ _ _ hother | pass _ _ hother | serve _ _ _ _ _ hother | connected _ _ _ _ hother
  | readLocal _ _ _ _ _ hother | localEof _ hother | takeMessage _ _ _ _ _ hother
  | wrote _ _ _ _ hother | failsConnecting _ _ _ hother => cases hphase.symm.trans hother
  | sent | failsRelaying => exact hover (by simp [TaskPhase.current])

/-- A channel with a socket is at the task or behind it. -/
theorem Spent.step {next : ServerTask} {event : ServerEvent} {id : Nat} (hspent : task.Spent id)
    (horderly : task.Orderly config) (hstep : task.step config event = some next) :
    next.Spent id := by
  have hcases := Step.of_step hstep
  obtain hphase | ⟨hcurrent, channel, hchannel, hsocket⟩ := hspent
  · exact spent_of_eof horderly hphase hcases
  obtain ⟨kept, hkept, _, hkeeps, _⟩ := channel_of_step hcases id channel hchannel
  refine .inr ⟨?_, kept, hkept, hkeeps hsocket⟩
  by_cases htake : event = .takeChannel
  · subst htake
    obtain ⟨first, queue, _, _, hqueue, hfirst, hnext⟩ := takeChannel_eq_some hstep
    rcases hnext with ⟨_, rfl⟩ | ⟨entry, _, rfl⟩
    · exact hcurrent
    · intro hturns
      obtain rfl : first = id := by
        cases htarget : entry.target <;> simp_all [dispatch, TaskPhase.current]
      obtain ⟨found, hfound, _, hnone⟩ := horderly.queued first
        ((Mailbox.contents_take hqueue) ▸ List.mem_cons_self)
      obtain rfl := Option.some.inj (hchannel.symm.trans hfound)
      rw [hnone] at hsocket
      cases hsocket
  · rcases current_of_step hcases htake with hsame | hnone
    · rwa [hsame]
    · simp [hnone]

end ServerTask

end MangleWebRTC.Tunnel
