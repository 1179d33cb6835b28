import MangleWebRTC.Tunnel.Exposure
import MangleWebRTC.Tunnel.ServerRelay

/-! # The service of one channel

What a step of the tunnel server does to one of its channels and to the `select!` at it.
In every run a channel is served at most once, so that at most one message leaves on it: an
end of file, or the beginning of what its socket was given first.
-/

namespace MangleWebRTC.Tunnel

open Machine

/-- A channel and the point of its `select!`, before and after a step of the server. -/
inductive ServiceStep (channel : ServerChannel) :
    Option (SocketKind × RelayPoint) → ServerChannel → Option (SocketKind × RelayPoint) → Prop
  | rests (point : Option (SocketKind × RelayPoint)) : ServiceStep channel point channel point
  | opens (point : Option (SocketKind × RelayPoint)) :
      ServiceStep channel point { channel with opened := true } point
  | closes (point : Option (SocketKind × RelayPoint)) :
      ServiceStep channel point { channel with closed := true } point
  | arrives (point : Option (SocketKind × RelayPoint)) (msg : List UInt8) :
      ServiceStep channel point { channel with inbox := channel.inbox.arrive msg } point
  | enqueues (point : Option (SocketKind × RelayPoint)) (inbox : Inbox)
      (hinbox : channel.inbox.enqueue = some inbox) :
      ServiceStep channel point { channel with inbox := inbox } point
  | localData (point : Option (SocketKind × RelayPoint)) (chunk : List UInt8) (kind : SocketKind)
      (port : Port) (hsocket : channel.socket = some (kind, port))
      (hreadable : kind.Readable chunk) : ServiceStep channel point { channel with
        incoming := channel.incoming ++ [chunk], delivered := channel.delivered ++ [chunk] } point
  | connected (kind : SocketKind) (port : Port) (hnone : channel.socket = none) :
      ServiceStep channel none { channel with
        inbox := channel.inbox.register, socket := some (kind, port) } (some (kind, .select))
  | reads (kind : SocketKind) (chunk : List UInt8) (rest : List (List UInt8))
      (hincoming : channel.incoming = chunk :: rest) :
      ServiceStep channel (some (kind, .select)) { channel with
        incoming := rest, read := channel.read ++ [chunk.take kind.bufSize] }
        (some (kind, .sending (chunk.take kind.bufSize)))
  | eof : ServiceStep channel (some (.tcp, .select)) channel (some (.tcp, .sending []))
  | sent (kind : SocketKind) (bytes : List UInt8) :
      ServiceStep channel (some (kind, .sending bytes)) { channel with
        inbox := channel.inbox.dropReceiver, sent := channel.sent ++ [bytes] } none
  | takes (kind : SocketKind) (msg : List UInt8) (inbox : Inbox)
      (htake : channel.inbox.take = some (msg, inbox)) :
      ServiceStep channel (some (kind, .select)) { channel with inbox := inbox }
        (some (kind, .writing msg))
  | wrote (kind : SocketKind) (msg : List UInt8) :
      ServiceStep channel (some (kind, .writing msg)) { channel with
        inbox := channel.inbox.dropReceiver, written := channel.written ++ kind.writes msg } none
  | fails (kind : SocketKind) (point : RelayPoint) :
      ServiceStep channel (some (kind, point)) { channel with
        inbox := channel.inbox.dropReceiver } none

namespace ServerTask

variable {config : List Channel} {task next : ServerTask}

/-- A step at one channel is a step of its service, and leaves the others alone. -/
theorem service_setChannel {id other : Nat} {channel changed found : ServerChannel}
    {phase : TaskPhase} (hchannel : task.channels[id]? = some channel)
    (hothers : ∀ other, other ≠ id → phase.pointAt other = task.phase.pointAt other)
    (hservice : ServiceStep channel (task.phase.pointAt id) changed (phase.pointAt id))
    (hfound : task.channels[other]? = some found) :
    ∃ after, (task.setChannel id changed).channels[other]? = some after ∧
      ServiceStep found (task.phase.pointAt other) after (phase.pointAt other) := by
  have hget := @getElem?_setChannel task id channel changed hchannel other
  by_cases hother : other = id
  · subst hother
    obtain rfl := Option.some.inj (hchannel.symm.trans hfound)
    exact ⟨changed, hget.trans (if_pos rfl), hservice⟩
  · refine ⟨found, hget.trans ((if_neg hother).trans hfound), ?_⟩
    rw [hothers other hother]
    exact .rests _

/-- Every channel goes on by a step of its service. -/
theorem service_of_step {event : ServerEvent} (horderly : task.Orderly config)
    (hstep : Step config task event next) {id : Nat} {channel : ServerChannel}
    (hchannel : task.channels[id]? = some channel) :
    ∃ after, next.channels[id]? = some after ∧
      ServiceStep channel (task.phase.pointAt id) after (next.phase.pointAt id) := by
  have hrelaying : ∀ {current : Nat} {kind : SocketKind} {point : RelayPoint},
      task.phase = .relaying current kind point →
      task.phase.pointAt current = some (kind, point) ∧
        ∀ other, other ≠ current → task.phase.pointAt other = none := by
    intro current kind point hphase
    rw [hphase]
    exact ⟨pointAt_self, fun other hother => pointAt_of_ne hother⟩
  cases hstep with
  | announce protocol =>
      obtain ⟨hlength, _⟩ := List.getElem?_eq_some_iff.mp hchannel
      exact ⟨channel, (List.getElem?_append_left hlength).trans hchannel, .rests _⟩
  | opens current found hfound _ =>
      exact service_setChannel hfound (fun _ _ => rfl) (.opens _) hchannel
  | message current msg found hfound =>
      exact service_setChannel hfound (fun _ _ => rfl) (.arrives _ msg) hchannel
  | localData current chunk found kind port hfound hsocket hreadable =>
      exact service_setChannel hfound (fun _ _ => rfl)
        (.localData _ chunk kind port hsocket hreadable) hchannel
  | enqueueChannel => exact ⟨channel, hchannel, .rests _⟩
  | close current queue found _ _ hfound =>
      exact service_setChannel hfound (fun _ _ => rfl) (.closes _) hchannel
  | pass current queue hphase =>
      refine ⟨channel, hchannel, ?_⟩
      rw [hphase]
      exact .rests _
  | serve current queue found kind port hphase =>
      refine ⟨channel, hchannel, ?_⟩
      rw [hphase]
      exact .rests _
  | connected current kind port found hphase hfound =>
      obtain ⟨_, other, hother, _, hnone, _⟩ := horderly.connecting current kind port hphase
      obtain rfl := Option.some.inj (hfound.symm.trans hother)
      refine service_setChannel hfound (fun other hne => ?_) ?_ hchannel
      · rw [hphase, pointAt_of_ne hne]
        rfl
      · rw [hphase, pointAt_self]
        exact .connected kind port hnone
  | enqueueMessage current found inbox hfound hinbox =>
      exact service_setChannel hfound (fun _ _ => rfl) (.enqueues _ inbox hinbox) hchannel
  | readLocal current kind found chunk rest hphase hfound hincoming =>
      obtain ⟨hself, hothers⟩ := hrelaying hphase
      refine service_setChannel hfound (fun other hne => ?_) ?_ hchannel
      · rw [hothers other hne, pointAt_of_ne hne]
      · rw [hself, pointAt_self]
        exact .reads kind chunk rest hincoming
  | localEof current hphase =>
      obtain ⟨hself, hothers⟩ := hrelaying hphase
      refine ⟨channel, hchannel, ?_⟩
      by_cases hid : id = current
      · subst hid
        rw [hself, pointAt_self]
        exact .eof
      · rw [hothers id hid, pointAt_of_ne hid]
        exact .rests _
  | sent current kind bytes found hphase hfound =>
      obtain ⟨hself, hothers⟩ := hrelaying hphase
      refine service_setChannel hfound (fun other hne => (hothers other hne).symm) ?_ hchannel
      rw [hself]
      exact .sent kind bytes
  | takeMessage current kind found msg inbox hphase hfound htake =>
      obtain ⟨hself, hothers⟩ := hrelaying hphase
      refine service_setChannel hfound (fun other hne => ?_) ?_ hchannel
      · rw [hothers other hne, pointAt_of_ne hne]
      · rw [hself, pointAt_self]
        exact .takes kind msg inbox htake
  | wrote current kind msg found hphase hfound =>
      obtain ⟨hself, hothers⟩ := hrelaying hphase
      refine service_setChannel hfound (fun other hne => (hothers other hne).symm) ?_ hchannel
      rw [hself]
      exact .wrote kind msg
  | failsConnecting current kind port hphase =>
      refine ⟨channel, hchannel, ?_⟩
      rw [hphase]
      exact .rests _
  | failsRelaying current kind point found hphase hfound =>
      obtain ⟨hself, hothers⟩ := hrelaying hphase
      refine service_setChannel hfound (fun other hne => (hothers other hne).symm) ?_ hchannel
      rw [hself]
      exact .fails kind point

/-- A channel that was not there before has just been announced. -/
theorem announced_of_step {event : ServerEvent} (hstep : Step config task event next) {id : Nat}
    {channel : ServerChannel} (hfresh : task.channels[id]? = none)
    (hchannel : next.channels[id]? = some channel) :
    ∃ protocol, channel = .new protocol ∧ next.phase = task.phase := by
  have hlength := List.getElem?_eq_none_iff.mp hfresh
  obtain ⟨hnext, _⟩ := List.getElem?_eq_some_iff.mp hchannel
  cases hstep with
  | announce protocol =>
      rw [List.getElem?_append_right hlength] at hchannel
      exact ⟨protocol, List.mem_singleton.mp (List.mem_of_getElem? hchannel), rfl⟩
  | enqueueChannel | pass | serve | localEof | failsConnecting =>
      exact absurd hnext (Nat.not_lt.mpr hlength)
  | _ =>
      rw [setChannel, List.length_set] at hnext
      exact absurd hnext (Nat.not_lt.mpr hlength)

/-- What every new channel has and every step of a service keeps, all channels have in
every run. -/
theorem channels_invariant {invariant : ServerChannel → Option (SocketKind × RelayPoint) → Prop}
    (hnew : ∀ protocol, invariant (.new protocol) none)
    (hservice : ∀ channel point after later, invariant channel point →
      ServiceStep channel point after later → invariant after later)
    (hreach : (serverSystem config).Reachable task) :
    ∀ (id : Nat) (channel : ServerChannel), task.channels[id]? = some channel →
      invariant channel (task.phase.pointAt id) := by
  have hall : task.Orderly config ∧ ∀ (id : Nat) (channel : ServerChannel),
      task.channels[id]? = some channel → invariant channel (task.phase.pointAt id) := by
    apply hreach.invariant fun task : ServerTask => task.Orderly config ∧
      ∀ (id : Nat) (channel : ServerChannel), task.channels[id]? = some channel →
        invariant channel (task.phase.pointAt id)
    · rintro _ rfl
      exact ⟨orderly_start, fun id channel hchannel => by simp [start] at hchannel⟩
    · rintro state event after ⟨horderly, hkept⟩ _ hstep
      have hstep : Step config state event after := .of_step hstep
      refine ⟨horderly.step hstep, fun id channel hchannel => ?_⟩
      cases hbefore : state.channels[id]? with
      | some before =>
          obtain ⟨found, hfound, hserved⟩ := service_of_step horderly hstep hbefore
          obtain rfl := Option.some.inj (hfound.symm.trans hchannel)
          exact hservice before _ _ _ (hkept id before hbefore) hserved
      | none =>
          obtain ⟨protocol, rfl, hphase⟩ := announced_of_step hstep hbefore hchannel
          have hnone : state.phase.pointAt id = none := by
            rw [Option.eq_none_iff_forall_ne_some]
            rintro ⟨kind, point⟩ hpoint
            obtain ⟨_, _, hrelayed, _⟩ :=
              horderly.relaying id kind point (phase_of_pointAt hpoint)
            cases hbefore.symm.trans hrelayed
          rw [hphase, hnone]
          exact hnew protocol
  exact hall.2

end ServerTask

/-! ## What leaves on a channel -/

/-- How far a channel has been answered: nothing is sent before its `select!` is over, and
then at most one message, an end of file or the beginning of what the socket was given. -/
inductive ServerChannel.Answers (channel : ServerChannel) :
    Option (SocketKind × RelayPoint) → Prop
  | fresh (hsocket : channel.socket = none) (hdelivered : channel.delivered = [])
      (hincoming : channel.incoming = []) (hsent : channel.sent = []) : Answers channel none
  | select (kind : SocketKind) (port : Port) (hsocket : channel.socket = some (kind, port))
      (hincoming : channel.incoming = channel.delivered) (hsent : channel.sent = []) :
      Answers channel (some (kind, .select))
  | sendingRead (kind : SocketKind) (port : Port) (chunk : List UInt8) (rest : List (List UInt8))
      (hsocket : channel.socket = some (kind, port))
      (hdelivered : channel.delivered = chunk :: rest) (hsent : channel.sent = []) :
      Answers channel (some (kind, .sending (chunk.take kind.bufSize)))
  | sendingEof (port : Port) (hsocket : channel.socket = some (.tcp, port))
      (hsent : channel.sent = []) : Answers channel (some (.tcp, .sending []))
  | writing (kind : SocketKind) (port : Port) (msg : List UInt8)
      (hsocket : channel.socket = some (kind, port)) (hsent : channel.sent = []) :
      Answers channel (some (kind, .writing msg))
  | served (kind : SocketKind) (port : Port) (hsocket : channel.socket = some (kind, port))
      (hsent : channel.sent = [] ∨ channel.sent = [[]] ∨ ∃ chunk rest,
        channel.delivered = chunk :: rest ∧ channel.sent = [chunk.take kind.bufSize]) :
      Answers channel none

theorem answers_new (protocol : String) : (ServerChannel.new protocol).Answers none :=
  .fresh rfl rfl rfl rfl

/-- Changes that the answers of a channel do not look at. -/
theorem answers_of_eq {channel next : ServerChannel} {point : Option (SocketKind × RelayPoint)}
    (hanswers : channel.Answers point) (hsocket : next.socket = channel.socket)
    (hdelivered : next.delivered = channel.delivered)
    (hincoming : next.incoming = channel.incoming) (hsent : next.sent = channel.sent) :
    next.Answers point := by
  cases hanswers with
  | fresh h1 h2 h3 h4 =>
      exact .fresh (hsocket.trans h1) (hdelivered.trans h2) (hincoming.trans h3) (hsent.trans h4)
  | select kind port h1 h2 h3 =>
      exact .select kind port (hsocket.trans h1) (hincoming.trans (h2.trans hdelivered.symm))
        (hsent.trans h3)
  | sendingRead kind port chunk rest h1 h2 h3 =>
      exact .sendingRead kind port chunk rest (hsocket.trans h1) (hdelivered.trans h2)
        (hsent.trans h3)
  | sendingEof port h1 h2 => exact .sendingEof port (hsocket.trans h1) (hsent.trans h2)
  | writing kind port msg h1 h2 =>
      exact .writing kind port msg (hsocket.trans h1) (hsent.trans h2)
  | served kind port h1 h2 =>
      exact .served kind port (hsocket.trans h1) (by rw [hsent, hdelivered]; exact h2)

theorem ServerChannel.Answers.step {channel after : ServerChannel}
    {point later : Option (SocketKind × RelayPoint)} (hanswers : channel.Answers point)
    (hservice : ServiceStep channel point after later) : after.Answers later := by
  cases hservice with
  | rests | opens | closes | arrives | enqueues => exact answers_of_eq hanswers rfl rfl rfl rfl
  | localData _ chunk _ _ hsocket =>
      cases hanswers with
      | fresh hnone => cases hsocket.symm.trans hnone
      | select kind port h1 h2 h3 => exact .select kind port h1 (by rw [h2]) h3
      | sendingRead kind port first rest h1 h2 h3 =>
          exact .sendingRead kind port first (rest ++ [chunk]) h1 (by simp [h2]) h3
      | sendingEof port h1 h2 => exact .sendingEof port h1 h2
      | writing kind port msg h1 h2 => exact .writing kind port msg h1 h2
      | served kind port h1 h2 =>
          refine .served kind port h1 (h2.imp_right fun h2 => h2.imp_right ?_)
          rintro ⟨first, rest, hdelivered, hsent⟩
          exact ⟨first, rest ++ [chunk], by simp [hdelivered], hsent⟩
  | connected kind port hnone =>
      cases hanswers with
      | fresh h1 h2 h3 h4 => exact .select kind port rfl (h3.trans h2.symm) h4
      | served _ _ hsocket => cases hnone.symm.trans hsocket
  | reads kind chunk rest hincoming =>
      cases hanswers with
      | select _ port h1 h2 h3 =>
          exact .sendingRead kind port chunk rest h1 (h2.symm.trans hincoming) h3
  | eof =>
      cases hanswers with
      | select _ port h1 h2 h3 => exact .sendingEof port h1 h3
  | sent kind bytes =>
      cases hanswers with
      | sendingRead _ port chunk rest h1 h2 h3 =>
          exact .served kind port h1 (.inr (.inr ⟨chunk, rest, h2, by simp [h3]⟩))
      | sendingEof port h1 h2 => exact .served .tcp port h1 (.inr (.inl (by simp [h2])))
  | takes kind msg inbox htake =>
      cases hanswers with
      | select _ port h1 h2 h3 => exact .writing kind port msg h1 h3
  | wrote kind msg =>
      cases hanswers with
      | writing _ port _ h1 h2 => exact .served kind port h1 (.inl h2)
  | fails kind point =>
      cases hanswers with
      | select _ port h1 h2 h3 => exact .served kind port h1 (.inl h3)
      | sendingRead _ port _ _ h1 h2 h3 => exact .served kind port h1 (.inl h3)
      | sendingEof port h1 h2 => exact .served .tcp port h1 (.inl h2)
      | writing _ port _ h1 h2 => exact .served kind port h1 (.inl h2)

/-- A single message, and its source. -/
theorem ServerChannel.Answers.sent_cases {channel : ServerChannel}
    {point : Option (SocketKind × RelayPoint)}
    (hanswers : channel.Answers point) : channel.sent = [] ∨ channel.sent = [[]] ∨
      ∃ kind port chunk rest, channel.socket = some (kind, port) ∧
        channel.delivered = chunk :: rest ∧ channel.sent = [chunk.take kind.bufSize] := by
  cases hanswers with
  | fresh _ _ _ hsent => exact .inl hsent
  | select _ _ _ _ hsent => exact .inl hsent
  | sendingRead _ _ _ _ _ _ hsent => exact .inl hsent
  | sendingEof _ _ hsent => exact .inl hsent
  | writing _ _ _ _ hsent => exact .inl hsent
  | served kind port hsocket hsent =>
      refine hsent.imp_right fun hsent => hsent.imp_right ?_
      rintro ⟨chunk, rest, hdelivered, hsent⟩
      exact ⟨kind, port, chunk, rest, hsocket, hdelivered, hsent⟩

theorem ServerTask.reachable_of_step {config : List Channel} {task next : ServerTask}
    {event : ServerEvent} (hreach : (serverSystem config).Reachable task)
    (hstep : task.step config event = some next) : (serverSystem config).Reachable next := by
  have htaken : (serverSystem config).step task event = some next := hstep
  exact hreach.tail trivial htaken

theorem ServerTask.orderly_of_reachable {config : List Channel} {task : ServerTask}
    (hreach : (serverSystem config).Reachable task) : task.Orderly config := by
  apply hreach.invariant (ServerTask.Orderly config)
  · rintro _ rfl
    exact ServerTask.orderly_start
  · intro state event next horderly _ hstep
    exact horderly.step (.of_step hstep)

theorem ServerTask.answers_of_reachable {config : List Channel} {task : ServerTask}
    (hreach : (serverSystem config).Reachable task) {id : Nat} {channel : ServerChannel}
    (hchannel : task.channels[id]? = some channel) : channel.Answers (task.phase.pointAt id) :=
  channels_invariant (fun protocol => answers_new protocol)
    (fun _ _ _ _ hanswers hservice => hanswers.step hservice) hreach id channel hchannel

/-! ## What is written for a channel -/

/-- Whatever waits, is being written or was written had arrived on the channel. -/
structure ServerChannel.Heeds (channel : ServerChannel)
    (point : Option (SocketKind × RelayPoint)) : Prop where
  waiting : ∀ msg ∈ channel.inbox.bytes.contents, msg ∈ channel.inbox.arrived
  current : ∀ kind msg, point = some (kind, .writing msg) → msg ∈ channel.inbox.arrived
  written : ∀ msg ∈ channel.written, msg ∈ channel.inbox.arrived

theorem heeds_new (protocol : String) : (ServerChannel.new protocol).Heeds none :=
  ⟨by simp [ServerChannel.new, Inbox.new, Mailbox.contents, Mailbox.empty], by simp,
    by simp [ServerChannel.new]⟩

theorem mem_of_mem_writes {kind : SocketKind} {msg written : List UInt8}
    (hmem : written ∈ kind.writes msg) : written = msg := by
  cases kind with
  | udp =>
      simp only [SocketKind.writes] at hmem
      split at hmem
      · cases hmem
      · exact List.mem_singleton.mp hmem
  | tcp => exact List.mem_singleton.mp hmem

/-- An arrival is kept, and waits if there is a receiver. -/
theorem Inbox.mem_arrive {inbox : Inbox} {msg : List UInt8}
    (hwaiting : ∀ found ∈ inbox.bytes.contents, found ∈ inbox.arrived) :
    (inbox.arrive msg).arrived = inbox.arrived ++ [msg] ∧
      ∀ found ∈ (inbox.arrive msg).bytes.contents, found ∈ inbox.arrived ++ [msg] := by
  unfold arrive
  split
  · split
    · refine ⟨rfl, fun found hmem => ?_⟩
      rw [Mailbox.contents_offer] at hmem
      exact List.mem_append.mpr ((List.mem_append.mp hmem).imp_left (hwaiting found))
    · exact ⟨rfl, fun found hmem => List.mem_append_left _ (hwaiting found hmem)⟩
  · exact ⟨rfl, fun found hmem => List.mem_append_left _ (hwaiting found hmem)⟩

theorem ServerChannel.Heeds.step {channel after : ServerChannel}
    {point later : Option (SocketKind × RelayPoint)} (hheeds : channel.Heeds point)
    (hservice : ServiceStep channel point after later) : after.Heeds later := by
  obtain ⟨hwaiting, hcurrent, hwritten⟩ := hheeds
  cases hservice with
  | rests | opens | closes | localData => exact ⟨hwaiting, hcurrent, hwritten⟩
  | arrives _ msg =>
      obtain ⟨harrived, hcontents⟩ := @Inbox.mem_arrive channel.inbox msg hwaiting
      refine ⟨by rwa [harrived], fun kind found hpoint => ?_, fun found hmem => ?_⟩ <;>
        rw [harrived]
      · exact List.mem_append_left _ (hcurrent kind found hpoint)
      · exact List.mem_append_left _ (hwritten found hmem)
  | enqueues _ inbox hinbox =>
      obtain ⟨_, bytes, hbytes, _, rfl⟩ := Inbox.enqueue_eq_some hinbox
      exact ⟨fun found hmem => hwaiting found (Mailbox.contents_enqueue hbytes ▸ hmem), hcurrent,
        hwritten⟩
  | connected kind port => exact ⟨hwaiting, by simp, hwritten⟩
  | reads | eof => exact ⟨hwaiting, by simp, hwritten⟩
  | sent | fails =>
      exact ⟨by simp [Inbox.dropReceiver, Mailbox.contents, Mailbox.empty], by simp, hwritten⟩
  | takes kind msg inbox htake =>
      obtain ⟨bytes, hbytes, rfl⟩ := Inbox.take_eq_some htake
      have hcontents := Mailbox.contents_take hbytes
      refine ⟨fun found hmem => ?_, ?_, hwritten⟩
      · exact hwaiting found (hcontents ▸ List.mem_cons_of_mem _ hmem)
      · rintro _ _ ⟨⟩
        exact hwaiting msg (hcontents ▸ List.mem_cons_self)
  | wrote kind msg =>
      refine ⟨by simp [Inbox.dropReceiver, Mailbox.contents, Mailbox.empty], by simp,
        fun found hmem => ?_⟩
      rcases List.mem_append.mp hmem with hmem | hmem
      · exact hwritten found hmem
      · exact mem_of_mem_writes hmem ▸ hcurrent kind msg rfl

end MangleWebRTC.Tunnel
