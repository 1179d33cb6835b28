import MangleWebRTC.Tunnel.ServerInvariant

/-! # What the tunnel server relays

The task runs one `select!` for each channel. It relays the first thing that comes,
a message or a read, and then turns to the next channel. A channel that carries a
single item is served completely.
-/

namespace MangleWebRTC.Tunnel

open Machine

namespace SocketKind

/-- What was written to the local socket agrees with the messages so far: by bytes on
a stream, by datagrams otherwise. -/
def InOrder : SocketKind → List (List UInt8) → List (List UInt8) → Prop
  | udp, written, messages => written <+: messages
  | tcp, written, messages => written.flatten <+: messages.flatten

/-- All messages were written. -/
def Complete : SocketKind → List (List UInt8) → List (List UInt8) → Prop
  | udp, written, messages => written = messages
  | tcp, written, messages => written.flatten = messages.flatten

theorem inOrder_of_isPrefix {written messages : List (List UInt8)} (kind : SocketKind)
    (hwritten : written <+: messages) : kind.InOrder written messages := by
  cases kind with
  | udp => exact hwritten
  | tcp =>
      obtain ⟨rest, rfl⟩ := hwritten
      exact ⟨rest.flatten, List.flatten_append.symm⟩

theorem complete_of_eq {written messages : List (List UInt8)} (kind : SocketKind)
    (hwritten : written = messages) : kind.Complete written messages := by
  subst hwritten
  cases kind <;> rfl

end SocketKind

/-- What the `select!` of a channel does, if the task is there. -/
def TaskPhase.pointAt (phase : TaskPhase) (id : Nat) : Option (SocketKind × RelayPoint) :=
  match phase with
  | .relaying current kind point => if current = id then some (kind, point) else none
  | _ => none

namespace ServerTask

variable (config : List Channel)

/-- No step of the server's code is enabled. -/
def Quiescent (task : ServerTask) : Prop :=
  ∀ event : ServerEvent, event.isProgram = true → task.step config event = none

/-- For every channel with a socket: messages are written and reads are sent in
order, and at rest all messages were written, all reads sent, and all that the
socket was given was read. -/
structure Relays (task : ServerTask) : Prop where
  inOrder : ∀ (channel : ServerChannel), channel ∈ task.channels → ∀ kind port,
    channel.socket = some (kind, port) →
    kind.InOrder channel.written channel.inbox.handled ∧ channel.sent <+: channel.read
  complete : task.Quiescent config → ∀ (channel : ServerChannel), channel ∈ task.channels →
    ∀ kind port, channel.socket = some (kind, port) →
    kind.Complete channel.written channel.inbox.handled ∧ channel.sent = channel.read ∧
      channel.incoming = []

/-- No end fails, and a channel carries at most one item: a message, which is not
empty on a UDP channel, or one read of the local socket. -/
def SingleItem (task : ServerTask) : ServerEvent → Prop
  | .message id msg => ∀ channel ∈ task.channels[id]?, channel.inbox.handler = true →
      channel.inbox.handled = [] ∧ channel.delivered = [] ∧
        (channel.socket.map Prod.fst = some .udp → msg ≠ [])
  | .localData id _ => ∀ channel ∈ task.channels[id]?,
      channel.inbox.handled = [] ∧ channel.delivered = []
  | .localEof | .fails => False
  | _ => True

instance (task : ServerTask) : (event : ServerEvent) → Decidable (task.SingleItem event)
  | .message id msg => inferInstanceAs (Decidable (∀ channel ∈ task.channels[id]?,
      channel.inbox.handler = true → channel.inbox.handled = [] ∧ channel.delivered = [] ∧
        (channel.socket.map Prod.fst = some .udp → msg ≠ [])))
  | .localData id _ => inferInstanceAs (Decidable (∀ channel ∈ task.channels[id]?,
      channel.inbox.handled = [] ∧ channel.delivered = []))
  | .localEof | .fails => inferInstanceAs (Decidable False)
  | .announce _ | .opens _ | .enqueueChannel | .takeChannel | .connected | .enqueueMessage _
  | .readLocal | .sent | .takeMessage | .wrote => inferInstanceAs (Decidable True)

end ServerTask

/-- The service of a channel with at most one item, by the point of its `select!`. -/
inductive ServerChannel.Serves (channel : ServerChannel) :
    Option (SocketKind × RelayPoint) → Prop
  | fresh (hsocket : channel.socket = none) (hhandled : channel.inbox.handled = [])
      (hcontents : channel.inbox.bytes.contents = []) (hdelivered : channel.delivered = [])
      (hincoming : channel.incoming = []) (hread : channel.read = [])
      (hsent : channel.sent = []) (hwritten : channel.written = []) : Serves channel none
  | select (kind : SocketKind) (port : Port) (hsocket : channel.socket = some (kind, port))
      (hreceiver : channel.inbox.receiver = true)
      (hcontents : channel.inbox.bytes.contents = channel.inbox.handled)
      (hincoming : channel.incoming = channel.delivered) (hread : channel.read = [])
      (hsent : channel.sent = []) (hwritten : channel.written = [])
      (hsingle : channel.inbox.handled.length + channel.delivered.length ≤ 1)
      (hpayload : kind = .udp → [] ∉ channel.inbox.handled) :
      Serves channel (some (kind, .select))
  | sending (kind : SocketKind) (port : Port) (bytes : List UInt8)
      (hsocket : channel.socket = some (kind, port)) (hhandled : channel.inbox.handled = [])
      (hdelivered : channel.delivered ≠ []) (hincoming : channel.incoming = [])
      (hread : channel.read = [bytes]) (hsent : channel.sent = [])
      (hwritten : channel.written = []) : Serves channel (some (kind, .sending bytes))
  | writing (kind : SocketKind) (port : Port) (msg : List UInt8)
      (hsocket : channel.socket = some (kind, port)) (hhandled : channel.inbox.handled = [msg])
      (hincoming : channel.incoming = []) (hread : channel.read = [])
      (hsent : channel.sent = []) (hwritten : channel.written = [])
      (hpayload : kind = .udp → msg ≠ []) : Serves channel (some (kind, .writing msg))
  | done (kind : SocketKind) (port : Port) (hsocket : channel.socket = some (kind, port))
      (htraffic : channel.inbox.handled ≠ [] ∨ channel.delivered ≠ [])
      (hincoming : channel.incoming = []) (hsent : channel.sent = channel.read)
      (hwritten : channel.written = channel.inbox.handled) : Serves channel none

namespace ServerTask

variable {config : List Channel} {task : ServerTask}

/-- Every channel is served. -/
def AllServed (task : ServerTask) : Prop :=
  ∀ (id : Nat) (channel : ServerChannel), task.channels[id]? = some channel →
    channel.Serves (task.phase.pointAt id)

/-- A step at one channel leaves the service of the others alone. -/
theorem AllServed.setChannel (hserved : task.AllServed) {id : Nat} {channel next : ServerChannel}
    {phase : TaskPhase} (hchannel : task.channels[id]? = some channel)
    (hothers : ∀ other, other ≠ id → phase.pointAt other = task.phase.pointAt other)
    (hnext : next.Serves (phase.pointAt id)) :
    AllServed { task.setChannel id next with phase := phase } := by
  intro other kept hkept
  rcases eq_or_of_setChannel hchannel hkept with ⟨rfl, rfl⟩ | ⟨hother, hbefore⟩
  · exact hnext
  · have hpoint := hserved other kept hbefore
    rwa [← hothers other hother] at hpoint

theorem pointAt_of_ne {id other : Nat} {kind : SocketKind} {point : RelayPoint}
    (hother : other ≠ id) : (TaskPhase.relaying id kind point).pointAt other = none :=
  if_neg hother.symm

@[simp] theorem pointAt_self {id : Nat} {kind : SocketKind} {point : RelayPoint} :
    (TaskPhase.relaying id kind point).pointAt id = some (kind, point) := if_pos rfl

/-- Changes that the service of a channel does not look at. -/
theorem serves_of_eq {channel next : ServerChannel} {point : Option (SocketKind × RelayPoint)}
    (hserves : channel.Serves point) (hsocket : next.socket = channel.socket)
    (hreceiver : next.inbox.receiver = channel.inbox.receiver)
    (hhandled : next.inbox.handled = channel.inbox.handled)
    (hcontents : next.inbox.bytes.contents = channel.inbox.bytes.contents)
    (hdelivered : next.delivered = channel.delivered)
    (hincoming : next.incoming = channel.incoming) (hread : next.read = channel.read)
    (hsent : next.sent = channel.sent) (hwritten : next.written = channel.written) :
    next.Serves point := by
  cases hserves with
  | fresh => apply ServerChannel.Serves.fresh <;> simp only [*]
  | select kind port _ _ _ _ _ _ _ hsingle hpayload =>
      rw [← hhandled] at hpayload
      rw [← hhandled, ← hdelivered] at hsingle
      apply ServerChannel.Serves.select kind port <;> first | assumption | simp only [*]
  | sending kind port bytes _ _ hbusy =>
      rw [← hdelivered] at hbusy
      apply ServerChannel.Serves.sending kind port bytes <;> first | assumption | simp only [*]
  | writing kind port msg _ _ _ _ _ _ hpayload =>
      apply ServerChannel.Serves.writing kind port msg <;> first | assumption | simp only [*]
  | done kind port _ hbusy =>
      rw [← hhandled, ← hdelivered] at hbusy
      apply ServerChannel.Serves.done kind port <;> first | assumption | simp only [*]

/-- The only message of a channel arrives. -/
theorem serves_arrive {channel : ServerChannel} {point : Option (SocketKind × RelayPoint)}
    {msg : List UInt8} (hserves : channel.Serves point)
    (hregistered : channel.inbox.handler = channel.socket.isSome)
    (hsingle : channel.inbox.handler = true → channel.inbox.handled = [] ∧
      channel.delivered = [] ∧ (channel.socket.map Prod.fst = some .udp → msg ≠ [])) :
    ServerChannel.Serves { channel with inbox := channel.inbox.arrive msg } point := by
  cases hhandler : channel.inbox.handler with
  | false =>
      apply serves_of_eq hserves <;> simp [Inbox.arrive, hhandler]
  | true =>
      obtain ⟨hhandled, hdelivered, hpayload⟩ := hsingle hhandler
      cases hserves with
      | fresh hsocket =>
          rw [hsocket, hhandler] at hregistered
          cases hregistered
      | select kind port hsocket hreceiver hcontents hincoming hread hsent hwritten =>
          refine .select kind port hsocket ?_ ?_ hincoming hread hsent hwritten ?_ ?_
          · simp [Inbox.arrive, hhandler, hreceiver]
          · simp [Inbox.arrive, hhandler, hreceiver, hcontents]
          · simp [Inbox.arrive, hhandler, hhandled, hdelivered]
          · rintro rfl
            simp only [Inbox.arrive, hhandler, if_true, hhandled, List.nil_append,
              List.mem_singleton]
            exact (hpayload (by simp [hsocket])).symm
      | sending kind port bytes _ _ hbusy => exact absurd hdelivered hbusy
      | writing kind port msg _ hbusy =>
          exact absurd (hbusy.symm.trans hhandled) (List.cons_ne_nil _ _)
      | done kind port _ hbusy => exact absurd hbusy (by simp [hhandled, hdelivered])

/-- The only data of a channel's local socket arrives. -/
theorem serves_localData {channel : ServerChannel} {point : Option (SocketKind × RelayPoint)}
    {chunk : List UInt8} (hserves : channel.Serves point) (hconnected : channel.socket ≠ none)
    (hhandled : channel.inbox.handled = []) (hdelivered : channel.delivered = []) :
    ServerChannel.Serves { channel with
      incoming := channel.incoming ++ [chunk]
      delivered := channel.delivered ++ [chunk] } point := by
  cases hserves with
  | fresh hsocket => exact absurd hsocket hconnected
  | select kind port hsocket hreceiver hcontents hincoming hread hsent hwritten _ hpayload =>
      exact .select kind port hsocket hreceiver hcontents (by rw [hincoming]) hread hsent hwritten
        (by simp [hhandled, hdelivered]) hpayload
  | sending kind port bytes _ _ hbusy => exact absurd hdelivered hbusy
  | writing kind port msg _ hbusy => exact absurd (hbusy.symm.trans hhandled) (List.cons_ne_nil _ _)
  | done kind port _ hbusy => exact absurd hbusy (by simp [hhandled, hdelivered])

/-- The first socket of a channel: it has carried nothing so far. -/
theorem serves_connected {channel : ServerChannel} {point : Option (SocketKind × RelayPoint)}
    {kind : SocketKind} {port : Port} (hserves : channel.Serves point)
    (hnone : channel.socket = none) :
    ServerChannel.Serves { channel with
      inbox := channel.inbox.register
      socket := some (kind, port) } (some (kind, .select)) := by
  cases hserves with
  | fresh _ hhandled hcontents hdelivered hincoming hread hsent hwritten =>
      refine .select kind port rfl rfl ?_ ?_ hread hsent hwritten ?_ ?_
      · exact hcontents.trans hhandled.symm
      · exact hincoming.trans hdelivered.symm
      · simp [Inbox.register, hhandled, hdelivered]
      · simp [Inbox.register, hhandled]
  | select kind port hsocket | sending kind port _ hsocket | writing kind port _ hsocket
  | done kind port hsocket => exact absurd (hnone.symm.trans hsocket) (Option.some_ne_none _).symm

/-- The read is the single item, so no message came and nothing is left to read. -/
theorem serves_readLocal {channel : ServerChannel} {kind : SocketKind} {chunk : List UInt8}
    {rest : List (List UInt8)} (hserves : channel.Serves (some (kind, .select)))
    (hincoming : channel.incoming = chunk :: rest) :
    ServerChannel.Serves { channel with
      incoming := rest
      read := channel.read ++ [chunk.take kind.bufSize] }
        (some (kind, .sending (chunk.take kind.bufSize))) := by
  cases hserves with
  | select _ port hsocket _ hcontents hdelivered hread hsent hwritten hsingle _ =>
      rw [← hdelivered, hincoming, List.length_cons] at hsingle
      have hhandled : channel.inbox.handled = [] := List.eq_nil_of_length_eq_zero (by omega)
      have hrest : rest = [] := List.eq_nil_of_length_eq_zero (by omega)
      refine .sending kind port _ hsocket hhandled ?_ hrest ?_ hsent hwritten
      · rw [← hdelivered, hincoming]
        exact List.cons_ne_nil _ _
      · rw [hread]
        rfl

theorem serves_sent {channel : ServerChannel} {kind : SocketKind} {bytes : List UInt8}
    (hserves : channel.Serves (some (kind, .sending bytes))) :
    ServerChannel.Serves { channel with
      inbox := channel.inbox.dropReceiver
      sent := channel.sent ++ [bytes] } none := by
  cases hserves with
  | sending _ port _ hsocket hhandled hdelivered hincoming hread hsent hwritten =>
      refine .done kind port hsocket (.inr hdelivered) hincoming ?_ ?_
      · rw [hsent, hread]
        rfl
      · exact hwritten.trans hhandled.symm

/-- The message is the single item, so no other came and nothing was read. -/
theorem serves_takeMessage {channel : ServerChannel} {kind : SocketKind} {msg : List UInt8}
    {inbox : Inbox} (hserves : channel.Serves (some (kind, .select)))
    (htake : channel.inbox.take = some (msg, inbox)) :
    ServerChannel.Serves { channel with inbox := inbox } (some (kind, .writing msg)) := by
  obtain ⟨bytes, hbytes, rfl⟩ := Inbox.take_eq_some htake
  cases hserves with
  | select _ port hsocket _ hcontents hdelivered hread hsent hwritten hsingle hpayload =>
      rw [Mailbox.contents_take hbytes] at hcontents
      rw [← hcontents, List.length_cons] at hsingle
      have hhandled : channel.inbox.handled = [msg] := by
        rw [← hcontents, List.eq_nil_of_length_eq_zero (by omega : bytes.contents.length = 0)]
      refine .writing kind port msg hsocket hhandled ?_ hread hsent hwritten ?_
      · rw [hdelivered]
        exact List.eq_nil_of_length_eq_zero (by omega)
      · intro hkind hempty
        exact hpayload hkind (by simp [hhandled, hempty])

theorem serves_wrote {channel : ServerChannel} {kind : SocketKind} {msg : List UInt8}
    (hserves : channel.Serves (some (kind, .writing msg))) :
    ServerChannel.Serves { channel with
      inbox := channel.inbox.dropReceiver
      written := channel.written ++ kind.writes msg } none := by
  cases hserves with
  | writing _ port _ hsocket hhandled hincoming hread hsent hwritten hpayload =>
      -- The loop over `socket.send` does not run for an empty datagram.
      have hwrites : kind.writes msg = [msg] := by
        cases kind with
        | udp => exact if_neg (by simpa using hpayload rfl)
        | tcp => rfl
      refine .done kind port hsocket (.inl ?_) hincoming ?_ ?_
      · simp [Inbox.dropReceiver, hhandled]
      · exact hsent.trans hread.symm
      · simp [Inbox.dropReceiver, hhandled, hwritten, hwrites]

/-- The task is at no channel that is only announced. -/
theorem AllServed.announce (hserved : task.AllServed) (horderly : task.Orderly config)
    (protocol : String) :
    AllServed { task with channels := task.channels ++ [.new protocol] } := by
  intro id channel hchannel
  rcases Nat.lt_or_ge id task.channels.length with hlength | hlength
  · rw [List.getElem?_append_left hlength] at hchannel
    exact hserved id channel hchannel
  · rw [List.getElem?_append_right hlength] at hchannel
    rw [List.mem_singleton.mp (List.mem_of_getElem? hchannel)]
    have hpoint : task.phase.pointAt id = none := by
      cases hphase : task.phase with
      | relaying current kind point =>
          obtain ⟨found, _, hfound, _⟩ := horderly.relaying current kind point hphase
          obtain ⟨hcurrent, _⟩ := List.getElem?_eq_some_iff.mp hfound
          exact if_neg (by omega)
      | _ => rfl
    rw [hpoint]
    exact .fresh rfl rfl rfl rfl rfl rfl rfl rfl

/-- A step of the task at the channel that it relays. -/
theorem AllServed.relayed (hserved : task.AllServed) {id : Nat} {kind : SocketKind}
    {point : RelayPoint} {channel next : ServerChannel} {phase : TaskPhase}
    (hphase : task.phase = .relaying id kind point) (hchannel : task.channels[id]? = some channel)
    (hothers : ∀ other, other ≠ id → phase.pointAt other = none)
    (hnext : channel.Serves (some (kind, point)) → next.Serves (phase.pointAt id)) :
    AllServed { task.setChannel id next with phase := phase } := by
  have hbefore := hserved id channel hchannel
  rw [hphase, pointAt_self] at hbefore
  apply hserved.setChannel hchannel _ (hnext hbefore)
  intro other hother
  rw [hothers other hother, hphase, pointAt_of_ne hother]

/-- While channels carry single items, every step serves them. -/
theorem AllServed.step {next : ServerTask} {event : ServerEvent} (horderly : task.Orderly config)
    (hserved : task.AllServed) (hguard : task.SingleItem event)
    (hstep : Step config task event next) : next.AllServed := by
  cases hstep with
  | announce protocol => exact hserved.announce horderly protocol
  | opens id channel hchannel _ =>
      apply AllServed.setChannel hserved hchannel (fun _ _ => rfl)
      apply serves_of_eq (hserved id channel hchannel) <;> rfl
  | message id msg channel hchannel =>
      apply AllServed.setChannel hserved hchannel (fun _ _ => rfl)
      exact serves_arrive (hserved id channel hchannel) (horderly.registered id channel hchannel)
        (hguard channel hchannel)
  | localData id chunk channel kind port hchannel hsocket =>
      obtain ⟨hhandled, hdelivered⟩ := hguard channel hchannel
      apply AllServed.setChannel hserved hchannel (fun _ _ => rfl)
      exact serves_localData (hserved id channel hchannel) (by simp [hsocket]) hhandled hdelivered
  | enqueueChannel queue _ => exact hserved
  | close id queue channel _ _ hchannel =>
      apply AllServed.setChannel hserved hchannel (fun _ _ => rfl)
      apply serves_of_eq (hserved id channel hchannel) <;> rfl
  | pass id queue hphase _ =>
      intro other channel hchannel
      have hbefore := hserved other channel hchannel
      rwa [hphase] at hbefore
  | serve id queue channel kind port hphase _ _ _ =>
      intro other found hfound
      have hbefore := hserved other found hfound
      rwa [hphase] at hbefore
  | connected id kind port channel hphase hchannel =>
      obtain ⟨_, found, hfound, _, hnone, _⟩ := horderly.connecting id kind port hphase
      obtain rfl := Option.some.inj (hchannel.symm.trans hfound)
      refine AllServed.setChannel hserved hchannel (fun other hother => ?_) ?_
      · rw [hphase]
        exact pointAt_of_ne hother
      · rw [pointAt_self]
        exact serves_connected (hserved id channel hchannel) hnone
  | enqueueMessage id channel inbox hchannel hinbox =>
      obtain ⟨msg, bytes, hbytes, _, rfl⟩ := Inbox.enqueue_eq_some hinbox
      apply AllServed.setChannel hserved hchannel (fun _ _ => rfl)
      apply serves_of_eq (hserved id channel hchannel) <;> try rfl
      exact Mailbox.contents_enqueue hbytes
  | readLocal id kind channel chunk rest hphase hchannel hincoming =>
      apply hserved.relayed hphase hchannel (fun _ => pointAt_of_ne)
      rw [pointAt_self]
      exact fun hbefore => serves_readLocal hbefore hincoming
  | localEof id hphase => exact hguard.elim
  | sent id kind bytes channel hphase hchannel =>
      exact hserved.relayed hphase hchannel (fun _ _ => rfl) serves_sent
  | takeMessage id kind channel msg inbox hphase hchannel htake =>
      apply hserved.relayed hphase hchannel (fun _ => pointAt_of_ne)
      rw [pointAt_self]
      exact fun hbefore => serves_takeMessage hbefore htake
  | wrote id kind msg channel hphase hchannel =>
      exact hserved.relayed hphase hchannel (fun _ _ => rfl) serves_wrote
  | failsConnecting id kind port hphase => exact hguard.elim
  | failsRelaying id kind point channel hphase hchannel => exact hguard.elim

/-- A served channel writes its messages and sends its reads in order. -/
theorem isPrefix_of_serves {channel : ServerChannel} {point : Option (SocketKind × RelayPoint)}
    (hserves : channel.Serves point) :
    channel.written <+: channel.inbox.handled ∧ channel.sent <+: channel.read := by
  cases hserves with
  | fresh _ _ _ _ _ _ hsent hwritten => simp [hsent, hwritten]
  | select _ _ _ _ _ _ _ hsent hwritten => simp [hsent, hwritten]
  | sending _ _ _ _ _ _ _ _ hsent hwritten => simp [hsent, hwritten]
  | writing _ _ _ _ _ _ _ hsent hwritten => simp [hsent, hwritten]
  | done _ _ _ _ _ hsent hwritten => simp [hsent, hwritten]

/-- A `select!` at rest has nothing to read and no message to take. -/
theorem Quiescent.select (hquiescent : task.Quiescent config) {id : Nat} {kind : SocketKind}
    {channel : ServerChannel} (hphase : task.phase = .relaying id kind .select)
    (hchannel : task.channels[id]? = some channel) :
    channel.incoming = [] ∧ channel.inbox.bytes.contents = [] := by
  constructor
  · cases hincoming : channel.incoming with
    | nil => rfl
    | cons chunk rest =>
        have hread := hquiescent .readLocal rfl
        simp [ServerTask.step, hphase, hchannel, hincoming] at hread
  · by_contra hcontents
    rcases Mailbox.take_or_enqueue Nat.two_pos hcontents with ⟨msg, bytes, hbytes⟩ | ⟨bytes, hbytes⟩
    · have htake := hquiescent .takeMessage rfl
      simp [ServerTask.step, hphase, hchannel, Inbox.take, hbytes] at htake
    · have henqueue := hquiescent (.enqueueMessage id) rfl
      simp [ServerTask.step, hchannel, Inbox.enqueue, hbytes] at henqueue

theorem phase_of_pointAt {phase : TaskPhase} {id : Nat} {kind : SocketKind} {point : RelayPoint}
    (hpoint : phase.pointAt id = some (kind, point)) : phase = .relaying id kind point := by
  cases phase with
  | relaying current kind' point' =>
      simp only [TaskPhase.pointAt] at hpoint
      split at hpoint
      next hcurrent =>
        obtain ⟨rfl, rfl⟩ := Prod.mk.inj (Option.some.inj hpoint)
        rw [hcurrent]
      · cases hpoint
  | _ => cases hpoint

/-- At rest, a served channel that has a socket is through with its traffic. -/
theorem Quiescent.finished (hquiescent : task.Quiescent config) {id : Nat}
    {channel : ServerChannel} (hchannel : task.channels[id]? = some channel)
    (hserves : channel.Serves (task.phase.pointAt id)) (hsocket : channel.socket ≠ none) :
    channel.written = channel.inbox.handled ∧ channel.sent = channel.read ∧
      channel.incoming = [] := by
  generalize hpoint : task.phase.pointAt id = point at hserves
  cases hserves with
  | fresh hnone => exact absurd hnone hsocket
  | select kind port _ _ hcontents _ hread hsent hwritten =>
      obtain ⟨hincoming, hempty⟩ := hquiescent.select (phase_of_pointAt hpoint) hchannel
      exact ⟨by rw [hwritten, ← hcontents, hempty], by rw [hsent, hread], hincoming⟩
  | sending kind port bytes =>
      have hsends := hquiescent .sent rfl
      simp [ServerTask.step, phase_of_pointAt hpoint, hchannel] at hsends
  | writing kind port msg =>
      have hwrites := hquiescent .wrote rfl
      simp [ServerTask.step, phase_of_pointAt hpoint, hchannel] at hwrites
  | done kind port _ _ hincoming hsent hwritten => exact ⟨hwritten, hsent, hincoming⟩

theorem AllServed.relays (hserved : task.AllServed) : task.Relays config where
  inOrder channel hmem kind port _ := by
    obtain ⟨id, hchannel⟩ := List.getElem?_of_mem hmem
    obtain ⟨hwritten, hsent⟩ := isPrefix_of_serves (hserved id channel hchannel)
    exact ⟨SocketKind.inOrder_of_isPrefix kind hwritten, hsent⟩
  complete hquiescent channel hmem kind port hsocket := by
    obtain ⟨id, hchannel⟩ := List.getElem?_of_mem hmem
    obtain ⟨hwritten, hrest⟩ := hquiescent.finished hchannel (hserved id channel hchannel)
      (hsocket ▸ Option.some_ne_none _)
    exact ⟨SocketKind.complete_of_eq kind hwritten, hrest⟩

theorem allServed_start : start.AllServed := by
  intro id channel hchannel
  simp [start] at hchannel

/-- The server relays channels that carry a single item each. -/
theorem single_item_relayed (hreach : (serverSystem config).ReachableIf SingleItem task) :
    task.Relays config := by
  obtain ⟨_, hserved⟩ : task.Orderly config ∧ task.AllServed := by
    apply hreach.invariant (fun state => state.Orderly config ∧ state.AllServed)
    · rintro _ rfl
      exact ⟨orderly_start, allServed_start⟩
    · rintro state event next ⟨horderly, hserved⟩ hguard hstep
      have hcases := Step.of_step hstep
      exact ⟨horderly.step hcases, hserved.step horderly hguard hcases⟩
  exact hserved.relays

/-- One message is relayed to the local server. -/
theorem single_item_relayed_message :
    ∃ task channel, (serverSystem webConfig).ReachableIf SingleItem task ∧
      task.channels[0]? = some channel ∧ channel.inbox.handled = [[1]] ∧
      channel.written = [[1]] ∧ task.Relays webConfig := by
  let events : List ServerEvent := [.announce "80", .opens 0, .enqueueChannel, .takeChannel,
    .connected, .message 0 [1], .enqueueMessage 0, .takeMessage, .wrote]
  obtain ⟨task, htask, htest⟩ := (serverSystem webConfig).exists_run_of_any .start events
    (fun task => (task.channels[0]?).any fun channel =>
      channel.inbox.handled = [[1]] ∧ channel.written = [[1]]) (by decide +kernel)
  obtain ⟨channel, hchannel, hrelayed⟩ := (Option.any_eq_true _ _).mp htest
  obtain ⟨hhandled, hwritten⟩ := of_decide_eq_true hrelayed
  have hguarded : (serverSystem webConfig).Guarded SingleItem .start events := by
    apply TransitionSystem.guarded_of_check
    decide +kernel
  have hreach : (serverSystem webConfig).ReachableIf SingleItem task :=
    ⟨.start, rfl, .of_run hguarded htask⟩
  exact ⟨task, channel, hreach, hchannel, hhandled, hwritten, single_item_relayed hreach⟩

/-- A task between two channels is at rest when no channel and no message waits. -/
theorem quiescent_of_idle (hphase : task.phase = .idle) (hqueue : task.queue.contents = [])
    (hwaiting : ∀ channel ∈ task.channels, channel.inbox.bytes.waiting = []) :
    task.Quiescent config := by
  intro event hprogram
  cases event with
  | enqueueChannel =>
      have hnone := Mailbox.enqueue_eq_none (List.append_eq_nil_iff.mp hqueue).2
      simp [ServerTask.step, hnone]
  | takeChannel => simp [ServerTask.step, hphase, Mailbox.take_eq_none hqueue]
  | enqueueMessage id =>
      cases hchannel : task.channels[id]? with
      | none => simp [ServerTask.step, hchannel]
      | some channel =>
          have hnone := Mailbox.enqueue_eq_none (hwaiting channel (List.mem_of_getElem? hchannel))
          simp [ServerTask.step, hchannel, Inbox.enqueue, hnone]
  | connected | readLocal | sent | takeMessage | wrote => simp [ServerTask.step, hphase]
  | announce | opens | message | localData | localEof | fails => cases hprogram

/-- The client of a web server sends a request in two messages. The task writes the
first one and is through with the channel. -/
theorem second_message_lost :
    ∃ task channel, (serverSystem webConfig).run .start [.announce "80", .opens 0,
        .enqueueChannel, .takeChannel, .connected, .message 0 [1], .enqueueMessage 0,
        .message 0 [2], .enqueueMessage 0, .takeMessage, .wrote] = some task ∧
      task.Quiescent webConfig ∧ task.channels[0]? = some channel ∧
      channel.inbox.handled = [[1], [2]] ∧ channel.written = [[1]] ∧ ¬ task.Relays webConfig := by
  obtain ⟨task, htask, htest⟩ := (serverSystem webConfig).exists_run_of_any .start
    [.announce "80", .opens 0, .enqueueChannel, .takeChannel, .connected, .message 0 [1],
      .enqueueMessage 0, .message 0 [2], .enqueueMessage 0, .takeMessage, .wrote]
    (fun task => (task.phase = .idle ∧ task.queue.contents = [] ∧
      ∀ channel ∈ task.channels, channel.inbox.bytes.waiting = []) ∧
      (task.channels[0]?).any fun channel =>
        channel.socket.any (fun socket => socket.1 = .tcp) ∧
          channel.inbox.handled = [[1], [2]] ∧ channel.written = [[1]]) (by decide +kernel)
  obtain ⟨⟨hphase, hqueue, hwaiting⟩, hany⟩ := of_decide_eq_true htest
  have hquiescent : task.Quiescent webConfig := quiescent_of_idle hphase hqueue hwaiting
  obtain ⟨channel, hchannel, hlost⟩ := (Option.any_eq_true _ _).mp hany
  obtain ⟨hserved, hhandled, hwritten⟩ := of_decide_eq_true hlost
  obtain ⟨⟨kind, port⟩, hsocket, hkind⟩ := (Option.any_eq_true _ _).mp hserved
  obtain rfl : kind = .tcp := of_decide_eq_true hkind
  refine ⟨task, channel, htask, hquiescent, hchannel, hhandled, hwritten, fun hrelays => ?_⟩
  obtain ⟨hcomplete, _⟩ := hrelays.complete hquiescent channel (List.mem_of_getElem? hchannel)
    .tcp port hsocket
  simp [SocketKind.Complete, hhandled, hwritten] at hcomplete

end ServerTask

end MangleWebRTC.Tunnel
