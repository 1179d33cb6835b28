import MangleWebRTC.Tunnel.Routing
import MangleWebRTC.Tunnel.ServerInvariant

/-! # What the tunnel server exposes

A remote client chooses the protocol strings of its data channels freely. The sockets
that the task opens for them stay within the configuration, and a channel with an
unknown protocol is closed and leaves no trace.
-/

namespace MangleWebRTC.Tunnel

open Machine

/-- `SocketAddrV4`. -/
structure SocketAddrV4 where
  octets : UInt8 × UInt8 × UInt8 × UInt8
  port : Port
  deriving DecidableEq

/-- `SocketAddrV4::new(Ipv4Addr::LOCALHOST, port.get())`. -/
def SocketAddrV4.localhost (port : Port) : SocketAddrV4 := ⟨(127, 0, 0, 1), port⟩

/-- The `connect` call that a phase waits for: the channel it is made for, the kind of
the socket and the address. -/
def TaskPhase.connects : TaskPhase → Option (Nat × SocketKind × SocketAddrV4)
  | .connecting id kind port => some (id, kind, .localhost port)
  | _ => none

/-- Some entry of this kind has the address and is exported under the protocol: its
`remap.unwrap_or(port)`, written in decimal, is the protocol. -/
def Offers (config : List Channel) (protocol : String) (kind : SocketKind)
    (addr : SocketAddrV4) : Prop :=
  ∃ entry ∈ config, ∃ exported port, entry.Exports kind exported ∧
    toString exported.val = protocol ∧ entry.target = some (kind, port) ∧
    addr = .localhost port

/-- The protocol is the key of no entry. -/
def Unknown (config : List Channel) (protocol : String) : Prop :=
  ∀ entry ∈ config, entry.key ≠ protocol

theorem allowedChannels_of_unknown {config : List Channel} {protocol : String}
    (hunknown : Unknown config protocol) : allowedChannels config protocol = none := by
  rw [allowedChannels_eq]
  exact lastWithKey_eq_none_iff.mpr hunknown

theorem offers_of_servedBy {config : List Channel} {protocol : String} {kind : SocketKind}
    {port : Port} (hserved : servedBy config protocol = some (kind, port)) :
    Offers config protocol kind (.localhost port) := by
  obtain ⟨entry, hentry, htarget⟩ := Option.bind_eq_some_iff.mp hserved
  rw [allowedChannels_eq] at hentry
  obtain ⟨hmem, rfl⟩ := lastWithKey_eq_some hentry
  cases entry with
  | udp port remap _ | tcp port remap _ =>
      obtain ⟨rfl, rfl⟩ := Prod.mk.inj (Option.some.inj htarget)
      exact ⟨_, hmem, remap.getD _, _, ⟨rfl, rfl⟩, rfl, rfl, rfl⟩
  | localSocket _ _ _ => cases htarget

namespace ServerTask

variable {config : List Channel} {task : ServerTask}

/-- What the task does with the next channel of its queue. -/
theorem takeChannel_eq_some {next : ServerTask}
    (hstep : task.step config .takeChannel = some next) :
    ∃ id queue channel, task.phase = .idle ∧ task.queue.take = some (id, queue) ∧
      task.channels[id]? = some channel ∧
      ((allowedChannels config channel.protocol = none ∧
          next = { task.setChannel id { channel with closed := true } with queue := queue }) ∨
        ∃ entry, allowedChannels config channel.protocol = some entry ∧
          next = { task with queue := queue, phase := dispatch id entry.target }) := by
  simp only [step] at hstep
  split at hstep
  next hphase =>
    obtain ⟨⟨id, queue⟩, htake, hrest⟩ := Option.bind_eq_some_iff.mp hstep
    obtain ⟨channel, hchannel, hrest⟩ := Option.bind_eq_some_iff.mp hrest
    refine ⟨id, queue, channel, hphase, htake, hchannel, ?_⟩
    simp only at hrest
    split at hrest
    next hnone => exact .inl ⟨hnone, (Option.some.inj hrest).symm⟩
    next entry hentry => exact .inr ⟨entry, hentry, (Option.some.inj hrest).symm⟩
  · cases hstep

/-- Every opened channel with an unknown protocol waits in the queue or was closed. -/
def UnknownClosed (config : List Channel) (task : ServerTask) : Prop :=
  ∀ (id : Nat) (channel : ServerChannel), task.channels[id]? = some channel →
    Unknown config channel.protocol → channel.opened = true →
    channel.closed = true ∨ id ∈ task.queue.contents

/-- Traffic of a channel neither opens nor closes it. -/
theorem UnknownClosed.setChannel (hclosed : task.UnknownClosed config) {id : Nat}
    {channel next : ServerChannel} (hchannel : task.channels[id]? = some channel)
    (hprotocol : next.protocol = channel.protocol) (hopened : next.opened = channel.opened)
    (hkept : next.closed = channel.closed) : (task.setChannel id next).UnknownClosed config := by
  intro other kept hfound hunknown hopen
  rcases eq_or_of_setChannel hchannel hfound with ⟨rfl, rfl⟩ | ⟨_, hbefore⟩
  · rw [hkept]
    exact hclosed other channel hchannel (hprotocol ▸ hunknown) (hopened ▸ hopen)
  · exact hclosed other kept hbefore hunknown hopen

/-- The channel that is taken out of the queue is closed, unless an entry has its protocol. -/
theorem UnknownClosed.takeChannel (hclosed : task.UnknownClosed config) {next : ServerTask}
    (hstep : task.step config .takeChannel = some next) : next.UnknownClosed config := by
  obtain ⟨id, queue, channel, _, htake, hchannel, hnext⟩ := takeChannel_eq_some hstep
  have hcontents := Mailbox.contents_take htake
  intro other kept hfound hunknown hopen
  rcases hnext with ⟨_, rfl⟩ | ⟨entry, hentry, rfl⟩
  · rcases eq_or_of_setChannel hchannel hfound with ⟨rfl, rfl⟩ | ⟨hother, hbefore⟩
    · exact .inl rfl
    · have hplace := hclosed other kept hbefore hunknown hopen
      rw [hcontents, List.mem_cons] at hplace
      exact hplace.imp_right fun hmem => hmem.resolve_left hother
  · have hplace := hclosed other kept hfound hunknown hopen
    rw [hcontents, List.mem_cons] at hplace
    refine hplace.imp_right fun hmem => hmem.resolve_left ?_
    rintro rfl
    obtain rfl := Option.some.inj (hchannel.symm.trans hfound)
    cases (allowedChannels_of_unknown hunknown).symm.trans hentry

theorem UnknownClosed.announce (hclosed : task.UnknownClosed config) (protocol : String) :
    UnknownClosed config { task with channels := task.channels ++ [.new protocol] } := by
  intro id channel hchannel hunknown hopen
  rcases Nat.lt_or_ge id task.channels.length with hlength | hlength
  · rw [List.getElem?_append_left hlength] at hchannel
    exact hclosed id channel hchannel hunknown hopen
  · rw [List.getElem?_append_right hlength] at hchannel
    rw [List.mem_singleton.mp (List.mem_of_getElem? hchannel)] at hopen
    cases hopen

theorem UnknownClosed.opens (hclosed : task.UnknownClosed config) {id : Nat}
    {channel : ServerChannel} (hchannel : task.channels[id]? = some channel) :
    UnknownClosed config { task.setChannel id { channel with opened := true } with
      queue := task.queue.offer id } := by
  intro other kept hfound hunknown hopen
  rw [Mailbox.contents_offer, List.mem_append, List.mem_singleton]
  rcases eq_or_of_setChannel hchannel hfound with ⟨rfl, _⟩ | ⟨_, hbefore⟩
  · exact .inr (.inr rfl)
  · exact (hclosed other kept hbefore hunknown hopen).imp_right .inl

theorem UnknownClosed.step {next : ServerTask} {event : ServerEvent}
    (hclosed : task.UnknownClosed config) (hstep : task.step config event = some next) :
    next.UnknownClosed config := by
  cases Step.of_step hstep with
  | announce protocol => exact hclosed.announce protocol
  | opens id channel hchannel => exact hclosed.opens hchannel
  | enqueueChannel queue hqueue =>
      have hcontents := Mailbox.contents_enqueue hqueue
      intro id channel hchannel hunknown hopen
      exact hcontents ▸ hclosed id channel hchannel hunknown hopen
  | close | pass | serve => exact hclosed.takeChannel hstep
  | localEof | failsConnecting => exact hclosed
  | message id msg channel hchannel => exact hclosed.setChannel hchannel rfl rfl rfl
  | localData id chunk channel kind port hchannel => exact hclosed.setChannel hchannel rfl rfl rfl
  | connected id kind port channel _ hchannel => exact hclosed.setChannel hchannel rfl rfl rfl
  | enqueueMessage id channel inbox hchannel => exact hclosed.setChannel hchannel rfl rfl rfl
  | readLocal id kind channel chunk rest _ hchannel =>
      exact hclosed.setChannel hchannel rfl rfl rfl
  | sent id kind bytes channel _ hchannel => exact hclosed.setChannel hchannel rfl rfl rfl
  | takeMessage id kind channel msg inbox _ hchannel =>
      exact hclosed.setChannel hchannel rfl rfl rfl
  | wrote id kind msg channel _ hchannel => exact hclosed.setChannel hchannel rfl rfl rfl
  | failsRelaying id kind point channel _ hchannel =>
      exact hclosed.setChannel hchannel rfl rfl rfl

/-- The task opens sockets of configured entries only, and closes what has no entry. -/
structure Confined (config : List Channel) (task : ServerTask) : Prop where
  connects : ∀ id kind addr, task.phase.connects = some (id, kind, addr) →
    ∃ channel, task.channels[id]? = some channel ∧ Offers config channel.protocol kind addr
  connected : ∀ (channel : ServerChannel), channel ∈ task.channels → ∀ kind port,
    channel.socket = some (kind, port) →
    Offers config channel.protocol kind (.localhost port)
  unserved : ∀ (id : Nat) (channel : ServerChannel), task.channels[id]? = some channel →
    Unknown config channel.protocol →
    channel.socket = none ∧ task.phase.connects.map Prod.fst ≠ some id ∧
      (channel.opened = true → channel.closed = true ∨ id ∈ task.queue.contents)
  closes : ∀ (id : Nat) (queue : Mailbox Nat 1) (channel : ServerChannel),
    task.phase = .idle → task.queue.take = some (id, queue) →
    task.channels[id]? = some channel → Unknown config channel.protocol →
    ∃ next, task.step config .takeChannel = some next ∧ next.phase = .idle ∧
      next.queue = queue ∧ next.channels[id]? = some { channel with closed := true } ∧
      ∀ other, other ≠ id → next.channels[other]? = task.channels[other]?

theorem not_unknown_of_offers {protocol : String} {kind : SocketKind} {addr : SocketAddrV4}
    (hoffers : Offers config protocol kind addr) : ¬ Unknown config protocol := by
  obtain ⟨entry, hmem, exported, port, hexports, htext, _⟩ := hoffers
  exact fun hunknown => hunknown entry hmem (hexports.key.trans htext)

/-- Taking a channel without an entry closes it and changes nothing else. -/
theorem takeChannel_unknown {id : Nat} {queue : Mailbox Nat 1} {channel : ServerChannel}
    (hphase : task.phase = .idle) (htake : task.queue.take = some (id, queue))
    (hchannel : task.channels[id]? = some channel)
    (hunknown : Unknown config channel.protocol) :
    task.step config .takeChannel =
      some { task.setChannel id { channel with closed := true } with queue := queue } := by
  simp [step, hphase, htake, hchannel, allowedChannels_of_unknown hunknown]

/-- In every reachable state the task is confined to the configuration. -/
theorem only_configured_exposed {task : ServerTask}
    (hreach : (serverSystem config).Reachable task) : task.Confined config := by
  obtain ⟨horderly, hclosed⟩ : task.Orderly config ∧ task.UnknownClosed config := by
    apply hreach.invariant fun task => task.Orderly config ∧ task.UnknownClosed config
    · rintro start rfl
      exact ⟨orderly_start, fun id channel hchannel => by simp [start] at hchannel⟩
    · rintro state event next ⟨horderly, hclosed⟩ _ hstep
      exact ⟨horderly.step (.of_step hstep), UnknownClosed.step hclosed hstep⟩
  have hconnects : ∀ id kind addr, task.phase.connects = some (id, kind, addr) →
      ∃ channel, task.channels[id]? = some channel ∧
        Offers config channel.protocol kind addr := by
    intro id kind addr hconnects
    unfold TaskPhase.connects at hconnects
    split at hconnects
    next current kind' port hphase =>
      obtain ⟨rfl, hrest⟩ := Prod.mk.inj (Option.some.inj hconnects)
      obtain ⟨rfl, rfl⟩ := Prod.mk.inj hrest
      obtain ⟨_, channel, hchannel, _, _, hserved⟩ := horderly.connecting _ _ _ hphase
      exact ⟨channel, hchannel, offers_of_servedBy hserved⟩
    · cases hconnects
  refine ⟨hconnects, ?_, ?_, ?_⟩
  · intro channel hmem kind port hsocket
    obtain ⟨id, hchannel⟩ := List.mem_iff_getElem?.mp hmem
    exact offers_of_servedBy (horderly.served id channel hchannel _ hsocket).2
  · intro id channel hchannel hunknown
    refine ⟨?_, ?_, hclosed id channel hchannel hunknown⟩
    · rw [Option.eq_none_iff_forall_ne_some]
      intro socket hsocket
      have hserved := (horderly.served id channel hchannel socket hsocket).2
      exact not_unknown_of_offers (offers_of_servedBy hserved) hunknown
    · intro hconnecting
      obtain ⟨⟨_, kind, addr⟩, hphase, rfl⟩ := Option.map_eq_some_iff.mp hconnecting
      obtain ⟨found, hfound, hoffers⟩ := hconnects _ kind addr hphase
      obtain rfl := Option.some.inj (hchannel.symm.trans hfound)
      exact not_unknown_of_offers hoffers hunknown
  · intro id queue channel hphase htake hchannel hunknown
    refine ⟨_, takeChannel_unknown hphase htake hchannel hunknown, hphase, rfl, ?_, ?_⟩
    · exact (getElem?_setChannel hchannel id).trans (if_pos rfl)
    · intro other hother
      exact (getElem?_setChannel hchannel other).trans (if_neg hother)

/-- A channel with an unknown protocol is opened and closed, then the next one gets
the socket of its entry. -/
theorem only_configured_exposed_two :
    ∃ task, (serverSystem webConfig).run .start
        [.announce "22", .opens 0, .enqueueChannel, .announce "80", .opens 1, .takeChannel,
          .enqueueChannel, .takeChannel] = some task ∧
      task.phase.connects = some (1, .tcp, .localhost ⟨80, by decide⟩) ∧
      task.Confined webConfig := by
  obtain ⟨task, hrun, htest⟩ := (serverSystem webConfig).exists_run_of_any .start
    [.announce "22", .opens 0, .enqueueChannel, .announce "80", .opens 1, .takeChannel,
      .enqueueChannel, .takeChannel]
    (fun task => task.phase.connects = some (1, .tcp, .localhost ⟨80, by decide⟩))
    (by decide +kernel)
  exact ⟨task, hrun, of_decide_eq_true htest, only_configured_exposed (.of_run rfl hrun)⟩

end ServerTask

end MangleWebRTC.Tunnel
