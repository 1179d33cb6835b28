import MangleWebRTC.Machine.Slots
import MangleWebRTC.Tunnel.ServerSteps

/-! # The channels of the tunnel server are served one at a time

A channel enters the queue when it opens, at most once, and has no socket before
the task connects one for it. So the socket it gets is the one of its entry, and
its handler is registered exactly with the socket.
-/

namespace MangleWebRTC.Tunnel

open Machine

namespace ServerTask

/-- The invariant of the task's bookkeeping. -/
structure Orderly (config : List Channel) (task : ServerTask) : Prop where
  nodup : task.queue.contents.Nodup
  queued : ∀ id ∈ task.queue.contents, ∃ channel, task.channels[id]? = some channel ∧
    channel.opened = true ∧ channel.socket = none
  connecting : ∀ id kind port, task.phase = .connecting id kind port →
    id ∉ task.queue.contents ∧ ∃ channel, task.channels[id]? = some channel ∧
      channel.opened = true ∧ channel.socket = none ∧
      servedBy config channel.protocol = some (kind, port)
  relaying : ∀ id kind point, task.phase = .relaying id kind point →
    ∃ channel port, task.channels[id]? = some channel ∧ channel.socket = some (kind, port)
  served : ∀ (id : Nat) (channel : ServerChannel), task.channels[id]? = some channel → ∀ socket,
    channel.socket = some socket →
    channel.opened = true ∧ servedBy config channel.protocol = some socket
  registered : ∀ (id : Nat) (channel : ServerChannel), task.channels[id]? = some channel →
    channel.inbox.handler = channel.socket.isSome

variable {config : List Channel} {task : ServerTask}

theorem getElem?_setChannel {id : Nat} {channel next : ServerChannel}
    (hchannel : task.channels[id]? = some channel) (other : Nat) :
    (task.setChannel id next).channels[other]? =
      if other = id then some next else task.channels[other]? :=
  getElem?_set_of_some hchannel other

/-- A channel of the changed table is the new one, or was there before. -/
theorem eq_or_of_setChannel {id other : Nat} {channel next found : ServerChannel}
    (hchannel : task.channels[id]? = some channel)
    (hfound : (task.setChannel id next).channels[other]? = some found) :
    other = id ∧ found = next ∨ other ≠ id ∧ task.channels[other]? = some found :=
  eq_or_getElem?_of_set hchannel hfound

theorem orderly_start : start.Orderly config where
  nodup := List.nodup_nil
  queued id hmem := absurd hmem List.not_mem_nil
  connecting id kind port hphase := by cases hphase
  relaying id kind point hphase := by cases hphase
  served id channel hchannel := by simp [start] at hchannel
  registered id channel hchannel := by simp [start] at hchannel

/-- Two states of a channel that the bookkeeping does not distinguish. -/
structure SamePlace (before after : ServerChannel) : Prop where
  protocol : after.protocol = before.protocol
  opened : before.opened = true → after.opened = true
  socket : after.socket = before.socket
  handler : after.inbox.handler = before.inbox.handler

theorem SamePlace.refl (channel : ServerChannel) : SamePlace channel channel :=
  ⟨rfl, id, rfl, rfl⟩

/-- Messages, local data and what is done with them. -/
theorem SamePlace.traffic {channel : ServerChannel} {closed : Bool} {inbox : Inbox}
    {incoming delivered read sent written : List (List UInt8)}
    (hhandler : inbox.handler = channel.inbox.handler) :
    SamePlace channel ⟨channel.protocol, channel.opened, closed, inbox, channel.socket, incoming,
      delivered, read, sent, written⟩ :=
  ⟨rfl, id, rfl, hhandler⟩

/-- The invariant speaks about the places of the channels only. Channels without a
socket and a handler may come in addition. -/
theorem Orderly.transfer (horderly : task.Orderly config) {channels : List ServerChannel}
    (hkeeps : ∀ (id : Nat) (found : ServerChannel), task.channels[id]? = some found →
      ∃ kept, channels[id]? = some kept ∧ SamePlace found kept)
    (hback : ∀ (id : Nat) (kept : ServerChannel), channels[id]? = some kept →
      (∃ found, task.channels[id]? = some found ∧ SamePlace found kept) ∨
        kept.socket = none ∧ kept.inbox.handler = false) :
    Orderly config { task with channels := channels } := by
  refine ⟨horderly.nodup, ?_, ?_, ?_, ?_, ?_⟩
  · intro id hmem
    obtain ⟨found, hfound, hopen, hnone⟩ := horderly.queued id hmem
    obtain ⟨kept, hkept, hplace⟩ := hkeeps id found hfound
    exact ⟨kept, hkept, hplace.opened hopen, hplace.socket.trans hnone⟩
  · intro id kind port hphase
    obtain ⟨hmem, found, hfound, hopen, hnone, hserved⟩ :=
      horderly.connecting id kind port hphase
    obtain ⟨kept, hkept, hplace⟩ := hkeeps id found hfound
    exact ⟨hmem, kept, hkept, hplace.opened hopen, hplace.socket.trans hnone,
      hplace.protocol ▸ hserved⟩
  · intro id kind point hphase
    obtain ⟨found, port, hfound, hsocket⟩ := horderly.relaying id kind point hphase
    obtain ⟨kept, hkept, hplace⟩ := hkeeps id found hfound
    exact ⟨kept, port, hkept, hplace.socket.trans hsocket⟩
  · intro id kept hkept socket hsocket
    rcases hback id kept hkept with ⟨found, hfound, hplace⟩ | ⟨hnone, _⟩
    · obtain ⟨hopen, hserved⟩ :=
        horderly.served id found hfound socket (hplace.socket.symm.trans hsocket)
      exact ⟨hplace.opened hopen, hplace.protocol ▸ hserved⟩
    · exact absurd (hnone.symm.trans hsocket) (Option.some_ne_none socket).symm
  · intro id kept hkept
    rcases hback id kept hkept with ⟨found, hfound, hplace⟩ | ⟨hnone, hsilent⟩
    · rw [hplace.handler, hplace.socket]
      exact horderly.registered id found hfound
    · rw [hsilent, hnone, Option.isSome_none]

/-- Traffic of a channel that has a place does not move it. -/
theorem Orderly.setChannel (horderly : task.Orderly config) {id : Nat}
    {channel next : ServerChannel} (hchannel : task.channels[id]? = some channel)
    (hplace : SamePlace channel next) : (task.setChannel id next).Orderly config := by
  apply horderly.transfer
  · intro other found hfound
    have hget := @getElem?_setChannel task id channel next hchannel other
    by_cases hother : other = id
    · subst hother
      obtain rfl := Option.some.inj (hchannel.symm.trans hfound)
      exact ⟨next, hget.trans (if_pos (Eq.refl other)), hplace⟩
    · exact ⟨found, hget.trans ((if_neg hother).trans hfound), .refl found⟩
  · intro other kept hkept
    rcases eq_or_of_setChannel hchannel hkept with ⟨rfl, rfl⟩ | ⟨_, hbefore⟩
    · exact .inl ⟨channel, hchannel, hplace⟩
    · exact .inl ⟨kept, hbefore, .refl kept⟩

/-- A task that serves no channel. -/
theorem Orderly.rest (horderly : task.Orderly config) {phase : TaskPhase}
    (hphase : phase = .idle ∨ phase = .panicked) : Orderly config { task with phase := phase } := by
  refine ⟨horderly.nodup, horderly.queued, ?_, ?_, horderly.served, horderly.registered⟩
  · rintro id kind port rfl
    rcases hphase with hphase | hphase <;> cases hphase
  · rintro id kind point rfl
    rcases hphase with hphase | hphase <;> cases hphase

/-- The relay of a channel goes on to another point. -/
theorem Orderly.relay (horderly : task.Orderly config) {id : Nat} {kind : SocketKind}
    {point : RelayPoint} (hphase : task.phase = .relaying id kind point) (next : RelayPoint) :
    Orderly config { task with phase := .relaying id kind next } := by
  refine ⟨horderly.nodup, horderly.queued, ?_, ?_, horderly.served, horderly.registered⟩
  · intro other kind' port hother
    cases hother
  · intro other kind' point' hother
    obtain ⟨rfl, rfl, _⟩ := TaskPhase.relaying.inj hother
    exact horderly.relaying id kind point hphase

/-- A queue that lost at most its first element. -/
theorem Orderly.shrink (horderly : task.Orderly config) {queue : Mailbox Nat 1}
    (hsub : queue.contents.Sublist task.queue.contents) :
    Orderly config { task with queue := queue } := by
  refine ⟨horderly.nodup.sublist hsub, fun id hmem => horderly.queued id (hsub.subset hmem), ?_,
    horderly.relaying, horderly.served, horderly.registered⟩
  intro id kind port hphase
  obtain ⟨hmem, hplace⟩ := horderly.connecting id kind port hphase
  exact ⟨fun hqueue => hmem (hsub.subset hqueue), hplace⟩

theorem Orderly.announce (horderly : task.Orderly config) (protocol : String) :
    Orderly config { task with channels := task.channels ++ [.new protocol] } := by
  apply horderly.transfer
  · intro id channel hchannel
    obtain ⟨hlength, _⟩ := List.getElem?_eq_some_iff.mp hchannel
    exact ⟨channel, (List.getElem?_append_left hlength).trans hchannel, .refl channel⟩
  · intro id channel hchannel
    rcases Nat.lt_or_ge id task.channels.length with hlength | hlength
    · rw [List.getElem?_append_left hlength] at hchannel
      exact .inl ⟨channel, hchannel, .refl channel⟩
    · rw [List.getElem?_append_right hlength] at hchannel
      rw [List.mem_singleton.mp (List.mem_of_getElem? hchannel)]
      exact .inr ⟨rfl, rfl⟩

/-- A channel that opens has had no place before. -/
theorem Orderly.opens (horderly : task.Orderly config) {id : Nat} {channel : ServerChannel}
    (hchannel : task.channels[id]? = some channel) (hfirst : channel.opened = false) :
    Orderly config { task.setChannel id { channel with opened := true } with
      queue := task.queue.offer id } := by
  have hnone : channel.socket = none := by
    rw [Option.eq_none_iff_forall_ne_some]
    intro socket hsocket
    exact absurd (hfirst.symm.trans (horderly.served id channel hchannel socket hsocket).1)
      Bool.false_ne_true
  have hfresh : id ∉ task.queue.contents := by
    intro hmem
    obtain ⟨found, hfound, hopen, _⟩ := horderly.queued id hmem
    obtain rfl := Option.some.inj (hchannel.symm.trans hfound)
    exact absurd (hfirst.symm.trans hopen) Bool.false_ne_true
  have hset : (task.setChannel id { channel with opened := true }).Orderly config :=
    horderly.setChannel hchannel ⟨rfl, fun _ => rfl, rfl, rfl⟩
  refine ⟨?_, ?_, ?_, hset.relaying, hset.served, hset.registered⟩
  · rw [Mailbox.contents_offer]
    exact List.nodup_append.mpr ⟨horderly.nodup, List.nodup_singleton id, by
      intro other hmem last hlast heq
      exact hfresh (List.mem_singleton.mp hlast ▸ heq ▸ hmem)⟩
  · intro other hmem
    rw [Mailbox.contents_offer, List.mem_append, List.mem_singleton] at hmem
    rcases hmem with hmem | rfl
    · exact hset.queued other hmem
    · refine ⟨{ channel with opened := true }, ?_, rfl, hnone⟩
      rw [getElem?_setChannel hchannel, if_pos rfl]
  · intro other kind port hphase
    obtain ⟨hmem, hplace⟩ := hset.connecting other kind port hphase
    refine ⟨?_, hplace⟩
    rw [Mailbox.contents_offer, List.mem_append, List.mem_singleton]
    rintro (hqueue | rfl)
    · exact hmem hqueue
    · obtain ⟨_, found, hfound, hopen, _⟩ := horderly.connecting other kind port hphase
      obtain rfl := Option.some.inj (hchannel.symm.trans hfound)
      exact absurd (hfirst.symm.trans hopen) Bool.false_ne_true

/-- The task takes a channel out of the queue and connects a socket for it. -/
theorem Orderly.serve (horderly : task.Orderly config) {id : Nat} {queue : Mailbox Nat 1}
    {channel : ServerChannel} {kind : SocketKind} {port : Port}
    (htake : task.queue.take = some (id, queue)) (hchannel : task.channels[id]? = some channel)
    (hserved : servedBy config channel.protocol = some (kind, port)) :
    Orderly config { task with queue := queue, phase := .connecting id kind port } := by
  have hcontents := Mailbox.contents_take htake
  have hnodup := horderly.nodup
  rw [hcontents] at hnodup
  have hshrink := horderly.shrink (hcontents ▸ List.sublist_cons_self id queue.contents)
  refine ⟨hshrink.nodup, hshrink.queued, ?_, ?_, hshrink.served, hshrink.registered⟩
  · intro other kind' port' hphase
    obtain ⟨rfl, rfl, rfl⟩ := TaskPhase.connecting.inj hphase
    obtain ⟨found, hfound, hopen, hnone⟩ :=
      horderly.queued id (hcontents ▸ List.mem_cons_self)
    obtain rfl := Option.some.inj (hchannel.symm.trans hfound)
    exact ⟨(List.nodup_cons.mp hnodup).1, channel, hchannel, hopen, hnone, hserved⟩
  · intro other kind' point hphase
    cases hphase

/-- The channel gets its socket and its handler together. -/
theorem Orderly.connected (horderly : task.Orderly config) {id : Nat} {kind : SocketKind}
    {port : Port} {channel : ServerChannel} (hphase : task.phase = .connecting id kind port)
    (hchannel : task.channels[id]? = some channel) :
    Orderly config { task.setChannel id { channel with
        inbox := channel.inbox.register, socket := some (kind, port) } with
      phase := .relaying id kind .select } := by
  obtain ⟨hfresh, found, hfound, hopen, _, hserved⟩ := horderly.connecting id kind port hphase
  obtain rfl := Option.some.inj (hchannel.symm.trans hfound)
  have hget := @getElem?_setChannel task id channel { channel with
    inbox := channel.inbox.register, socket := some (kind, port) } hchannel
  refine ⟨horderly.nodup, ?_, ?_, ?_, ?_, ?_⟩
  · intro other hmem
    obtain ⟨waiting, hwaiting, hplace⟩ := horderly.queued other hmem
    -- A channel that is being connected is no longer in the queue.
    have hother : other ≠ id := fun heq => hfresh (heq ▸ hmem)
    exact ⟨waiting, (hget other).trans ((if_neg hother).trans hwaiting), hplace⟩
  · intro other kind' port' hother
    cases hother
  · intro other kind' point hother
    obtain ⟨rfl, rfl, _⟩ := TaskPhase.relaying.inj hother
    exact ⟨_, port, (hget id).trans (if_pos rfl), rfl⟩
  · intro other kept hkept socket hsocket
    rcases ite_eq_iff.mp ((hget other).symm.trans hkept) with ⟨_, heq⟩ | ⟨_, hbefore⟩
    · obtain rfl := Option.some.inj heq
      obtain rfl := Option.some.inj hsocket
      exact ⟨hopen, hserved⟩
    · exact horderly.served other kept hbefore socket hsocket
  · intro other kept hkept
    rcases ite_eq_iff.mp ((hget other).symm.trans hkept) with ⟨_, heq⟩ | ⟨_, hbefore⟩
    · obtain rfl := Option.some.inj heq
      rfl
    · exact horderly.registered other kept hbefore

@[simp] theorem handler_arrive (inbox : Inbox) (msg : List UInt8) :
    (inbox.arrive msg).handler = inbox.handler := by
  unfold Inbox.arrive
  split <;> rfl

/-- One step of the task or of its environment. -/
theorem Orderly.step {next : ServerTask} {event : ServerEvent} (horderly : task.Orderly config)
    (hstep : Step config task event next) : next.Orderly config := by
  cases hstep with
  | announce protocol => exact horderly.announce protocol
  | opens id channel hchannel hfirst => exact horderly.opens hchannel hfirst
  | message id msg channel hchannel =>
      exact horderly.setChannel hchannel (.traffic (handler_arrive _ msg))
  | localData id chunk channel kind port hchannel _ =>
      exact horderly.setChannel hchannel (.traffic rfl)
  | enqueueChannel queue hqueue =>
      exact horderly.shrink (Mailbox.contents_enqueue hqueue ▸ List.Sublist.refl _)
  | close id queue channel _ htake hchannel =>
      have hset : (task.setChannel id { channel with closed := true }).Orderly config :=
        horderly.setChannel hchannel (.traffic rfl)
      exact hset.shrink (Mailbox.contents_take htake ▸ List.sublist_cons_self id queue.contents)
  | pass id queue _ htake =>
      have hshrink := horderly.shrink
        (Mailbox.contents_take htake ▸ List.sublist_cons_self id queue.contents)
      exact hshrink.rest (.inl rfl)
  | serve id queue channel kind port _ htake hchannel hserved =>
      exact horderly.serve htake hchannel hserved
  | connected id kind port channel hphase hchannel => exact horderly.connected hphase hchannel
  | enqueueMessage id channel inbox hchannel hinbox =>
      obtain ⟨_, _, _, _, rfl⟩ := Inbox.enqueue_eq_some hinbox
      exact horderly.setChannel hchannel (.traffic rfl)
  | readLocal id kind channel chunk rest hphase hchannel _ =>
      exact (horderly.relay hphase _).setChannel hchannel (.traffic rfl)
  | localEof id hphase => exact horderly.relay hphase _
  | sent id kind bytes channel hphase hchannel =>
      exact (horderly.rest (.inl rfl)).setChannel hchannel (.traffic rfl)
  | takeMessage id kind channel msg inbox hphase hchannel htake =>
      obtain ⟨_, _, rfl⟩ := Inbox.take_eq_some htake
      exact (horderly.relay hphase _).setChannel hchannel (.traffic rfl)
  | wrote id kind msg channel hphase hchannel =>
      exact (horderly.rest (.inl rfl)).setChannel hchannel (.traffic rfl)
  | failsConnecting id kind port hphase => exact horderly.rest (.inr rfl)
  | failsRelaying id kind point channel hphase hchannel =>
      exact (horderly.rest (.inr rfl)).setChannel hchannel (.traffic rfl)

end ServerTask

end MangleWebRTC.Tunnel
