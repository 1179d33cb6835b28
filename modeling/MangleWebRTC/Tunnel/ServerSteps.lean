import MangleWebRTC.Tunnel.Server
import Mathlib.Data.List.Nodup

/-! # What a step of the tunnel server can do

One constructor for every event. The task serves a channel at most once, and a
channel with a socket is served with the socket of its entry.
-/

namespace MangleWebRTC.Tunnel

open Machine

namespace ServerTask

variable {config : List Channel}

/-- The successful steps of the task and of its environment. -/
inductive Step (config : List Channel) (task : ServerTask) : ServerEvent → ServerTask → Prop
  | announce (protocol : String) : Step config task (.announce protocol)
      { task with channels := task.channels ++ [.new protocol] }
  | opens (id : Nat) (channel : ServerChannel) (hchannel : task.channels[id]? = some channel)
      (hfirst : channel.opened = false) : Step config task (.opens id)
      { task.setChannel id { channel with opened := true } with queue := task.queue.offer id }
  | message (id : Nat) (msg : List UInt8) (channel : ServerChannel)
      (hchannel : task.channels[id]? = some channel) : Step config task (.message id msg)
      (task.setChannel id { channel with inbox := channel.inbox.arrive msg })
  | localData (id : Nat) (chunk : List UInt8) (channel : ServerChannel) (kind : SocketKind)
      (port : Port) (hchannel : task.channels[id]? = some channel)
      (hsocket : channel.socket = some (kind, port)) (hreadable : kind.Readable chunk) :
      Step config task (.localData id chunk)
      (task.setChannel id { channel with
        incoming := channel.incoming ++ [chunk], delivered := channel.delivered ++ [chunk] })
  | enqueueChannel (queue : Mailbox Nat 1) (hqueue : task.queue.enqueue = some queue) :
      Step config task .enqueueChannel { task with queue := queue }
  | close (id : Nat) (queue : Mailbox Nat 1) (channel : ServerChannel)
      (hphase : task.phase = .idle) (htake : task.queue.take = some (id, queue))
      (hchannel : task.channels[id]? = some channel) :
      Step config task .takeChannel
        { task.setChannel id { channel with closed := true } with queue := queue }
  | pass (id : Nat) (queue : Mailbox Nat 1) (hphase : task.phase = .idle)
      (htake : task.queue.take = some (id, queue)) :
      Step config task .takeChannel { task with queue := queue, phase := .idle }
  | serve (id : Nat) (queue : Mailbox Nat 1) (channel : ServerChannel) (kind : SocketKind)
      (port : Port) (hphase : task.phase = .idle) (htake : task.queue.take = some (id, queue))
      (hchannel : task.channels[id]? = some channel)
      (hserved : servedBy config channel.protocol = some (kind, port)) :
      Step config task .takeChannel
        { task with queue := queue, phase := .connecting id kind port }
  | connected (id : Nat) (kind : SocketKind) (port : Port) (channel : ServerChannel)
      (hphase : task.phase = .connecting id kind port)
      (hchannel : task.channels[id]? = some channel) : Step config task .connected
        { task.setChannel id { channel with
            inbox := channel.inbox.register, socket := some (kind, port) } with
          phase := .relaying id kind .select }
  | enqueueMessage (id : Nat) (channel : ServerChannel) (inbox : Inbox)
      (hchannel : task.channels[id]? = some channel)
      (hinbox : channel.inbox.enqueue = some inbox) : Step config task (.enqueueMessage id)
      (task.setChannel id { channel with inbox := inbox })
  | readLocal (id : Nat) (kind : SocketKind) (channel : ServerChannel) (chunk : List UInt8)
      (rest : List (List UInt8)) (hphase : task.phase = .relaying id kind .select)
      (hchannel : task.channels[id]? = some channel)
      (hincoming : channel.incoming = chunk :: rest) : Step config task .readLocal
        { task.setChannel id { channel with
            incoming := rest, read := channel.read ++ [chunk.take kind.bufSize] } with
          phase := .relaying id kind (.sending (chunk.take kind.bufSize)) }
  | localEof (id : Nat) (hphase : task.phase = .relaying id .tcp .select) :
      Step config task .localEof { task with phase := .relaying id .tcp (.sending []) }
  | sent (id : Nat) (kind : SocketKind) (bytes : List UInt8) (channel : ServerChannel)
      (hphase : task.phase = .relaying id kind (.sending bytes))
      (hchannel : task.channels[id]? = some channel) : Step config task .sent
        { task.setChannel id { channel with
            inbox := channel.inbox.dropReceiver, sent := channel.sent ++ [bytes] } with
          phase := .idle }
  | takeMessage (id : Nat) (kind : SocketKind) (channel : ServerChannel) (msg : List UInt8)
      (inbox : Inbox) (hphase : task.phase = .relaying id kind .select)
      (hchannel : task.channels[id]? = some channel)
      (htake : channel.inbox.take = some (msg, inbox)) : Step config task .takeMessage
        { task.setChannel id { channel with inbox := inbox } with
          phase := .relaying id kind (.writing msg) }
  | wrote (id : Nat) (kind : SocketKind) (msg : List UInt8) (channel : ServerChannel)
      (hphase : task.phase = .relaying id kind (.writing msg))
      (hchannel : task.channels[id]? = some channel) : Step config task .wrote
        { task.setChannel id { channel with
            inbox := channel.inbox.dropReceiver
            written := channel.written ++ kind.writes msg } with
          phase := .idle }
  | failsConnecting (id : Nat) (kind : SocketKind) (port : Port)
      (hphase : task.phase = .connecting id kind port) :
      Step config task .fails { task with phase := .panicked }
  | failsRelaying (id : Nat) (kind : SocketKind) (point : RelayPoint) (channel : ServerChannel)
      (hphase : task.phase = .relaying id kind point)
      (hchannel : task.channels[id]? = some channel) : Step config task .fails
        { task.setChannel id { channel with inbox := channel.inbox.dropReceiver } with
          phase := .panicked }

theorem Step.of_step {task next : ServerTask} {event : ServerEvent}
    (hstep : task.step config event = some next) : Step config task event next := by
  cases event with
  | announce protocol => exact Option.some.inj hstep ▸ .announce protocol
  | opens id =>
      obtain ⟨channel, hchannel, hrest⟩ := Option.bind_eq_some_iff.mp hstep
      split at hrest
      · cases hrest
      next hfirst =>
        exact Option.some.inj hrest ▸ .opens id channel hchannel (by simpa using hfirst)
  | message id msg =>
      obtain ⟨channel, hchannel, hrest⟩ := Option.bind_eq_some_iff.mp hstep
      split at hrest
      · exact Option.some.inj hrest ▸ .message id msg channel hchannel
      · cases hrest
  | localData id chunk =>
      obtain ⟨channel, hchannel, hrest⟩ := Option.bind_eq_some_iff.mp hstep
      obtain ⟨⟨kind, port⟩, hsocket, hrest⟩ := Option.bind_eq_some_iff.mp hrest
      simp only at hrest
      split at hrest
      next hreadable =>
        exact Option.some.inj hrest ▸
          .localData id chunk channel kind port hchannel hsocket hreadable
      · cases hrest
  | enqueueChannel =>
      obtain ⟨queue, hqueue, rfl⟩ := Option.map_eq_some_iff.mp hstep
      exact .enqueueChannel queue hqueue
  | takeChannel =>
      simp only [step] at hstep
      split at hstep
      next hphase =>
        obtain ⟨⟨id, queue⟩, htake, hrest⟩ := Option.bind_eq_some_iff.mp hstep
        obtain ⟨channel, hchannel, hrest⟩ := Option.bind_eq_some_iff.mp hrest
        simp only at hrest
        split at hrest
        · exact Option.some.inj hrest ▸ .close id queue channel hphase htake hchannel
        next entry hentry =>
          obtain rfl := Option.some.inj hrest
          cases htarget : entry.target with
          | none => exact .pass id queue hphase htake
          | some socket =>
              refine .serve id queue channel socket.1 socket.2 hphase htake hchannel ?_
              simp [servedBy, hentry, htarget]
      · cases hstep
  | connected =>
      simp only [step] at hstep
      split at hstep
      next id kind port hphase =>
        obtain ⟨channel, hchannel, hrest⟩ := Option.bind_eq_some_iff.mp hstep
        exact Option.some.inj hrest ▸ .connected id kind port channel hphase hchannel
      · cases hstep
  | enqueueMessage id =>
      obtain ⟨channel, hchannel, hrest⟩ := Option.bind_eq_some_iff.mp hstep
      obtain ⟨inbox, hinbox, hrest⟩ := Option.bind_eq_some_iff.mp hrest
      exact Option.some.inj hrest ▸ .enqueueMessage id channel inbox hchannel hinbox
  | readLocal =>
      simp only [step] at hstep
      split at hstep
      next id kind hphase =>
        obtain ⟨channel, hchannel, hrest⟩ := Option.bind_eq_some_iff.mp hstep
        split at hrest
        · cases hrest
        next chunk rest hincoming =>
          exact Option.some.inj hrest ▸
            .readLocal id kind channel chunk rest hphase hchannel hincoming
      · cases hstep
  | localEof =>
      simp only [step] at hstep
      split at hstep
      next id hphase => exact Option.some.inj hstep ▸ .localEof id hphase
      · cases hstep
  | sent =>
      simp only [step] at hstep
      split at hstep
      next id kind bytes hphase =>
        obtain ⟨channel, hchannel, hrest⟩ := Option.bind_eq_some_iff.mp hstep
        exact Option.some.inj hrest ▸ .sent id kind bytes channel hphase hchannel
      · cases hstep
  | takeMessage =>
      simp only [step] at hstep
      split at hstep
      next id kind hphase =>
        obtain ⟨channel, hchannel, hrest⟩ := Option.bind_eq_some_iff.mp hstep
        obtain ⟨⟨msg, inbox⟩, htake, hrest⟩ := Option.bind_eq_some_iff.mp hrest
        exact Option.some.inj hrest ▸ .takeMessage id kind channel msg inbox hphase hchannel htake
      · cases hstep
  | wrote =>
      simp only [step] at hstep
      split at hstep
      next id kind msg hphase =>
        obtain ⟨channel, hchannel, hrest⟩ := Option.bind_eq_some_iff.mp hstep
        exact Option.some.inj hrest ▸ .wrote id kind msg channel hphase hchannel
      · cases hstep
  | fails =>
      simp only [step] at hstep
      split at hstep
      next id kind port hphase => exact Option.some.inj hstep ▸ .failsConnecting id kind port hphase
      next id kind point hphase =>
        obtain ⟨channel, hchannel, hrest⟩ := Option.bind_eq_some_iff.mp hstep
        exact Option.some.inj hrest ▸ .failsRelaying id kind point channel hphase hchannel
      · cases hstep

end ServerTask

end MangleWebRTC.Tunnel
