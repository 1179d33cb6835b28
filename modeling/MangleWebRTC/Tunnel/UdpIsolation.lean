import MangleWebRTC.Machine.Slots
import MangleWebRTC.Tunnel.UdpSessions
import Mathlib.Data.List.Flatten
import Mathlib.Data.List.Nodup
import Mathlib.Data.List.Perm.Basic

/-! # UDP sessions do not mix

Whatever the order of datagrams, messages and ends of tasks: a session sends only what
came from its source, and its socket sends only what came from its data channel. An
address has one entry, which is removed when a send on it fails.
-/

namespace MangleWebRTC.Tunnel

open Machine

namespace UdpSession

variable {Addr : Type}

/-- The successful steps of a session and of its data channel. -/
inductive Step (session : UdpSession Addr) : UdpSessionEvent → UdpSession Addr → Prop
  | opens : Step session .opens { session with opened := true }
  | message (msg : List UInt8) :
      Step session (.message msg) { session with inbox := session.inbox.arrive msg }
  | enqueueMessage (inbox : Inbox) (hinbox : session.inbox.enqueue = some inbox) :
      Step session .enqueueMessage { session with inbox := inbox }
  | takeEmpty (queue : Mailbox (List UInt8) 3) (hpoint : session.point = .select)
      (htake : session.queue.take = some ([], queue)) :
      Step session .takePayload { session with queue := queue }
  | takePayload (payload : List UInt8) (queue : Mailbox (List UInt8) 3)
      (hpoint : session.point = .select) (hpayload : payload ≠ [])
      (htake : session.queue.take = some (payload, queue)) :
      Step session .takePayload { session with queue := queue, point := .sending payload }
  | sent (payload : List UInt8) (hpoint : session.point = .sending payload) :
      Step session .sent { session with point := .select, sent := session.sent ++ [payload] }
  | takeMessage (msg : List UInt8) (inbox : Inbox) (hpoint : session.point = .select)
      (htake : session.inbox.take = some (msg, inbox)) :
      Step session .takeMessage { session with inbox := inbox, point := .writing msg }
  | wrote (msg : List UInt8) (hpoint : session.point = .writing msg) :
      Step session .wrote { session with point := .select, written := session.written ++ [msg] }
  | ends (hpoint : session.point ≠ .ended) :
      Step session .ends { session with
        point := .ended, queue := .empty, inbox := session.inbox.dropReceiver }

theorem Step.of_step {session next : UdpSession Addr} {event : UdpSessionEvent}
    (hstep : session.step event = some next) : Step session event next := by
  cases event with
  | opens =>
      simp only [step] at hstep
      split at hstep
      · cases hstep
      · exact Option.some.inj hstep ▸ .opens
  | message msg =>
      simp only [step] at hstep
      split at hstep
      · exact Option.some.inj hstep ▸ .message msg
      · cases hstep
  | enqueueMessage =>
      obtain ⟨inbox, hinbox, rfl⟩ := Option.map_eq_some_iff.mp hstep
      exact .enqueueMessage inbox hinbox
  | takePayload =>
      simp only [step] at hstep
      split at hstep
      next hpoint =>
        obtain ⟨⟨payload, queue⟩, htake, rfl⟩ := Option.map_eq_some_iff.mp hstep
        by_cases hpayload : payload = []
        · subst hpayload
          rw [if_pos rfl, ← hpoint]
          exact .takeEmpty queue hpoint htake
        · rw [if_neg hpayload]
          exact .takePayload payload queue hpoint hpayload htake
      · cases hstep
  | sent =>
      simp only [step] at hstep
      split at hstep
      next payload hpoint => exact Option.some.inj hstep ▸ .sent payload hpoint
      · cases hstep
  | takeMessage =>
      simp only [step] at hstep
      split at hstep
      next hpoint =>
        obtain ⟨⟨msg, inbox⟩, htake, rfl⟩ := Option.map_eq_some_iff.mp hstep
        exact .takeMessage msg inbox hpoint htake
      · cases hstep
  | wrote =>
      simp only [step] at hstep
      split at hstep
      next msg hpoint => exact Option.some.inj hstep ▸ .wrote msg hpoint
      · cases hstep
  | ends =>
      simp only [step] at hstep
      split at hstep
      · cases hstep
      next hpoint => exact Option.some.inj hstep ▸ .ends hpoint

/-- The payload that the task is sending. -/
def inHand (session : UdpSession Addr) : List (List UInt8) :=
  match session.point with
  | .sending payload => [payload]
  | _ => []

/-- The message that the task is writing. -/
def inWriting (session : UdpSession Addr) : List (List UInt8) :=
  match session.point with
  | .writing msg => [msg]
  | _ => []

/-- What a session has sent, is sending and has in its queue was put there in this
order, and what its socket has sent is the beginning of what its channel received. -/
structure Sound (session : UdpSession Addr) : Prop where
  outbound : (session.sent ++ session.inHand ++ session.queue.contents).Sublist session.accepted
  handler : session.inbox.handler = true
  running : session.point ≠ .ended → session.inbox.receiver = true ∧
    session.written ++ session.inWriting ++ session.inbox.bytes.contents = session.inbox.arrived
  stopped : session.point = .ended →
    session.inbox.receiver = false ∧ session.written <+: session.inbox.arrived

theorem sound_start (addr : Addr) (payload : List UInt8) : (start addr payload).Sound where
  outbound := List.Sublist.refl _
  handler := rfl
  running _ := ⟨rfl, rfl⟩
  stopped hpoint := by cases hpoint

theorem Sound.written_isPrefix {session : UdpSession Addr} (hsound : session.Sound) :
    session.written <+: session.inbox.arrived := by
  by_cases hpoint : session.point = .ended
  · exact (hsound.stopped hpoint).2
  · rw [← (hsound.running hpoint).2, List.append_assoc]
    exact List.prefix_append _ _

theorem Sound.sent_sublist {session : UdpSession Addr} (hsound : session.Sound) :
    session.sent.Sublist session.accepted :=
  ((List.sublist_append_left _ _).trans (List.sublist_append_left _ _)).trans hsound.outbound

theorem Sound.accept {session next : UdpSession Addr} {payload : List UInt8}
    (hsound : session.Sound) (haccept : session.accept payload = some next) : next.Sound := by
  unfold UdpSession.accept at haccept
  split at haccept
  · cases haccept
  · obtain ⟨queue, hqueue, rfl⟩ := Option.map_eq_some_iff.mp haccept
    refine ⟨?_, hsound.handler, hsound.running, hsound.stopped⟩
    have hcontents := Mailbox.contents_enqueue hqueue
    rw [Mailbox.contents_offer] at hcontents
    have houtbound := hsound.outbound.append (List.Sublist.refl [payload])
    rwa [List.append_assoc, ← hcontents] at houtbound

theorem Sound.step {session next : UdpSession Addr} {event : UdpSessionEvent}
    (hsound : session.Sound) (hstep : Step session event next) : next.Sound := by
  have houtbound := hsound.outbound
  have hrunning := hsound.running
  have hstopped := hsound.stopped
  cases hstep with
  | opens => exact ⟨houtbound, hsound.handler, hrunning, hstopped⟩
  | message msg =>
      have harrived : (session.inbox.arrive msg).arrived = session.inbox.arrived ++ [msg] := by
        simp [Inbox.arrive, hsound.handler]
      refine ⟨houtbound, by simp [Inbox.arrive, hsound.handler], fun hpoint => ?_,
        fun hpoint => ?_⟩
      · obtain ⟨hreceiver, hbalance⟩ := hrunning hpoint
        simp only [harrived, ← hbalance]
        simp [Inbox.arrive, hsound.handler, hreceiver, inWriting]
      · obtain ⟨hreceiver, hwritten⟩ := hstopped hpoint
        simp only [harrived]
        exact ⟨by simp [Inbox.arrive, hsound.handler, hreceiver],
          hwritten.trans (List.prefix_append _ _)⟩
  | enqueueMessage inbox hinbox =>
      obtain ⟨msg, bytes, hbytes, _, rfl⟩ := Inbox.enqueue_eq_some hinbox
      refine ⟨houtbound, hsound.handler, fun hpoint => ?_, hstopped⟩
      obtain ⟨hreceiver, hbalance⟩ := hrunning hpoint
      refine ⟨hreceiver, ?_⟩
      rw [Mailbox.contents_enqueue hbytes]
      exact hbalance
  | takeEmpty queue hpoint htake =>
      refine ⟨?_, hsound.handler, hrunning, hstopped⟩
      rw [Mailbox.contents_take htake] at houtbound
      exact ((List.Sublist.refl _).append (List.sublist_cons_self _ _)).trans houtbound
  | takePayload payload queue hpoint _ htake =>
      have hopen : session.point ≠ .ended := by simp [hpoint]
      obtain ⟨hreceiver, hbalance⟩ := hrunning hopen
      refine ⟨?_, hsound.handler, fun _ => ⟨hreceiver, ?_⟩, fun hstopped => by cases hstopped⟩
      · rw [Mailbox.contents_take htake] at houtbound
        simpa [inHand, hpoint] using houtbound
      · simpa [inWriting, hpoint] using hbalance
  | sent payload hpoint =>
      have hopen : session.point ≠ .ended := by simp [hpoint]
      obtain ⟨hreceiver, hbalance⟩ := hrunning hopen
      refine ⟨?_, hsound.handler, fun _ => ⟨hreceiver, ?_⟩, fun hstopped => by cases hstopped⟩
      · simpa [inHand, hpoint] using houtbound
      · simpa [inWriting, hpoint] using hbalance
  | takeMessage msg inbox hpoint htake =>
      have hopen : session.point ≠ .ended := by simp [hpoint]
      obtain ⟨hreceiver, hbalance⟩ := hrunning hopen
      obtain ⟨bytes, hbytes, rfl⟩ := Inbox.take_eq_some htake
      refine ⟨?_, hsound.handler, fun _ => ⟨hreceiver, ?_⟩, fun hstopped => by cases hstopped⟩
      · simpa [inHand, hpoint] using houtbound
      · rw [Mailbox.contents_take hbytes] at hbalance
        simpa [inWriting, hpoint] using hbalance
  | wrote msg hpoint =>
      have hopen : session.point ≠ .ended := by simp [hpoint]
      obtain ⟨hreceiver, hbalance⟩ := hrunning hopen
      refine ⟨?_, hsound.handler, fun _ => ⟨hreceiver, ?_⟩, fun hstopped => by cases hstopped⟩
      · simpa [inHand, hpoint] using houtbound
      · simpa [inWriting, hpoint] using hbalance
  | ends hpoint =>
      refine ⟨?_, hsound.handler, fun hopen => absurd rfl hopen,
        fun _ => ⟨rfl, hsound.written_isPrefix⟩⟩
      simpa [inHand, Mailbox.empty, Mailbox.contents] using hsound.sent_sublist

/-- A step of a session is no business of the listener. -/
theorem Step.frame {session next : UdpSession Addr} {event : UdpSessionEvent}
    (hstep : Step session event next) : next.addr = session.addr ∧
      next.accepted = session.accepted ∧
      (next.point ≠ .ended → session.point ≠ .ended) := by
  cases hstep with
  | opens | message | enqueueMessage | takeEmpty => exact ⟨rfl, rfl, id⟩
  | takePayload _ _ hpoint | sent _ hpoint | takeMessage _ _ hpoint | wrote _ hpoint =>
      exact ⟨rfl, rfl, fun _ => by simp [hpoint]⟩
  | ends hpoint => exact ⟨rfl, rfl, fun _ => hpoint⟩

theorem accept_eq_some {session next : UdpSession Addr} {payload : List UInt8}
    (haccept : session.accept payload = some next) : session.point ≠ .ended ∧
      next.addr = session.addr ∧ next.point = session.point ∧
      next.accepted = session.accepted ++ [payload] ∧ next.opened = session.opened := by
  unfold UdpSession.accept at haccept
  split at haccept
  · cases haccept
  next hpoint =>
    obtain ⟨queue, _, rfl⟩ := Option.map_eq_some_iff.mp haccept
    exact ⟨hpoint, rfl, rfl, rfl, rfl⟩

end UdpSession

namespace UdpSessions

variable {Addr : Type} [DecidableEq Addr]

/-- The successful steps of the listener, of the sessions and of the data channels. -/
inductive Step (udp : UdpSessions Addr) : UdpSessionsEvent Addr → UdpSessions Addr → Prop
  | queued (addr : Addr) (id : Nat) (payload : List UInt8) (hpoint : udp.point = .receiving)
      (hentry : udp.entry addr = some id) :
      Step udp (.datagram addr payload) { udp with
        point := .sending addr id payload
        arrived := Function.update udp.arrived addr (udp.arrived addr ++ [payload]) }
  | opened (addr : Addr) (payload : List UInt8) (hpoint : udp.point = .receiving)
      (hentry : udp.entry addr = none) :
      Step udp (.datagram addr payload) { udp with
        existingChannelSenders := (addr, udp.sessions.length) :: udp.existingChannelSenders
        sessions := udp.sessions ++ [.start addr payload]
        arrived := Function.update udp.arrived addr (udp.arrived addr ++ [payload]) }
  | handed (addr : Addr) (id : Nat) (payload : List UInt8) (session next : UdpSession Addr)
      (hpoint : udp.point = .sending addr id payload)
      (hsession : udp.sessions[id]? = some session)
      (haccept : session.accept payload = some next) :
      Step udp .handed { udp with
        point := .receiving, sessions := udp.sessions.set id next }
  | sendFails (addr : Addr) (id : Nat) (payload : List UInt8) (session : UdpSession Addr)
      (hpoint : udp.point = .sending addr id payload)
      (hsession : udp.sessions[id]? = some session) (hended : session.point = .ended) :
      Step udp .sendFails { udp with
        point := .receiving
        existingChannelSenders := udp.existingChannelSenders.filter fun held => held.1 ≠ addr
        discarded := Function.update udp.discarded addr (udp.discarded addr ++ [payload]) }
  | session (id : Nat) (event : UdpSessionEvent) (session next : UdpSession Addr)
      (hsession : udp.sessions[id]? = some session)
      (hstep : UdpSession.Step session event next) :
      Step udp (.session id event) { udp with sessions := udp.sessions.set id next }

theorem Step.of_step {udp next : UdpSessions Addr} {event : UdpSessionsEvent Addr}
    (hstep : udp.step event = some next) : Step udp event next := by
  cases event with
  | datagram addr payload =>
      simp only [step] at hstep
      split at hstep
      next hpoint =>
        split at hstep
        next id hentry => exact Option.some.inj hstep ▸ .queued addr id payload hpoint hentry
        next hentry => exact Option.some.inj hstep ▸ .opened addr payload hpoint hentry
      · cases hstep
  | handed =>
      simp only [step] at hstep
      split at hstep
      next addr id payload hpoint =>
        obtain ⟨session, hsession, hrest⟩ := Option.bind_eq_some_iff.mp hstep
        obtain ⟨next, haccept, hnext⟩ := Option.bind_eq_some_iff.mp hrest
        exact Option.some.inj hnext ▸
          .handed addr id payload session next hpoint hsession haccept
      · cases hstep
  | sendFails =>
      simp only [step] at hstep
      split at hstep
      next addr id payload hpoint =>
        obtain ⟨session, hsession, hrest⟩ := Option.bind_eq_some_iff.mp hstep
        split at hrest
        next hended =>
          exact Option.some.inj hrest ▸
            .sendFails addr id payload session hpoint hsession hended
        · cases hrest
      · cases hstep
  | session id event =>
      obtain ⟨session, hsession, hrest⟩ := Option.bind_eq_some_iff.mp hstep
      obtain ⟨next, hnext, hrest⟩ := Option.bind_eq_some_iff.mp hrest
      exact Option.some.inj hrest ▸ .session id event session next hsession (.of_step hnext)

/-- What the listener has put into the queues of the sessions of an address, session
after session. -/
def handedTo (udp : UdpSessions Addr) (addr : Addr) : List (List UInt8) :=
  (udp.sessions.filter fun session => session.addr = addr).flatMap (·.accepted)

/-- What the sessions of an address have sent on their data channels, session after
session. -/
def sentFor (udp : UdpSessions Addr) (addr : Addr) : List (List UInt8) :=
  (udp.sessions.filter fun session => session.addr = addr).flatMap (·.sent)

/-- The payload of an address that the listener is sending to its session. -/
def inHand (udp : UdpSessions Addr) (addr : Addr) : List (List UInt8) :=
  match udp.point with
  | .sending current _ payload => if current = addr then [payload] else []
  | .receiving => []

/-- The balance of one address: what was handed over and what is in hand arrived in this
order, and the rest was discarded. -/
structure Balanced (handed inHand arrived discarded : List (List UInt8)) : Prop where
  order : (handed ++ inHand).Sublist arrived
  account : arrived.Perm (handed ++ inHand ++ discarded)

namespace Balanced

variable {handed arrived discarded : List (List UInt8)}

theorem nil : Balanced [] [] [] [] := ⟨List.Sublist.refl _, List.Perm.refl _⟩

theorem arrive (hbalance : Balanced handed [] arrived discarded) (payload : List UInt8) :
    Balanced handed [payload] (arrived ++ [payload]) discarded := by
  obtain ⟨horder, haccount⟩ := hbalance
  rw [List.append_nil] at horder haccount
  refine ⟨horder.append (List.Sublist.refl _), (haccount.append_right _).trans ?_⟩
  rw [List.append_assoc, List.append_assoc]
  exact List.Perm.append_left _ List.perm_append_comm

theorem hand {payload : List UInt8} (hbalance : Balanced handed [payload] arrived discarded) :
    Balanced (handed ++ [payload]) [] arrived discarded := by
  obtain ⟨horder, haccount⟩ := hbalance
  exact ⟨by rwa [List.append_nil], by rwa [List.append_nil]⟩

theorem discard {payload : List UInt8} (hbalance : Balanced handed [payload] arrived discarded) :
    Balanced handed [] arrived (discarded ++ [payload]) := by
  obtain ⟨horder, haccount⟩ := hbalance
  rw [List.append_assoc] at haccount
  refine ⟨?_, haccount.trans ?_⟩
  · rw [List.append_nil]
    exact (List.sublist_append_left _ _).trans horder
  · rw [List.append_nil]
    exact List.Perm.append_left _ List.perm_append_comm

end Balanced

/-- The bookkeeping of the listener. The entry of an address leads to the last session
of that address, and a session that runs has its entry. -/
structure Separate (udp : UdpSessions Addr) : Prop where
  sound : ∀ (id : Nat) (session : UdpSession Addr), udp.sessions[id]? = some session →
    session.Sound
  keys : (udp.existingChannelSenders.map Prod.fst).Nodup
  entries : ∀ addr id, (addr, id) ∈ udp.existingChannelSenders →
    (∃ session, udp.sessions[id]? = some session ∧ session.addr = addr) ∧
      ∀ (other : Nat) (session : UdpSession Addr), udp.sessions[other]? = some session →
        session.addr = addr → other ≤ id
  running : ∀ (id : Nat) (session : UdpSession Addr), udp.sessions[id]? = some session →
    session.point ≠ .ended → (session.addr, id) ∈ udp.existingChannelSenders
  sending : ∀ addr id payload, udp.point = .sending addr id payload →
    (addr, id) ∈ udp.existingChannelSenders
  balance : ∀ addr, Balanced (udp.handedTo addr) (udp.inHand addr) (udp.arrived addr)
    (udp.discarded addr)

theorem separate_start : (start : UdpSessions Addr).Separate where
  sound id session hsession := by simp [start] at hsession
  keys := List.nodup_nil
  entries addr id hmem := by simp [start] at hmem
  running id session hsession := by simp [start] at hsession
  sending addr id payload hpoint := by cases hpoint
  balance _ := .nil

variable {udp : UdpSessions Addr}

theorem entry_eq_some {addr : Addr} {id : Nat} (hentry : udp.entry addr = some id) :
    (addr, id) ∈ udp.existingChannelSenders := by
  obtain ⟨⟨found, _⟩, hfind, rfl⟩ := Option.map_eq_some_iff.mp hentry
  have hfound : found = addr := by simpa using List.find?_some hfind
  exact hfound ▸ List.mem_of_find?_eq_some hfind

theorem entry_eq_none_iff {addr : Addr} :
    udp.entry addr = none ↔ ∀ held ∈ udp.existingChannelSenders, held.1 ≠ addr := by
  simp [entry]

theorem Separate.balance_receiving (hsep : udp.Separate) (hpoint : udp.point = .receiving)
    (addr : Addr) :
    Balanced (udp.handedTo addr) [] (udp.arrived addr) (udp.discarded addr) := by
  simpa only [inHand, hpoint] using hsep.balance addr

theorem Separate.balance_sending (hsep : udp.Separate) {addr : Addr} {id : Nat}
    {payload : List UInt8} (hpoint : udp.point = .sending addr id payload) (other : Addr) :
    Balanced (udp.handedTo other) (if addr = other then [payload] else []) (udp.arrived other)
      (udp.discarded other) := by
  simpa only [inHand, hpoint] using hsep.balance other

/-- A datagram of an address with an entry goes to the listener's hand. -/
theorem Separate.queued (hsep : udp.Separate) {addr : Addr} {id : Nat} (payload : List UInt8)
    (hpoint : udp.point = .receiving) (hentry : udp.entry addr = some id) :
    Separate { udp with
      point := .sending addr id payload
      arrived := Function.update udp.arrived addr (udp.arrived addr ++ [payload]) } := by
  refine ⟨hsep.sound, hsep.keys, hsep.entries, hsep.running, ?_, ?_⟩
  · intro other id' payload' hsending
    obtain ⟨rfl, rfl, _⟩ := UdpListenerPoint.sending.inj hsending
    exact entry_eq_some hentry
  · intro other
    have hbalance := hsep.balance_receiving hpoint other
    by_cases hother : other = addr
    · subst hother
      simpa [inHand, handedTo] using hbalance.arrive payload
    · simpa [inHand, handedTo, hother, Ne.symm hother] using hbalance

/-- A datagram of an address without an entry starts a session. -/
theorem Separate.opened (hsep : udp.Separate) {addr : Addr} (payload : List UInt8)
    (hpoint : udp.point = .receiving) (hentry : udp.entry addr = none) :
    Separate { udp with
      existingChannelSenders := (addr, udp.sessions.length) :: udp.existingChannelSenders
      sessions := udp.sessions ++ [.start addr payload]
      arrived := Function.update udp.arrived addr (udp.arrived addr ++ [payload]) } := by
  have hfresh := entry_eq_none_iff.mp hentry
  -- An index is an old one, or that of the new session.
  have hindex : ∀ (id : Nat) (session : UdpSession Addr),
      (udp.sessions ++ [UdpSession.start addr payload])[id]? = some session →
      udp.sessions[id]? = some session ∨
        id = udp.sessions.length ∧ session = .start addr payload := by
    intro id session hsession
    rcases Nat.lt_or_ge id udp.sessions.length with hlength | hlength
    · rw [List.getElem?_append_left hlength] at hsession
      exact .inl hsession
    · rw [List.getElem?_append_right hlength] at hsession
      obtain ⟨hbound, hget⟩ := List.getElem?_eq_some_iff.mp hsession
      simp only [List.length_singleton] at hbound
      refine .inr ⟨by omega, ?_⟩
      simpa using hget.symm
  refine ⟨?_, ?_, ?_, ?_, ?_, ?_⟩
  · intro id session hsession
    rcases hindex id session hsession with hbefore | ⟨_, rfl⟩
    · exact hsep.sound id session hbefore
    · exact UdpSession.sound_start addr payload
  · refine List.nodup_cons.mpr ⟨?_, hsep.keys⟩
    intro hmem
    obtain ⟨held, hheld, heq⟩ := List.mem_map.mp hmem
    exact hfresh held hheld heq
  · intro other id hmem
    rcases List.mem_cons.mp hmem with heq | hmem
    · obtain ⟨rfl, rfl⟩ := Prod.mk.inj heq
      refine ⟨⟨.start other payload, by simp, rfl⟩, ?_⟩
      intro later session hsession _
      obtain ⟨hbound, _⟩ := List.getElem?_eq_some_iff.mp hsession
      simp only [List.length_append, List.length_singleton] at hbound
      omega
    · obtain ⟨⟨session, hsession, haddr⟩, hlast⟩ := hsep.entries other id hmem
      obtain ⟨hbound, _⟩ := List.getElem?_eq_some_iff.mp hsession
      refine ⟨⟨session, ?_, haddr⟩, ?_⟩
      · exact (List.getElem?_append_left hbound).trans hsession
      · intro later found hfound hsame
        rcases hindex later found hfound with hbefore | ⟨_, rfl⟩
        · exact hlast later found hbefore hsame
        · exact absurd hsame.symm (hfresh (other, id) hmem)
  · intro id session hsession hrunning
    rcases hindex id session hsession with hbefore | ⟨rfl, rfl⟩
    · exact List.mem_cons_of_mem _ (hsep.running id session hbefore hrunning)
    · exact List.mem_cons_self
  · intro other id payload' hsending
    cases hpoint.symm.trans hsending
  · intro other
    have hbalance := hsep.balance_receiving hpoint other
    by_cases hother : other = addr
    · subst hother
      simpa [handedTo, inHand, hpoint, UdpSession.start] using (hbalance.arrive payload).hand
    · simpa [handedTo, inHand, hpoint, UdpSession.start, hother, Ne.symm hother] using hbalance

/-- Two entries of one address are the same entry. -/
theorem Separate.entry_unique (hsep : udp.Separate) {addr : Addr} {first second : Nat}
    (hfirst : (addr, first) ∈ udp.existingChannelSenders)
    (hsecond : (addr, second) ∈ udp.existingChannelSenders) : first = second :=
  congrArg Prod.snd (List.inj_on_of_nodup_map hsep.keys hfirst hsecond rfl)

/-- The send on the queue of an ended session fails: entry and payload are dropped. -/
theorem Separate.sendFails (hsep : udp.Separate) {addr : Addr} {id : Nat}
    {payload : List UInt8} {session : UdpSession Addr}
    (hpoint : udp.point = .sending addr id payload)
    (hsession : udp.sessions[id]? = some session) (hended : session.point = .ended) :
    Separate { udp with
      point := .receiving
      existingChannelSenders := udp.existingChannelSenders.filter fun held => held.1 ≠ addr
      discarded :=
        Function.update udp.discarded addr (udp.discarded addr ++ [payload]) } := by
  have hsending := hsep.sending addr id payload hpoint
  refine ⟨hsep.sound, ?_, ?_, ?_, ?_, ?_⟩
  · exact (List.Sublist.map Prod.fst List.filter_sublist).nodup hsep.keys
  · intro other held hmem
    exact hsep.entries other held (List.mem_of_mem_filter hmem)
  · intro other found hfound hrunning
    have hmem := hsep.running other found hfound hrunning
    refine List.mem_filter.mpr ⟨hmem, ?_⟩
    simp only [ne_eq, decide_not, Bool.not_eq_true', decide_eq_false_iff_not]
    -- A running session of this address would have the same entry.
    rintro rfl
    obtain rfl := hsep.entry_unique hsending hmem
    obtain rfl := Option.some.inj (hsession.symm.trans hfound)
    exact hrunning hended
  · intro other held payload' hother
    cases hother
  · intro other
    have hbalance := hsep.balance_sending hpoint other
    by_cases hother : other = addr
    · subst hother
      rw [if_pos rfl] at hbalance
      simpa [handedTo, inHand] using hbalance.discard
    · rw [if_neg (Ne.symm hother)] at hbalance
      simpa [handedTo, inHand, hother] using hbalance

/-- A change of one session that keeps its source and does not revive it. -/
theorem Separate.setSession (hsep : udp.Separate) {id : Nat} {session next : UdpSession Addr}
    {point : UdpListenerPoint Addr} (hsession : udp.sessions[id]? = some session)
    (hsound : next.Sound) (haddr : next.addr = session.addr)
    (hrunning : next.point ≠ .ended → session.point ≠ .ended)
    (hpoint : point = udp.point ∨ point = .receiving)
    (hbalance : ∀ addr, Balanced
      (((udp.sessions.set id next).filter fun session => session.addr = addr).flatMap (·.accepted))
      (inHand { udp with point := point } addr) (udp.arrived addr) (udp.discarded addr)) :
    Separate { udp with point := point, sessions := udp.sessions.set id next } := by
  refine ⟨?_, hsep.keys, ?_, ?_, ?_, hbalance⟩
  · intro other found hfound
    rcases eq_or_getElem?_of_set hsession hfound with ⟨rfl, rfl⟩ | ⟨_, hbefore⟩
    · exact hsound
    · exact hsep.sound other found hbefore
  · intro addr held hmem
    obtain ⟨⟨kept, hkept, hsame⟩, hlast⟩ := hsep.entries addr held hmem
    constructor
    · by_cases hheld : held = id
      · subst hheld
        obtain rfl := Option.some.inj (hsession.symm.trans hkept)
        exact ⟨next, getElem?_set_self_of_some hsession, haddr.trans hsame⟩
      · refine ⟨kept, ?_, hsame⟩
        exact (getElem?_set_of_some hsession held).trans ((if_neg hheld).trans hkept)
    · intro other found hfound hsame'
      rcases eq_or_getElem?_of_set hsession hfound with ⟨rfl, rfl⟩ | ⟨_, hbefore⟩
      · exact hlast other session hsession (haddr.symm.trans hsame')
      · exact hlast other found hbefore hsame'
  · intro other found hfound hopen
    rcases eq_or_getElem?_of_set hsession hfound with ⟨rfl, rfl⟩ | ⟨_, hbefore⟩
    · rw [haddr]
      exact hsep.running other session hsession (hrunning hopen)
    · exact hsep.running other found hbefore hopen
  · intro addr held payload hsending
    rcases hpoint with rfl | rfl
    · exact hsep.sending addr held payload hsending
    · cases hsending

/-- The payload in hand enters the queue of the last session of its address. -/
theorem Separate.handed (hsep : udp.Separate) {addr : Addr} {id : Nat} {payload : List UInt8}
    {session next : UdpSession Addr} (hpoint : udp.point = .sending addr id payload)
    (hsession : udp.sessions[id]? = some session)
    (haccept : session.accept payload = some next) :
    Separate { udp with point := .receiving, sessions := udp.sessions.set id next } := by
  obtain ⟨hrunning, haddr, hsame, haccepted, _⟩ := UdpSession.accept_eq_some haccept
  obtain ⟨⟨found, hfound, hfoundAddr⟩, hlast⟩ :=
    hsep.entries addr id (hsep.sending addr id payload hpoint)
  obtain rfl := Option.some.inj (hsession.symm.trans hfound)
  refine hsep.setSession hsession ((hsep.sound id session hsession).accept haccept) haddr
    (fun _ => hrunning) (.inr rfl) ?_
  intro other
  have hbalance := hsep.balance_sending hpoint other
  by_cases hother : addr = other
  · subst hother
    rw [if_pos rfl] at hbalance
    have hkind : decide (session.addr = addr) = true := by simpa using hfoundAddr
    rw [flatMap_filter_set_last hsession
      (fun index kept hkept hkeptAddr => hlast index kept hkept (by simpa using hkeptAddr))
      hkind (by rw [haddr]; exact hkind) haccepted]
    exact hbalance.hand
  · rw [if_neg hother] at hbalance
    rw [flatMap_filter_set hsession (by rw [haddr]) ?_]
    · exact hbalance
    · intro hkind
      exact absurd (hfoundAddr.symm.trans (by simpa using hkind)) hother

theorem Separate.session (hsep : udp.Separate) {id : Nat} {session next : UdpSession Addr}
    {event : UdpSessionEvent} (hsession : udp.sessions[id]? = some session)
    (hstep : UdpSession.Step session event next) :
    Separate { udp with sessions := udp.sessions.set id next } := by
  obtain ⟨haddr, haccepted, hrunning⟩ := hstep.frame
  refine hsep.setSession hsession ((hsep.sound id session hsession).step hstep) haddr hrunning
    (.inl rfl) fun addr => ?_
  rw [flatMap_filter_set hsession (by rw [haddr]) fun _ => haccepted]
  exact hsep.balance addr

/-- One step of the listener, of a session or of a data channel. -/
theorem Separate.step {next : UdpSessions Addr} {event : UdpSessionsEvent Addr}
    (hsep : udp.Separate) (hstep : Step udp event next) : next.Separate := by
  cases hstep with
  | queued addr id payload hpoint hentry => exact hsep.queued payload hpoint hentry
  | opened addr payload hpoint hentry => exact hsep.opened payload hpoint hentry
  | handed addr id payload session next hpoint hsession haccept =>
      exact hsep.handed hpoint hsession haccept
  | sendFails addr id payload session hpoint hsession hended =>
      exact hsep.sendFails hpoint hsession hended
  | session id event session next hsession hstep => exact hsep.session hsession hstep

/-- What holds of the sessions in every reachable state. The sessions of an address
together send what arrived from it, in order and at most once; a socket sends what its
session's data channel received; an address has one entry, of a session with this
source. What arrived is with a session or in the listener's hand, or was discarded. A
step discards only a payload whose session has ended, and removes the entry; without
an entry the next datagram of the address starts a session. -/
structure Isolated (udp : UdpSessions Addr) : Prop where
  outbound : ∀ addr, (udp.sentFor addr).Sublist (udp.arrived addr)
  outboundEach : ∀ session ∈ udp.sessions, session.sent.Sublist (udp.arrived session.addr)
  inboundEach : ∀ session ∈ udp.sessions, session.written <+: session.inbox.arrived
  oneEntry : (udp.existingChannelSenders.map Prod.fst).Nodup ∧
    ∀ addr id, (addr, id) ∈ udp.existingChannelSenders →
      ∃ session, udp.sessions[id]? = some session ∧ session.addr = addr
  account : ∀ addr,
    (udp.arrived addr).Perm (udp.handedTo addr ++ udp.inHand addr ++ udp.discarded addr)
  discards : ∀ event next, udp.step event = some next → next.discarded ≠ udp.discarded →
    ∃ addr id payload session, udp.point = .sending addr id payload ∧
      (addr, id) ∈ udp.existingChannelSenders ∧ udp.sessions[id]? = some session ∧
      session.addr = addr ∧ session.point = .ended ∧
      next.discarded = Function.update udp.discarded addr (udp.discarded addr ++ [payload]) ∧
      next.entry addr = none
  fresh : ∀ addr, udp.entry addr = none → ∀ event next, udp.step event = some next →
    next.entry addr = none ∨ ∃ payload, event = .datagram addr payload ∧
      next.sessions = udp.sessions ++ [.start addr payload] ∧
      next.entry addr = some udp.sessions.length

theorem Separate.sent_sublist (hsep : udp.Separate) (addr : Addr) :
    (udp.sentFor addr).Sublist (udp.handedTo addr) := by
  apply List.Sublist.flatMap_right
  intro session hmem
  obtain ⟨id, hsession⟩ := List.getElem?_of_mem (List.mem_of_mem_filter hmem)
  exact (hsep.sound id session hsession).sent_sublist

theorem Separate.handed_sublist (hsep : udp.Separate) (addr : Addr) :
    (udp.handedTo addr).Sublist (udp.arrived addr) :=
  (List.sublist_append_left _ _).trans (hsep.balance addr).order

/-- Without an entry only a datagram of the address can make one. -/
theorem entry_of_step {next : UdpSessions Addr} {event : UdpSessionsEvent Addr} {addr : Addr}
    (hentry : udp.entry addr = none) (hstep : Step udp event next) :
    next.entry addr = none ∨ ∃ payload, event = .datagram addr payload ∧
      next.sessions = udp.sessions ++ [.start addr payload] ∧
      next.entry addr = some udp.sessions.length := by
  cases hstep with
  | queued | handed | session => exact .inl hentry
  | opened other payload =>
      by_cases hother : other = addr
      · subst hother
        exact .inr ⟨payload, rfl, rfl, by simp [entry]⟩
      · apply Or.inl
        rw [entry_eq_none_iff] at hentry ⊢
        rintro held hheld
        rcases List.mem_cons.mp hheld with rfl | hheld
        · exact hother
        · exact hentry held hheld
  | sendFails other =>
      apply Or.inl
      rw [entry_eq_none_iff] at hentry ⊢
      exact fun held hheld => hentry held (List.mem_of_mem_filter hheld)

/-- Under every interleaving of datagrams, messages and ends of sessions, the sessions
stay isolated. -/
theorem udp_sessions_isolated {udp : UdpSessions Addr}
    (hreach : (udpSessionsSystem Addr).Reachable udp) : udp.Isolated := by
  have hsep : udp.Separate := by
    apply hreach.invariant Separate
    · rintro start rfl
      exact separate_start
    · intro state event next hstate _ hstep
      exact hstate.step (.of_step hstep)
  refine ⟨fun addr => (hsep.sent_sublist addr).trans (hsep.handed_sublist addr), ?_, ?_,
    ⟨hsep.keys, fun addr id hmem => (hsep.entries addr id hmem).1⟩,
    fun addr => (hsep.balance addr).account, ?_,
    fun addr hentry event next hstep => entry_of_step hentry (.of_step hstep)⟩
  · intro session hmem
    obtain ⟨id, hsession⟩ := List.getElem?_of_mem hmem
    refine (hsep.sound id session hsession).sent_sublist.trans
      (.trans ?_ (hsep.handed_sublist session.addr))
    have hkind : session ∈ udp.sessions.filter fun other => other.addr = session.addr :=
      List.mem_filter.mpr ⟨hmem, by simp⟩
    exact List.sublist_flatten_of_mem (List.mem_map_of_mem hkind)
  · intro session hmem
    obtain ⟨id, hsession⟩ := List.getElem?_of_mem hmem
    exact (hsep.sound id session hsession).written_isPrefix
  · intro event next hstep hdiscarded
    cases Step.of_step hstep with
    | queued | opened | handed | session => exact absurd rfl hdiscarded
    | sendFails addr id payload session hpoint hsession hended =>
        have hmem := hsep.sending addr id payload hpoint
        obtain ⟨⟨found, hfound, haddr⟩, _⟩ := hsep.entries addr id hmem
        obtain rfl := Option.some.inj (hsession.symm.trans hfound)
        refine ⟨addr, id, payload, session, hpoint, hmem, hsession, haddr, hended, rfl, ?_⟩
        rw [entry_eq_none_iff]
        intro held hheld
        simpa using (List.mem_filter.mp hheld).2

/-- Two sources; the first session ends, its next datagram is discarded and the one
after it starts a new session. -/
theorem udp_sessions_isolated_restart :
    ∃ udp, (udpSessionsSystem Bool).run .start
        [.datagram true [1], .datagram false [2], .session 0 .takePayload, .session 0 .opens,
          .session 0 .sent, .session 0 .ends, .datagram true [3], .sendFails,
          .datagram true [4], .session 2 .takePayload, .session 2 .opens,
          .session 2 .sent] = some udp ∧
      udp.sentFor true = [[1], [4]] ∧ udp.discarded true = [[3]] ∧ udp.Isolated := by
  obtain ⟨udp, hrun, htest⟩ := (udpSessionsSystem Bool).exists_run_of_any .start
    [.datagram true [1], .datagram false [2], .session 0 .takePayload, .session 0 .opens,
      .session 0 .sent, .session 0 .ends, .datagram true [3], .sendFails, .datagram true [4],
      .session 2 .takePayload, .session 2 .opens, .session 2 .sent]
    (fun udp => udp.sentFor true = [[1], [4]] ∧ udp.discarded true = [[3]])
    (by decide +kernel)
  obtain ⟨hsent, hdiscarded⟩ := of_decide_eq_true htest
  exact ⟨udp, hrun, hsent, hdiscarded, udp_sessions_isolated (.of_run rfl hrun)⟩

end UdpSessions

end MangleWebRTC.Tunnel
