import MangleWebRTC.Upgrade.SessionRuns

/-! # Sends that cross

An end that sends a candidate does not receive. When both ends send, each waits for
room in its direction, and one of the two messages has to fit into the room there is.
Besides this, a session keeps track of the gathering of its peers.
-/

namespace MangleWebRTC.Upgrade

open Machine

namespace Link

variable {env : Environment} {Item : Type}

/-- The transport has room for what the current send has yet to write. -/
def Fits (link : Link env Item) (capacity : Option Nat) : Prop :=
  ∀ limit ∈ capacity, link.receiver.unread.length + link.outgoing.length ≤ limit

/-- The transport has room for a whole message. -/
def HasRoom (link : Link env Item) (capacity : Option Nat)
    (wire : Frame env.Sdp Item → (ty : WireType) × env.Value ty) (frame : Frame env.Sdp Item) :
    Prop :=
  ∀ limit ∈ capacity, link.receiver.unread.length + (frameBytes wire frame).length ≤ limit

theorem fits_write {link next : Link env Item} {capacity : Option Nat} {count : Nat}
    (hwrite : link.write capacity count = some next) (hfits : link.Fits capacity) :
    next.Fits capacity := by
  obtain rfl := write_eq_some hwrite
  intro limit hlimit
  have hroom := hfits limit hlimit
  simp only [List.length_append, List.length_take, List.length_drop]
  omega

theorem outgoing_write {link next : Link env Item} {capacity : Option Nat} {count : Nat}
    (hwrite : link.write capacity count = some next) (houtgoing : next.outgoing ≠ []) :
    link.outgoing ≠ [] := by
  obtain rfl := write_eq_some hwrite
  intro hnil
  exact houtgoing (by simp [hnil])

theorem outgoing_recv {link next : Link env Item} {ty : WireType} {action : RecvAction}
    {result : Option (Received env.Value env.Err)}
    (hrecv : link.recv ty action = some (next, result)) : next.outgoing = link.outgoing := by
  obtain ⟨⟨receiver, output⟩, _, hnext⟩ := Option.map_eq_some_iff.mp hrecv
  cases output <;> exact ((Prod.mk.inj hnext).1 ▸ rfl)

end Link

namespace IceLoop

variable {Out In : Type}

/-- The loop is in the arm that sends an event. -/
def isSending (loop : IceLoop Out In) : Bool :=
  match loop.point with
  | .sending _ => true
  | _ => false

theorem isSending_afterSend {loop : IceLoop Out In} {ice : Option Out} :
    ∀ next ∈ loop.afterSend ice, next.isSending = false := by
  intro next hnext
  cases ice with
  | some ice =>
      obtain rfl := Option.some.inj hnext
      rfl
  | none =>
      simp only [afterSend] at hnext
      split at hnext
      · cases hnext
      · obtain rfl := Option.some.inj hnext
        rfl

theorem isSending_afterEnd {loop : IceLoop Out In} :
    ∀ next ∈ loop.afterEnd, next.isSending = false := by
  intro next hnext
  simp only [afterEnd] at hnext
  split at hnext
  · cases hnext
  · obtain rfl := Option.some.inj hnext
    rfl

end IceLoop

namespace ClientPhase

variable {env : Environment}

/-- The loop is in the arm that sends an event. -/
def sendsIce : ClientPhase env → Bool
  | iceLoop loop => loop.isSending
  | _ => false

/-- The phase awaits `send_obj`. -/
def sends : ClientPhase env → Bool
  | sendingOffer _ => true
  | phase => phase.sendsIce

/-- Gathering starts with the local description, and the loop has its handler. -/
def Gathers (phase : ClientPhase env) (peer : Peer env.Candidate) : Prop :=
  match phase with
  | start | sendingOffer _ | settingLocal _ => peer.gathering = false
  | awaitingAnswer _ | settingRemote _ _ | addingIces _ => peer.gathering = true
  | iceLoop _ => peer.gathering = true ∧ peer.handler = true
  | returned | failed _ => True

theorem sends_of_expects {phase : ClientPhase env} {ty : WireType}
    (hexpects : phase.expects = some ty) : phase.sends = false := by
  unfold expects at hexpects
  split at hexpects
  · rfl
  · rfl
  · cases hexpects

theorem sendsIce_of_sends {phase : ClientPhase env} (hquiet : phase.sends = false) :
    phase.sendsIce = false := by
  cases phase with
  | iceLoop => exact hquiet
  | _ => rfl

theorem sendsIce_ofLoop {left : Option (ClientLoop env)}
    (hleft : ∀ loop ∈ left, loop.isSending = false) : (ofLoop left).sendsIce = false := by
  cases left with
  | none => rfl
  | some loop => exact hleft loop rfl

theorem gathers_ofLoop (left : Option (ClientLoop env)) {peer : Peer env.Candidate}
    (hpeer : peer.gathering = true ∧ peer.handler = true) : (ofLoop left).Gathers peer := by
  cases left with
  | none => trivial
  | some loop => exact hpeer

theorem Gathers.of_peer {phase : ClientPhase env} {peer other : Peer env.Candidate}
    (hgathers : phase.Gathers peer) (hgathering : other.gathering = peer.gathering)
    (hhandler : other.handler = peer.handler) : phase.Gathers other := by
  cases phase with
  | returned | failed => trivial
  | _ => simpa only [Gathers, hgathering, hhandler] using hgathers

/-- A completed call does not lead into a send. -/
theorem gathers_receive {phase next : ClientPhase env} {peer : Peer env.Candidate} {ty : WireType}
    {result : Received env.Value env.Err} (hgathers : phase.Gathers peer)
    (hexpects : phase.expects = some ty) (hreceive : phase.receive result = some next) :
    next.Gathers peer ∧ next.sendsIce = false := by
  unfold expects at hexpects
  split at hexpects
  next ices =>
    unfold receive at hreceive
    split at hreceive
    next hphase =>
      obtain rfl := ClientPhase.awaitingAnswer.inj hphase
      split at hreceive <;> obtain rfl := Option.some.inj hreceive
      · exact ⟨hgathers, rfl⟩
      · exact ⟨hgathers, rfl⟩
      · exact ⟨trivial, rfl⟩
    next hphase => cases hphase
    · cases hreceive
  next doneSending doneReceiving =>
    unfold receive at hreceive
    split at hreceive
    next hphase => cases hphase
    next hphase =>
      obtain rfl := ClientPhase.iceLoop.inj hphase
      split at hreceive <;> obtain rfl := Option.some.inj hreceive
      · exact ⟨hgathers, rfl⟩
      · exact ⟨gathers_ofLoop _ hgathers, sendsIce_ofLoop IceLoop.isSending_afterEnd⟩
      · exact ⟨trivial, rfl⟩
      · exact ⟨trivial, rfl⟩
    · cases hreceive
  · cases hexpects

end ClientPhase

namespace ServerPhase

variable {env : Environment}

/-- The task is in the arm that sends an event. -/
def sendsIce : ServerPhase env → Bool
  | iceLoop loop => loop.isSending
  | _ => false

/-- The task awaits `send_obj`. -/
def sends : ServerPhase env → Bool
  | sendingAnswer _ => true
  | phase => phase.sendsIce

/-- The peer gathers from `set_local_description` on, which comes before the loop. -/
def Gathers (phase : ServerPhase env) (peer : Peer env.Candidate) : Prop :=
  match phase with
  | iceLoop _ => peer.gathering = true
  | succeeded | failed _ => True
  | _ => peer.gathering = false

theorem sends_of_expects {phase : ServerPhase env} {ty : WireType}
    (hexpects : phase.expects = some ty) : phase.sends = false := by
  unfold expects at hexpects
  split at hexpects
  · rfl
  · rfl
  · cases hexpects

theorem sendsIce_of_sends {phase : ServerPhase env} (hquiet : phase.sends = false) :
    phase.sendsIce = false := by
  cases phase with
  | iceLoop => exact hquiet
  | _ => rfl

theorem sendsIce_ofLoop {left : Option (ServerLoop env)}
    (hleft : ∀ loop ∈ left, loop.isSending = false) : (ofLoop left).sendsIce = false := by
  cases left with
  | none => rfl
  | some loop => exact hleft loop rfl

theorem gathers_ofLoop (left : Option (ServerLoop env)) {peer : Peer env.Candidate}
    (hpeer : peer.gathering = true) : (ofLoop left).Gathers peer := by
  cases left with
  | none => trivial
  | some loop => exact hpeer

theorem Gathers.of_peer {phase : ServerPhase env} {peer other : Peer env.Candidate}
    (hgathers : phase.Gathers peer) (hgathering : other.gathering = peer.gathering) :
    phase.Gathers other := by
  cases phase with
  | succeeded | failed => trivial
  | _ => simpa only [Gathers, hgathering] using hgathers

end ServerPhase

/-- A completed call does not lead into a send. An offer finds a peer that has gathered
nothing. -/
theorem Server.gathers_receive {env : Environment} {server next : Server env} {ty : WireType}
    {result : Received env.Value env.Err} (hgathers : server.phase.Gathers server.peer)
    (hexpects : server.phase.expects = some ty) (hreceive : server.receive result = some next) :
    next.phase.Gathers next.peer ∧ next.phase.sendsIce = false ∧
      ((server.peer.ended = true → none ∈ server.emitted server.round) →
        next.peer.ended = true → none ∈ next.emitted next.round) := by
  unfold ServerPhase.expects at hexpects
  split at hexpects
  next hphase =>
    unfold receive at hreceive
    split at hreceive
    · split at hreceive <;> obtain rfl := Option.some.inj hreceive
      · exact ⟨rfl, rfl, fun _ hended => Bool.noConfusion hended⟩
      · exact ⟨trivial, rfl, id⟩
    next hother => cases hphase.symm.trans hother
    · cases hreceive
  next doneSending doneReceiving hphase =>
    rw [hphase] at hgathers
    unfold receive at hreceive
    split at hreceive
    next hother => cases hphase.symm.trans hother
    next loop _ hother =>
      split at hreceive <;> obtain rfl := Option.some.inj hreceive
      · exact ⟨hgathers, rfl, id⟩
      · exact ⟨ServerPhase.gathers_ofLoop _ hgathers,
          ServerPhase.sendsIce_ofLoop IceLoop.isSending_afterEnd, id⟩
      · exact ⟨trivial, rfl, id⟩
    · cases hreceive
  · cases hexpects

namespace Session

variable {env : Environment}

/-- The client emits behind its handler, and an end starts to send an event while the
other one is sending only if one of the two messages fits into the transport. -/
def Uncrossed (session : Session env) : SessionEvent env → Prop
  | .client .takeIce => session.server.phase.sendsIce = true →
      session.s2c.Fits env.serverCapacity ∨
        ∀ ice ∈ session.client.peer.channel.slots.head?, session.c2s.HasRoom env.clientCapacity
          (clientWire env) (.candidate session.client.round ice)
  | .server .takeIce => session.client.phase.sendsIce = true →
      session.c2s.Fits env.clientCapacity ∨
        ∀ ice ∈ session.server.peer.channel.slots.head?, session.s2c.HasRoom env.serverCapacity
          (serverWire env) (.candidate session.server.round (ice.map env.toJson))
  | .clientEmit _ => session.client.peer.handler = true
  | _ => True

/-- What every state knows of its sends and of its peers. -/
structure Awake (session : Session env) : Prop where
  clientSends : session.c2s.outgoing ≠ [] → session.client.phase.sends = true
  serverSends : session.s2c.outgoing ≠ [] → session.server.phase.sends = true
  clientGathers : session.client.phase.Gathers session.client.peer
  serverGathers : session.server.phase.Gathers session.server.peer
  clientEnded : session.client.peer.ended = true →
    none ∈ session.client.emitted session.client.round
  serverEnded : session.server.peer.ended = true →
    none ∈ session.server.emitted session.server.round
  clientHears : ∀ round, session.client.dropped round = []
  oneFits : session.client.phase.sendsIce = true → session.server.phase.sendsIce = true →
    session.c2s.Fits env.clientCapacity ∨ session.s2c.Fits env.serverCapacity

theorem awake_initial : (initial env).Awake where
  clientSends houtgoing := absurd rfl houtgoing
  serverSends houtgoing := absurd rfl houtgoing
  clientGathers := Eq.refl false
  serverGathers := Eq.refl false
  clientEnded hended := Bool.noConfusion hended
  serverEnded hended := Bool.noConfusion hended
  clientHears _ := rfl
  oneFits hsends := Bool.noConfusion hsends

/-- A step of the client that does not start to send an event. -/
theorem Awake.client_local {session : Session env} (hawake : session.Awake)
    {client : Client env} {c2s : Link env env.Candidate}
    (hsends : c2s.outgoing ≠ [] → client.phase.sends = true)
    (hgathers : client.phase.Gathers client.peer)
    (hended : client.peer.ended = true → none ∈ client.emitted client.round)
    (hhears : ∀ round, client.dropped round = []) (hice : client.phase.sendsIce = false) :
    Awake { session with client := client, c2s := c2s } :=
  { hawake with
    clientSends := hsends
    clientGathers := hgathers
    clientEnded := hended
    clientHears := hhears
    oneFits := fun hsending => absurd (hice.symm.trans hsending) Bool.false_ne_true }

/-- A step of the server that does not start to send an event. -/
theorem Awake.server_local {session : Session env} (hawake : session.Awake)
    {server : Server env} {s2c : Link env env.CandidateInit}
    (hsends : s2c.outgoing ≠ [] → server.phase.sends = true)
    (hgathers : server.phase.Gathers server.peer)
    (hended : server.peer.ended = true → none ∈ server.emitted server.round)
    (hice : server.phase.sendsIce = false) :
    Awake { session with server := server, s2c := s2c } :=
  { hawake with
    serverSends := hsends
    serverGathers := hgathers
    serverEnded := hended
    oneFits := fun _ hsending => absurd (hice.symm.trans hsending) Bool.false_ne_true }

theorem Awake.client_quiet {session : Session env} (hawake : session.Awake)
    (hquiet : session.client.phase.sends = false) : session.c2s.outgoing = [] := by
  by_contra houtgoing
  exact Bool.false_ne_true (hquiet.symm.trans (hawake.clientSends houtgoing))

theorem Awake.server_quiet {session : Session env} (hawake : session.Awake)
    (hquiet : session.server.phase.sends = false) : session.s2c.outgoing = [] := by
  by_contra houtgoing
  exact Bool.false_ne_true (hquiet.symm.trans (hawake.serverSends houtgoing))

theorem Awake.clientAct {session next : Session env} (hawake : session.Awake)
    {action : ClientAction env} (hguard : session.Uncrossed (.client action))
    (hact : session.clientAct action = some next) : next.Awake := by
  have hgathers := hawake.clientGathers
  have hquiet := hawake.client_quiet
  have hended := hawake.clientEnded
  have hhears := hawake.clientHears
  simp only [Session.clientAct] at hact
  split at hact
  next offer hphase =>
    obtain ⟨c2s, _, hnext⟩ := Option.bind_eq_some_iff.mp hact
    rw [hphase] at hgathers
    exact Option.some.inj hnext ▸ hawake.client_local (fun _ => rfl) hgathers hended hhears rfl
  next offer hphase =>
    split at hact
    next hdone =>
      rw [hphase] at hgathers
      exact Option.some.inj hact ▸ hawake.client_local
        (absurd (List.isEmpty_iff.mp hdone)) hgathers hended hhears rfl
    · cases hact
  next offer hphase =>
    rw [hphase] at hquiet
    exact Option.some.inj hact ▸ hawake.client_local (absurd (hquiet rfl)) rfl hended hhears rfl
  next answer ices hphase =>
    rw [hphase] at hgathers hquiet
    exact Option.some.inj hact ▸
      hawake.client_local (absurd (hquiet rfl)) hgathers hended hhears rfl
  next ice ices hphase =>
    rw [hphase] at hgathers hquiet
    exact Option.some.inj hact ▸
      hawake.client_local (absurd (hquiet rfl)) hgathers hended hhears rfl
  next hphase =>
    rw [hphase] at hgathers hquiet
    exact Option.some.inj hact ▸
      hawake.client_local (absurd (hquiet rfl)) ⟨hgathers, rfl⟩ hended hhears rfl
  next doneSending doneReceiving hphase =>
    obtain ⟨⟨ice, channel⟩, htake, hrest⟩ := Option.bind_eq_some_iff.mp hact
    obtain ⟨c2s, hsend, hnext⟩ := Option.bind_eq_some_iff.mp hrest
    obtain ⟨_, rfl⟩ := Link.beginSend_eq_some hsend
    obtain ⟨hslots, _⟩ := Mailbox.take_eq_some htake
    rw [hphase] at hgathers hquiet
    refine Option.some.inj hnext ▸ { hawake with
      clientSends := fun _ => rfl
      clientGathers := hgathers
      oneFits := fun _ hserver => ?_ }
    rcases hguard hserver with hfits | hroom
    · exact .inr hfits
    · refine .inl fun limit hlimit => ?_
      have hlength := hroom ice (by simp [hslots]) limit hlimit
      simpa only [hquiet rfl, List.nil_append] using hlength
  next doneSending doneReceiving ice hphase =>
    split at hact
    next hdone =>
      rw [hphase] at hgathers
      exact Option.some.inj hact ▸ hawake.client_local (absurd (List.isEmpty_iff.mp hdone))
        (ClientPhase.gathers_ofLoop _ hgathers) hended hhears
        (ClientPhase.sendsIce_ofLoop IceLoop.isSending_afterSend)
    · cases hact
  next doneSending doneReceiving ice hphase =>
    rw [hphase] at hgathers hquiet
    exact Option.some.inj hact ▸
      hawake.client_local (absurd (hquiet rfl)) hgathers hended hhears rfl
  next hphase =>
    rw [hphase] at hquiet
    exact Option.some.inj hact ▸
      hawake.client_local (absurd (hquiet rfl)) rfl Bool.noConfusion hhears rfl
  · cases hact

theorem Awake.serverAct {session next : Session env} (hawake : session.Awake)
    {action : ServerAction env} (hguard : session.Uncrossed (.server action))
    (hact : session.serverAct action = some next) : next.Awake := by
  have hgathers := hawake.serverGathers
  have hquiet := hawake.server_quiet
  have hended := hawake.serverEnded
  simp only [Session.serverAct] at hact
  split at hact
  next offer hphase =>
    rw [hphase] at hgathers hquiet
    exact Option.some.inj hact ▸ hawake.server_local (absurd (hquiet rfl)) hgathers hended rfl
  next answer hphase =>
    obtain ⟨s2c, _, hnext⟩ := Option.bind_eq_some_iff.mp hact
    rw [hphase] at hgathers
    exact Option.some.inj hnext ▸ hawake.server_local (fun _ => rfl) hgathers hended rfl
  next answer hphase =>
    split at hact
    next hdone =>
      rw [hphase] at hgathers
      exact Option.some.inj hact ▸ hawake.server_local
        (absurd (List.isEmpty_iff.mp hdone)) hgathers hended rfl
    · cases hact
  next answer hphase =>
    rw [hphase] at hquiet
    exact Option.some.inj hact ▸ hawake.server_local (absurd (hquiet rfl)) rfl hended rfl
  next doneSending doneReceiving hphase =>
    obtain ⟨⟨ice, channel⟩, htake, hrest⟩ := Option.bind_eq_some_iff.mp hact
    obtain ⟨s2c, hsend, hnext⟩ := Option.bind_eq_some_iff.mp hrest
    obtain ⟨_, rfl⟩ := Link.beginSend_eq_some hsend
    obtain ⟨hslots, _⟩ := Mailbox.take_eq_some htake
    rw [hphase] at hgathers hquiet
    refine Option.some.inj hnext ▸ { hawake with
      serverSends := fun _ => rfl
      serverGathers := hgathers
      oneFits := fun hclient _ => ?_ }
    rcases hguard hclient with hfits | hroom
    · exact .inl hfits
    · refine .inr fun limit hlimit => ?_
      have hlength := hroom ice (by simp [hslots]) limit hlimit
      simpa only [hquiet rfl, List.nil_append] using hlength
  next doneSending doneReceiving ice hphase =>
    split at hact
    next hdone =>
      rw [hphase] at hgathers
      exact Option.some.inj hact ▸ hawake.server_local (absurd (List.isEmpty_iff.mp hdone))
        (ServerPhase.gathers_ofLoop _ hgathers) hended
        (ServerPhase.sendsIce_ofLoop IceLoop.isSending_afterSend)
    · cases hact
  next doneSending doneReceiving ice hphase =>
    rw [hphase] at hgathers hquiet
    exact Option.some.inj hact ▸ hawake.server_local (absurd (hquiet rfl)) hgathers hended rfl
  next hphase =>
    rw [hphase] at hquiet
    exact Option.some.inj hact ▸
      hawake.server_local (absurd (hquiet rfl)) rfl Bool.noConfusion rfl
  · cases hact

theorem Awake.clientRecv {session next : Session env} (hawake : session.Awake)
    {action : RecvAction} (hrecv : session.clientRecv action = some next) : next.Awake := by
  obtain ⟨ty, s2c, result, hexpects, hlink, hnext⟩ := clientRecv_eq_some hrecv
  have hsends : session.s2c.outgoing ≠ [] → session.server.phase.sends = true := hawake.serverSends
  rw [← Link.outgoing_recv hlink] at hsends
  have hidle := ClientPhase.sendsIce_of_sends (ClientPhase.sends_of_expects hexpects)
  rcases hnext with ⟨_, rfl⟩ | ⟨received, phase, _, hreceive, rfl⟩
  · exact { hawake with
      serverSends := hsends
      oneFits := fun hsending => absurd (hidle.symm.trans hsending) Bool.false_ne_true }
  · obtain ⟨hgathers, hice⟩ := ClientPhase.gathers_receive hawake.clientGathers hexpects hreceive
    have hquiet := hawake.client_quiet (ClientPhase.sends_of_expects hexpects)
    exact { hawake with
      clientSends := absurd hquiet
      serverSends := hsends
      clientGathers := hgathers
      oneFits := fun hsending => absurd (hice.symm.trans hsending) Bool.false_ne_true }

theorem Awake.serverRecv {session next : Session env} (hawake : session.Awake)
    {action : RecvAction} (hrecv : session.serverRecv action = some next) : next.Awake := by
  obtain ⟨ty, c2s, result, hexpects, hlink, hnext⟩ := serverRecv_eq_some hrecv
  have hsends : session.c2s.outgoing ≠ [] → session.client.phase.sends = true := hawake.clientSends
  rw [← Link.outgoing_recv hlink] at hsends
  have hidle := ServerPhase.sendsIce_of_sends (ServerPhase.sends_of_expects hexpects)
  rcases hnext with ⟨_, rfl⟩ | ⟨received, server, _, hreceive, rfl⟩
  · exact { hawake with
      clientSends := hsends
      oneFits := fun _ hsending => absurd (hidle.symm.trans hsending) Bool.false_ne_true }
  · obtain ⟨hgathers, hice, hended⟩ :=
      Server.gathers_receive hawake.serverGathers hexpects hreceive
    have hquiet := hawake.server_quiet (ServerPhase.sends_of_expects hexpects)
    exact { hawake with
      clientSends := hsends
      serverSends := absurd hquiet
      serverGathers := hgathers
      serverEnded := hended hawake.serverEnded
      oneFits := fun _ hsending => absurd (hice.symm.trans hsending) Bool.false_ne_true }

/-- The marker ends a gathering. -/
theorem ended_emit {Phase : Type} {endpoint next : Endpoint env Phase}
    {ice : Option env.Candidate} (hemit : endpoint.emit ice = some next)
    (hended : next.peer.ended = true) : none ∈ next.emitted next.round := by
  obtain ⟨_, _, hemitted, hnext⟩ := Endpoint.emit_eq_some hemit
  have hround : next.round = endpoint.round := by
    rcases hnext with ⟨_, hnext⟩ | ⟨_, hnext⟩ <;> rw [hnext]
  have hmarker : ice = none := by
    rcases hnext with ⟨_, hnext⟩ | ⟨_, hnext⟩ <;> rw [hnext] at hended <;>
      exact Option.isNone_iff_eq_none.mp hended
  rw [hround, hemitted, Function.update_self, hmarker]
  exact List.mem_append_right _ List.mem_cons_self

theorem Awake.clientEmit {session : Session env} (hawake : session.Awake) {client : Client env}
    {ice : Option env.Candidate} (hhandler : session.client.peer.handler = true)
    (hemit : session.client.emit ice = some client) :
    Awake { session with client := client } := by
  have hended := ended_emit hemit
  obtain ⟨_, _, _, ⟨_, hnext⟩ | ⟨hnone, _⟩⟩ := Endpoint.emit_eq_some hemit
  · rw [hnext] at hended ⊢
    exact { hawake with
      clientGathers := hawake.clientGathers.of_peer rfl rfl
      clientEnded := hended }
  · exact absurd (hnone.symm.trans hhandler) Bool.false_ne_true

theorem Awake.serverEmit {session : Session env} (hawake : session.Awake) {server : Server env}
    {ice : Option env.Candidate} (hemit : session.server.emit ice = some server) :
    Awake { session with server := server } := by
  have hended := ended_emit hemit
  obtain ⟨_, _, _, ⟨_, hnext⟩ | ⟨_, hnext⟩⟩ := Endpoint.emit_eq_some hemit <;>
    rw [hnext] at hended ⊢ <;>
    exact { hawake with
      serverGathers := hawake.serverGathers.of_peer rfl
      serverEnded := hended }

theorem Awake.clientEnqueue {session : Session env} (hawake : session.Awake)
    {client : Client env} (henqueue : session.client.enqueue = some client) :
    Awake { session with client := client } := by
  obtain ⟨channel, _, rfl⟩ := Option.map_eq_some_iff.mp henqueue
  exact { hawake with clientGathers := hawake.clientGathers.of_peer rfl rfl }

theorem Awake.serverEnqueue {session : Session env} (hawake : session.Awake)
    {server : Server env} (henqueue : session.server.enqueue = some server) :
    Awake { session with server := server } := by
  obtain ⟨channel, _, rfl⟩ := Option.map_eq_some_iff.mp henqueue
  exact { hawake with serverGathers := hawake.serverGathers.of_peer rfl }

theorem Awake.step {session next : Session env} {event : SessionEvent env}
    (hawake : session.Awake) (hguard : session.Uncrossed event)
    (hstep : session.step event = some next) : next.Awake := by
  cases event with
  | client action => exact hawake.clientAct hguard hstep
  | server action => exact hawake.serverAct hguard hstep
  | clientRecv action => exact hawake.clientRecv hstep
  | serverRecv action => exact hawake.serverRecv hstep
  | clientWrite count =>
      obtain ⟨c2s, hwrite, rfl⟩ := Option.map_eq_some_iff.mp hstep
      exact { hawake with
        clientSends := fun houtgoing => hawake.clientSends (Link.outgoing_write hwrite houtgoing)
        oneFits := fun hclient hserver =>
          (hawake.oneFits hclient hserver).imp_left (Link.fits_write hwrite) }
  | serverWrite count =>
      obtain ⟨s2c, hwrite, rfl⟩ := Option.map_eq_some_iff.mp hstep
      exact { hawake with
        serverSends := fun houtgoing => hawake.serverSends (Link.outgoing_write hwrite houtgoing)
        oneFits := fun hclient hserver =>
          (hawake.oneFits hclient hserver).imp_right (Link.fits_write hwrite) }
  | clientEmit ice =>
      obtain ⟨client, hemit, rfl⟩ := Option.map_eq_some_iff.mp hstep
      exact hawake.clientEmit hguard hemit
  | serverEmit ice =>
      obtain ⟨server, hemit, rfl⟩ := Option.map_eq_some_iff.mp hstep
      exact hawake.serverEmit hemit
  | clientEnqueue =>
      obtain ⟨client, henqueue, rfl⟩ := Option.map_eq_some_iff.mp hstep
      exact hawake.clientEnqueue henqueue
  | serverEnqueue =>
      obtain ⟨server, henqueue, rfl⟩ := Option.map_eq_some_iff.mp hstep
      exact hawake.serverEnqueue henqueue

theorem awake_of_reachable {session : Session env}
    (hreach : (sessionSystem env).ReachableIf Uncrossed session) :
    session.Ordered ∧ session.Awake := by
  apply hreach.invariant fun state : Session env => state.Ordered ∧ state.Awake
  · rintro start rfl
    exact ⟨ordered_initial, awake_initial⟩
  · rintro state event next ⟨hordered, hawake⟩ hguard hstep
    exact ⟨hordered.step hstep, hawake.step hguard hstep⟩

end Session

end MangleWebRTC.Upgrade
