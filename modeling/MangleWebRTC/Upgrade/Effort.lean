import MangleWebRTC.Upgrade.SessionRuns

/-! # What a session still has to do

The effort that is due weighs the phases of the two ends, the events on their way from
the peers and the frames on their way over the links. A step of a program decreases it;
moving bytes, or running a call up to its next await, decreases the motion that is left.
Only new candidates and new rounds add to it.
-/

namespace MangleWebRTC.Upgrade

open Machine

namespace Receiver

variable {Ty Err : Type} {Val : Ty → Type}

/-- The bytes to read and the awaits to come before the call waits for more. -/
def motion (receiver : Receiver Ty) : Nat :=
  receiver.unread.length +
    match receiver.call with
    | none => 2
    | some (.created, _) => 1
    | some (.reading, _) => 0

/-- A poll that does not return leaves the call waiting. -/
theorem motion_afterPoll {receiver next : Receiver Ty} {ty : Ty}
    {poll : RecvPoll Err (Val ty)} {output : CallOutput Val Err}
    (hnext : receiver.afterPoll ty (some poll) = (next, output))
    (hpending : ∀ result, output ≠ .returned result) :
    next.motion = receiver.unread.length := by
  cases poll with
  | ready result recvBuffer => exact absurd (Prod.mk.inj hnext).2.symm (hpending _)
  | reading recvBuffer =>
      obtain ⟨rfl, _⟩ := Prod.mk.inj hnext
      rfl


end Receiver

namespace Link

variable {env : Environment} {Item : Type}
  {wire : Frame env.Sdp Item → (ty : WireType) × env.Value ty}

/-- Every byte is written and read. -/
def motion (link : Link env Item) : Nat := 2 * link.outgoing.length + link.receiver.motion

theorem motion_write {link next : Link env Item} {capacity : Option Nat} {count : Nat}
    (hwrite : link.write capacity count = some next) : next.motion < link.motion := by
  have hnext := write_eq_some hwrite
  unfold write at hwrite
  split at hwrite
  next hroom =>
    obtain ⟨hcount, hlength, -⟩ := hroom
    subst hnext
    simp only [motion, Receiver.motion, List.length_drop, List.length_append, List.length_take]
    omega
  · cases hwrite

/-- A call that does not return gets closer to its next read. -/
theorem motion_recv {link next : Link env Item} {ty : WireType} {action : RecvAction}
    (hrecv : link.recv ty action = some (next, none)) : next.motion < link.motion := by
  obtain ⟨⟨receiver, output⟩, hstep, hnext⟩ := Option.map_eq_some_iff.mp hrecv
  have hpending : ∀ result, output ≠ .returned result := by
    rintro result rfl
    cases (Prod.mk.inj hnext).2
  obtain rfl : next = { link with receiver := receiver } := by
    cases output with
    | returned result => exact absurd rfl (hpending result)
    | _ => exact (Prod.mk.inj hnext).1.symm
  suffices hless : receiver.motion < link.receiver.motion by
    simp only [motion]
    omega
  cases action with
  | create =>
      simp only [RecvAction.event, Receiver.step] at hstep
      split at hstep
      next hidle =>
        obtain ⟨rfl, _⟩ := Prod.mk.inj (Option.some.inj hstep)
        simp [Receiver.motion, hidle]
      · cases hstep
  | poll =>
      simp only [RecvAction.event, Receiver.step] at hstep
      split at hstep
      next hcall =>
        rw [recvObjBuffered_usize64] at hstep
        rw [Receiver.motion_afterPoll (Option.some.inj hstep) hpending]
        simp [Receiver.motion, hcall]
      · cases hstep
  | read count =>
      simp only [RecvAction.event, Receiver.step] at hstep
      split at hstep
      next hcall =>
        split at hstep
        next hcount =>
          have hbytes : link.receiver.unread.take count ≠ [] := by
            rw [Ne, List.take_eq_nil_iff, ← List.length_eq_zero_iff]
            omega
          rw [recvObjRead_usize64 _ _ _ _ hbytes] at hstep
          rw [Receiver.motion_afterPoll (Option.some.inj hstep) hpending]
          simp only [Receiver.motion, hcall, List.length_drop]
          omega
        · cases hstep
      · cases hstep

@[simp] theorem undelivered_dropCall (link : Link env Item) :
    link.dropCall.undelivered = link.undelivered := rfl

theorem length_undelivered_beginSend {link next : Link env Item} {frame : Frame env.Sdp Item}
    {out inn : Stage} (hlink : link.Carries wire out inn)
    (hsend : link.beginSend wire frame = some next) :
    next.undelivered.length = link.undelivered.length + 1 := by
  rw [undelivered_beginSend hlink.count hsend, List.length_append, List.length_singleton]

/-- What is not delivered is the rest of what was sent. -/
theorem length_undelivered_of_delivered {link next : Link env Item}
    {frames : List (Frame env.Sdp Item)} (hsent : next.sent = link.sent)
    (hdelivered : next.delivered = link.delivered ++ frames) :
    next.undelivered.length + frames.length = link.undelivered.length := by
  have hbefore := congrArg List.length (delivered_append_undelivered link)
  have hafter := congrArg List.length (delivered_append_undelivered next)
  rw [hsent, hdelivered] at hafter
  simp only [List.length_append] at hbefore hafter
  omega

end Link

/-- Every event of the channel is still to be sent, and the end marker still to come. -/
def Peer.effort {Candidate : Type} (peer : Peer Candidate) : Nat :=
  5 * peer.channel.waiting.length + 4 * peer.channel.slots.length + if peer.ended then 0 else 6

/-- An arm is left by one step. -/
def IceLoop.effort {Out In : Type} (loop : IceLoop Out In) : Nat :=
  match loop.point with
  | .select => 0
  | .sending _ | .applying _ => 1

namespace Endpoint

variable {env : Environment} {Phase : Type} {endpoint next : Endpoint env Phase}

/-- The end marker ends the gathering, a candidate adds an event to send. -/
theorem effort_emit {ice : Option env.Candidate} (hemit : endpoint.emit ice = some next) :
    next.peer.effort ≤ endpoint.peer.effort + 5 ∧
      (ice = none → next.peer.effort < endpoint.peer.effort) := by
  obtain ⟨_, hended, _, ⟨_, hnext⟩ | ⟨_, hnext⟩⟩ := emit_eq_some hemit <;> rw [hnext] <;>
    cases ice <;>
    simp only [Peer.effort, Mailbox.offer, hended, List.length_append, List.length_singleton,
      Option.isNone_none, Option.isNone_some, if_true, Bool.false_eq_true, if_false] <;>
    grind

theorem effort_enqueue (henqueue : endpoint.enqueue = some next) :
    next.peer.effort < endpoint.peer.effort := by
  obtain ⟨channel, hchannel, rfl⟩ := Option.map_eq_some_iff.mp henqueue
  obtain ⟨item, hwaiting, hslots, _⟩ := Mailbox.enqueue_eq_some hchannel
  simp only [Peer.effort, hwaiting, hslots, List.length_append, List.length_cons,
    List.length_nil]
  omega

end Endpoint

/-- A peer has found a candidate. -/
def SessionEvent.isCandidate {env : Environment} : SessionEvent env → Bool
  | .clientEmit ice | .serverEmit ice => ice.isSome
  | _ => false

/-- The client calls `upgrade` again. -/
def SessionEvent.isAgain {env : Environment} : SessionEvent env → Bool
  | .client .upgradeAgain => true
  | _ => false

namespace IceLoop

variable {Out In : Type}

theorem effort_afterSend {loop : IceLoop Out In} {ice : Option Out} :
    ∀ next ∈ loop.afterSend ice, next.effort = 0 := by
  intro next hnext
  unfold afterSend at hnext
  split at hnext
  · obtain rfl := Option.some.inj hnext
    rfl
  · split at hnext
    · cases hnext
    · obtain rfl := Option.some.inj hnext
      rfl

theorem effort_afterEnd {loop : IceLoop Out In} : ∀ next ∈ loop.afterEnd, next.effort = 0 := by
  intro next hnext
  unfold afterEnd at hnext
  split at hnext
  · cases hnext
  · obtain rfl := Option.some.inj hnext
    rfl

end IceLoop

namespace ClientPhase

variable {env : Environment}

/-- The awaits of `upgrade` up to its return; candidates before the answer wait for theirs. -/
def effort : ClientPhase env → Nat
  | start => 20
  | sendingOffer _ => 17
  | settingLocal _ => 16
  | awaitingAnswer ices => 15 + ices.length
  | settingRemote _ ices => 14 + ices.length
  | addingIces ices => 13 + ices.length
  | iceLoop loop => 12 + loop.effort
  | returned | failed _ => 0

theorem effort_ofLoop {left : Option (ClientLoop env)}
    (hleft : ∀ loop ∈ left, loop.effort = 0) : (ofLoop left).effort ≤ 12 := by
  cases left with
  | none => exact Nat.zero_le _
  | some loop => simp [ofLoop, effort, hleft loop rfl]

/-- A result is at most one candidate to add. -/
theorem effort_receive {phase next : ClientPhase env} {result : Received env.Value env.Err}
    (hreceive : phase.receive result = some next) : next.effort ≤ phase.effort + 1 := by
  unfold receive at hreceive
  split at hreceive
  · split at hreceive <;> obtain rfl := Option.some.inj hreceive <;>
      simp only [effort, List.length_append, List.length_singleton] <;> omega
  · split at hreceive <;> obtain rfl := Option.some.inj hreceive
    · simp only [effort, IceLoop.effort]
      omega
    · exact (effort_ofLoop IceLoop.effort_afterEnd).trans (by simp only [effort]; omega)
    · exact Nat.zero_le _
    · exact Nat.zero_le _
  · cases hreceive

end ClientPhase

namespace ServerPhase

variable {env : Environment}

/-- What is due until the task hands its peer over. -/
def effort : ServerPhase env → Nat
  | awaitingOffer => 20
  | settingRemote _ => 19
  | creatingAnswer => 18
  | sendingAnswer _ => 15
  | settingLocal _ => 14
  | iceLoop loop => 12 + loop.effort
  | succeeded | failed _ => 0

theorem effort_ofLoop {left : Option (ServerLoop env)}
    (hleft : ∀ loop ∈ left, loop.effort = 0) : (ofLoop left).effort ≤ 12 := by
  cases left with
  | none => exact Nat.zero_le _
  | some loop => simp [ofLoop, effort, hleft loop rfl]

end ServerPhase

theorem Server.effort_receive {env : Environment} {server next : Server env}
    {result : Received env.Value env.Err} (hreceive : server.receive result = some next) :
    next.phase.effort ≤ server.phase.effort + 1 := by
  unfold receive at hreceive
  split at hreceive
  next hphase =>
    rw [hphase]
    split at hreceive <;> obtain rfl := Option.some.inj hreceive <;> simp [ServerPhase.effort]
  next hphase =>
    rw [hphase]
    split at hreceive <;> obtain rfl := Option.some.inj hreceive
    · simp only [ServerPhase.effort, IceLoop.effort]
      omega
    · exact (ServerPhase.effort_ofLoop IceLoop.effort_afterEnd).trans
        (by simp only [ServerPhase.effort]; omega)
    · exact Nat.zero_le _
  · cases hreceive

namespace Session

variable {env : Environment}

/-- What is due until the client has left its round and the server has caught up with it. -/
def effort (session : Session env) : Nat :=
  session.client.phase.effort + session.client.peer.effort +
    session.server.phase.effort + session.server.peer.effort +
    2 * session.c2s.undelivered.length + 2 * session.s2c.undelivered.length +
    32 * (session.client.round + 1 - session.server.round)

/-- What is left to move in both directions. -/
def motion (session : Session env) : Nat := session.c2s.motion + session.s2c.motion

theorem ClientStep.effort_lt {session next : Session env} (hinv : session.Ordered)
    (hrunning : session.client.phase ≠ .returned) (hstep : ClientStep session next) :
    next.effort < session.effort ∧ next.client.round = session.client.round := by
  cases hstep with
  | createOffer offer c2s hphase hsend =>
      have hlength := Link.length_undelivered_beginSend hinv.c2s hsend
      refine ⟨?_, rfl⟩
      simp only [effort, hphase, ClientPhase.effort, hlength]
      omega
  | offerSent offer hphase | setLocal offer hphase | setRemote answer ices hphase
  | register hphase =>
      refine ⟨?_, rfl⟩
      simp only [effort, hphase, ClientPhase.effort, Peer.effort, IceLoop.effort, IceLoop.start,
        List.length_nil]
      omega
  | addEarly ice ices hphase =>
      refine ⟨?_, rfl⟩
      simp only [effort, hphase, ClientPhase.effort, Endpoint.addIceCandidate, List.length_cons]
      omega
  | takeIce doneSending doneReceiving ice channel c2s hphase htake hsend =>
      have hlength := Link.length_undelivered_beginSend hinv.c2s hsend
      obtain ⟨hslots, hwaiting⟩ := Mailbox.take_eq_some htake
      refine ⟨?_, rfl⟩
      simp only [effort, hphase, ClientPhase.effort, Peer.effort, IceLoop.effort, hlength, hslots,
        hwaiting, List.length_cons, Link.undelivered_dropCall]
      omega
  | iceSent doneSending doneReceiving ice hphase =>
      have hloop : (ClientPhase.ofLoop (IceLoop.afterSend
          ⟨doneSending, doneReceiving, .sending ice⟩ ice)).effort ≤ 12 :=
        ClientPhase.effort_ofLoop IceLoop.effort_afterSend
      refine ⟨?_, rfl⟩
      simp only [effort, hphase, ClientPhase.effort, IceLoop.effort] at hloop ⊢
      omega
  | applyIce doneSending doneReceiving ice hphase =>
      refine ⟨?_, rfl⟩
      simp only [effort, hphase, ClientPhase.effort, Endpoint.addIceCandidate, IceLoop.effort]
      omega
  | again hphase => exact absurd hphase hrunning

/-- The server is in no later round than the client, or waits for the next one. -/
theorem Ordered.round_le_of_succeeded {session : Session env} (hinv : session.Ordered)
    (hphase : session.server.phase = .succeeded) :
    session.server.round ≤ session.client.round := by
  have hrank := Stage.rank_le_of_follow hinv.c2s.path
  have hout := (session.client.phase.outStage_rank session.client.round).2
  simp only [hphase, ServerPhase.inStage, Stage.rank_before] at hrank
  omega

theorem ServerStep.effort_lt {session next : Session env} (hinv : session.Ordered)
    (hstep : ServerStep session next) :
    next.effort < session.effort ∧ next.client.round = session.client.round := by
  cases hstep with
  | createAnswer answer s2c hphase hsend =>
      have hlength := Link.length_undelivered_beginSend hinv.s2c hsend
      refine ⟨?_, rfl⟩
      simp only [effort, hphase, ServerPhase.effort, hlength]
      omega
  | setRemote offer hphase | answerSent answer hphase | setLocal answer hphase =>
      refine ⟨?_, rfl⟩
      simp only [effort, hphase, ServerPhase.effort, Peer.effort, IceLoop.effort, IceLoop.start]
      omega
  | takeIce doneSending doneReceiving ice channel s2c hphase htake hsend =>
      have hlength := Link.length_undelivered_beginSend hinv.s2c hsend
      obtain ⟨hslots, hwaiting⟩ := Mailbox.take_eq_some htake
      refine ⟨?_, rfl⟩
      simp only [effort, hphase, ServerPhase.effort, Peer.effort, IceLoop.effort, hlength, hslots,
        hwaiting, List.length_cons, Link.undelivered_dropCall]
      omega
  | iceSent doneSending doneReceiving ice hphase =>
      have hloop : (ServerPhase.ofLoop (IceLoop.afterSend
          ⟨doneSending, doneReceiving, .sending ice⟩ ice)).effort ≤ 12 :=
        ServerPhase.effort_ofLoop IceLoop.effort_afterSend
      refine ⟨?_, rfl⟩
      simp only [effort, hphase, ServerPhase.effort, IceLoop.effort] at hloop ⊢
      omega
  | applyIce doneSending doneReceiving ice hphase =>
      refine ⟨?_, rfl⟩
      simp only [effort, hphase, ServerPhase.effort, Endpoint.addIceCandidate, IceLoop.effort]
      omega
  | again hphase =>
      have hround := hinv.round_le_of_succeeded hphase
      have hpeer : (Peer.new : Peer env.Candidate).effort = 6 := rfl
      refine ⟨?_, rfl⟩
      simp only [effort, hphase, ServerPhase.effort, Endpoint.nextRound, hpeer]
      omega

/-- A step that only moves bytes, or decreases the effort. -/
def Advances (session next : Session env) : Prop :=
  next.effort < session.effort ∨ next.effort = session.effort ∧ next.motion < session.motion

theorem Ordered.clientRecv_advances {session next : Session env} (hinv : session.Ordered)
    {action : RecvAction} (hrecv : session.clientRecv action = some next) :
    session.Advances next ∧ next.client.round = session.client.round := by
  obtain ⟨ty, s2c, result, hexpects, hlink, hnext⟩ := clientRecv_eq_some hrecv
  have hcall := hinv.clientCall
  rw [hexpects] at hcall
  obtain ⟨hsent, heffect⟩ := hinv.s2c.recv hcall
    (fun frame hframe => (hinv.client_expects hexpects frame hframe).1) hlink
  rcases heffect with ⟨rfl, _, hdelivered⟩ | ⟨frame, _, _, _, rfl, _, _, hdelivered⟩
  · rcases hnext with ⟨_, rfl⟩ | ⟨received, phase, hresult, _⟩
    · have hmotion := Link.motion_recv hlink
      have hlength := @Link.length_undelivered_of_delivered _ _ _ _ [] hsent (by simpa)
      refine ⟨.inr ⟨?_, ?_⟩, rfl⟩
      · simp only [effort]
        simp only [List.length_nil] at hlength
        omega
      · simp only [motion]
        omega
    · cases hresult
  · rcases hnext with ⟨hresult, _⟩ | ⟨received, phase, hresult, hreceive, rfl⟩
    · cases hresult
    · have hphase := ClientPhase.effort_receive hreceive
      have hlength := Link.length_undelivered_of_delivered hsent hdelivered
      refine ⟨.inl ?_, rfl⟩
      simp only [effort]
      simp only [List.length_singleton] at hlength
      omega

theorem Ordered.serverRecv_advances {session next : Session env} (hinv : session.Ordered)
    {action : RecvAction} (hrecv : session.serverRecv action = some next) :
    session.Advances next ∧ next.client.round = session.client.round := by
  obtain ⟨ty, c2s, result, hexpects, hlink, hnext⟩ := serverRecv_eq_some hrecv
  have hcall := hinv.serverCall
  rw [hexpects] at hcall
  obtain ⟨hsent, heffect⟩ := hinv.c2s.recv hcall
    (fun frame hframe => (hinv.server_expects hexpects frame hframe).1) hlink
  rcases heffect with ⟨rfl, _, hdelivered⟩ | ⟨frame, _, htype, hadvance, rfl, _, _, hdelivered⟩
  · rcases hnext with ⟨_, rfl⟩ | ⟨received, server, hresult, _⟩
    · have hmotion := Link.motion_recv hlink
      have hlength := @Link.length_undelivered_of_delivered _ _ _ _ [] hsent (by simpa)
      refine ⟨.inr ⟨?_, ?_⟩, rfl⟩
      · simp only [effort]
        simp only [List.length_nil] at hlength
        omega
      · simp only [motion]
        omega
    · cases hresult
  · rcases hnext with ⟨hresult, _⟩ | ⟨received, server, hresult, hreceive, rfl⟩
    · cases hresult
    · obtain rfl := Option.some.inj hresult
      obtain ⟨_, _, _, _, _, hpeer, hserver⟩ :=
        Server.receive_faithful hinv.serverProper (htype ▸ hexpects) hadvance hreceive
      have hphase := Server.effort_receive hreceive
      have hlength := Link.length_undelivered_of_delivered hsent hdelivered
      have hpeer : server.peer.effort = session.server.peer.effort := by
        rcases hpeer with hpeer | ⟨hunused, hpeer⟩
        · rw [hpeer]
        -- The peer that the offer creates has gathered as little as the one before it.
        · rw [hpeer, hunused]
          rfl
      have hround : server.round = session.server.round := by rw [hserver]
      refine ⟨.inl ?_, rfl⟩
      simp only [effort, hpeer, hround]
      simp only [List.length_singleton] at hlength
      omega

theorem clientAct_effort {session next : Session env} (hinv : session.Ordered)
    {action : ClientAction env} (hact : session.clientAct action = some next) :
    (SessionEvent.isAgain (.client action) = true ∧ next.effort ≤ session.effort + 58 ∧
      next.client.round = session.client.round + 1) ∨
    (SessionEvent.isAgain (.client action) = false ∧ session.Advances next ∧
      next.client.round = session.client.round) := by
  by_cases hphase : session.client.phase = .returned
  · left
    obtain rfl : action = .upgradeAgain := by
      cases action <;> simp [clientAct, hphase] at hact ⊢
    obtain rfl : { session with client := session.client.nextRound .start } = next := by
      simpa [clientAct, hphase] using hact
    have hpeer : (Peer.new : Peer env.Candidate).effort = 6 := rfl
    refine ⟨rfl, ?_, rfl⟩
    simp only [effort, hphase, ClientPhase.effort, Endpoint.nextRound, hpeer]
    omega
  · right
    obtain ⟨hless, hround⟩ := ClientStep.effort_lt hinv hphase (.of_act hact)
    refine ⟨?_, .inl hless, hround⟩
    cases action with
    | upgradeAgain => simp [clientAct, hphase] at hact
    | _ => rfl

/-- What an event does to the effort: a candidate and a new call of `upgrade` add to it,
everything else advances the session. -/
theorem Ordered.step_effort {session next : Session env} {event : SessionEvent env}
    (hinv : session.Ordered) (hstep : session.step event = some next) :
    (event.isCandidate = true ∧ next.effort ≤ session.effort + 5 ∧
      next.client.round = session.client.round) ∨
    (event.isAgain = true ∧ next.effort ≤ session.effort + 58 ∧
      next.client.round = session.client.round + 1) ∨
    (event.isCandidate = false ∧ event.isAgain = false ∧ session.Advances next ∧
      next.client.round = session.client.round) := by
  cases event with
  | client action =>
      rcases clientAct_effort hinv hstep with hagain | ⟨hevent, hadvances⟩
      · exact .inr (.inl hagain)
      · exact .inr (.inr ⟨rfl, hevent, hadvances⟩)
  | server action =>
      obtain ⟨hless, hround⟩ := ServerStep.effort_lt hinv (.of_act hstep)
      exact .inr (.inr ⟨rfl, rfl, .inl hless, hround⟩)
  | clientRecv action => exact .inr (.inr ⟨rfl, rfl, hinv.clientRecv_advances hstep⟩)
  | serverRecv action => exact .inr (.inr ⟨rfl, rfl, hinv.serverRecv_advances hstep⟩)
  | clientWrite count =>
      obtain ⟨c2s, hwrite, rfl⟩ := Option.map_eq_some_iff.mp hstep
      have hmotion := Link.motion_write hwrite
      obtain rfl := Link.write_eq_some hwrite
      exact .inr (.inr ⟨rfl, rfl, .inr ⟨rfl, Nat.add_lt_add_right hmotion _⟩, rfl⟩)
  | serverWrite count =>
      obtain ⟨s2c, hwrite, rfl⟩ := Option.map_eq_some_iff.mp hstep
      have hmotion := Link.motion_write hwrite
      obtain rfl := Link.write_eq_some hwrite
      exact .inr (.inr ⟨rfl, rfl, .inr ⟨rfl, Nat.add_lt_add_left hmotion _⟩, rfl⟩)
  | clientEmit ice =>
      obtain ⟨client, hemit, rfl⟩ := Option.map_eq_some_iff.mp hstep
      obtain ⟨hcandidate, hmarker⟩ := Endpoint.effort_emit hemit
      obtain ⟨hphase, hround⟩ := Endpoint.emit_frame hemit
      cases ice with
      | some candidate =>
          refine .inl ⟨rfl, ?_, hround⟩
          simp only [effort, hphase, hround]
          omega
      | none =>
          have hless := hmarker rfl
          refine .inr (.inr ⟨rfl, rfl, .inl ?_, hround⟩)
          simp only [effort, hphase, hround]
          omega
  | serverEmit ice =>
      obtain ⟨server, hemit, rfl⟩ := Option.map_eq_some_iff.mp hstep
      obtain ⟨hcandidate, hmarker⟩ := Endpoint.effort_emit hemit
      obtain ⟨hphase, hround⟩ := Endpoint.emit_frame hemit
      cases ice with
      | some candidate =>
          refine .inl ⟨rfl, ?_, rfl⟩
          simp only [effort, hphase, hround]
          omega
      | none =>
          have hless := hmarker rfl
          refine .inr (.inr ⟨rfl, rfl, .inl ?_, rfl⟩)
          simp only [effort, hphase, hround]
          omega
  | clientEnqueue =>
      obtain ⟨client, henqueue, rfl⟩ := Option.map_eq_some_iff.mp hstep
      have hless := Endpoint.effort_enqueue henqueue
      obtain ⟨hphase, hround⟩ := Endpoint.enqueue_frame henqueue
      refine .inr (.inr ⟨rfl, rfl, .inl ?_, hround⟩)
      simp only [effort, hphase, hround]
      omega
  | serverEnqueue =>
      obtain ⟨server, henqueue, rfl⟩ := Option.map_eq_some_iff.mp hstep
      have hless := Endpoint.effort_enqueue henqueue
      obtain ⟨hphase, hround⟩ := Endpoint.enqueue_frame henqueue
      refine .inr (.inr ⟨rfl, rfl, .inl ?_, rfl⟩)
      simp only [effort, hphase, hround]
      omega

end Session

end MangleWebRTC.Upgrade
