import MangleWebRTC.Upgrade.Progress
import MangleWebRTC.Upgrade.Delivery

/-! # Deadlocks of the signaling

Each end awaits its sends to their end and does not read meanwhile. Unless the sends of
two events cross in front of a transport with no room for either, one of the ends can
always go on.
-/

namespace MangleWebRTC.Upgrade

open Machine

namespace Session

variable {env : Environment}

/-- A client still in the send of its offer does not meet a server in a send. -/
theorem sendsIce_of_server_sends {session : Session env} (hordered : session.Ordered)
    (hawake : session.Awake) (hclient : session.c2s.outgoing ≠ [])
    (hserver : session.s2c.outgoing ≠ []) : session.client.phase.sendsIce = true := by
  have hc2s := hordered.c2s
  have hs2c := hordered.s2c
  have hgathers := hawake.clientGathers
  have hsends := hawake.clientSends hclient
  match hphase : session.client.phase with
  | .iceLoop ⟨doneSending, doneReceiving, .sending ice⟩ => rfl
  | .sendingOffer offer =>
      rw [hphase] at hc2s hs2c hgathers
      have hbehind := Stage.rank_le_of_follow hc2s.path
      have hahead : (Stage.before session.client.round).rank <
          (session.server.phase.outStage session.server.round).rank := by
        by_contra hle
        exact hs2c.undelivered_ne_nil hserver (hs2c.undelivered_eq_nil (not_lt.mp hle))
      have hout := (session.server.phase.outStage_rank session.server.round).2
      simp only [ClientPhase.outStage, Stage.rank_before, Stage.rank_within] at hbehind hahead
      rcases ServerPhase.inStage_of_sends (hawake.serverSends hserver) session.server.round with
        hin | hin <;> rw [hin] at hbehind hc2s
      · rw [Stage.rank_within] at hbehind
        obtain hround : session.server.round = session.client.round := by omega
        rw [hround] at hc2s
        have hices := (hordered.clientKeeps.empty_of_emitted
          (hordered.clientKeeps.started hgathers)).2.1
        exact absurd (hc2s.undelivered_eq_nil_of_ices hices) (hc2s.undelivered_ne_nil hclient)
      · rw [Stage.rank_before] at hbehind
        omega
  | .iceLoop ⟨_, _, .select⟩ | .iceLoop ⟨_, _, .applying _⟩ | .start | .settingLocal _
  | .awaitingAnswer _ | .settingRemote _ _ | .addingIces _ | .returned | .failed _ =>
      rw [hphase] at hsends
      cases hsends

/-- A server still in the send of its answer does not meet a client in a send. -/
theorem sendsIce_of_client_sends {session : Session env} (hordered : session.Ordered)
    (hawake : session.Awake) (hclient : session.client.phase.sendsIce = true)
    (hserver : session.s2c.outgoing ≠ []) : session.server.phase.sendsIce = true := by
  have hc2s := hordered.c2s
  have hs2c := hordered.s2c
  have hgathers := hawake.serverGathers
  have hsends := hawake.serverSends hserver
  match hphase : session.server.phase with
  | .iceLoop ⟨doneSending, doneReceiving, .sending ice⟩ => rfl
  | .sendingAnswer answer =>
      rw [hphase] at hc2s hs2c hgathers
      have hbehind := Stage.rank_le_of_follow hs2c.path
      have hahead := Stage.rank_le_of_follow hc2s.path
      have hout := (session.client.phase.outStage_rank session.client.round).2
      simp only [ServerPhase.outStage, ServerPhase.inStage, Stage.rank_within] at hbehind hahead
      rcases ClientPhase.inStage_of_sendsIce hclient session.client.round with hin | hin <;>
        rw [hin] at hbehind hs2c
      · rw [Stage.rank_within] at hbehind
        obtain hround : session.client.round = session.server.round := by omega
        rw [hround] at hs2c
        have hices := (hordered.serverKeeps.empty_of_emitted
          (hordered.serverKeeps.started hgathers)).2.1
        exact absurd (hs2c.undelivered_eq_nil_of_ices hices) (hs2c.undelivered_ne_nil hserver)
      · rw [Stage.rank_before] at hbehind
        omega
  | .iceLoop ⟨_, _, .select⟩ | .iceLoop ⟨_, _, .applying _⟩ | .awaitingOffer | .settingRemote _
  | .creatingAnswer | .settingLocal _ | .succeeded | .failed _ =>
      rw [hphase] at hsends
      cases hsends

/-- The callback of a round that the client has left returns. -/
theorem not_behind_of_succeeded {session : Session env} (hstuck : ¬ session.Live)
    (hphase : session.server.phase = .succeeded) :
    ¬ session.server.round < session.client.round := by
  intro hbehind
  have hstep : ∃ next, session.serverAct .onSuccessDone = some next := by
    simp [serverAct, hphase]
  obtain ⟨next, hstep⟩ := hstep
  exact hstuck (.step (.server .onSuccessDone) hbehind hstep)

/-- A client in front of a full transport: the server reads, is in a crossing send, or has
a callback of an earlier round to return. -/
theorem not_held_sending (hclientCapacity : ∀ limit ∈ env.clientCapacity, 0 < limit)
    {session : Session env} (hordered : session.Ordered) (hawake : session.Awake)
    (hstuck : ¬ session.Live) (hclient : session.c2s.outgoing ≠ [])
    (hclientFull : session.c2s.Full env.clientCapacity) : ¬ session.ServerHeld := by
  intro hheld
  have hc2s := hordered.c2s
  have hclientOut := session.client.phase.outStage_rank session.client.round
  cases hheld with
  | sending hserver hserverFull =>
      have hclientIce := sendsIce_of_server_sends hordered hawake hclient hserver
      have hserverIce := sendsIce_of_client_sends hordered hawake hclientIce hserver
      rcases hawake.oneFits hclientIce hserverIce with hfits | hfits
      · exact hclientFull.not_fits hclient hfits
      · exact hserverFull.not_fits hserver hfits
  | waiting _ hreading => exact hclientFull.unread_ne_nil hclientCapacity hreading.2
  | succeeded hphase =>
      apply not_behind_of_succeeded hstuck hphase
      by_contra hle
      rw [hphase] at hc2s
      refine hc2s.undelivered_ne_nil hclient (hc2s.undelivered_eq_nil ?_)
      rw [Stage.rank_before]
      omega

/-- A client that waits has sent more than it has received, and the server has sent at
least as much as it has received. -/
theorem not_held_waiting (hserverCapacity : ∀ limit ∈ env.serverCapacity, 0 < limit)
    {session : Session env} (hordered : session.Ordered) (hawake : session.Awake)
    (hstuck : ¬ session.Live) (hclient : session.c2s.outgoing = [])
    (hreading : session.s2c.Reading)
    (hstages : (session.client.phase.outStage session.client.round).rank =
      (session.client.phase.inStage session.client.round).rank + 1) : ¬ session.ServerHeld := by
  intro hheld
  have hc2s := hordered.c2s
  have hs2c := hordered.s2c
  have hclientOut := session.client.phase.outStage_rank session.client.round
  cases hheld with
  | sending _ hserverFull => exact hserverFull.unread_ne_nil hserverCapacity hreading.2
  | waiting hserver hserverReading hserverStages =>
      have hclientStage := hs2c.stage_eq_of_drained (hs2c.drained hreading hserver)
      have hserverStage := hc2s.stage_eq_of_drained (hc2s.drained hserverReading hclient)
      rw [hclientStage] at hstages
      rw [hserverStage] at hserverStages
      omega
  | succeeded hphase =>
      have hserver := hawake.server_quiet (hphase ▸ rfl)
      have hclientStage := hs2c.stage_eq_of_drained (hs2c.drained hreading hserver)
      apply not_behind_of_succeeded hstuck hphase
      rw [hphase] at hclientStage
      rw [hclientStage, ServerPhase.outStage, Stage.rank_before] at hstages
      omega

/-- When the client has returned, a server that cannot go on has left the round too. -/
theorem left_of_returned {session : Session env} (hordered : session.Ordered)
    (hawake : session.Awake) (hstuck : ¬ session.Live)
    (hphase : session.client.phase = .returned) (hheld : session.ServerHeld) :
    session.server.Left .succeeded session.client.round := by
  have hc2s := hordered.c2s
  have hs2c := hordered.s2c
  have hserverOut := session.server.phase.outStage_rank session.server.round
  have hserverIn := session.server.phase.inStage_rank session.server.round
  have hin : (session.client.phase.inStage session.client.round) =
    .before (session.client.round + 1) := by rw [hphase]; rfl
  have hout : (session.client.phase.outStage session.client.round) =
    .before (session.client.round + 1) := by rw [hphase]; rfl
  cases hheld with
  | sending hserver _ =>
      left
      by_contra hle
      rw [hin] at hs2c
      refine hs2c.undelivered_ne_nil hserver (hs2c.undelivered_eq_nil ?_)
      rw [Stage.rank_before]
      omega
  | waiting _ hserverReading _ hopen =>
      have hclient := hawake.client_quiet (hphase ▸ rfl)
      have hserverStage := hc2s.stage_eq_of_drained (hc2s.drained hserverReading hclient)
      left
      rw [hserverStage, hout, Stage.rank_before] at hopen
      omega
  | succeeded hserverPhase =>
      have hle := not_behind_of_succeeded hstuck hserverPhase
      rcases (not_lt.mp hle).lt_or_eq with hlater | heq
      · exact .inl hlater
      · exact .inr ⟨heq, hserverPhase⟩

/-- A round in progress goes on, as long as of two sends that cross one message fits. -/
theorem signaling_live
    (hclientCapacity : ∀ limit ∈ env.clientCapacity, 0 < limit)
    (hserverCapacity : ∀ limit ∈ env.serverCapacity, 0 < limit) {session : Session env}
    (hreach : (sessionSystem env).ReachableIf Uncrossed session)
    (hrunning : ¬ (session.client.phase = .returned ∧
      session.server.Left .succeeded session.client.round)) : session.Live := by
  obtain ⟨hordered, hawake⟩ := awake_of_reachable hreach
  by_contra hstuck
  have hserver := server_held hordered hawake hstuck
  cases client_held hordered hawake hstuck with
  | sending hclient hfull =>
      exact not_held_sending hclientCapacity hordered hawake hstuck hclient hfull hserver
  | waiting hclient hreading hstages =>
      exact not_held_waiting hserverCapacity hordered hawake hstuck hclient hreading hstages hserver
  | returned hphase =>
      exact hrunning ⟨hphase, left_of_returned hordered hawake hstuck hphase hserver⟩

/-- Two sends that cross, each in front of a full transport, wait for each other. -/
theorem not_live_of_crossed {session : Session env}
    (hclientIce : session.client.phase.sendsIce = true)
    (hserverIce : session.server.phase.sendsIce = true)
    (hclient : session.c2s.outgoing ≠ []) (hserver : session.s2c.outgoing ≠ [])
    (hclientFull : session.c2s.Full env.clientCapacity)
    (hserverFull : session.s2c.Full env.serverCapacity)
    (hclientPeer : session.client.peer.ended = true ∧ session.client.peer.channel.waiting = [])
    (hserverPeer : session.server.peer.ended = true ∧ session.server.peer.channel.waiting = []) :
    ¬ session.Live := by
  obtain ⟨doneSending, doneReceiving, ice, hclientPhase⟩ :=
    ClientPhase.exists_loop_of_sendsIce hclientIce
  obtain ⟨serverSending, serverReceiving, serverIce, hserverPhase⟩ :=
    ServerPhase.exists_loop_of_sendsIce hserverIce
  rintro (⟨event, hcounts, hstep⟩ | hphase | hphase | ⟨_, _, _, _, hphase, _⟩ |
    ⟨_, _, _, _, hphase, _⟩)
  · cases event with
    | client action => cases action <;> simp [step, clientAct, hclientPhase, hclient] at hstep
    | server action => cases action <;> simp [step, serverAct, hserverPhase, hserver] at hstep
    | clientRecv action => simp [step, clientRecv, hclientPhase, ClientPhase.expects] at hstep
    | serverRecv action => simp [step, serverRecv, hserverPhase, ServerPhase.expects] at hstep
    | clientWrite count =>
        obtain ⟨c2s, hwrite, _⟩ := Option.map_eq_some_iff.mp hstep
        exact hclientFull.write_ne_some hwrite
    | serverWrite count =>
        obtain ⟨s2c, hwrite, _⟩ := Option.map_eq_some_iff.mp hstep
        exact hserverFull.write_ne_some hwrite
    | clientEmit ice => simp [step, Endpoint.emit, hclientPeer.1] at hstep
    | serverEmit ice => simp [step, Endpoint.emit, hserverPeer.1] at hstep
    | clientEnqueue =>
        simp [step, Endpoint.enqueue, Mailbox.enqueue_eq_none hclientPeer.2] at hstep
    | serverEnqueue =>
        simp [step, Endpoint.enqueue, Mailbox.enqueue_eq_none hserverPeer.2] at hstep
  · cases hphase.symm.trans hclientPhase
  · cases hphase.symm.trans hserverPhase
  · cases hphase.symm.trans hclientPhase
  · cases hphase.symm.trans hserverPhase

instance (capacity : Option Nat) {Item : Type} (link : Link env Item) :
    Decidable (link.Fits capacity) :=
  inferInstanceAs (Decidable (∀ limit ∈ capacity,
    link.receiver.unread.length + link.outgoing.length ≤ limit))

instance (capacity : Option Nat) {Item : Type} (link : Link env Item)
    (wire : Frame env.Sdp Item → (ty : WireType) × env.Value ty) (frame : Frame env.Sdp Item) :
    Decidable (link.HasRoom capacity wire frame) :=
  inferInstanceAs (Decidable (∀ limit ∈ capacity,
    link.receiver.unread.length + (Link.frameBytes wire frame).length ≤ limit))

instance (session : Session env) : (event : SessionEvent env) → Decidable (session.Uncrossed event)
  | .client .takeIce => inferInstanceAs (Decidable (session.server.phase.sendsIce = true →
      session.s2c.Fits env.serverCapacity ∨
        ∀ ice ∈ session.client.peer.channel.slots.head?, session.c2s.HasRoom env.clientCapacity
          (clientWire env) (.candidate session.client.round ice)))
  | .server .takeIce => inferInstanceAs (Decidable (session.client.phase.sendsIce = true →
      session.c2s.Fits env.clientCapacity ∨
        ∀ ice ∈ session.server.peer.channel.slots.head?, session.s2c.HasRoom env.serverCapacity
          (serverWire env) (.candidate session.server.round (ice.map env.toJson))))
  | .clientEmit _ => inferInstanceAs (Decidable (session.client.peer.handler = true))
  | .client (.createOffer _) | .client .sent | .client .setLocalDescription
  | .client .setRemoteDescription | .client .addIceCandidate | .client .registerHandler
  | .client .upgradeAgain | .server .setRemoteDescription | .server (.createAnswer _)
  | .server .sent | .server .setLocalDescription | .server .addIceCandidate
  | .server .onSuccessDone | .clientRecv _ | .serverRecv _ | .clientWrite _ | .serverWrite _
  | .serverEmit _ | .clientEnqueue | .serverEnqueue => inferInstanceAs (Decidable True)

end Session

/-- Either direction holds at most `limit` bytes. -/
abbrev narrowEnvironment (limit : Nat) : Environment :=
  { byteEnvironment with clientCapacity := some limit, serverCapacity := some limit }

/-- A round byte by byte, up to the moment at which both ends send their markers. -/
def crossingEvents (limit : Nat) : List (SessionEvent (narrowEnvironment limit)) :=
  [.client (.createOffer (1 : UInt8)), .serverRecv .create, .serverRecv .poll] ++
    (List.replicate 5 [.clientWrite 1, .serverRecv (.read 1)]).flatten ++
  [.client .sent, .client .setLocalDescription, .server .setRemoteDescription,
    .server (.createAnswer (2 : UInt8)), .clientRecv .create, .clientRecv .poll] ++
    (List.replicate 6 [.serverWrite 1, .clientRecv (.read 1)]).flatten ++
  [.server .sent, .server .setLocalDescription, .client .setRemoteDescription,
    .client .registerHandler, .clientEmit none, .clientEnqueue, .serverEmit none, .serverEnqueue,
    .client .takeIce, .server .takeIce, .clientWrite 1, .serverWrite 1]

namespace Session

/-- With room for a whole marker the crossing is harmless. -/
theorem signaling_live_crossing :
    ∃ session, (sessionSystem (narrowEnvironment 5)).run (initial (narrowEnvironment 5))
        (crossingEvents 5) = some session ∧
      session.client.phase.sendsIce = true ∧ session.server.phase.sendsIce = true ∧
      session.Live := by
  obtain ⟨session, hrun, htest⟩ := (sessionSystem (narrowEnvironment 5)).exists_run_of_any
    (initial (narrowEnvironment 5)) (crossingEvents 5)
    (fun session => session.client.phase.sendsIce = true ∧ session.server.phase.sendsIce = true)
    (by decide +kernel)
  obtain ⟨hclient, hserver⟩ := of_decide_eq_true htest
  have hguarded : (sessionSystem (narrowEnvironment 5)).Guarded Uncrossed
      (initial (narrowEnvironment 5)) (crossingEvents 5) := by
    apply TransitionSystem.guarded_of_check
    decide +kernel
  refine ⟨session, hrun, hclient, hserver,
    signaling_live (by decide) (by decide) ⟨_, rfl, .of_run hguarded hrun⟩ ?_⟩
  rintro ⟨hphase, _⟩
  rw [hphase] at hclient
  cases hclient

/-- With one byte of room both ends wait in `send_obj` for ever. -/
theorem signaling_deadlocks :
    ∃ session, (sessionSystem (narrowEnvironment 1)).ReachableIf HandlerReady session ∧
      session.client.phase ≠ .returned ∧ session.server.phase ≠ .succeeded ∧ ¬ session.Live := by
  obtain ⟨session, hrun, htest⟩ := (sessionSystem (narrowEnvironment 1)).exists_run_of_any
    (initial (narrowEnvironment 1)) (crossingEvents 1)
    (fun session => session.client.phase.sendsIce = true ∧
      session.server.phase.sendsIce = true ∧ session.c2s.outgoing ≠ [] ∧
      session.s2c.outgoing ≠ [] ∧ 1 ≤ session.c2s.receiver.unread.length ∧
      1 ≤ session.s2c.receiver.unread.length ∧
      (session.client.peer.ended = true ∧ session.client.peer.channel.waiting = []) ∧
      session.server.peer.ended = true ∧ session.server.peer.channel.waiting = [])
    (by decide +kernel)
  obtain ⟨hclientIce, hserverIce, hclient, hserver, hclientFull, hserverFull, hclientPeer,
    hserverPeer⟩ := of_decide_eq_true htest
  have hguarded : (sessionSystem (narrowEnvironment 1)).Guarded HandlerReady
      (initial (narrowEnvironment 1)) (crossingEvents 1) := by
    apply TransitionSystem.guarded_of_check
    decide +kernel
  refine ⟨session, ⟨_, rfl, .of_run hguarded hrun⟩, ?_, ?_,
    not_live_of_crossed hclientIce hserverIce hclient hserver ⟨1, rfl, hclientFull⟩
      ⟨1, rfl, hserverFull⟩ hclientPeer hserverPeer⟩
  · intro hphase
    rw [hphase] at hclientIce
    cases hclientIce
  · intro hphase
    rw [hphase] at hserverIce
    cases hserverIce

end Session

end MangleWebRTC.Upgrade
