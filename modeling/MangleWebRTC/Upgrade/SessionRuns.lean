import MangleWebRTC.Upgrade.SessionInvariant

/-! # Every run keeps the session invariant

A step of one end moves its phase, its candidates or one of the links. Most
steps leave both stages where they are; a send moves the sender's stage and a
completed call the receiver's.
-/

namespace MangleWebRTC.Upgrade

open Machine

namespace Session

variable {env : Environment}

/-- A step of the client that moves neither of its stages. -/
theorem Ordered.client_local {session : Session env} (hinv : session.Ordered)
    {before : ClientPhase env} {client : Client env} (hphase : session.client.phase = before)
    (hout : client.phase.outStage client.round = before.outStage session.client.round)
    (hin : client.phase.inStage client.round = before.inStage session.client.round)
    (hcall : session.s2c.CallAt client.phase.expects)
    (hkeeps : client.Conserves id session.c2s.sent)
    (happlies : client.Applies id client.phase.pending session.s2c.delivered)
    (hproper : client.phase.Proper client.peer) :
    Ordered { session with client := client } := by
  subst hphase
  exact { hinv with
    c2s := by simpa only [hout] using hinv.c2s
    s2c := by simpa only [hin] using hinv.s2c
    clientCall := hcall
    clientKeeps := hkeeps
    clientApplies := happlies
    clientProper := hproper }

/-- A step of the client that starts to send a message. -/
theorem Ordered.client_sends {session : Session env} (hinv : session.Ordered)
    {before : ClientPhase env} {client : Client env} {c2s : Link env env.Candidate}
    {frame : Frame env.Sdp env.Candidate} (hphase : session.client.phase = before)
    (hsend : session.c2s.beginSend (clientWire env) frame = some c2s)
    (hout : (before.outStage session.client.round).advance frame.part frame.round =
      some (client.phase.outStage client.round))
    (hin : client.phase.inStage client.round = before.inStage session.client.round)
    (hcall : session.s2c.CallAt client.phase.expects)
    (hkeeps : client.Conserves id (session.c2s.sent ++ [frame]))
    (happlies : client.Applies id client.phase.pending session.s2c.delivered)
    (hproper : client.phase.Proper client.peer) :
    Ordered { session with client := client, c2s := c2s } := by
  subst hphase
  have hc2s := hinv.c2s.beginSend hsend hout
  have hserverCall := Link.callAt_beginSend hinv.serverCall hsend
  have hcount := hinv.c2s.count
  obtain ⟨_, rfl⟩ := Link.beginSend_eq_some hsend
  refine { hinv with
    c2s := hc2s
    s2c := by simpa only [hin] using hinv.s2c
    clientCall := hcall
    serverCall := hserverCall
    clientKeeps := hkeeps
    serverApplies := ?_
    clientApplies := happlies
    clientProper := hproper }
  rw [Link.delivered, List.take_append_of_le_length hcount]
  exact hinv.serverApplies

theorem Ordered.server_local {session : Session env} (hinv : session.Ordered)
    {before : ServerPhase env} {server : Server env} (hphase : session.server.phase = before)
    (hout : server.phase.outStage server.round = before.outStage session.server.round)
    (hin : server.phase.inStage server.round = before.inStage session.server.round)
    (hcall : session.c2s.CallAt server.phase.expects)
    (hkeeps : server.Conserves env.toJson session.s2c.sent)
    (happlies : server.Applies env.toJson server.phase.pending session.c2s.delivered)
    (hproper : server.phase.Proper server.peer) (hhears : ∀ round, server.dropped round = []) :
    Ordered { session with server := server } := by
  subst hphase
  exact { hinv with
    c2s := by simpa only [hin] using hinv.c2s
    s2c := by simpa only [hout] using hinv.s2c
    serverCall := hcall
    serverKeeps := hkeeps
    serverApplies := happlies
    serverProper := hproper
    serverHears := hhears }

theorem Ordered.server_sends {session : Session env} (hinv : session.Ordered)
    {before : ServerPhase env} {server : Server env} {s2c : Link env env.CandidateInit}
    {frame : Frame env.Sdp env.CandidateInit} (hphase : session.server.phase = before)
    (hsend : session.s2c.beginSend (serverWire env) frame = some s2c)
    (hout : (before.outStage session.server.round).advance frame.part frame.round =
      some (server.phase.outStage server.round))
    (hin : server.phase.inStage server.round = before.inStage session.server.round)
    (hcall : session.c2s.CallAt server.phase.expects)
    (hkeeps : server.Conserves env.toJson (session.s2c.sent ++ [frame]))
    (happlies : server.Applies env.toJson server.phase.pending session.c2s.delivered)
    (hproper : server.phase.Proper server.peer) (hhears : ∀ round, server.dropped round = []) :
    Ordered { session with server := server, s2c := s2c } := by
  subst hphase
  have hs2c := hinv.s2c.beginSend hsend hout
  have hclientCall := Link.callAt_beginSend hinv.clientCall hsend
  have hcount := hinv.s2c.count
  obtain ⟨_, rfl⟩ := Link.beginSend_eq_some hsend
  refine { hinv with
    c2s := by simpa only [hin] using hinv.c2s
    s2c := hs2c
    clientCall := hclientCall
    serverCall := hcall
    serverKeeps := hkeeps
    serverApplies := happlies
    clientApplies := ?_
    serverProper := hproper
    serverHears := hhears }
  rw [Link.delivered, List.take_append_of_le_length hcount]
  exact hinv.clientApplies

/-- Dropping a pending call consumes nothing. -/
theorem Ordered.drop_clientCall {session : Session env} (hinv : session.Ordered) :
    Ordered { session with s2c := session.s2c.dropCall } :=
  { hinv with s2c := hinv.s2c.dropCall, clientCall := Link.callAt_of_call_none rfl }

theorem Ordered.drop_serverCall {session : Session env} (hinv : session.Ordered) :
    Ordered { session with c2s := session.c2s.dropCall } :=
  { hinv with c2s := hinv.c2s.dropCall, serverCall := Link.callAt_of_call_none rfl }

theorem Ordered.client_step {session next : Session env} (hinv : session.Ordered)
    (hstep : ClientStep session next) : next.Ordered := by
  have hc2s := hinv.c2s
  have hcall := hinv.clientCall
  have hkeeps := hinv.clientKeeps
  have happlies := hinv.clientApplies
  have hproper := hinv.clientProper
  cases hstep with
  | createOffer offer c2s hphase hsend =>
      rw [hphase] at hcall happlies
      refine hinv.client_sends hphase hsend ?_ rfl (hcall.of_none _) ?_ happlies.move trivial
      · exact Frame.advance_before.mpr ⟨offer, rfl, rfl⟩
      · exact (hkeeps.sendOpening _ offer).move .refl
  | offerSent offer hphase =>
      rw [hphase] at hcall happlies
      exact hinv.client_local hphase rfl rfl (hcall.of_none _) (hkeeps.move .refl)
        happlies.move trivial
  | setLocal offer hphase =>
      rw [hphase] at hcall happlies
      exact hinv.client_local hphase rfl rfl (hcall.of_none _) (hkeeps.move .setLocal)
        happlies.move trivial
  | setRemote answer ices hphase =>
      rw [hphase] at hcall happlies
      exact hinv.client_local hphase rfl rfl (hcall.of_none _) (hkeeps.move .setRemote)
        happlies.move (Eq.refl true)
  | addEarly ice ices hphase =>
      rw [hphase] at hcall happlies hproper
      exact hinv.client_local hphase rfl rfl (hcall.of_none _) (hkeeps.move .refl)
        (happlies.add _ hproper) hproper
  | register hphase =>
      rw [hphase] at hcall happlies hproper
      exact hinv.client_local hphase rfl rfl (hcall.of_none _) (hkeeps.move .register)
        happlies.move ⟨by simp [IceLoop.Proper, IceLoop.start], hproper⟩
  | takeIce doneSending doneReceiving ice channel c2s hphase htake hsend =>
      rw [hphase] at hc2s happlies hproper
      obtain rfl := doneSending_of_take hc2s.sentStage hkeeps htake
      refine hinv.drop_clientCall.client_sends hphase hsend ?_ rfl (Link.callAt_of_call_none rfl)
        ?_ happlies.move ⟨Eq.refl false, hproper.2⟩
      · apply Frame.advance_within.mpr
        exact ⟨ice, rfl, by cases ice <;> rfl⟩
      · have hsent := hkeeps.sendIce htake
          (.iceLoop ⟨false, doneReceiving, .sending ice⟩)
        rwa [Option.map_id_fun, id] at hsent
  | iceSent doneSending doneReceiving ice hphase =>
      rw [hphase] at hcall happlies hproper
      -- The stage has moved when the send began.
      obtain ⟨hout, hin, hloop⟩ := IceLoop.afterSend_stages hproper.1 session.client.round
      obtain ⟨hnext, hpending⟩ := ClientPhase.proper_ofLoop hloop hproper.2
      refine hinv.client_local hphase ?_ ?_ (hcall.of_none _) (hkeeps.move .refl) ?_ hnext
      · rw [ClientPhase.outStage_ofLoop]
        exact hout
      · rw [ClientPhase.inStage_ofLoop]
        exact hin
      · rw [hpending]
        exact happlies.move
  | applyIce doneSending doneReceiving ice hphase =>
      rw [hphase] at hcall happlies hproper
      obtain rfl : doneReceiving = false := hproper.1
      refine hinv.client_local hphase ?_ rfl (hcall.of_none _) (hkeeps.move .refl)
        (happlies.add _ hproper.2) ⟨by simp [IceLoop.Proper], hproper.2⟩
      cases doneSending <;> rfl
  | again hphase =>
      rw [hphase] at hc2s hcall happlies
      exact hinv.client_local hphase rfl rfl (hcall.of_none _)
        (hkeeps.nextRound (hc2s.none_mem_sent le_rfl) _) (happlies.nextRound _) trivial

theorem Ordered.server_step {session next : Session env} (hinv : session.Ordered)
    (hstep : ServerStep session next) : next.Ordered := by
  have hs2c := hinv.s2c
  have hcall := hinv.serverCall
  have hkeeps := hinv.serverKeeps
  have happlies := hinv.serverApplies
  have hproper := hinv.serverProper
  have hhears := hinv.serverHears
  cases hstep with
  | setRemote offer hphase =>
      rw [hphase] at hcall happlies hproper
      exact hinv.server_local hphase rfl rfl (hcall.of_none _) (hkeeps.move .setRemote)
        happlies.move ⟨hproper, Eq.refl true⟩ hhears
  | createAnswer answer s2c hphase hsend =>
      rw [hphase] at hcall happlies hproper
      refine hinv.server_sends hphase hsend ?_ rfl (hcall.of_none _) ?_ happlies.move hproper hhears
      · exact Frame.advance_before.mpr ⟨answer, rfl, rfl⟩
      · exact (hkeeps.sendOpening _ answer).move .refl
  | answerSent answer hphase =>
      rw [hphase] at hcall happlies hproper
      exact hinv.server_local hphase rfl rfl (hcall.of_none _) (hkeeps.move .refl)
        happlies.move hproper hhears
  | setLocal answer hphase =>
      rw [hphase] at hcall happlies hproper
      exact hinv.server_local hphase rfl rfl (hcall.of_none _) (hkeeps.move .setLocal)
        happlies.move ⟨hproper.1, by simp [IceLoop.Proper, IceLoop.start], hproper.2⟩ hhears
  | takeIce doneSending doneReceiving ice channel s2c hphase htake hsend =>
      rw [hphase] at hs2c happlies hproper
      obtain rfl := doneSending_of_take hs2c.sentStage hkeeps htake
      refine hinv.drop_serverCall.server_sends hphase hsend ?_ rfl (Link.callAt_of_call_none rfl)
        (hkeeps.sendIce htake _) happlies.move ⟨hproper.1, Eq.refl false, hproper.2.2⟩ hhears
      apply Frame.advance_within.mpr
      exact ⟨ice.map env.toJson, rfl, by cases ice <;> rfl⟩
  | iceSent doneSending doneReceiving ice hphase =>
      rw [hphase] at hcall happlies hproper
      -- The stage has moved when the send began.
      obtain ⟨hout, hin, hloop⟩ := IceLoop.afterSend_stages hproper.2.1 session.server.round
      obtain ⟨hnext, hpending⟩ := ServerPhase.proper_ofLoop hloop hproper.1 hproper.2.2
      refine hinv.server_local hphase ?_ ?_ (hcall.of_none _) (hkeeps.move .refl) ?_ hnext hhears
      · rw [ServerPhase.outStage_ofLoop]
        exact hout
      · rw [ServerPhase.inStage_ofLoop]
        exact hin
      · rw [hpending]
        exact happlies.move
  | applyIce doneSending doneReceiving ice hphase =>
      rw [hphase] at hcall happlies hproper
      obtain rfl : doneReceiving = false := hproper.2.1
      refine hinv.server_local hphase ?_ rfl (hcall.of_none _) (hkeeps.move .refl)
        (happlies.add _ hproper.2.2) ⟨hproper.1, by simp [IceLoop.Proper], hproper.2.2⟩ hhears
      cases doneSending <;> rfl
  | again hphase =>
      rw [hphase] at hs2c hcall happlies
      exact hinv.server_local hphase rfl rfl (hcall.of_none _)
        (hkeeps.nextRound (hs2c.none_mem_sent le_rfl) _) (happlies.nextRound _) rfl hhears

theorem Ordered.clientRecv {session next : Session env} (hinv : session.Ordered)
    {action : RecvAction} (hrecv : session.clientRecv action = some next) : next.Ordered := by
  obtain ⟨ty, s2c, result, hexpects, hlink, hnext⟩ := clientRecv_eq_some hrecv
  have hcall := hinv.clientCall
  rw [hexpects] at hcall
  obtain ⟨hsent, heffect⟩ := hinv.s2c.recv hcall
    (fun frame hframe => (hinv.client_expects hexpects frame hframe).1) hlink
  have hkeeps : session.server.Conserves env.toJson s2c.sent := hsent ▸ hinv.serverKeeps
  rcases heffect with ⟨rfl, hcarries, hdelivered⟩ |
    ⟨frame, later, htype, hadvance, rfl, hidle, hcarries, hdelivered⟩
  · rcases hnext with ⟨_, rfl⟩ | ⟨received, phase, hresult, _⟩
    · exact { hinv with
        s2c := hcarries
        clientCall := hexpects ▸ Link.callAt_recv hcall hlink
        serverKeeps := hkeeps
        clientApplies := hdelivered ▸ hinv.clientApplies }
    · cases hresult
  · rcases hnext with ⟨hresult, _⟩ | ⟨received, phase, hresult, hreceive, rfl⟩
    · cases hresult
    -- The frame at the front of the link is the one the phase waits for.
    · obtain rfl := Option.some.inj hresult
      obtain ⟨hround, hout, hin, hproper, hpending⟩ :=
        ClientPhase.receive_faithful hinv.clientProper (htype ▸ hexpects) hadvance hreceive
      have happlies := hinv.clientApplies.deliver hround
      rw [← hpending, ← hdelivered] at happlies
      exact { hinv with
        c2s := by simpa only [hout] using hinv.c2s
        s2c := by simpa only [hin] using hcarries
        clientCall := Link.callAt_of_call_none hidle
        clientKeeps := hinv.clientKeeps.move .refl
        serverKeeps := hkeeps
        clientApplies := happlies.move
        clientProper := hproper }

theorem Ordered.serverRecv {session next : Session env} (hinv : session.Ordered)
    {action : RecvAction} (hrecv : session.serverRecv action = some next) : next.Ordered := by
  obtain ⟨ty, c2s, result, hexpects, hlink, hnext⟩ := serverRecv_eq_some hrecv
  have hcall := hinv.serverCall
  rw [hexpects] at hcall
  obtain ⟨hsent, heffect⟩ := hinv.c2s.recv hcall
    (fun frame hframe => (hinv.server_expects hexpects frame hframe).1) hlink
  have hkeeps : session.client.Conserves id c2s.sent := hsent ▸ hinv.clientKeeps
  rcases heffect with ⟨rfl, hcarries, hdelivered⟩ |
    ⟨frame, later, htype, hadvance, rfl, hidle, hcarries, hdelivered⟩
  · rcases hnext with ⟨_, rfl⟩ | ⟨received, server, hresult, _⟩
    · exact { hinv with
        c2s := hcarries
        serverCall := hexpects ▸ Link.callAt_recv hcall hlink
        clientKeeps := hkeeps
        serverApplies := hdelivered ▸ hinv.serverApplies }
    · cases hresult
  · rcases hnext with ⟨hresult, _⟩ | ⟨received, server, hresult, hreceive, rfl⟩
    · cases hresult
    · obtain rfl := Option.some.inj hresult
      obtain ⟨hround, hout, hin, hproper, hpending, hpeer, hserver⟩ :=
        Server.receive_faithful hinv.serverProper (htype ▸ hexpects) hadvance hreceive
      have happlies := hinv.serverApplies.deliver hround
      rw [← hpending, ← hdelivered] at happlies
      have hserverKeeps : server.Conserves env.toJson session.s2c.sent := by
        rw [hserver]
        rcases hpeer with hpeer | ⟨hunused, hpeer⟩
        · rw [hpeer]
          exact hinv.serverKeeps.move .refl
        · -- The peer before the offer is as fresh as the one the offer creates.
          rw [hpeer]
          apply hinv.serverKeeps.move
          constructor <;> simp [hunused, Peer.new]
      rw [hserver] at hserverKeeps ⊢
      exact { hinv with
        c2s := by simpa only [hin] using hcarries
        s2c := by simpa only [hout] using hinv.s2c
        serverCall := Link.callAt_of_call_none hidle
        clientKeeps := hkeeps
        serverKeeps := hserverKeeps
        serverApplies := happlies.move
        serverProper := hproper }

theorem Ordered.clientWrite {session : Session env} (hinv : session.Ordered)
    {c2s : Link env env.Candidate} {capacity : Option Nat} {count : Nat}
    (hwrite : session.c2s.write capacity count = some c2s) :
    Ordered { session with c2s := c2s } := by
  have hcarries := hinv.c2s.write hwrite
  have hcall := Link.callAt_write hinv.serverCall hwrite
  obtain rfl := Link.write_eq_some hwrite
  exact { hinv with c2s := hcarries, serverCall := hcall }

theorem Ordered.serverWrite {session : Session env} (hinv : session.Ordered)
    {s2c : Link env env.CandidateInit} {capacity : Option Nat} {count : Nat}
    (hwrite : session.s2c.write capacity count = some s2c) :
    Ordered { session with s2c := s2c } := by
  have hcarries := hinv.s2c.write hwrite
  have hcall := Link.callAt_write hinv.clientCall hwrite
  obtain rfl := Link.write_eq_some hwrite
  exact { hinv with s2c := hcarries, clientCall := hcall }

theorem Ordered.clientEmit {session : Session env} (hinv : session.Ordered)
    {client : Client env} {ice : Option env.Candidate}
    (hemit : session.client.emit ice = some client) :
    Ordered { session with client := client } := by
  have hkeeps := hinv.clientKeeps.emit hemit
  obtain ⟨_, _, _, hnext⟩ := Endpoint.emit_eq_some hemit
  rcases hnext with ⟨_, hnext⟩ | ⟨_, hnext⟩ <;>
    rw [hnext] at hkeeps ⊢ <;>
    exact hinv.client_local rfl rfl rfl hinv.clientCall hkeeps hinv.clientApplies.move
      hinv.clientProper

theorem Ordered.clientEnqueue {session : Session env} (hinv : session.Ordered)
    {client : Client env} (henqueue : session.client.enqueue = some client) :
    Ordered { session with client := client } := by
  have hkeeps := hinv.clientKeeps.enqueue henqueue
  obtain ⟨channel, _, rfl⟩ := Option.map_eq_some_iff.mp henqueue
  exact hinv.client_local rfl rfl rfl hinv.clientCall hkeeps hinv.clientApplies.move
    hinv.clientProper

/-- The server's peer gathers only behind a registered handler. -/
theorem Ordered.serverEmit {session : Session env} (hinv : session.Ordered)
    {server : Server env} {ice : Option env.Candidate}
    (hemit : session.server.emit ice = some server) :
    Ordered { session with server := server } := by
  have hkeeps := hinv.serverKeeps.emit hemit
  obtain ⟨hgathering, _, _, hnext⟩ := Endpoint.emit_eq_some hemit
  have hused : session.server.peer ≠ .new := by
    intro hunused
    rw [hunused] at hgathering
    cases hgathering
  have hhandler := (ServerPhase.handler_of_proper hinv.serverProper).resolve_left hused
  rcases hnext with ⟨_, hnext⟩ | ⟨hsilent, _⟩
  · rw [hnext] at hkeeps ⊢
    exact hinv.server_local rfl rfl rfl hinv.serverCall hkeeps hinv.serverApplies.move
      (hinv.serverProper.of_peer hused rfl rfl) hinv.serverHears
  · exact absurd (hsilent.symm.trans hhandler) Bool.false_ne_true

theorem Ordered.serverEnqueue {session : Session env} (hinv : session.Ordered)
    {server : Server env} (henqueue : session.server.enqueue = some server) :
    Ordered { session with server := server } := by
  have hkeeps := hinv.serverKeeps.enqueue henqueue
  obtain ⟨channel, hchannel, rfl⟩ := Option.map_eq_some_iff.mp henqueue
  have hused : session.server.peer ≠ .new := by
    intro hunused
    rw [hunused] at hchannel
    cases hchannel
  exact hinv.server_local rfl rfl rfl hinv.serverCall hkeeps hinv.serverApplies.move
    (hinv.serverProper.of_peer hused rfl rfl) hinv.serverHears

/-- One event of a session. -/
theorem Ordered.step {session next : Session env} {event : SessionEvent env}
    (hinv : session.Ordered) (hstep : session.step event = some next) : next.Ordered := by
  cases event with
  | client action => exact hinv.client_step (.of_act hstep)
  | server action => exact hinv.server_step (.of_act hstep)
  | clientRecv action => exact hinv.clientRecv hstep
  | serverRecv action => exact hinv.serverRecv hstep
  | clientWrite count =>
      obtain ⟨c2s, hwrite, rfl⟩ := Option.map_eq_some_iff.mp hstep
      exact hinv.clientWrite hwrite
  | serverWrite count =>
      obtain ⟨s2c, hwrite, rfl⟩ := Option.map_eq_some_iff.mp hstep
      exact hinv.serverWrite hwrite
  | clientEmit ice =>
      obtain ⟨client, hemit, rfl⟩ := Option.map_eq_some_iff.mp hstep
      exact hinv.clientEmit hemit
  | serverEmit ice =>
      obtain ⟨server, hemit, rfl⟩ := Option.map_eq_some_iff.mp hstep
      exact hinv.serverEmit hemit
  | clientEnqueue =>
      obtain ⟨client, henqueue, rfl⟩ := Option.map_eq_some_iff.mp hstep
      exact hinv.clientEnqueue henqueue
  | serverEnqueue =>
      obtain ⟨server, henqueue, rfl⟩ := Option.map_eq_some_iff.mp hstep
      exact hinv.serverEnqueue henqueue

/-- Every state of every run meets the invariant. -/
theorem ordered_of_reachable {session : Session env}
    (hreach : (sessionSystem env).Reachable session) : session.Ordered := by
  apply hreach.invariant Ordered
  · rintro start rfl
    exact ordered_initial
  · intro state event next hinv _ hstep
    exact Ordered.step hinv hstep

end Session

end MangleWebRTC.Upgrade
