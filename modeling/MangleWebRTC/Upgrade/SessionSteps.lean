import MangleWebRTC.Upgrade.Session

/-! # What a step of a session can do

One constructor for every await of the two programs that can resolve, and for
the three outcomes of running a receive call. Invariants are proved by cases on
these, not on the step functions.
-/

namespace MangleWebRTC.Upgrade

open Machine

namespace Session

variable {env : Environment}

/-- The successful steps of `upgrade` other than receiving. -/
inductive ClientStep (session : Session env) : Session env → Prop
  | createOffer (offer : env.Sdp) (c2s : Link env env.Candidate)
      (hphase : session.client.phase = .start)
      (hsend : session.c2s.beginSend (clientWire env)
        (.opening session.client.round offer) = some c2s) :
      ClientStep session { session with
        client := { session.client with phase := .sendingOffer offer }, c2s := c2s }
  | offerSent (offer : env.Sdp) (hphase : session.client.phase = .sendingOffer offer) :
      ClientStep session { session with
        client := { session.client with phase := .settingLocal offer } }
  | setLocal (offer : env.Sdp) (hphase : session.client.phase = .settingLocal offer) :
      ClientStep session { session with client := { session.client with
        phase := .awaitingAnswer [], peer := { session.client.peer with gathering := true } } }
  | setRemote (answer : env.Sdp) (ices : List env.CandidateInit)
      (hphase : session.client.phase = .settingRemote answer ices) :
      ClientStep session { session with client := { session.client with
        phase := .addingIces ices
        peer := { session.client.peer with remoteDescription := true } } }
  | addEarly (ice : env.CandidateInit) (ices : List env.CandidateInit)
      (hphase : session.client.phase = .addingIces (ice :: ices)) :
      ClientStep session { session with
        client := { session.client.addIceCandidate ice with phase := .addingIces ices } }
  | register (hphase : session.client.phase = .addingIces []) :
      ClientStep session { session with client := { session.client with
        phase := .iceLoop .start, peer := { session.client.peer with handler := true } } }
  | takeIce (doneSending doneReceiving : Bool) (ice : Option env.Candidate)
      (channel : Mailbox (Option env.Candidate) 3) (c2s : Link env env.Candidate)
      (hphase : session.client.phase = .iceLoop ⟨doneSending, doneReceiving, .select⟩)
      (htake : session.client.peer.channel.take = some (ice, channel))
      (hsend : session.c2s.beginSend (clientWire env)
        (.candidate session.client.round ice) = some c2s) :
      ClientStep session { session with
        client := { session.client with
          phase := .iceLoop ⟨doneSending, doneReceiving, .sending ice⟩
          peer := { session.client.peer with channel := channel } }
        c2s := c2s
        s2c := session.s2c.dropCall }
  | iceSent (doneSending doneReceiving : Bool) (ice : Option env.Candidate)
      (hphase : session.client.phase = .iceLoop ⟨doneSending, doneReceiving, .sending ice⟩) :
      ClientStep session { session with client := { session.client with
        phase := .ofLoop (IceLoop.afterSend ⟨doneSending, doneReceiving, .sending ice⟩ ice) } }
  | applyIce (doneSending doneReceiving : Bool) (ice : env.CandidateInit)
      (hphase : session.client.phase = .iceLoop ⟨doneSending, doneReceiving, .applying ice⟩) :
      ClientStep session { session with client := { session.client.addIceCandidate ice with
        phase := .iceLoop ⟨doneSending, doneReceiving, .select⟩ } }
  | again (hphase : session.client.phase = .returned) :
      ClientStep session { session with client := session.client.nextRound .start }

theorem ClientStep.of_act {session next : Session env} {action : ClientAction env}
    (hact : session.clientAct action = some next) : ClientStep session next := by
  simp only [clientAct] at hact
  split at hact
  next offer hphase =>
    obtain ⟨c2s, hsend, hnext⟩ := Option.bind_eq_some_iff.mp hact
    exact Option.some.inj hnext ▸ .createOffer offer c2s hphase hsend
  next offer hphase =>
    split at hact
    · exact Option.some.inj hact ▸ .offerSent offer hphase
    · cases hact
  next offer hphase => exact Option.some.inj hact ▸ .setLocal offer hphase
  next answer ices hphase => exact Option.some.inj hact ▸ .setRemote answer ices hphase
  next ice ices hphase => exact Option.some.inj hact ▸ .addEarly ice ices hphase
  next hphase => exact Option.some.inj hact ▸ .register hphase
  next doneSending doneReceiving hphase =>
    obtain ⟨⟨ice, channel⟩, htake, hrest⟩ := Option.bind_eq_some_iff.mp hact
    obtain ⟨c2s, hsend, hnext⟩ := Option.bind_eq_some_iff.mp hrest
    exact Option.some.inj hnext ▸
      .takeIce doneSending doneReceiving ice channel c2s hphase htake hsend
  next doneSending doneReceiving ice hphase =>
    split at hact
    · exact Option.some.inj hact ▸ .iceSent doneSending doneReceiving ice hphase
    · cases hact
  next doneSending doneReceiving ice hphase =>
    exact Option.some.inj hact ▸ .applyIce doneSending doneReceiving ice hphase
  next hphase => exact Option.some.inj hact ▸ .again hphase
  · cases hact

/-- The successful steps of the connection task other than receiving. -/
inductive ServerStep (session : Session env) : Session env → Prop
  | setRemote (offer : env.Sdp) (hphase : session.server.phase = .settingRemote offer) :
      ServerStep session { session with server := { session.server with
        phase := .creatingAnswer
        peer := { session.server.peer with remoteDescription := true } } }
  | createAnswer (answer : env.Sdp) (s2c : Link env env.CandidateInit)
      (hphase : session.server.phase = .creatingAnswer)
      (hsend : session.s2c.beginSend (serverWire env)
        (.opening session.server.round answer) = some s2c) :
      ServerStep session { session with
        server := { session.server with phase := .sendingAnswer answer }, s2c := s2c }
  | answerSent (answer : env.Sdp) (hphase : session.server.phase = .sendingAnswer answer) :
      ServerStep session { session with
        server := { session.server with phase := .settingLocal answer } }
  | setLocal (answer : env.Sdp) (hphase : session.server.phase = .settingLocal answer) :
      ServerStep session { session with server := { session.server with
        phase := .iceLoop .start, peer := { session.server.peer with gathering := true } } }
  | takeIce (doneSending doneReceiving : Bool) (ice : Option env.Candidate)
      (channel : Mailbox (Option env.Candidate) 3) (s2c : Link env env.CandidateInit)
      (hphase : session.server.phase = .iceLoop ⟨doneSending, doneReceiving, .select⟩)
      (htake : session.server.peer.channel.take = some (ice, channel))
      (hsend : session.s2c.beginSend (serverWire env)
        (.candidate session.server.round (ice.map env.toJson)) = some s2c) :
      ServerStep session { session with
        server := { session.server with
          phase := .iceLoop ⟨doneSending, doneReceiving, .sending (ice.map env.toJson)⟩
          peer := { session.server.peer with channel := channel } }
        c2s := session.c2s.dropCall
        s2c := s2c }
  | iceSent (doneSending doneReceiving : Bool) (ice : Option env.CandidateInit)
      (hphase : session.server.phase = .iceLoop ⟨doneSending, doneReceiving, .sending ice⟩) :
      ServerStep session { session with server := { session.server with
        phase := .ofLoop (IceLoop.afterSend ⟨doneSending, doneReceiving, .sending ice⟩ ice) } }
  | applyIce (doneSending doneReceiving : Bool) (ice : env.Candidate)
      (hphase : session.server.phase = .iceLoop ⟨doneSending, doneReceiving, .applying ice⟩) :
      ServerStep session { session with
        server := { session.server.addIceCandidate (env.toJson ice) with
          phase := .iceLoop ⟨doneSending, doneReceiving, .select⟩ } }
  | again (hphase : session.server.phase = .succeeded) :
      ServerStep session { session with server := session.server.nextRound .awaitingOffer }

theorem ServerStep.of_act {session next : Session env} {action : ServerAction env}
    (hact : session.serverAct action = some next) : ServerStep session next := by
  simp only [serverAct] at hact
  split at hact
  next offer hphase => exact Option.some.inj hact ▸ .setRemote offer hphase
  next answer hphase =>
    obtain ⟨s2c, hsend, hnext⟩ := Option.bind_eq_some_iff.mp hact
    exact Option.some.inj hnext ▸ .createAnswer answer s2c hphase hsend
  next answer hphase =>
    split at hact
    · exact Option.some.inj hact ▸ .answerSent answer hphase
    · cases hact
  next answer hphase => exact Option.some.inj hact ▸ .setLocal answer hphase
  next doneSending doneReceiving hphase =>
    obtain ⟨⟨ice, channel⟩, htake, hrest⟩ := Option.bind_eq_some_iff.mp hact
    obtain ⟨s2c, hsend, hnext⟩ := Option.bind_eq_some_iff.mp hrest
    exact Option.some.inj hnext ▸
      .takeIce doneSending doneReceiving ice channel s2c hphase htake hsend
  next doneSending doneReceiving ice hphase =>
    split at hact
    · exact Option.some.inj hact ▸ .iceSent doneSending doneReceiving ice hphase
    · cases hact
  next doneSending doneReceiving ice hphase =>
    exact Option.some.inj hact ▸ .applyIce doneSending doneReceiving ice hphase
  next hphase => exact Option.some.inj hact ▸ .again hphase
  · cases hact

/-- Running the client's call: it returns nothing, or its result is consumed. -/
theorem clientRecv_eq_some {session next : Session env} {action : RecvAction}
    (hrecv : session.clientRecv action = some next) :
    ∃ ty s2c result, session.client.phase.expects = some ty ∧
      session.s2c.recv ty action = some (s2c, result) ∧
      ((result = none ∧ next = { session with s2c := s2c }) ∨
        ∃ received phase, result = some received ∧
          session.client.phase.receive received = some phase ∧
          next =
            { session with client := { session.client with phase := phase }, s2c := s2c }) := by
  obtain ⟨ty, hexpects, hrest⟩ := Option.bind_eq_some_iff.mp hrecv
  obtain ⟨⟨s2c, result⟩, hlink, hresult⟩ := Option.bind_eq_some_iff.mp hrest
  refine ⟨ty, s2c, result, hexpects, hlink, ?_⟩
  cases result with
  | none => exact .inl ⟨rfl, (Option.some.inj hresult).symm⟩
  | some received =>
      obtain ⟨phase, hphase, hnext⟩ := Option.bind_eq_some_iff.mp hresult
      exact .inr ⟨received, phase, rfl, hphase, (Option.some.inj hnext).symm⟩

theorem serverRecv_eq_some {session next : Session env} {action : RecvAction}
    (hrecv : session.serverRecv action = some next) :
    ∃ ty c2s result, session.server.phase.expects = some ty ∧
      session.c2s.recv ty action = some (c2s, result) ∧
      ((result = none ∧ next = { session with c2s := c2s }) ∨
        ∃ received server, result = some received ∧
          session.server.receive received = some server ∧
          next = { session with server := server, c2s := c2s }) := by
  obtain ⟨ty, hexpects, hrest⟩ := Option.bind_eq_some_iff.mp hrecv
  obtain ⟨⟨c2s, result⟩, hlink, hresult⟩ := Option.bind_eq_some_iff.mp hrest
  refine ⟨ty, c2s, result, hexpects, hlink, ?_⟩
  cases result with
  | none => exact .inl ⟨rfl, (Option.some.inj hresult).symm⟩
  | some received =>
      obtain ⟨server, hserver, hnext⟩ := Option.bind_eq_some_iff.mp hresult
      exact .inr ⟨received, server, rfl, hserver, (Option.some.inj hnext).symm⟩

end Session

end MangleWebRTC.Upgrade
