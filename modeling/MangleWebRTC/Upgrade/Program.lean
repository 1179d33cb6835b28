import MangleWebRTC.Upgrade.SessionInvariant

/-! # The two programs apart from their transport

What a step of `upgrade` or of the connection task does to its own end, and the
message that it hands to `send_obj`. In a session over a stream these are the steps of
the two ends; over another transport the programs are the same.
-/

namespace MangleWebRTC.Upgrade

open Machine

variable {env : Environment}

/-- A step of `upgrade`, with the message whose send it begins. -/
def Client.act (client : Client env) (action : ClientAction env) :
    Option (Client env × Option (Frame env.Sdp env.Candidate)) :=
  match client.phase, action with
  | .start, .createOffer offer =>
      some ({ client with phase := .sendingOffer offer }, some (.opening client.round offer))
  | .sendingOffer offer, .sent => some ({ client with phase := .settingLocal offer }, none)
  | .settingLocal _, .setLocalDescription =>
      some ({ client with
        phase := .awaitingAnswer [], peer := { client.peer with gathering := true } }, none)
  | .settingRemote _ ices, .setRemoteDescription =>
      some ({ client with
        phase := .addingIces ices, peer := { client.peer with remoteDescription := true } }, none)
  | .addingIces (ice :: ices), .addIceCandidate =>
      some ({ client.addIceCandidate ice with phase := .addingIces ices }, none)
  | .addingIces [], .registerHandler =>
      some ({ client with
        phase := .iceLoop .start, peer := { client.peer with handler := true } }, none)
  | .iceLoop ⟨doneSending, doneReceiving, .select⟩, .takeIce =>
      client.peer.channel.take.map fun (ice, channel) =>
        ({ client with
          phase := .iceLoop ⟨doneSending, doneReceiving, .sending ice⟩
          peer := { client.peer with channel := channel } },
        some (.candidate client.round ice))
  | .iceLoop ⟨doneSending, doneReceiving, .sending ice⟩, .sent =>
      some ({ client with
        phase := .ofLoop (IceLoop.afterSend ⟨doneSending, doneReceiving, .sending ice⟩ ice) }, none)
  | .iceLoop ⟨doneSending, doneReceiving, .applying ice⟩, .addIceCandidate =>
      some ({ client.addIceCandidate ice with
        phase := .iceLoop ⟨doneSending, doneReceiving, .select⟩ }, none)
  | .returned, .upgradeAgain => some (client.nextRound .start, none)
  | _, _ => none

/-- A step of the connection task. -/
def Server.act (server : Server env) (action : ServerAction env) :
    Option (Server env × Option (Frame env.Sdp env.CandidateInit)) :=
  match server.phase, action with
  | .settingRemote _, .setRemoteDescription =>
      some ({ server with
        phase := .creatingAnswer, peer := { server.peer with remoteDescription := true } }, none)
  | .creatingAnswer, .createAnswer answer =>
      some ({ server with phase := .sendingAnswer answer }, some (.opening server.round answer))
  | .sendingAnswer answer, .sent => some ({ server with phase := .settingLocal answer }, none)
  | .settingLocal _, .setLocalDescription =>
      some ({ server with
        phase := .iceLoop .start, peer := { server.peer with gathering := true } }, none)
  | .iceLoop ⟨doneSending, doneReceiving, .select⟩, .takeIce =>
      server.peer.channel.take.map fun (ice, channel) =>
        ({ server with
          phase := .iceLoop ⟨doneSending, doneReceiving, .sending (ice.map env.toJson)⟩
          peer := { server.peer with channel := channel } },
        some (.candidate server.round (ice.map env.toJson)))
  | .iceLoop ⟨doneSending, doneReceiving, .sending ice⟩, .sent =>
      some ({ server with
        phase := .ofLoop (IceLoop.afterSend ⟨doneSending, doneReceiving, .sending ice⟩ ice) }, none)
  | .iceLoop ⟨doneSending, doneReceiving, .applying ice⟩, .addIceCandidate =>
      some ({ server.addIceCandidate (env.toJson ice) with
        phase := .iceLoop ⟨doneSending, doneReceiving, .select⟩ }, none)
  | .succeeded, .onSuccessDone => some (server.nextRound .awaitingOffer, none)
  | _, _ => none

/-- An event is taken in the `select!` of the loop, from the front of the channel. -/
theorem Client.takeIce_eq_some {client next : Client env}
    {message : Option (Frame env.Sdp env.Candidate)}
    (hact : client.act .takeIce = some (next, message)) :
    ∃ doneSending doneReceiving ice channel,
      client.phase = .iceLoop ⟨doneSending, doneReceiving, .select⟩ ∧
      client.peer.channel.take = some (ice, channel) := by
  match hphase : client.phase with
  | .iceLoop ⟨doneSending, doneReceiving, .select⟩ =>
      simp only [Client.act, hphase] at hact
      obtain ⟨⟨ice, channel⟩, htake, _⟩ := Option.map_eq_some_iff.mp hact
      exact ⟨doneSending, doneReceiving, ice, channel, rfl, htake⟩
  | .iceLoop ⟨_, _, .sending _⟩ | .iceLoop ⟨_, _, .applying _⟩ | .start | .sendingOffer _
  | .settingLocal _ | .awaitingAnswer _ | .settingRemote _ _ | .addingIces _ | .returned
  | .failed _ => simp [Client.act, hphase] at hact

theorem Server.takeIce_eq_some {server next : Server env}
    {message : Option (Frame env.Sdp env.CandidateInit)}
    (hact : server.act .takeIce = some (next, message)) :
    ∃ doneSending doneReceiving ice channel,
      server.phase = .iceLoop ⟨doneSending, doneReceiving, .select⟩ ∧
      server.peer.channel.take = some (ice, channel) := by
  match hphase : server.phase with
  | .iceLoop ⟨doneSending, doneReceiving, .select⟩ =>
      simp only [Server.act, hphase] at hact
      obtain ⟨⟨ice, channel⟩, htake, _⟩ := Option.map_eq_some_iff.mp hact
      exact ⟨doneSending, doneReceiving, ice, channel, rfl, htake⟩
  | .iceLoop ⟨_, _, .sending _⟩ | .iceLoop ⟨_, _, .applying _⟩ | .awaitingOffer
  | .settingRemote _ | .creatingAnswer | .sendingAnswer _ | .settingLocal _ | .succeeded
  | .failed _ => simp [Server.act, hphase] at hact

/-- A step that hands no message to `send_obj`. -/
theorem Session.client_quiet_program {session next : Session env} {action : ClientAction env}
    {client : Client env} (hact : session.client.act action = some (client, none))
    (hnext : some { session with client := client } = some next) :
    ∃ message, session.client.act action = some (next.client, message) ∧
      next.server = session.server ∧
      next.c2s.sent = session.c2s.sent ++ message.toList ∧
      next.c2s.received = session.c2s.received ∧
      next.s2c.sent = session.s2c.sent ∧ next.s2c.received = session.s2c.received := by
  obtain rfl := Option.some.inj hnext
  exact ⟨none, hact, rfl, (List.append_nil _).symm, rfl, rfl, rfl⟩

/-- In a session over a stream the client's steps are those of its program. A message
whose send begins is the next one of its link; received frames stay received. -/
theorem Session.clientAct_program {session next : Session env} {action : ClientAction env}
    (hact : session.clientAct action = some next) :
    ∃ message, session.client.act action = some (next.client, message) ∧
      next.server = session.server ∧
      next.c2s.sent = session.c2s.sent ++ message.toList ∧
      next.c2s.received = session.c2s.received ∧
      next.s2c.sent = session.s2c.sent ∧ next.s2c.received = session.s2c.received := by
  simp only [clientAct] at hact
  split at hact
  next offer hphase =>
    obtain ⟨c2s, hsend, hnext⟩ := Option.bind_eq_some_iff.mp hact
    obtain ⟨_, rfl⟩ := Link.beginSend_eq_some hsend
    obtain rfl := Option.some.inj hnext
    exact ⟨some (.opening session.client.round offer), by simp [Client.act, hphase],
      rfl, rfl, rfl, rfl, rfl⟩
  next offer hphase =>
    split at hact
    · exact client_quiet_program (by simp [Client.act, hphase]) hact
    · cases hact
  next offer hphase =>
    exact client_quiet_program (by simp [Client.act, hphase]) hact
  next answer ices hphase =>
    exact client_quiet_program (by simp [Client.act, hphase]) hact
  next ice ices hphase =>
    exact client_quiet_program (by simp [Client.act, hphase]) hact
  next hphase =>
    exact client_quiet_program (by simp [Client.act, hphase]) hact
  next doneSending doneReceiving hphase =>
    obtain ⟨⟨ice, channel⟩, htake, hrest⟩ := Option.bind_eq_some_iff.mp hact
    obtain ⟨c2s, hsend, hnext⟩ := Option.bind_eq_some_iff.mp hrest
    obtain ⟨_, rfl⟩ := Link.beginSend_eq_some hsend
    obtain rfl := Option.some.inj hnext
    exact ⟨some (.candidate session.client.round ice), by simp [Client.act, hphase, htake],
      rfl, rfl, rfl, rfl, rfl⟩
  next doneSending doneReceiving ice hphase =>
    split at hact
    · exact client_quiet_program (by simp [Client.act, hphase]) hact
    · cases hact
  next doneSending doneReceiving ice hphase =>
    exact client_quiet_program (by simp [Client.act, hphase]) hact
  next hphase =>
    exact client_quiet_program (by simp [Client.act, hphase]) hact
  · cases hact

theorem Session.server_quiet_program {session next : Session env} {action : ServerAction env}
    {server : Server env} (hact : session.server.act action = some (server, none))
    (hnext : some { session with server := server } = some next) :
    ∃ message, session.server.act action = some (next.server, message) ∧
      next.client = session.client ∧
      next.s2c.sent = session.s2c.sent ++ message.toList ∧
      next.s2c.received = session.s2c.received ∧
      next.c2s.sent = session.c2s.sent ∧ next.c2s.received = session.c2s.received := by
  obtain rfl := Option.some.inj hnext
  exact ⟨none, hact, rfl, (List.append_nil _).symm, rfl, rfl, rfl⟩

theorem Session.serverAct_program {session next : Session env} {action : ServerAction env}
    (hact : session.serverAct action = some next) :
    ∃ message, session.server.act action = some (next.server, message) ∧
      next.client = session.client ∧
      next.s2c.sent = session.s2c.sent ++ message.toList ∧
      next.s2c.received = session.s2c.received ∧
      next.c2s.sent = session.c2s.sent ∧ next.c2s.received = session.c2s.received := by
  simp only [serverAct] at hact
  split at hact
  next offer hphase =>
    exact server_quiet_program (by simp [Server.act, hphase]) hact
  next answer hphase =>
    obtain ⟨s2c, hsend, hnext⟩ := Option.bind_eq_some_iff.mp hact
    obtain ⟨_, rfl⟩ := Link.beginSend_eq_some hsend
    obtain rfl := Option.some.inj hnext
    exact ⟨some (.opening session.server.round answer), by simp [Server.act, hphase],
      rfl, rfl, rfl, rfl, rfl⟩
  next answer hphase =>
    split at hact
    · exact server_quiet_program (by simp [Server.act, hphase]) hact
    · cases hact
  next answer hphase =>
    exact server_quiet_program (by simp [Server.act, hphase]) hact
  next doneSending doneReceiving hphase =>
    obtain ⟨⟨ice, channel⟩, htake, hrest⟩ := Option.bind_eq_some_iff.mp hact
    obtain ⟨s2c, hsend, hnext⟩ := Option.bind_eq_some_iff.mp hrest
    obtain ⟨_, rfl⟩ := Link.beginSend_eq_some hsend
    obtain rfl := Option.some.inj hnext
    exact ⟨some (.candidate session.server.round (ice.map env.toJson)),
      by simp [Server.act, hphase, htake], rfl, rfl, rfl, rfl, rfl⟩
  next doneSending doneReceiving ice hphase =>
    split at hact
    · exact server_quiet_program (by simp [Server.act, hphase]) hact
    · cases hact
  next doneSending doneReceiving ice hphase =>
    exact server_quiet_program (by simp [Server.act, hphase]) hact
  next hphase =>
    exact server_quiet_program (by simp [Server.act, hphase]) hact
  · cases hact

end MangleWebRTC.Upgrade
