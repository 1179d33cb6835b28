import MangleWebRTC.Upgrade.Unordered
import MangleWebRTC.Upgrade.UpgradeCall

/-! # The client of a session is a call of `upgrade`

A session knows only the results that a call gets without failures of webrtc and of the
transport. Each of its client's steps is a run of the call with its failures; an error
that `recv_obj` returns is the result of the call.
-/

namespace MangleWebRTC.Upgrade

open Machine

variable {env : ClientEnvironment}

namespace UpgradeCall

/-- The errors of a session are among those of the call. -/
def ofSession : ClientError env.Err Empty → ClientError env.Err env.WebRTCError
  | .webRTCError error => nomatch error
  | .ioError error => .ioError error
  | .deserializeError error => .deserializeError error
  | .unexpectedMessage => .unexpectedMessage

theorem ofSession_ofRecvError (error : RecvError env.Err) :
    (ofSession (.ofRecvError error) : ClientError env.Err env.WebRTCError) =
      .ofRecvError error := by
  cases error <;> rfl

/-- The result of an await, no panic. -/
def Event.Ordinary : Event env → Prop
  | panics => False
  | _ => True

/-- The results of some awaits lead from one state of the call to another. -/
abbrev Leads (call next : UpgradeCall env) : Prop :=
  (upgradeSystem env).ReachableFrom (fun _ event => event.Ordinary) call next

theorem Leads.one {call next : UpgradeCall env} {event : Event env}
    (hstep : call.step event = some next) (hresult : event.Ordinary) : call.Leads next :=
  .tail .refl hresult hstep

/-- All data channels are created. -/
theorem leads_creatingOffer (call : UpgradeCall env)
    (channelConfigs : List (String × env.DataChannelInit)) :
    ∃ channels, (call.goto (createChannels channelConfigs)).Leads
      { call with phase := .creatingOffer, channels := channels } := by
  induction channelConfigs generalizing call with
  | nil => exact ⟨call.channels, .refl⟩
  | cons config channelConfigs ih =>
      obtain ⟨channels, hrest⟩ := ih { call with channels := call.channels ++ [config.1] }
      have hstep : (call.goto (createChannels (config :: channelConfigs))).step
          (.createdChannel (.ok ())) =
            some ({ call with channels := call.channels ++ [config.1] }.goto
              (createChannels channelConfigs)) := rfl
      exact ⟨channels, (Leads.one hstep trivial).trans hrest⟩

end UpgradeCall

/-- The await of the call at a phase of the session's client. -/
def ClientPhase.await (channelConfigs : List (String × env.DataChannelInit))
    (channels : List String) : ClientPhase env.toEnvironment → UpgradeCall.Phase env
  | .start => .creatingPeer channelConfigs
  | .sendingOffer offer => .sendingOffer offer
  | .settingLocal offer => .settingLocal offer
  | .awaitingAnswer ices => .awaitingAnswer ices
  | .settingRemote answer ices => .settingRemote answer ices
  | .addingIces ices => UpgradeCall.addIces ices
  | .iceLoop loop => .iceLoop loop
  | .returned => .returned (.ok channels)
  | .failed error => .returned (.error (UpgradeCall.ofSession error))

/-- The call stands where the client of the session does. -/
def Client.StandsAt (channelConfigs : List (String × env.DataChannelInit))
    (client : Client env.toEnvironment) (call : UpgradeCall env) : Prop :=
  call.phase = client.phase.await channelConfigs call.channels

variable {channelConfigs : List (String × env.DataChannelInit)}

/-- The results of some awaits bring the call to where the client stands. -/
def UpgradeCall.Gets (channelConfigs : List (String × env.DataChannelInit))
    (call : UpgradeCall env) (client : Client env.toEnvironment) : Prop :=
  ∃ next, call.Leads next ∧ client.StandsAt channelConfigs next

theorem UpgradeCall.Gets.one {call next : UpgradeCall env}
    {client : Client env.toEnvironment} {event : Event env} (hstep : call.step event = some next)
    (hresult : event.Ordinary) (hstands : client.StandsAt channelConfigs next) :
    call.Gets channelConfigs client :=
  ⟨next, .one hstep hresult, hstands⟩

theorem Client.standsAt_afterLoop {client : Client env.toEnvironment} {call : UpgradeCall env}
    (left : Option (ClientLoop env.toEnvironment)) :
    Client.StandsAt channelConfigs { client with phase := .ofLoop left } (call.afterLoop left) := by
  cases left <;> rfl

/-- A step of the client is the result of awaits of the call, but for a new call. -/
theorem Client.act_gets {client next : Client env.toEnvironment}
    {action : ClientAction env.toEnvironment}
    {message : Option (Frame env.Sdp env.Candidate)} {call : UpgradeCall env}
    (hstands : client.StandsAt channelConfigs call)
    (hact : client.act action = some (next, message)) :
    call.Gets channelConfigs next ∨ next.StandsAt channelConfigs (.start channelConfigs) := by
  unfold StandsAt at hstands
  simp only [Client.act] at hact
  split at hact
  next offer hphase =>
    obtain ⟨rfl, rfl⟩ := Prod.mk.inj (Option.some.inj hact)
    rw [hphase] at hstands
    have hcreated : call.step (.createdPeer (.ok ())) =
        some ((call.record .created).goto (UpgradeCall.createChannels channelConfigs)) := by
      simp [UpgradeCall.step, hstands, ClientPhase.await]
    obtain ⟨channels, hchannels⟩ :=
      UpgradeCall.leads_creatingOffer (call.record .created) channelConfigs
    have hoffer : { call.record .created with
        phase := .creatingOffer, channels := channels }.step (.createdOffer (.ok offer)) =
          some { call.record .created with
            phase := .sendingOffer offer, channels := channels } := rfl
    have hopened := (UpgradeCall.Leads.one hcreated trivial).trans hchannels
    exact .inl ⟨_, hopened.trans (UpgradeCall.Leads.one hoffer trivial), rfl⟩
  next offer hphase =>
    obtain ⟨rfl, rfl⟩ := Prod.mk.inj (Option.some.inj hact)
    rw [hphase] at hstands
    have hstep : call.step (.sentOffer (.ok ())) = some (call.goto (.settingLocal offer)) := by
      simp [UpgradeCall.step, hstands, ClientPhase.await, UpgradeCall.attempt]
    exact .inl (.one hstep trivial rfl)
  next offer hphase =>
    obtain ⟨rfl, rfl⟩ := Prod.mk.inj (Option.some.inj hact)
    rw [hphase] at hstands
    have hstep : call.step (.setLocal (.ok ())) = some (call.goto (.awaitingAnswer [])) := by
      simp [UpgradeCall.step, hstands, ClientPhase.await, UpgradeCall.attempt]
    exact .inl (.one hstep trivial rfl)
  next answer ices hphase =>
    obtain ⟨rfl, rfl⟩ := Prod.mk.inj (Option.some.inj hact)
    rw [hphase] at hstands
    have hstep : call.step (.setRemote (.ok ())) =
        some (call.goto (UpgradeCall.addIces ices)) := by
      simp [UpgradeCall.step, hstands, ClientPhase.await, UpgradeCall.attempt]
    exact .inl (.one hstep trivial rfl)
  next ice ices hphase =>
    obtain ⟨rfl, rfl⟩ := Prod.mk.inj (Option.some.inj hact)
    rw [hphase] at hstands
    have hstep : call.step (.addedIce (.ok ())) = some (call.goto (UpgradeCall.addIces ices)) := by
      simp [UpgradeCall.step, hstands, ClientPhase.await, UpgradeCall.addIces,
        UpgradeCall.attempt]
    exact .inl (.one hstep trivial rfl)
  next hphase =>
    -- The handler is registered on the way into the loop.
    obtain ⟨rfl, rfl⟩ := Prod.mk.inj (Option.some.inj hact)
    rw [hphase] at hstands
    exact .inl ⟨call, .refl, hstands⟩
  next doneSending doneReceiving hphase =>
    obtain ⟨⟨ice, channel⟩, htake, hnext⟩ := Option.map_eq_some_iff.mp hact
    obtain ⟨rfl, rfl⟩ := Prod.mk.inj hnext
    rw [hphase] at hstands
    have hstep : call.step (.tookIce ice) =
        some (call.goto (.iceLoop ⟨doneSending, doneReceiving, .sending ice⟩)) := by
      simp [UpgradeCall.step, hstands, ClientPhase.await]
    exact .inl (.one hstep trivial rfl)
  next doneSending doneReceiving ice hphase =>
    obtain ⟨rfl, rfl⟩ := Prod.mk.inj (Option.some.inj hact)
    rw [hphase] at hstands
    have hstep : call.step (.sentIce (.ok ())) =
        some (call.afterLoop
          (IceLoop.afterSend ⟨doneSending, doneReceiving, .sending ice⟩ ice)) := by
      simp [UpgradeCall.step, hstands, ClientPhase.await, UpgradeCall.attempt]
    exact .inl (.one hstep trivial (Client.standsAt_afterLoop _))
  next doneSending doneReceiving ice hphase =>
    obtain ⟨rfl, rfl⟩ := Prod.mk.inj (Option.some.inj hact)
    rw [hphase] at hstands
    have hstep : call.step (.addedIce (.ok ())) =
        some (call.goto (.iceLoop ⟨doneSending, doneReceiving, .select⟩)) := by
      simp [UpgradeCall.step, hstands, ClientPhase.await, UpgradeCall.attempt]
    exact .inl (.one hstep trivial rfl)
  next hphase =>
    obtain ⟨rfl, rfl⟩ := Prod.mk.inj (Option.some.inj hact)
    exact .inr rfl
  · cases hact

/-- What `recv_obj` returns to the client it returns to the call. -/
theorem Client.receive_gets {client : Client env.toEnvironment}
    {result : Received env.Value env.Err} {phase : ClientPhase env.toEnvironment}
    {ty : WireType} {call : UpgradeCall env} (hstands : client.StandsAt channelConfigs call)
    (hexpects : client.phase.expects = some ty)
    (hreceive : client.phase.receive result = some phase) :
    call.Gets channelConfigs { client with phase := phase } := by
  unfold StandsAt at hstands
  unfold ClientPhase.receive at hreceive
  split at hreceive
  next ices result hphase =>
    rw [hphase] at hstands
    have hstep : call.step (.receivedMsg result) =
        some (call.attempt result .ofRecvError (call.receiveMsg ices)) := by
      simp [UpgradeCall.step, hstands, ClientPhase.await]
    refine .one hstep trivial ?_
    match result with
    | .ok (.sdpAnswer answer) | .ok (.ice candidate) =>
        obtain rfl := Option.some.inj hreceive
        rfl
    | .error error =>
        obtain rfl := Option.some.inj hreceive
        simp [StandsAt, ClientPhase.await, UpgradeCall.ofSession_ofRecvError,
          UpgradeCall.attempt, UpgradeCall.fail, UpgradeCall.goto]
  next loop result hphase =>
    obtain ⟨doneSending, doneReceiving, rfl⟩ : ∃ doneSending doneReceiving,
        loop = ⟨doneSending, doneReceiving, .select⟩ := by
      rw [hphase] at hexpects
      obtain ⟨doneSending, doneReceiving, point⟩ := loop
      cases point with
      | select => exact ⟨_, _, rfl⟩
      | sending ice => cases hexpects
      | applying ice => cases hexpects
    rw [hphase] at hstands
    have hstep : call.step (.receivedIce result) =
        some (call.attempt result .ofRecvError
          (call.receiveIce ⟨doneSending, doneReceiving, .select⟩)) := by
      simp [UpgradeCall.step, hstands, ClientPhase.await]
    refine .one hstep trivial ?_
    match result with
    | .ok (some (.ice candidate)) | .ok (some (.sdpAnswer answer)) =>
        obtain rfl := Option.some.inj hreceive
        rfl
    | .ok none =>
        obtain rfl := Option.some.inj hreceive
        exact standsAt_afterLoop _
    | .error error =>
        obtain rfl := Option.some.inj hreceive
        simp [StandsAt, ClientPhase.await, UpgradeCall.ofSession_ofRecvError,
          UpgradeCall.attempt, UpgradeCall.fail, UpgradeCall.goto]
  · cases hreceive

/-- The client of a session runs as calls of `upgrade` that do not panic, with any
channel configurations. -/
theorem UnorderedSession.client_runs (channelConfigs : List (String × env.DataChannelInit))
    {session : UnorderedSession env.toEnvironment}
    (hreach : (unorderedSystem env.toEnvironment).Reachable session) :
    ∃ call, (upgradeSystem env).ReachableIf (fun _ event => event.Ordinary) call ∧
      session.client.StandsAt channelConfigs call := by
  refine hreach.simulates (fun session call => session.client.StandsAt channelConfigs call) ?_ ?_
  · rintro start rfl
    exact ⟨.start channelConfigs, ⟨channelConfigs, rfl⟩, rfl⟩
  · intro session event next call hstands _ hstep
    have hgets : call.Gets channelConfigs next.client ∨
        next.client.StandsAt channelConfigs (.start channelConfigs) := by
      cases event with
      | client action =>
          obtain ⟨⟨client, message⟩, hact, rfl⟩ := Option.map_eq_some_iff.mp hstep
          exact Client.act_gets hstands hact
      | server action =>
          obtain ⟨⟨server, message⟩, _, rfl⟩ := Option.map_eq_some_iff.mp hstep
          exact .inl ⟨call, .refl, hstands⟩
      | clientRecv index =>
          obtain ⟨ty, hexpects, hrest⟩ := Option.bind_eq_some_iff.mp hstep
          obtain ⟨⟨frame, s2c⟩, _, hresult⟩ := Option.bind_eq_some_iff.mp hrest
          obtain ⟨phase, hreceive, hnext⟩ := Option.bind_eq_some_iff.mp hresult
          obtain rfl := Option.some.inj hnext
          exact .inl (Client.receive_gets hstands hexpects hreceive)
      | serverRecv index =>
          obtain ⟨ty, _, hrest⟩ := Option.bind_eq_some_iff.mp hstep
          obtain ⟨⟨frame, c2s⟩, _, hresult⟩ := Option.bind_eq_some_iff.mp hrest
          obtain ⟨server, _, hnext⟩ := Option.bind_eq_some_iff.mp hresult
          obtain rfl := Option.some.inj hnext
          exact .inl ⟨call, .refl, hstands⟩
      | clientEmit ice =>
          obtain ⟨client, hemit, rfl⟩ := Option.map_eq_some_iff.mp hstep
          have hphase : client.phase = session.client.phase := (Endpoint.emit_frame hemit).1
          exact .inl ⟨call, .refl, by rwa [Client.StandsAt, hphase]⟩
      | clientEnqueue =>
          obtain ⟨client, henqueue, rfl⟩ := Option.map_eq_some_iff.mp hstep
          have hphase : client.phase = session.client.phase := (Endpoint.enqueue_frame henqueue).1
          exact .inl ⟨call, .refl, by rwa [Client.StandsAt, hphase]⟩
      | serverEmit ice =>
          obtain ⟨server, _, rfl⟩ := Option.map_eq_some_iff.mp hstep
          exact .inl ⟨call, .refl, hstands⟩
      | serverEnqueue =>
          obtain ⟨server, _, rfl⟩ := Option.map_eq_some_iff.mp hstep
          exact .inl ⟨call, .refl, hstands⟩
    obtain ⟨last, hleads, hnext⟩ | hnew := hgets
    · exact ⟨last, hnext, .inl hleads⟩
    · exact ⟨.start channelConfigs, hnew, .inr ⟨channelConfigs, rfl⟩⟩

end MangleWebRTC.Upgrade
