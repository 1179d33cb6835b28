import MangleWebRTC.Upgrade.ConnectionTask
import MangleWebRTC.Upgrade.Unordered

/-! # The server of a session is a connection task

A session knows only the results that a connection task gets without failures of webrtc
and of the transport. Each of its server's steps is a run of the task with its failures;
an error that `recv_obj` returns is reported, and the task ends.
-/

namespace MangleWebRTC.Upgrade

open Machine

namespace IceLoop

variable {Out In Converted : Type}

/-- The loop after the conversion of the candidates it receives. -/
def convert (loop : IceLoop Out In) (toJson : In → Converted) : IceLoop Out Converted where
  doneSendingIce := loop.doneSendingIce
  doneReceivingIce := loop.doneReceivingIce
  point :=
    match loop.point with
    | .select => .select
    | .sending ice => .sending ice
    | .applying ice => .applying (toJson ice)

theorem convert_afterSend (doneSending doneReceiving : Bool) (ice : Option Out)
    (toJson : In → Converted) :
    (⟨doneSending, doneReceiving, .sending ice⟩ : IceLoop Out Converted).afterSend ice =
      ((⟨doneSending, doneReceiving, .sending ice⟩ : IceLoop Out In).afterSend ice).map
        (·.convert toJson) := by
  cases ice <;> cases doneReceiving <;> rfl

theorem convert_afterEnd (doneSending doneReceiving : Bool) (toJson : In → Converted) :
    (⟨doneSending, doneReceiving, .select⟩ : IceLoop Out Converted).afterEnd =
      ((⟨doneSending, doneReceiving, .select⟩ : IceLoop Out In).afterEnd).map
        (·.convert toJson) := by
  cases doneSending <;> rfl

end IceLoop

variable {env : ServerEnvironment}

/-- The await of the task at a phase of the session's server. Peers are numbered by
rounds. -/
def ServerPhase.await (round : Nat) :
    ServerPhase env.toEnvironment → ConnectionTask.Phase env
  | .awaitingOffer => .awaitingOffer
  | .settingRemote offer => .inRound round (.settingRemote offer)
  | .creatingAnswer => .inRound round .creatingAnswer
  | .sendingAnswer answer => .inRound round (.sendingAnswer answer)
  | .settingLocal answer => .inRound round (.settingLocal answer)
  | .iceLoop loop => .inRound round (.iceLoop (loop.convert env.toJson))
  | .succeeded => .succeeding round
  | .failed _ => .ended

/-- The peers that the task has created; a task that has ended needs no more. -/
def ServerPhase.peers (round : Nat) : ServerPhase env.toEnvironment → Option Nat
  | .awaitingOffer => some round
  | .failed _ => none
  | _ => some (round + 1)

/-- The task stands where the server of the session does. -/
structure Server.StandsAt (server : Server env.toEnvironment) (task : ConnectionTask env) :
    Prop where
  phase : task.phase = server.phase.await server.round
  peers : ∀ count ∈ server.phase.peers server.round, task.peers = count

namespace ConnectionTask

variable {clientId : String} {task : ConnectionTask env}

/-- The results of some awaits bring the task to where the server stands. -/
def Gets (clientId : String) (task : ConnectionTask env) (server : Server env.toEnvironment) :
    Prop :=
  ∃ next, (connectionSystem env clientId).ReachableFrom (fun _ event => event.Ordinary) task next ∧
    server.StandsAt next

theorem Gets.one {next : ConnectionTask env} {server : Server env.toEnvironment}
    {event : Event env} (hstep : task.step clientId event = some next) (hresult : event.Ordinary)
    (hstands : server.StandsAt next) : Gets clientId task server :=
  ⟨next, .tail .refl hresult hstep, hstands⟩

theorem Gets.after {next : ConnectionTask env} {server : Server env.toEnvironment}
    {event : Event env} (hstep : task.step clientId event = some next) (hresult : event.Ordinary)
    (hgets : Gets clientId next server) : Gets clientId task server := by
  obtain ⟨last, hreach, hstands⟩ := hgets
  have hfirst : (connectionSystem env clientId).ReachableFrom (fun _ event => event.Ordinary)
    task next := .tail .refl hresult hstep
  exact ⟨last, hfirst.trans hreach, hstands⟩

/-- After an error the task awaits `on_err` and ends. -/
theorem Gets.reported {next : ConnectionTask env} {error : ConnectionTask.ServerError env}
    {server : Server env.toEnvironment} (hphase : next.phase = .reporting error)
    (failure : RecvError env.Err) :
    Gets clientId next { server with phase := .failed failure } := by
  have hstep : next.step clientId .onErrReturned = some { next with phase := .ended } := by
    simp [step, hphase]
  exact .one hstep trivial ⟨rfl, nofun⟩

end ConnectionTask

/-- A step within the round of a peer. -/
theorem Server.StandsAt.within {server next : Server env.toEnvironment}
    {task changed : ConnectionTask env} (hstands : server.StandsAt task)
    {before : ServerPhase env.toEnvironment} (hbefore : server.phase = before)
    (hpeers : next.phase.peers next.round = before.peers server.round)
    (htask : changed.peers = task.peers)
    (hphase : changed.phase = next.phase.await next.round) : next.StandsAt changed where
  phase := hphase
  peers count hcount := by
    rw [hpeers, ← hbefore] at hcount
    exact htask.trans (hstands.peers count hcount)

theorem Server.StandsAt.afterLoop {server : Server env.toEnvironment}
    {task changed : ConnectionTask env} (hstands : server.StandsAt task)
    {loop : ServerLoop env.toEnvironment} (hbefore : server.phase = .iceLoop loop)
    (clientId : String) (left : Option (ServerLoop env.toEnvironment))
    (htask : changed.peers = task.peers) :
    Server.StandsAt { server with phase := .ofLoop left }
      (changed.afterLoop clientId server.round (left.map (·.convert env.toJson))) := by
  cases left with
  | none => exact hstands.within hbefore rfl htask rfl
  | some loop => exact hstands.within hbefore rfl htask rfl

/-- A step of the server is the result of one await of the task. -/
theorem Server.act_gets {server next : Server env.toEnvironment}
    {action : ServerAction env.toEnvironment}
    {message : Option (Frame env.Sdp env.CandidateInit)} {task : ConnectionTask env}
    (clientId : String) (hstands : server.StandsAt task)
    (hact : server.act action = some (next, message)) :
    ConnectionTask.Gets clientId task next := by
  have hat := hstands.phase
  simp only [Server.act] at hact
  split at hact
  next offer hphase =>
    obtain ⟨rfl, rfl⟩ := Prod.mk.inj (Option.some.inj hact)
    rw [hphase] at hat
    have hstep : task.step clientId (.setRemote (.ok ())) =
        some (task.goto server.round .creatingAnswer) := by
      simp [ConnectionTask.step, hat, ServerPhase.await, ConnectionTask.webrtcUnwrap]
    exact .one hstep trivial (hstands.within hphase rfl rfl rfl)
  next answer hphase =>
    obtain ⟨rfl, rfl⟩ := Prod.mk.inj (Option.some.inj hact)
    rw [hphase] at hat
    have hstep : task.step clientId (.createdAnswer (.ok answer)) =
        some (task.goto server.round (.sendingAnswer answer)) := by
      simp [ConnectionTask.step, hat, ServerPhase.await, ConnectionTask.webrtcUnwrap]
    exact .one hstep trivial (hstands.within hphase rfl rfl rfl)
  next answer hphase =>
    obtain ⟨rfl, rfl⟩ := Prod.mk.inj (Option.some.inj hact)
    rw [hphase] at hat
    have hstep : task.step clientId (.sentAnswer (.ok ())) =
        some (task.goto server.round (.settingLocal answer)) := by
      simp [ConnectionTask.step, hat, ServerPhase.await]
    exact .one hstep trivial (hstands.within hphase rfl rfl rfl)
  next answer hphase =>
    obtain ⟨rfl, rfl⟩ := Prod.mk.inj (Option.some.inj hact)
    rw [hphase] at hat
    have hstep : task.step clientId (.setLocal (.ok ())) =
        some (task.goto server.round (.iceLoop .start)) := by
      simp [ConnectionTask.step, hat, ServerPhase.await, ConnectionTask.webrtcUnwrap]
    exact .one hstep trivial (hstands.within hphase rfl rfl rfl)
  next doneSending doneReceiving hphase =>
    obtain ⟨⟨ice, channel⟩, htake, hnext⟩ := Option.map_eq_some_iff.mp hact
    obtain ⟨rfl, rfl⟩ := Prod.mk.inj hnext
    rw [hphase] at hat
    have hstep : task.step clientId
        (.tookIce (ice.map fun candidate => .ok (env.toJson candidate))) =
        some (task.goto server.round
          (.iceLoop ⟨doneSending, doneReceiving, .sending (ice.map env.toJson)⟩)) := by
      cases ice <;>
        simp [ConnectionTask.step, hat, ServerPhase.await, IceLoop.convert,
          ConnectionTask.webrtcUnwrap]
    exact .one hstep trivial (hstands.within hphase rfl rfl rfl)
  next doneSending doneReceiving ice hphase =>
    obtain ⟨rfl, rfl⟩ := Prod.mk.inj (Option.some.inj hact)
    rw [hphase] at hat
    have hstep : task.step clientId (.sentIce (.ok ())) =
        some (ConnectionTask.afterLoop clientId
          (if ice.isNone then task.record (.endSent server.round) else task) server.round
          (IceLoop.afterSend ⟨doneSending, doneReceiving, .sending ice⟩ ice)) := by
      simp [ConnectionTask.step, hat, ServerPhase.await, IceLoop.convert, ConnectionTask.sendIce]
    rw [IceLoop.convert_afterSend doneSending doneReceiving ice env.toJson] at hstep
    refine .one hstep trivial (hstands.afterLoop hphase clientId _ ?_)
    split <;> rfl
  next doneSending doneReceiving ice hphase =>
    obtain ⟨rfl, rfl⟩ := Prod.mk.inj (Option.some.inj hact)
    rw [hphase] at hat
    have hstep : task.step clientId (.addedIce (.ok ())) =
        some (task.goto server.round (.iceLoop ⟨doneSending, doneReceiving, .select⟩)) := by
      simp [ConnectionTask.step, hat, ServerPhase.await, IceLoop.convert,
        ConnectionTask.webrtcUnwrap]
    exact .one hstep trivial (hstands.within hphase rfl rfl rfl)
  next hphase =>
    obtain ⟨rfl, rfl⟩ := Prod.mk.inj (Option.some.inj hact)
    rw [hphase] at hat
    have hstep : task.step clientId .onSuccessReturned =
        some { task with phase := .awaitingOffer } := by
      simp [ConnectionTask.step, hat, ServerPhase.await]
    exact .one hstep trivial (hstands.within hphase rfl rfl rfl)
  · cases hact

/-- What `recv_obj` returns to the server it returns to the task. An error is reported
after the peer is closed, and ends the task. -/
theorem Server.receive_gets {server next : Server env.toEnvironment}
    {result : Received env.Value env.Err} {task : ConnectionTask env} {ty : WireType}
    (clientId : String) (hstands : server.StandsAt task)
    (hexpects : server.phase.expects = some ty) (hreceive : server.receive result = some next) :
    ConnectionTask.Gets clientId task next := by
  have hat := hstands.phase
  unfold Server.receive at hreceive
  split at hreceive
  next result hphase =>
    have hpeers : task.peers = server.round := hstands.peers _ (by rw [hphase]; rfl)
    rw [hphase] at hat
    cases result with
    | ok offer =>
        obtain rfl := Option.some.inj hreceive
        have hfirst : task.step clientId (.receivedOffer (.ok offer)) =
            some { task with phase := .creatingPeer offer } := by
          simp [ConnectionTask.step, hat, ServerPhase.await]
        -- The session has the new peer at once.
        have hsecond : { task with phase := .creatingPeer offer }.step clientId
            (.createdPeer (.ok ())) =
              some { (task.record (.created task.peers)).goto task.peers (.settingRemote offer) with
                peers := task.peers + 1 } := rfl
        refine .after hfirst trivial (.one hsecond trivial ⟨?_, ?_⟩)
        · exact congrArg (ConnectionTask.Phase.inRound · (.settingRemote offer)) hpeers
        · intro count hcount
          exact (congrArg (· + 1) hpeers).trans (Option.some.inj hcount)
    | error error =>
        obtain rfl := Option.some.inj hreceive
        have hfirst : task.step clientId (.receivedOffer (.error error)) =
            some (task.report (.ofRecvError clientId error)) := by
          simp [ConnectionTask.step, hat, ServerPhase.await]
        exact .after hfirst trivial (.reported rfl _)
  next loop result hphase =>
    obtain ⟨doneSending, doneReceiving, rfl⟩ : ∃ doneSending doneReceiving,
        loop = ⟨doneSending, doneReceiving, .select⟩ := by
      rw [hphase] at hexpects
      obtain ⟨doneSending, doneReceiving, point⟩ := loop
      cases point with
      | select => exact ⟨_, _, rfl⟩
      | sending ice => cases hexpects
      | applying ice => cases hexpects
    rw [hphase] at hat
    match result with
    | .ok (some candidate) =>
        obtain rfl := Option.some.inj hreceive
        have hstep : task.step clientId (.receivedIce (.ok (some (.ok (env.toJson candidate))))) =
            some (task.goto server.round
              (.iceLoop ⟨doneSending, doneReceiving, .applying (env.toJson candidate)⟩)) := by
          simp [ConnectionTask.step, hat, ServerPhase.await, IceLoop.convert,
            ConnectionTask.receiveIce, ConnectionTask.webrtcUnwrap]
        exact .one hstep trivial (hstands.within hphase rfl rfl rfl)
    | .ok none =>
        obtain rfl := Option.some.inj hreceive
        have hstep : task.step clientId (.receivedIce (.ok none)) =
            some ((task.record (.endReceived server.round)).afterLoop clientId server.round
              (IceLoop.afterEnd ⟨doneSending, doneReceiving, .select⟩)) := by
          simp [ConnectionTask.step, hat, ServerPhase.await, IceLoop.convert,
            ConnectionTask.receiveIce]
        rw [IceLoop.convert_afterEnd doneSending doneReceiving env.toJson] at hstep
        exact .one hstep trivial (hstands.afterLoop hphase clientId _ rfl)
    | .error error =>
        obtain rfl := Option.some.inj hreceive
        have hfirst : task.step clientId (.receivedIce (.error error)) =
            some (task.goto server.round (.closing (.ofRecvError clientId error))) := by
          simp [ConnectionTask.step, hat, ServerPhase.await, IceLoop.convert,
            ConnectionTask.receiveIce, ConnectionTask.returning]
        have hsecond : (task.goto server.round (.closing (.ofRecvError clientId error))).step
            clientId .closedPeer =
              some ((task.record (.closed server.round)).report
                (.ofRecvError clientId error)) := rfl
        exact .after hfirst trivial (.after hsecond trivial (.reported rfl _))
  · cases hreceive

theorem Server.StandsAt.congr {server next : Server env.toEnvironment} {task : ConnectionTask env}
    (hstands : server.StandsAt task) (hphase : next.phase = server.phase)
    (hround : next.round = server.round) : next.StandsAt task where
  phase := by rw [hphase, hround, hstands.phase]
  peers := by
    rw [hphase, hround]
    exact hstands.peers

/-- The server of a session runs as a connection task that neither panics nor is aborted. -/
theorem UnorderedSession.server_runs (clientId : String)
    {session : UnorderedSession env.toEnvironment}
    (hreach : (unorderedSystem env.toEnvironment).Reachable session) :
    ∃ task, (connectionSystem env clientId).ReachableIf (fun _ event => event.Ordinary) task ∧
      session.server.StandsAt task := by
  refine hreach.simulates (fun session task => session.server.StandsAt task) ?_ ?_
  · rintro start rfl
    refine ⟨.start, rfl, rfl, ?_⟩
    intro count hcount
    exact Option.some.inj hcount
  · intro session event next task hstands _ hstep
    have hgets : ConnectionTask.Gets clientId task next.server := by
      cases event with
      | client action =>
          obtain ⟨⟨client, message⟩, _, rfl⟩ := Option.map_eq_some_iff.mp hstep
          exact ⟨task, .refl, hstands⟩
      | server action =>
          obtain ⟨⟨server, message⟩, hact, rfl⟩ := Option.map_eq_some_iff.mp hstep
          exact Server.act_gets clientId hstands hact
      | clientRecv index =>
          obtain ⟨ty, _, hrest⟩ := Option.bind_eq_some_iff.mp hstep
          obtain ⟨⟨frame, s2c⟩, _, hresult⟩ := Option.bind_eq_some_iff.mp hrest
          obtain ⟨phase, _, hnext⟩ := Option.bind_eq_some_iff.mp hresult
          obtain rfl := Option.some.inj hnext
          exact ⟨task, .refl, hstands⟩
      | serverRecv index =>
          obtain ⟨ty, hexpects, hrest⟩ := Option.bind_eq_some_iff.mp hstep
          obtain ⟨⟨frame, c2s⟩, _, hresult⟩ := Option.bind_eq_some_iff.mp hrest
          obtain ⟨server, hreceive, hnext⟩ := Option.bind_eq_some_iff.mp hresult
          obtain rfl := Option.some.inj hnext
          exact Server.receive_gets clientId hstands hexpects hreceive
      | clientEmit ice =>
          obtain ⟨client, _, rfl⟩ := Option.map_eq_some_iff.mp hstep
          exact ⟨task, .refl, hstands⟩
      | clientEnqueue =>
          obtain ⟨client, _, rfl⟩ := Option.map_eq_some_iff.mp hstep
          exact ⟨task, .refl, hstands⟩
      | serverEmit ice =>
          obtain ⟨server, hemit, rfl⟩ := Option.map_eq_some_iff.mp hstep
          obtain ⟨hphase, hround⟩ := Endpoint.emit_frame hemit
          exact ⟨task, .refl, hstands.congr hphase hround⟩
      | serverEnqueue =>
          obtain ⟨server, henqueue, rfl⟩ := Option.map_eq_some_iff.mp hstep
          obtain ⟨hphase, hround⟩ := Endpoint.enqueue_frame henqueue
          exact ⟨task, .refl, hstands.congr hphase hround⟩
    obtain ⟨last, hruns, hnextStands⟩ := hgets
    exact ⟨last, hnextStands, .inl hruns⟩

end MangleWebRTC.Upgrade
