import MangleWebRTC.Machine.Inevitability
import MangleWebRTC.Upgrade.Deadlock
import MangleWebRTC.Upgrade.Effort
import Mathlib.Data.Prod.Lex

/-! # Rounds come to their end

Under every schedule whose steps are all permitted, a client that calls `upgrade` a number of
times has returned from all the calls after finitely many steps. A step is not permitted if it
lets two sends of candidates block each other, or if the client's peer finds a candidate that
no handler hears. Only new candidates and new rounds keep a session going.
-/

namespace MangleWebRTC.Upgrade

open Machine

/-- What a session relies on: webrtc makes descriptions, the headers can state the length
of every message, and either direction of the transport can hold a byte. -/
structure Environment.Ordinary (env : Environment) : Prop where
  describes : Nonempty env.Sdp
  clientFits : ∀ frame,
    (env.codec.serialize (clientWire env frame).1 (clientWire env frame).2).length < 2 ^ 32
  serverFits : ∀ frame,
    (env.codec.serialize (serverWire env frame).1 (serverWire env frame).2).length < 2 ^ 32
  clientRoom : ∀ limit ∈ env.clientCapacity, 0 < limit
  serverRoom : ∀ limit ∈ env.serverCapacity, 0 < limit

theorem Link.exists_beginSend {env : Environment} {Item : Type} (link : Link env Item)
    {wire : Frame env.Sdp Item → (ty : WireType) × env.Value ty} {frame : Frame env.Sdp Item}
    (hfits : (env.codec.serialize (wire frame).1 (wire frame).2).length < 2 ^ 32) :
    ∃ next, link.beginSend wire frame = some next := by
  have hbytes : sendObj (env.codec.serialize (wire frame).1 (wire frame).2) =
      some (encodeFrame 4 (env.codec.serialize (wire frame).1 (wire frame).2)) :=
    sendObj_eq_some.mpr ⟨hfits, rfl⟩
  exact ⟨_, by rw [beginSend, hbytes]; rfl⟩

namespace Session

variable {env : Environment}

/-- The client has returned from the `upgrade` of a round and the server has left it. Up to
this round, either end has added all candidates of the other one, in order. -/
structure Completed (last : Nat) (session : Session env) : Prop where
  returned : session.client.round = last ∧ session.client.phase = .returned
  succeeded : session.server.Left .succeeded last
  toClient : ∀ round ≤ last, ∃ candidates : List env.Candidate,
    session.server.emitted round = candidates.map some ++ [none] ∧
    session.client.added round = candidates.map fun candidate => ⟨env.toJson candidate, true⟩
  toServer : ∀ round ≤ last, ∃ candidates : List env.Candidate,
    session.client.emitted round = candidates.map some ++ [none] ∧
    session.server.added round = candidates.map fun candidate => ⟨env.toJson candidate, true⟩

/-- The client calls `upgrade` up to a round, no two sends of candidates block each other, and
the client's peer finds candidates behind its handler. -/
def Permitted (last : Nat) (session : Session env) (event : SessionEvent env) : Prop :=
  session.Uncrossed event ∧ (event.isAgain = true → session.client.round < last)

/-- A step that needs neither a candidate nor a call of `upgrade`. -/
def Goes (session : Session env) : Prop :=
  ∃ event next, session.Uncrossed event ∧ event.isCandidate = false ∧ event.isAgain = false ∧
    session.step event = some next

/-- A client that may not start a send which crosses one of the server leaves the server
room, or reads what the server has sent. -/
theorem goes_of_client_crossing (hordinary : env.Ordinary) {session : Session env}
    (hordered : session.Ordered) {doneSending doneReceiving : Bool}
    (hphase : session.client.phase = .iceLoop ⟨doneSending, doneReceiving, .select⟩)
    (hserver : session.server.phase.sendsIce = true) : session.Goes := by
  have hsends : session.server.phase.sends = true := by
    obtain ⟨_, _, _, hsending⟩ := ServerPhase.exists_loop_of_sendsIce hserver
    rw [hsending]
    rfl
  by_cases houtgoing : session.s2c.outgoing = []
  · obtain ⟨next, hsent⟩ := exists_serverSent hsends houtgoing
    exact ⟨.server .sent, next, trivial, rfl, rfl, hsent⟩
  by_cases hfull : session.s2c.Full env.serverCapacity
  · have hcall := hordered.clientCall
    have hready : ¬ session.s2c.Reading := fun hreading =>
      hfull.unread_ne_nil hordinary.serverRoom hreading.2
    have hexpects : session.client.phase.expects = some .optionRtcMessage := by
      rw [hphase]
      rfl
    obtain ⟨action, next, hrecv⟩ := exists_clientRecv hexpects hcall hready
    exact ⟨.clientRecv action, next, trivial, rfl, rfl, hrecv⟩
  · obtain ⟨s2c, hwrite⟩ := Link.exists_write houtgoing hfull
    exact ⟨.serverWrite 1, { session with s2c := s2c }, trivial, rfl, rfl,
      by simp [step, hwrite]⟩

theorem goes_of_server_crossing (hordinary : env.Ordinary) {session : Session env}
    (hordered : session.Ordered) {doneSending doneReceiving : Bool}
    (hphase : session.server.phase = .iceLoop ⟨doneSending, doneReceiving, .select⟩)
    (hclient : session.client.phase.sendsIce = true) : session.Goes := by
  have hsends : session.client.phase.sends = true := by
    obtain ⟨_, _, _, hsending⟩ := ClientPhase.exists_loop_of_sendsIce hclient
    rw [hsending]
    rfl
  by_cases houtgoing : session.c2s.outgoing = []
  · obtain ⟨next, hsent⟩ := exists_clientSent hsends houtgoing
    exact ⟨.client .sent, next, trivial, rfl, rfl, hsent⟩
  by_cases hfull : session.c2s.Full env.clientCapacity
  · have hcall := hordered.serverCall
    have hready : ¬ session.c2s.Reading := fun hreading =>
      hfull.unread_ne_nil hordinary.clientRoom hreading.2
    have hexpects : session.server.phase.expects = some .optionIceCandidate := by
      rw [hphase]
      rfl
    obtain ⟨action, next, hrecv⟩ := exists_serverRecv hexpects hcall hready
    exact ⟨.serverRecv action, next, trivial, rfl, rfl, hrecv⟩
  · obtain ⟨c2s, hwrite⟩ := Link.exists_write houtgoing hfull
    exact ⟨.clientWrite 1, { session with c2s := c2s }, trivial, rfl, rfl,
      by simp [step, hwrite]⟩

theorem exists_select_of_client_takes {session next : Session env}
    (hact : session.clientAct .takeIce = some next) : ∃ doneSending doneReceiving,
      session.client.phase = .iceLoop ⟨doneSending, doneReceiving, .select⟩ := by
  match hphase : session.client.phase with
  | .iceLoop ⟨doneSending, doneReceiving, .select⟩ => exact ⟨doneSending, doneReceiving, rfl⟩
  | .iceLoop ⟨_, _, .sending _⟩ | .iceLoop ⟨_, _, .applying _⟩ | .start | .sendingOffer _
  | .settingLocal _ | .awaitingAnswer _ | .settingRemote _ _ | .addingIces [] | .addingIces (_ :: _)
  | .returned | .failed _ => simp [clientAct, hphase] at hact

theorem exists_select_of_server_takes {session next : Session env}
    (hact : session.serverAct .takeIce = some next) : ∃ doneSending doneReceiving,
      session.server.phase = .iceLoop ⟨doneSending, doneReceiving, .select⟩ := by
  match hphase : session.server.phase with
  | .iceLoop ⟨doneSending, doneReceiving, .select⟩ => exact ⟨doneSending, doneReceiving, rfl⟩
  | .iceLoop ⟨_, _, .sending _⟩ | .iceLoop ⟨_, _, .applying _⟩ | .awaitingOffer
  | .settingRemote _ | .creatingAnswer | .sendingAnswer _ | .settingLocal _ | .succeeded
  | .failed _ => simp [serverAct, hphase] at hact

/-- An end that emits can emit its marker. -/
theorem Endpoint.exists_marker {Phase : Type} {endpoint next : Endpoint env Phase}
    {ice : Option env.Candidate} (hemit : endpoint.emit ice = some next) :
    ∃ other, endpoint.emit none = some other := by
  obtain ⟨hgathering, hended, _⟩ := Endpoint.emit_eq_some hemit
  exact Endpoint.exists_emit hgathering hended none

/-- A live session goes on without new candidates and without a crossing. -/
theorem goes_of_live (hordinary : env.Ordinary) {session : Session env}
    (hordered : session.Ordered) (hlive : session.Live) : session.Goes := by
  cases hlive with
  | step event hcounts hstep =>
      cases event with
      | client action =>
          by_cases huncrossed : session.Uncrossed (.client action)
          · refine ⟨_, _, huncrossed, rfl, ?_, hstep⟩
            cases action with
            | upgradeAgain => exact hcounts.elim
            | _ => rfl
          · cases action with
            | takeIce =>
                obtain ⟨hserver, _⟩ := Classical.not_imp.mp huncrossed
                obtain ⟨_, _, hphase⟩ := exists_select_of_client_takes hstep
                exact goes_of_client_crossing hordinary hordered hphase hserver
            | _ => exact absurd trivial huncrossed
      | server action =>
          by_cases huncrossed : session.Uncrossed (.server action)
          · exact ⟨_, _, huncrossed, rfl, rfl, hstep⟩
          · cases action with
            | takeIce =>
                obtain ⟨hclient, _⟩ := Classical.not_imp.mp huncrossed
                obtain ⟨_, _, hphase⟩ := exists_select_of_server_takes hstep
                exact goes_of_server_crossing hordinary hordered hphase hclient
            | _ => exact absurd trivial huncrossed
      | clientEmit ice =>
          obtain ⟨client, hemit, _⟩ := Option.map_eq_some_iff.mp hstep
          obtain ⟨marked, hmarker⟩ := Endpoint.exists_marker hemit
          exact ⟨.clientEmit none, { session with client := marked }, hcounts.1, rfl, rfl,
            by simp [Session.step, hmarker]⟩
      | serverEmit ice =>
          obtain ⟨server, hemit, _⟩ := Option.map_eq_some_iff.mp hstep
          obtain ⟨marked, hmarker⟩ := Endpoint.exists_marker hemit
          exact ⟨.serverEmit none, { session with server := marked }, trivial, rfl, rfl,
            by simp [Session.step, hmarker]⟩
      | clientRecv action => exact ⟨.clientRecv action, _, trivial, rfl, rfl, hstep⟩
      | serverRecv action => exact ⟨.serverRecv action, _, trivial, rfl, rfl, hstep⟩
      | clientWrite count => exact ⟨.clientWrite count, _, trivial, rfl, rfl, hstep⟩
      | serverWrite count => exact ⟨.serverWrite count, _, trivial, rfl, rfl, hstep⟩
      | clientEnqueue => exact ⟨.clientEnqueue, _, trivial, rfl, rfl, hstep⟩
      | serverEnqueue => exact ⟨.serverEnqueue, _, trivial, rfl, rfl, hstep⟩
  | clientDescribes hphase =>
      obtain ⟨offer⟩ := hordinary.describes
      obtain ⟨c2s, hsend⟩ := session.c2s.exists_beginSend
        (hordinary.clientFits (.opening session.client.round offer))
      have hstep : ∃ next, session.step (.client (.createOffer offer)) = some next := by
        simp [Session.step, clientAct, hphase, hsend]
      obtain ⟨next, hstep⟩ := hstep
      exact ⟨.client (.createOffer offer), next, trivial, rfl, rfl, hstep⟩
  | serverDescribes hphase =>
      obtain ⟨answer⟩ := hordinary.describes
      obtain ⟨s2c, hsend⟩ := session.s2c.exists_beginSend
        (hordinary.serverFits (.opening session.server.round answer))
      have hstep : ∃ next, session.step (.server (.createAnswer answer)) = some next := by
        simp [Session.step, serverAct, hphase, hsend]
      obtain ⟨next, hstep⟩ := hstep
      exact ⟨.server (.createAnswer answer), next, trivial, rfl, rfl, hstep⟩
  | clientPanics doneSending doneReceiving ice channel hphase htake hlong =>
      obtain ⟨c2s, hsend⟩ := session.c2s.exists_beginSend
        (hordinary.clientFits (.candidate session.client.round ice))
      cases hlong.symm.trans hsend
  | serverPanics doneSending doneReceiving ice channel hphase htake hlong =>
      obtain ⟨s2c, hsend⟩ := session.s2c.exists_beginSend
        (hordinary.serverFits (.candidate session.server.round (ice.map env.toJson)))
      cases hlong.symm.trans hsend

/-- As long as the two ends have not left the client's round, one of them goes on. -/
theorem goes_of_awake (hordinary : env.Ordinary) {session : Session env}
    (hordered : session.Ordered) (hawake : session.Awake)
    (hrunning : ¬ (session.client.phase = .returned ∧
      session.server.Left .succeeded session.client.round)) : session.Goes := by
  by_cases hlive : session.Live
  · exact goes_of_live hordinary hordered hlive
  have hserver := server_held hordered hawake hlive
  cases client_held hordered hawake hlive with
  | sending hclient hfull =>
      exact absurd hserver
        (not_held_sending hordinary.clientRoom hordered hawake hlive hclient hfull)
  | waiting hclient hreading hstages =>
      exact absurd hserver
        (not_held_waiting hordinary.serverRoom hordered hawake hlive hclient hreading hstages)
  | returned hphase =>
      exact absurd ⟨hphase, left_of_returned hordered hawake hlive hphase hserver⟩ hrunning

/-- Two ends that have left a round have exchanged their candidates up to there. -/
theorem completed_of_left {session : Session env} (hordered : session.Ordered)
    (hawake : session.Awake) (hphase : session.client.phase = .returned)
    (hserver : session.server.Left .succeeded session.client.round) :
    session.Completed session.client.round where
  returned := ⟨rfl, hphase⟩
  succeeded := hserver
  toClient round hround := by
    have hleft : session.client.Left .returned round :=
      hround.lt_or_eq.imp_right fun heq => ⟨heq, hphase⟩
    apply Endpoint.exists_transferred hordered.s2c hordered.serverKeeps hordered.clientApplies
      (hordered.serverHears round) (client_inStage_of_left hleft)
    intro _
    rw [hphase]
    rfl
  toServer round hround := by
    refine (clientIcesArrive_of_ordered hordered hawake.clientHears).added round ?_
    rcases hround.lt_or_eq with hearlier | rfl
    · rcases hserver with hlater | ⟨heq, _⟩
      · exact .inl (hearlier.trans hlater)
      · exact .inl (heq ▸ hearlier)
    · exact hserver

/-- The budget of candidates and the calls of `upgrade` to come are worth the effort they
add. -/
def rank (last : Nat) (state : Session env × Nat) : Nat ×ₗ Nat :=
  toLex (state.1.effort + 6 * state.2 + 64 * (last - state.1.client.round), state.1.motion)

theorem rank_lt {last : Nat} {state next : Session env × Nat} {event : SessionEvent env}
    (hordered : state.1.Ordered) (hpermitted : state.1.Permitted last event)
    (hcharge : TransitionSystem.charge SessionEvent.isCandidate event state.2 = some next.2)
    (hstep : state.1.step event = some next.1) : rank last next < rank last state := by
  rw [rank, rank, Prod.Lex.toLex_lt_toLex]
  rcases hordered.step_effort hstep with ⟨hcandidate, heffort, hround⟩ |
    ⟨hagain, heffort, hround⟩ | ⟨hcandidate, _, hadvances, hround⟩
  · left
    rcases TransitionSystem.charge_eq_some.mp hcharge with ⟨_, hbudget⟩ | ⟨hfree, _⟩
    · simp only [hbudget, hround]
      omega
    · cases hcandidate.symm.trans hfree
  · left
    have hlast := hpermitted.2 hagain
    rcases TransitionSystem.charge_eq_some.mp hcharge with ⟨_, hbudget⟩ | ⟨_, hbudget⟩ <;>
      simp only [hbudget, hround] <;> omega
  · rcases TransitionSystem.charge_eq_some.mp hcharge with ⟨hpaid, _⟩ | ⟨_, hbudget⟩
    · cases hcandidate.symm.trans hpaid
    · simp only [hbudget, hround]
      rcases hadvances with hless | ⟨heq, hless⟩
      · left
        omega
      · right
        exact ⟨by omega, hless⟩

/-- Whatever the schedule, as long as every step of it is permitted and so was every step
before: a client that calls `upgrade` up to a round returns from all its calls, with the
candidates of both ends exchanged, when the peers find finitely many. -/
theorem rounds_complete (hordinary : env.Ordinary) {session : Session env}
    (hreach : (sessionSystem env).ReachableIf Uncrossed session) {last : Nat}
    (hlast : session.client.round ≤ last) (candidates : Nat) :
    ((sessionSystem env).budgeted SessionEvent.isCandidate).Inevitable
      (fun state => state.1.Permitted last) (fun state => state.1.Completed last)
      (session, candidates) := by
  obtain ⟨hordered, hawake⟩ := awake_of_reachable hreach
  refine TransitionSystem.inevitable_of_decreasing (rank last)
    (fun state => state.1.Ordered ∧ state.1.Awake ∧ state.1.client.round ≤ last) ?_ ?_
    ⟨hordered, hawake, hlast⟩
  · rintro ⟨state, budget⟩ ⟨hordered, hawake, hlast⟩ hgoal
    by_cases hleft : state.client.phase = .returned ∧
        state.server.Left .succeeded state.client.round
    · obtain ⟨hphase, hserver⟩ := hleft
      have hnext : state.client.round < last := by
        refine lt_of_le_of_ne hlast ?_
        rintro rfl
        exact hgoal (completed_of_left hordered hawake hphase hserver)
      refine ⟨.client .upgradeAgain, ({ state with client := state.client.nextRound .start },
        budget), ⟨trivial, fun _ => hnext⟩, ?_⟩
      exact TransitionSystem.budgeted_step_eq_some.mpr
        ⟨rfl, by simp [sessionSystem, step, clientAct, hphase]⟩
    · obtain ⟨event, next, huncrossed, hcandidate, hagain, hstep⟩ :=
        goes_of_awake hordinary hordered hawake hleft
      refine ⟨event, (next, budget), ⟨huncrossed, by simp [hagain]⟩, ?_⟩
      exact TransitionSystem.budgeted_step_eq_some.mpr
        ⟨TransitionSystem.charge_eq_some.mpr (.inr ⟨hcandidate, rfl⟩), hstep⟩
  · rintro state event next ⟨hordered, hawake, hlast⟩ hpermitted hstep
    obtain ⟨hcharge, hstep⟩ := TransitionSystem.budgeted_step_eq_some.mp hstep
    refine ⟨⟨hordered.step hstep, hawake.step hpermitted.1 hstep, ?_⟩,
      rank_lt hordered hpermitted hcharge hstep⟩
    rcases hordered.step_effort hstep with ⟨_, _, hround⟩ | ⟨hagain, _, hround⟩ |
      ⟨_, _, _, hround⟩
    · exact hround ▸ hlast
    · exact hround ▸ hpermitted.2 hagain
    · exact hround ▸ hlast

theorem length_byteCodec_le (ty : WireType) (value : WireValue UInt8 UInt8 UInt8 ty) :
    (byteCodec.serialize ty value).length ≤ 3 := by
  cases ty with
  | sessionDescription => exact Nat.le_of_ble_eq_true rfl
  | rtcMessage => cases value <;> exact Nat.le_of_ble_eq_true rfl
  | optionRtcMessage => rcases value with _ | (_ | _) <;> exact Nat.le_of_ble_eq_true rfl
  | optionIceCandidate => cases value <;> exact Nat.le_of_ble_eq_true rfl

theorem ordinary_narrow (limit : Nat) (hlimit : 0 < limit) :
    (narrowEnvironment limit).Ordinary where
  describes := ⟨(0 : UInt8)⟩
  clientFits _ := (length_byteCodec_le _ _).trans_lt (by omega)
  serverFits _ := (length_byteCodec_le _ _).trans_lt (by omega)
  clientRoom := by simpa
  serverRoom := by simpa

/-- Four calls with at most ten candidates, a byte at a time in either direction. -/
theorem rounds_complete_narrow :
    ((sessionSystem (narrowEnvironment 1)).budgeted SessionEvent.isCandidate).Inevitable
      (fun state => state.1.Permitted 3) (fun state => state.1.Completed 3)
      (initial (narrowEnvironment 1), 10) :=
  rounds_complete (ordinary_narrow 1 Nat.one_pos) ⟨_, rfl, .refl⟩ (Nat.zero_le 3) 10

/-- A peer that gathers can find candidates for ever. -/
theorem exists_execution_of_gathering (candidate : env.Candidate) {start : Session env}
    (hgathers : start.client.peer.gathering = true ∧ start.client.peer.ended = false) :
    ∃ execution : (sessionSystem env).Execution start,
      ∀ time, execution.events time = .clientEmit (some candidate) := by
  have hstep : ∀ session : Session env,
      session.client.peer.gathering = true ∧ session.client.peer.ended = false →
      ∃ next, (sessionSystem env).step session (.clientEmit (some candidate)) = some next ∧
        next.client.peer.gathering = true ∧ next.client.peer.ended = false := by
    rintro session ⟨hgathering, hended⟩
    obtain ⟨client, hemit⟩ := Endpoint.exists_emit hgathering hended (some candidate)
    refine ⟨{ session with client := client }, by simp [sessionSystem, step, hemit], ?_⟩
    obtain ⟨_, _, _, ⟨_, hnext⟩ | ⟨_, hnext⟩⟩ := Endpoint.emit_eq_some hemit <;>
      rw [hnext] <;>
      exact ⟨hgathering, rfl⟩
  exact TransitionSystem.exists_execution_of_repeat hstep hgathers

/-- A session that never ends finds candidates, or calls `upgrade`, again and again. -/
theorem candidates_or_rounds_recur {start : Session env}
    (hreach : (sessionSystem env).Reachable start)
    (execution : (sessionSystem env).Execution start) :
    ¬ execution.FinitelyOften fun event =>
      event.isCandidate = true ∨ event.isAgain = true := by
  refine TransitionSystem.Execution.not_finitelyOften
    (fun session => (toLex (session.effort, session.motion) : Nat ×ₗ Nat)) Ordered
    (fun _ _ _ hordered hstep => hordered.step hstep) ?_ (ordered_of_reachable hreach) execution
  intro session event next hordered hrare hstep
  rw [Prod.Lex.toLex_lt_toLex]
  rcases hordered.step_effort hstep with ⟨hcandidate, _⟩ | ⟨hagain, _⟩ | ⟨_, _, hadvances, _⟩
  · exact absurd (.inl hcandidate) hrare
  · exact absurd (.inr hagain) hrare
  · exact hadvances

theorem candidates_or_rounds_recur_gathering :
    ∃ start, (sessionSystem byteEnvironment).Reachable start ∧
      ∃ execution : (sessionSystem byteEnvironment).Execution start,
        ¬ execution.FinitelyOften fun event =>
          event.isCandidate = true ∨ event.isAgain = true := by
  obtain ⟨start, hrun, htest⟩ := (sessionSystem byteEnvironment).exists_run_of_any
    (initial byteEnvironment)
    [.client (.createOffer (1 : UInt8)), .clientWrite 5, .client .sent,
      .client .setLocalDescription]
    (fun session => session.client.peer.gathering = true ∧ session.client.peer.ended = false)
    (by decide)
  have hreach : (sessionSystem byteEnvironment).Reachable start := .of_run rfl hrun
  obtain ⟨execution, _⟩ := exists_execution_of_gathering (3 : UInt8) (of_decide_eq_true htest)
  exact ⟨start, hreach, execution, candidates_or_rounds_recur hreach execution⟩

end Session

end MangleWebRTC.Upgrade
