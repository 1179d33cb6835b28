import MangleWebRTC.Upgrade.Fidelity

/-! # Delivery of candidates

The server registers its handler with the peer, so all its candidates reach the
client. The client registers its handler after the answer: what its peer emits
before is lost, and nothing else is.
-/

namespace MangleWebRTC.Upgrade

open Machine

namespace Endpoint

variable {env : Environment} {Phase OtherPhase Item : Type}

/-- All candidates of a round have gone from one peer, through the link, to the
other peer. -/
theorem exists_transferred {source : Endpoint env Phase} {sink : Endpoint env OtherPhase}
    {toWire : env.Candidate → Item} {fromWire : Item → env.CandidateInit} {link : Link env Item}
    {wire} {out inn : Stage} {pending : List Item} {round : Nat}
    (hlink : link.Carries wire out inn) (hkeeps : source.Conserves toWire link.sent)
    (happlies : sink.Applies fromWire pending link.delivered)
    (hdropped : source.dropped round = [])
    (hinn : (Stage.before (round + 1)).rank ≤ inn.rank)
    (hpending : round = sink.round → pending = []) :
    ∃ candidates : List env.Candidate, source.emitted round = candidates.map some ++ [none] ∧
      sink.added round = candidates.map fun candidate => ⟨fromWire (toWire candidate), true⟩ := by
  have hdelivered := hlink.ices_delivered hinn
  have hmarker := hlink.none_mem_delivered hinn
  rw [hdelivered] at hmarker
  obtain ⟨candidates, hemitted, hsent⟩ := hkeeps.exists_candidates hdropped hmarker
  refine ⟨candidates, hemitted, ?_⟩
  rw [happlies.added_eq hpending, hdelivered, hsent, Gathered.reduceOption_complete, List.map_map]
  rfl

end Endpoint

namespace Session

variable {env : Environment}

/-- Whenever `upgrade` has returned `Ok`, the candidates it added are those the
server's peer emitted in that round before its end marker, in order, and all were
added after the remote description was set. -/
theorem server_candidates_delivered {session : Session env}
    (hreach : (sessionSystem env).Reachable session) {round : Nat}
    (hleft : session.client.Left .returned round) :
    ∃ candidates : List env.Candidate,
      session.server.emitted round = candidates.map some ++ [none] ∧
      session.client.added round =
        candidates.map fun candidate => ⟨env.toJson candidate, true⟩ := by
  have hinv := ordered_of_reachable hreach
  apply Endpoint.exists_transferred hinv.s2c hinv.serverKeeps hinv.clientApplies
    (hinv.serverHears round) (client_inStage_of_left hleft)
  intro hcurrent
  rcases hleft with hlater | ⟨_, hphase⟩
  · omega
  · rw [hphase]
    rfl

/-- A round in which the server's peer emits one candidate. -/
theorem server_candidates_delivered_one :
    ∃ session, (sessionSystem byteEnvironment).run (initial byteEnvironment)
        (offerEvents 1 ++ answerEvents 2 ++ exchangeEvents 3 4) = some session ∧
      session.client.Left .returned 0 ∧
      ∃ candidates : List UInt8, session.server.emitted 0 = candidates.map some ++ [none] ∧
        session.client.added 0 = candidates.map fun candidate => ⟨candidate + 100, true⟩ := by
  obtain ⟨session, hrun, htest⟩ := (sessionSystem byteEnvironment).exists_run_of_any
    (initial byteEnvironment) (offerEvents 1 ++ answerEvents 2 ++ exchangeEvents 3 4)
    (fun session => session.client.round = 0 ∧
      (match session.client.phase with
        | .returned => true
        | _ => false) = true)
    (by decide +kernel)
  obtain ⟨hround, hphase⟩ := of_decide_eq_true htest
  have hleft : session.client.Left .returned 0 := by
    refine .inr ⟨hround.symm, ?_⟩
    split at hphase
    next hreturned => exact hreturned
    · cases hphase
  exact ⟨session, hrun, hleft, server_candidates_delivered (.of_run rfl hrun) hleft⟩

/-- What the client owes to the events of its peer. Every event is sent once and
in order, or waits in the channel; when the server has left a round it has added
exactly the candidates of the client's peer; and a client that waits in `select!`
for an end marker that was emitted has it in its channel, which can move. -/
structure ClientIcesArrive (session : Session env) : Prop where
  sent : ∀ round, session.client.emitted round =
    Frame.ices round session.c2s.sent ++ session.client.held round
  added : ∀ round, session.server.Left .succeeded round →
    ∃ candidates : List env.Candidate,
      session.client.emitted round = candidates.map some ++ [none] ∧
      session.server.added round =
        candidates.map fun candidate => ⟨env.toJson candidate, true⟩
  marker : ∀ doneReceiving,
    session.client.phase = .iceLoop ⟨false, doneReceiving, .select⟩ →
    none ∈ session.client.emitted session.client.round →
      (∃ candidates : List env.Candidate,
        session.client.peer.channel.contents = candidates.map some ++ [none]) ∧
      ((∃ ice channel, session.client.peer.channel.take = some (ice, channel)) ∨
        ∃ channel, session.client.peer.channel.enqueue = some channel)

/-- The client's peer emits its events behind the registered handler. -/
def HandlerReady (session : Session env) : SessionEvent env → Prop
  | .clientEmit _ => session.client.peer.handler = true
  | _ => True

instance (session : Session env) :
    (event : SessionEvent env) → Decidable (session.HandlerReady event)
  | .clientEmit _ => inferInstanceAs (Decidable (session.client.peer.handler = true))
  | .client _ | .server _ | .clientRecv _ | .serverRecv _ | .clientWrite _ | .serverWrite _
  | .serverEmit _ | .clientEnqueue | .serverEnqueue => inferInstanceAs (Decidable True)

/-- Only an emission without a handler adds to the dropped events. -/
theorem dropped_of_step {session next : Session env} {event : SessionEvent env}
    (hstep : session.step event = some next) :
    HandlerReady session event ∧ next.client.dropped = session.client.dropped ∨
      ∃ ice, event = .clientEmit ice ∧ session.client.peer.handler = false ∧
        next.client.dropped = Function.update session.client.dropped session.client.round
          (session.client.dropped session.client.round ++ [ice]) := by
  cases event with
  | client action => cases ClientStep.of_act hstep <;> exact .inl ⟨trivial, rfl⟩
  | server action => cases ServerStep.of_act hstep <;> exact .inl ⟨trivial, rfl⟩
  | clientRecv action =>
      obtain ⟨_, _, _, _, _, ⟨_, rfl⟩ | ⟨_, _, _, _, rfl⟩⟩ := clientRecv_eq_some hstep <;>
        exact .inl ⟨trivial, rfl⟩
  | serverRecv action =>
      obtain ⟨_, _, _, _, _, ⟨_, rfl⟩ | ⟨_, _, _, _, rfl⟩⟩ := serverRecv_eq_some hstep <;>
        exact .inl ⟨trivial, rfl⟩
  | clientWrite count =>
      obtain ⟨_, _, rfl⟩ := Option.map_eq_some_iff.mp hstep
      exact .inl ⟨trivial, rfl⟩
  | serverWrite count =>
      obtain ⟨_, _, rfl⟩ := Option.map_eq_some_iff.mp hstep
      exact .inl ⟨trivial, rfl⟩
  | clientEmit ice =>
      obtain ⟨client, hemit, rfl⟩ := Option.map_eq_some_iff.mp hstep
      obtain ⟨_, _, _, ⟨hready, hnext⟩ | ⟨hsilent, hnext⟩⟩ := Endpoint.emit_eq_some hemit
      · rw [hnext]
        exact .inl ⟨hready, rfl⟩
      · rw [hnext]
        exact .inr ⟨ice, rfl, hsilent, rfl⟩
  | serverEmit ice =>
      obtain ⟨_, _, rfl⟩ := Option.map_eq_some_iff.mp hstep
      exact .inl ⟨trivial, rfl⟩
  | clientEnqueue =>
      obtain ⟨client, henqueue, rfl⟩ := Option.map_eq_some_iff.mp hstep
      obtain ⟨_, _, rfl⟩ := Option.map_eq_some_iff.mp henqueue
      exact .inl ⟨trivial, rfl⟩
  | serverEnqueue =>
      obtain ⟨_, _, rfl⟩ := Option.map_eq_some_iff.mp hstep
      exact .inl ⟨trivial, rfl⟩

/-- With nothing dropped the client owes nothing. -/
theorem clientIcesArrive_of_ordered {session : Session env} (hinv : session.Ordered)
    (hdropped : ∀ round, session.client.dropped round = []) : session.ClientIcesArrive := by
  have hsent : ∀ round, session.client.emitted round =
      Frame.ices round session.c2s.sent ++ session.client.held round := by
    intro round
    simpa [hdropped round] using hinv.clientKeeps.kept round
  refine ⟨hsent, ?_, ?_⟩
  · intro round hleft
    apply Endpoint.exists_transferred hinv.c2s hinv.clientKeeps hinv.serverApplies
      (hdropped round) (server_inStage_of_left hleft)
    intro hcurrent
    rcases hleft with hlater | ⟨_, hphase⟩
    · omega
    · rw [hphase]
      rfl
  · intro doneReceiving hphase hmarker
    -- A loop that still sends has not sent a marker, so the marker is held back.
    have hopen : none ∉ Frame.ices session.client.round session.c2s.sent := by
      have hc2s := hinv.c2s
      rw [hphase] at hc2s
      exact hc2s.none_not_mem_sent le_rfl
    have hgathered := hinv.clientKeeps.gathered session.client.round
    rw [hsent, Endpoint.held_self] at hgathered hmarker
    have hcontents : none ∈ session.client.peer.channel.contents :=
      (List.mem_append.mp hmarker).resolve_left hopen
    refine ⟨(hgathered.of_append hopen).exists_complete hcontents, ?_⟩
    exact Mailbox.take_or_enqueue (by decide) (List.ne_nil_of_mem hcontents)

/-- The candidates of the client arrive throughout a run if and only if its peer
emits behind the registered handler. -/
theorem client_ices_arrive_iff {events : List (SessionEvent env)} {final : Session env}
    (hrun : (sessionSystem env).run (initial env) events = some final) :
    (sessionSystem env).Throughout ClientIcesArrive (initial env) events ↔
      (sessionSystem env).Guarded HandlerReady (initial env) events := by
  apply TransitionSystem.throughout_iff_guarded
    (fun session : Session env =>
      session.Ordered ∧ ∀ round, session.client.dropped round = []) ?_ ?_ ?_
    ⟨ordered_initial, fun _ => rfl⟩ hrun
  · rintro session ⟨hinv, hdropped⟩
    exact clientIcesArrive_of_ordered hinv hdropped
  · rintro session event next ⟨hinv, hdropped⟩ hguard hstep
    refine ⟨hinv.step hstep, ?_⟩
    rcases dropped_of_step hstep with ⟨_, hsame⟩ | ⟨ice, rfl, hsilent, _⟩
    · rwa [hsame]
    · exact absurd (hsilent.symm.trans hguard) Bool.false_ne_true
  · rintro session event next ⟨hinv, _⟩ hguard hstep harrive
    rcases dropped_of_step hstep with ⟨hready, _⟩ | ⟨ice, rfl, hsilent, hdropped⟩
    · exact hguard hready
    -- The balance counts a dropped event that the property does not allow.
    · have hemit : session.step (.clientEmit ice) = some next := hstep
      have hkept := (hinv.step hemit).clientKeeps.kept session.client.round
      rw [harrive.sent, hdropped] at hkept
      have hlength := congrArg List.length hkept
      simp only [Function.update_self, Option.map_id_fun, List.map_id_fun, id_eq,
        List.length_append, List.length_singleton] at hlength
      omega

/-- One candidate, emitted after the handler was registered. -/
theorem client_ices_arrive_late_gathering :
    ∃ session, (sessionSystem byteEnvironment).run (initial byteEnvironment)
        (offerEvents 1 ++ answerEvents 2 ++ exchangeEvents 3 4) = some session ∧
      session.client.emitted 0 = [some 3, none] ∧ session.ClientIcesArrive := by
  obtain ⟨session, hrun, htest⟩ := (sessionSystem byteEnvironment).exists_run_of_any
    (initial byteEnvironment) (offerEvents 1 ++ answerEvents 2 ++ exchangeEvents 3 4)
    (fun session => session.client.emitted 0 = [some 3, none]) (by decide +kernel)
  have hguarded : (sessionSystem byteEnvironment).Guarded HandlerReady (initial byteEnvironment)
      (offerEvents 1 ++ answerEvents 2 ++ exchangeEvents 3 4) := by
    apply TransitionSystem.guarded_of_check
    decide +kernel
  exact ⟨session, hrun, of_decide_eq_true htest,
    ((client_ices_arrive_iff hrun).mpr hguarded).final hrun⟩

/-- Once the end marker has met no handler, `upgrade` never returns. -/
theorem not_left_of_dropped_marker {session later : Session env} (hinv : session.Ordered)
    {round : Nat} (hlost : none ∈ session.client.dropped round)
    (hreach : (sessionSystem env).ReachableFrom (fun _ _ => True) session later) :
    ¬ later.client.Left .returned round := by
  have hkept : later.Ordered ∧ none ∈ later.client.dropped round := by
    apply hreach.invariant (fun state : Session env =>
      state.Ordered ∧ none ∈ state.client.dropped round) ⟨hinv, hlost⟩
    rintro state event next ⟨hstate, hmem⟩ _ hstep
    have hevent : state.step event = some next := hstep
    refine ⟨hstate.step hevent, ?_⟩
    rcases dropped_of_step hevent with ⟨_, hsame⟩ | ⟨ice, _, _, hdropped⟩
    · rwa [hsame]
    · rw [hdropped]
      by_cases hcurrent : round = state.client.round
      · rw [← hcurrent, Function.update_self]
        exact List.mem_append_left _ hmem
      · rwa [Function.update_of_ne hcurrent]
  intro hleft
  -- A client that left has sent a marker, but nothing follows the dropped one.
  have hsent := hkept.1.c2s.none_mem_sent (client_outStage_of_left hleft)
  have hgathered := (hkept.1.clientKeeps.gathered round).map id
  rw [hkept.1.clientKeeps.kept, List.append_assoc] at hgathered
  have hnil := hgathered.eq_nil_of_mem (List.mem_map_of_mem hkept.2)
  rw [(List.append_eq_nil_iff.mp hnil).1] at hsent
  cases hsent

/-- A candidate that is gathered while the client waits for the answer never
reaches the server, and an end marker emitted then is waited for in vain. -/
theorem client_ices_lost :
    (∃ session, (sessionSystem byteEnvironment).run (initial byteEnvironment)
        (offerEvents 1 ++ [.clientEmit (some 3)] ++ answerEvents 2 ++
          [.clientEmit none, .clientEnqueue, .client .takeIce, .clientWrite 5, .client .sent,
            .serverEmit none, .serverEnqueue, .server .takeIce, .serverWrite 5, .server .sent,
            .serverRecv .create, .serverRecv .poll, .serverRecv (.read 5)]) = some session ∧
      session.server.Left .succeeded 0 ∧ session.client.emitted 0 = [some 3, none] ∧
      session.server.added 0 = [] ∧ ¬ session.ClientIcesArrive) ∧
    ∃ session, (sessionSystem byteEnvironment).run (initial byteEnvironment)
        (offerEvents 1 ++ [.clientEmit none] ++ answerEvents 2) = some session ∧
      session.client.emitted 0 = [none] ∧ session.client.held 0 = [] ∧
      ∀ later, (sessionSystem byteEnvironment).ReachableFrom (fun _ _ => True) session later →
        ¬ later.client.Left .returned 0 := by
  constructor
  · obtain ⟨session, hrun, htest⟩ := (sessionSystem byteEnvironment).exists_run_of_any
      (initial byteEnvironment) (offerEvents 1 ++ [.clientEmit (some 3)] ++ answerEvents 2 ++
        [.clientEmit none, .clientEnqueue, .client .takeIce, .clientWrite 5, .client .sent,
          .serverEmit none, .serverEnqueue, .server .takeIce, .serverWrite 5, .server .sent,
          .serverRecv .create, .serverRecv .poll, .serverRecv (.read 5)])
      (fun session => session.server.round = 0 ∧ session.client.emitted 0 = [some 3, none] ∧
        session.server.added 0 = [] ∧
        (match session.server.phase with
          | .succeeded => true
          | _ => false) = true)
      (by decide +kernel)
    obtain ⟨hround, hemitted, hadded, hphase⟩ := of_decide_eq_true htest
    have hleft : session.server.Left .succeeded 0 := by
      refine .inr ⟨hround.symm, ?_⟩
      split at hphase
      next hsucceeded => exact hsucceeded
      · cases hphase
    refine ⟨session, hrun, hleft, hemitted, hadded, fun harrive => ?_⟩
    obtain ⟨candidates, hcandidates, hserver⟩ := harrive.added 0 hleft
    rw [hadded, eq_comm, List.map_eq_nil_iff] at hserver
    rw [hemitted, hserver] at hcandidates
    cases hcandidates
  · obtain ⟨session, hrun, htest⟩ := (sessionSystem byteEnvironment).exists_run_of_any
      (initial byteEnvironment) (offerEvents 1 ++ [.clientEmit none] ++ answerEvents 2)
      (fun session => session.client.emitted 0 = [none] ∧ session.client.held 0 = [] ∧
        session.client.dropped 0 = [none])
      (by decide +kernel)
    obtain ⟨hemitted, hheld, hdropped⟩ := of_decide_eq_true htest
    refine ⟨session, hrun, hemitted, hheld, fun later hlater => ?_⟩
    apply not_left_of_dropped_marker (ordered_of_reachable (.of_run rfl hrun)) _ hlater
    simp [hdropped]

end Session

end MangleWebRTC.Upgrade
