import MangleWebRTC.Upgrade.Ends
import MangleWebRTC.Upgrade.Fidelity

/-! # Signaling without an order

The two programs over an `UpgradeTransport` that delivers every message of the other side
once, in an arbitrary order among the messages in flight. Candidates may overtake each
other; the opening description of a round may neither overtake nor be overtaken, and an
end marker that overtakes candidates is harmless as long as the receiving end does not
leave its loop before they arrive.
-/

namespace MangleWebRTC.Upgrade

open Machine

/-- Both ends of a session and the messages in flight between them. -/
structure UnorderedSession (env : Environment) where
  client : Client env
  server : Server env
  c2s : Pool (Frame env.Sdp env.Candidate)
  s2c : Pool (Frame env.Sdp env.CandidateInit)

/-- A receive resolves with the message at an index of those in flight. A dropped
`recv_obj` takes none, and the transport decides when a send is over. -/
inductive UnorderedEvent (env : Environment) where
  | client (action : ClientAction env)
  | server (action : ServerAction env)
  | clientRecv (index : Nat)
  | serverRecv (index : Nat)
  | clientEmit (ice : Option env.Candidate)
  | serverEmit (ice : Option env.Candidate)
  | clientEnqueue
  | serverEnqueue

namespace UnorderedSession

variable {env : Environment}

/-- No upgrade has begun and nothing is in flight. -/
def initial (env : Environment) : UnorderedSession env :=
  ⟨.start .start, .start .awaitingOffer, .empty, .empty⟩

/-- The client's `recv_obj` gets one of the messages in flight. -/
def clientRecv (session : UnorderedSession env) (index : Nat) :
    Option (UnorderedSession env) := do
  let ty ← session.client.phase.expects
  let (frame, s2c) ← session.s2c.deliver index
  let phase ← session.client.phase.receive (decodeAt env ty (serverWire env frame))
  return { session with client := { session.client with phase := phase }, s2c := s2c }

/-- The server's `recv_obj` gets one of the messages in flight. -/
def serverRecv (session : UnorderedSession env) (index : Nat) :
    Option (UnorderedSession env) := do
  let ty ← session.server.phase.expects
  let (frame, c2s) ← session.c2s.deliver index
  let server ← session.server.receive (decodeAt env ty (clientWire env frame))
  return { session with server := server, c2s := c2s }

/-- One step of either program or of either peer. -/
def step (session : UnorderedSession env) : UnorderedEvent env → Option (UnorderedSession env)
  | .client action => (session.client.act action).map fun (client, message) =>
      { session with client := client, c2s := session.c2s.postOption message }
  | .server action => (session.server.act action).map fun (server, message) =>
      { session with server := server, s2c := session.s2c.postOption message }
  | .clientRecv index => session.clientRecv index
  | .serverRecv index => session.serverRecv index
  | .clientEmit ice =>
      (session.client.emit ice).map fun client => { session with client := client }
  | .serverEmit ice =>
      (session.server.emit ice).map fun server => { session with server := server }
  | .clientEnqueue => session.client.enqueue.map fun client => { session with client := client }
  | .serverEnqueue => session.server.enqueue.map fun server => { session with server := server }

end UnorderedSession

/-- All interleavings over unordered transports. -/
def unorderedSystem (env : Environment) :
    TransitionSystem (UnorderedSession env) (UnorderedEvent env) where
  init session := session = UnorderedSession.initial env
  step := UnorderedSession.step

namespace UnorderedSession

variable {env : Environment}

/-- Neither end fails, and a round that both ends have left has no message in flight; all
its candidates were added to the receiving peer, in some order. -/
structure Tolerant (session : UnorderedSession env) : Prop where
  clientRuns : ∀ error, session.client.phase ≠ .failed error
  serverRuns : ∀ error, session.server.phase ≠ .failed error
  consumed : ∀ round, session.client.Left .returned round →
    session.server.Left .succeeded round →
      (∀ frame ∈ session.c2s.inFlight, round < frame.round) ∧
      ∀ frame ∈ session.s2c.inFlight, round < frame.round
  added : ∀ round, session.client.Left .returned round →
    session.server.Left .succeeded round →
      ((session.server.added round).map AddedCandidate.candidate).Perm
        ((Frame.ices round session.c2s.sent).reduceOption.map env.toJson) ∧
      ((session.client.added round).map AddedCandidate.candidate).Perm
        (Frame.ices round session.s2c.sent).reduceOption

/-- A message overtakes nothing but candidates, and is itself a candidate then, or the
marker at an end that has not sent its own. An end that has received the marker takes its
own one when nothing is in flight to it. -/
def InTurn (session : UnorderedSession env) : UnorderedEvent env → Prop
  | .clientRecv index => ∀ frame ∈ session.s2c.inFlight[index]?,
      ∀ overtaken ∈ session.s2c.inFlight.take index, overtaken.part = .item ∧
        frame.part ≠ .opening ∧
        (frame.part = .closing → session.client.phase.doneSendingIce = false)
  | .serverRecv index => ∀ frame ∈ session.c2s.inFlight[index]?,
      ∀ overtaken ∈ session.c2s.inFlight.take index, overtaken.part = .item ∧
        frame.part ≠ .opening ∧
        (frame.part = .closing → session.server.phase.doneSendingIce = false)
  | .client .takeIce => session.client.phase.doneReceivingIce = true →
      ∀ ice ∈ session.client.peer.channel.slots.head?, ice.isNone = true →
        session.s2c.inFlight = []
  | .server .takeIce => session.server.phase.doneReceivingIce = true →
      ∀ ice ∈ session.server.peer.channel.slots.head?, ice.isNone = true →
        session.c2s.inFlight = []
  | _ => True

/-- Both ends are sound and the messages in flight bridge their stages. -/
structure Bridged (session : UnorderedSession env) : Prop where
  client : session.client.Sound session.c2s.sent session.s2c.received
  server : session.server.Sound session.s2c.sent session.c2s.received
  c2s : Bridges Frame.part Frame.round (session.server.phase.inStage session.server.round)
    (session.client.phase.outStage session.client.round)
    (session.server.phase.outStage session.server.round) session.c2s.inFlight
  s2c : Bridges Frame.part Frame.round (session.client.phase.inStage session.client.round)
    (session.server.phase.outStage session.server.round)
    (session.client.phase.outStage session.client.round) session.s2c.inFlight

theorem bridged_initial : (initial env).Bridged where
  client := ⟨rfl, Endpoint.conserves_start _, Endpoint.applies_start _, trivial⟩
  server := ⟨rfl, Endpoint.conserves_start _, Endpoint.applies_start _, rfl⟩
  c2s := .path rfl
  s2c := .path rfl

/-- While the client is within a round the server is not beyond it. -/
theorem Bridged.server_outStage_le {session : UnorderedSession env} (hinv : session.Bridged)
    {round : Nat} (hwithin : session.client.phase.outStage session.client.round = .within round) :
    (session.server.phase.outStage session.server.round).rank ≤
      (Stage.before (round + 1)).rank := by
  have hrank := hinv.c2s.rank_le
  have hin := (session.server.phase.inStage_rank session.server.round).1
  have hout := (session.server.phase.outStage_rank session.server.round).2
  rw [hwithin, Stage.rank_within] at hrank
  rw [Stage.rank_before]
  omega

theorem Bridged.client_outStage_le {session : UnorderedSession env} (hinv : session.Bridged)
    {round : Nat} (hwithin : session.server.phase.outStage session.server.round = .within round) :
    (session.client.phase.outStage session.client.round).rank ≤
      (Stage.before (round + 1)).rank := by
  have hrank := hinv.s2c.rank_le
  have hin := (session.client.phase.inStage_rank session.client.round).1
  have hout := (session.client.phase.outStage_rank session.client.round).2
  rw [hwithin, Stage.rank_within] at hrank
  rw [Stage.rank_before]
  omega

theorem Bridged.clientAct {session : UnorderedSession env} (hinv : session.Bridged)
    {action : ClientAction env} {client : Client env}
    {message : Option (Frame env.Sdp env.Candidate)} (hguard : session.InTurn (.client action))
    (hact : session.client.act action = some (client, message)) :
    Bridged { session with client := client, c2s := session.c2s.postOption message } := by
  obtain ⟨hclient, hin, hemits⟩ := hinv.client.act hact
  have hc2s := hemits.bridges_sender hinv.c2s hinv.s2c.rank_le
  have hs2c := hemits.bridges_receiver hinv.s2c fun round hmessage current hinn => by
    subst hmessage
    obtain ⟨rfl, hmarker, hdone⟩ := Client.marker_of_act hact
    exact hguard (hdone current hinn) none hmarker rfl
  rw [← Pool.sent_postOption] at hclient
  rw [← Pool.inFlight_postOption] at hc2s
  rw [← hin] at hs2c
  exact ⟨hclient, (Pool.received_postOption session.c2s message).symm ▸ hinv.server, hc2s, hs2c⟩

theorem Bridged.serverAct {session : UnorderedSession env} (hinv : session.Bridged)
    {action : ServerAction env} {server : Server env}
    {message : Option (Frame env.Sdp env.CandidateInit)}
    (hguard : session.InTurn (.server action))
    (hact : session.server.act action = some (server, message)) :
    Bridged { session with server := server, s2c := session.s2c.postOption message } := by
  obtain ⟨hserver, hin, hemits⟩ := hinv.server.act hact
  have hs2c := hemits.bridges_sender hinv.s2c hinv.c2s.rank_le
  have hc2s := hemits.bridges_receiver hinv.c2s fun round hmessage current hinn => by
    subst hmessage
    obtain ⟨rfl, hmarker, hdone⟩ := Server.marker_of_act hact
    exact hguard (hdone current hinn) none hmarker rfl
  rw [← Pool.sent_postOption] at hserver
  rw [← Pool.inFlight_postOption] at hs2c
  rw [← hin] at hc2s
  exact ⟨(Pool.received_postOption session.s2c message).symm ▸ hinv.client, hserver, hc2s, hs2c⟩

theorem Bridged.clientRecv {session next : UnorderedSession env} (hinv : session.Bridged)
    {index : Nat} (hguard : session.InTurn (.clientRecv index))
    (hrecv : session.clientRecv index = some next) : next.Bridged := by
  obtain ⟨ty, hexpects, hrest⟩ := Option.bind_eq_some_iff.mp hrecv
  obtain ⟨⟨frame, s2c⟩, hdeliver, hresult⟩ := Option.bind_eq_some_iff.mp hrest
  obtain ⟨phase, hreceive, hnext⟩ := Option.bind_eq_some_iff.mp hresult
  obtain rfl := Option.some.inj hnext
  obtain ⟨hframe, hinFlight, hremaining, hsent, hreceived⟩ := Pool.deliver_eq_some hdeliver
  have hbridges := hinv.s2c
  rw [hinFlight] at hbridges
  have hturn := hguard frame hframe
  have hovertaken : ∀ overtaken ∈ session.s2c.inFlight.take index,
      overtaken.part = .item ∧ frame.part ≠ .opening :=
    fun overtaken hmem => ⟨(hturn overtaken hmem).1, (hturn overtaken hmem).2.1⟩
  have hcloses : session.s2c.inFlight.take index ≠ [] → frame.part = .closing →
      ∀ current, session.client.phase.inStage session.client.round = .within current →
        session.client.phase.outStage session.client.round = .within current ∧
          (session.server.phase.outStage session.server.round).rank ≤
            (Stage.before (current + 1)).rank := by
    intro hne hclosing current hin
    obtain ⟨overtaken, hmem⟩ := List.exists_mem_of_ne_nil _ hne
    have hopen := (hturn overtaken hmem).2.2 hclosing
    have hwithin := ClientPhase.outStage_of_expects hexpects hin hopen
    exact ⟨hwithin, hinv.server_outStage_le hwithin⟩
  have hserver : session.server.Sound s2c.sent session.c2s.received := hsent ▸ hinv.server
  rcases hbridges.deliver hovertaken hcloses with
    ⟨later, hadvance, hlater⟩ | ⟨hin, hout, hitem, hsame⟩
  · have htype : (serverWire env frame).1 = ty := by
      rcases ClientPhase.wire_of_advance hinv.client.running hexpects hadvance with
        htype | ⟨hwithin, rfl⟩
      · exact htype
      · -- The next round cannot have been opened before this one is left.
        have hrank := hlater.rank_le
        have hle := hinv.server_outStage_le hwithin
        simp only [Stage.rank_before, Stage.rank_within] at hrank hle
        omega
    subst htype
    rw [decodeAt_self] at hreceive
    obtain ⟨hclient, hout, hin⟩ := hinv.client.receive hexpects hadvance hreceive
    refine ⟨hreceived ▸ hclient, hserver, ?_, ?_⟩
    · simpa only [hout] using hinv.c2s
    · simpa only [hout, hin, hremaining] using hlater
  · obtain ⟨hphase, hround, rfl⟩ := ClientPhase.loop_of_straggler hexpects hin hout
    have htype : (serverWire env frame).1 = .optionRtcMessage := by
      match frame, hitem with
      | .candidate round (some candidate), _ => rfl
    rw [← htype, decodeAt_self] at hreceive
    obtain ⟨hclient, hout, hin⟩ :=
      hinv.client.receive_straggler hphase hitem hround.symm hreceive
    refine ⟨hreceived ▸ hclient, hserver, ?_, ?_⟩
    · simpa only [hout] using hinv.c2s
    · simpa only [hout, hin, hremaining] using hsame

theorem Bridged.serverRecv {session next : UnorderedSession env} (hinv : session.Bridged)
    {index : Nat} (hguard : session.InTurn (.serverRecv index))
    (hrecv : session.serverRecv index = some next) : next.Bridged := by
  obtain ⟨ty, hexpects, hrest⟩ := Option.bind_eq_some_iff.mp hrecv
  obtain ⟨⟨frame, c2s⟩, hdeliver, hresult⟩ := Option.bind_eq_some_iff.mp hrest
  obtain ⟨server, hreceive, hnext⟩ := Option.bind_eq_some_iff.mp hresult
  obtain rfl := Option.some.inj hnext
  obtain ⟨hframe, hinFlight, hremaining, hsent, hreceived⟩ := Pool.deliver_eq_some hdeliver
  have hbridges := hinv.c2s
  rw [hinFlight] at hbridges
  have hturn := hguard frame hframe
  have hovertaken : ∀ overtaken ∈ session.c2s.inFlight.take index,
      overtaken.part = .item ∧ frame.part ≠ .opening :=
    fun overtaken hmem => ⟨(hturn overtaken hmem).1, (hturn overtaken hmem).2.1⟩
  have hcloses : session.c2s.inFlight.take index ≠ [] → frame.part = .closing →
      ∀ current, session.server.phase.inStage session.server.round = .within current →
        session.server.phase.outStage session.server.round = .within current ∧
          (session.client.phase.outStage session.client.round).rank ≤
            (Stage.before (current + 1)).rank := by
    intro hne hclosing current hin
    obtain ⟨overtaken, hmem⟩ := List.exists_mem_of_ne_nil _ hne
    have hopen := (hturn overtaken hmem).2.2 hclosing
    have hwithin := ServerPhase.outStage_of_expects hexpects hin hopen
    exact ⟨hwithin, hinv.client_outStage_le hwithin⟩
  have hclient : session.client.Sound c2s.sent session.s2c.received := hsent ▸ hinv.client
  rcases hbridges.deliver hovertaken hcloses with
    ⟨later, hadvance, hlater⟩ | ⟨hin, hout, hitem, hsame⟩
  · have htype : (clientWire env frame).1 = ty := by
      rcases ServerPhase.wire_of_advance hinv.server.running hexpects hadvance with
        htype | ⟨hwithin, rfl⟩
      · exact htype
      · have hrank := hlater.rank_le
        have hle := hinv.client_outStage_le hwithin
        simp only [Stage.rank_before, Stage.rank_within] at hrank hle
        omega
    subst htype
    rw [decodeAt_self] at hreceive
    obtain ⟨hserver, _, hout, hin⟩ := hinv.server.receive hexpects hadvance hreceive
    refine ⟨hclient, hreceived ▸ hserver, ?_, ?_⟩
    · simpa only [hout, hin, hremaining] using hlater
    · simpa only [hout] using hinv.s2c
  · obtain ⟨hphase, hround, rfl⟩ := ServerPhase.loop_of_straggler hexpects hin hout
    have htype : (clientWire env frame).1 = .optionIceCandidate := by
      match frame, hitem with
      | .candidate round (some candidate), _ => rfl
    rw [← htype, decodeAt_self] at hreceive
    obtain ⟨hserver, _, hout, hin⟩ :=
      hinv.server.receive_straggler hphase hitem hround.symm hreceive
    refine ⟨hclient, hreceived ▸ hserver, ?_, ?_⟩
    · simpa only [hout, hin, hremaining] using hsame
    · simpa only [hout] using hinv.s2c

theorem Bridged.step {session next : UnorderedSession env} {event : UnorderedEvent env}
    (hinv : session.Bridged) (hguard : session.InTurn event)
    (hstep : session.step event = some next) : next.Bridged := by
  cases event with
  | client action =>
      obtain ⟨⟨client, message⟩, hact, rfl⟩ := Option.map_eq_some_iff.mp hstep
      exact hinv.clientAct hguard hact
  | server action =>
      obtain ⟨⟨server, message⟩, hact, rfl⟩ := Option.map_eq_some_iff.mp hstep
      exact hinv.serverAct hguard hact
  | clientRecv index => exact hinv.clientRecv hguard hstep
  | serverRecv index => exact hinv.serverRecv hguard hstep
  | clientEmit ice =>
      obtain ⟨client, hemit, rfl⟩ := Option.map_eq_some_iff.mp hstep
      have hclient := hinv.client.emit hemit
      obtain ⟨hphase, hround⟩ := Endpoint.emit_frame hemit
      exact ⟨hclient, hinv.server, by simpa only [hphase, hround] using hinv.c2s,
        by simpa only [hphase, hround] using hinv.s2c⟩
  | serverEmit ice =>
      obtain ⟨server, hemit, rfl⟩ := Option.map_eq_some_iff.mp hstep
      have hserver := hinv.server.emit hemit
      obtain ⟨hphase, hround⟩ := Endpoint.emit_frame hemit
      exact ⟨hinv.client, hserver, by simpa only [hphase, hround] using hinv.c2s,
        by simpa only [hphase, hround] using hinv.s2c⟩
  | clientEnqueue =>
      obtain ⟨client, henqueue, rfl⟩ := Option.map_eq_some_iff.mp hstep
      have hclient := hinv.client.enqueue henqueue
      obtain ⟨hphase, hround⟩ := Endpoint.enqueue_frame henqueue
      exact ⟨hclient, hinv.server, by simpa only [hphase, hround] using hinv.c2s,
        by simpa only [hphase, hround] using hinv.s2c⟩
  | serverEnqueue =>
      obtain ⟨server, henqueue, rfl⟩ := Option.map_eq_some_iff.mp hstep
      have hserver := hinv.server.enqueue henqueue
      obtain ⟨hphase, hround⟩ := Endpoint.enqueue_frame henqueue
      exact ⟨hinv.client, hserver, by simpa only [hphase, hround] using hinv.c2s,
        by simpa only [hphase, hround] using hinv.s2c⟩

theorem bridged_of_reachable {session : UnorderedSession env}
    (hreach : (unorderedSystem env).ReachableIf InTurn session) : session.Bridged := by
  apply hreach.invariant Bridged
  · rintro start rfl
    exact bridged_initial
  · intro state event next hinv hguard hstep
    exact hinv.step hguard hstep

/-- The candidates added in a round of which nothing is in flight are those sent in it. -/
theorem added_perm {Phase Item : Type} {endpoint : Endpoint env Phase}
    {fromWire : Item → env.CandidateInit} {pending : List Item} {round : Nat}
    {pool : Pool (Frame env.Sdp Item)}
    (happlies : endpoint.Applies fromWire pending pool.received)
    (hpending : round = endpoint.round → pending = [])
    (hover : ∀ frame ∈ pool.inFlight, round < frame.round) :
    ((endpoint.added round).map AddedCandidate.candidate).Perm
      ((Frame.ices round pool.sent).reduceOption.map fromWire) := by
  have hnone : Frame.ices round pool.inFlight = [] :=
    Frame.ices_eq_nil fun frame hframe => (hover frame hframe).ne'
  have hices := Frame.ices_perm round pool.balanced
  rw [Frame.ices_append, hnone, List.append_nil] at hices
  rw [happlies.added_eq hpending, List.map_map]
  exact (hices.filterMap id).map fromWire

theorem Bridged.tolerant {session : UnorderedSession env} (hinv : session.Bridged) :
    session.Tolerant := by
  have hconsumed : ∀ round, session.client.Left .returned round →
      session.server.Left .succeeded round →
        (∀ frame ∈ session.c2s.inFlight, round < frame.round) ∧
        ∀ frame ∈ session.s2c.inFlight, round < frame.round := by
    intro round hclient hserver
    have hclientIn := Session.client_inStage_of_left hclient
    have hclientOut := Session.client_outStage_of_left hclient
    have hserverIn := Session.server_inStage_of_left hserver
    have hserverOut := Session.server_outStage_of_left hserver
    exact ⟨hinv.c2s.le_round hserverIn hserverOut, hinv.s2c.le_round hclientIn hclientOut⟩
  refine ⟨?_, ?_, hconsumed, ?_⟩
  · intro error hphase
    have hrunning := hinv.client.running
    rw [hphase] at hrunning
    exact hrunning
  · intro error hphase
    have hrunning := hinv.server.running
    rw [hphase] at hrunning
    exact hrunning
  · intro round hclient hserver
    obtain ⟨hc2s, hs2c⟩ := hconsumed round hclient hserver
    refine ⟨added_perm hinv.server.applies ?_ hc2s, ?_⟩
    · intro hcurrent
      rw [hserver.resolve_left (by omega) |>.2]
      rfl
    · rw [← List.map_id (Frame.ices round session.s2c.sent).reduceOption]
      refine added_perm hinv.client.applies ?_ hs2c
      intro hcurrent
      rw [hclient.resolve_left (by omega) |>.2]
      rfl

/-- Signaling tolerates every order in which messages arrive in turn. -/
theorem signaling_tolerant {session : UnorderedSession env}
    (hreach : (unorderedSystem env).ReachableIf InTurn session) : session.Tolerant :=
  (bridged_of_reachable hreach).tolerant

instance (session : UnorderedSession env) :
    (event : UnorderedEvent env) → Decidable (session.InTurn event)
  | .clientRecv index => inferInstanceAs (Decidable (∀ frame ∈ session.s2c.inFlight[index]?,
      ∀ overtaken ∈ session.s2c.inFlight.take index, overtaken.part = .item ∧
        frame.part ≠ .opening ∧
        (frame.part = .closing → session.client.phase.doneSendingIce = false)))
  | .serverRecv index => inferInstanceAs (Decidable (∀ frame ∈ session.c2s.inFlight[index]?,
      ∀ overtaken ∈ session.c2s.inFlight.take index, overtaken.part = .item ∧
        frame.part ≠ .opening ∧
        (frame.part = .closing → session.server.phase.doneSendingIce = false)))
  | .client .takeIce => inferInstanceAs (Decidable (session.client.phase.doneReceivingIce = true →
      ∀ ice ∈ session.client.peer.channel.slots.head?, ice.isNone = true →
        session.s2c.inFlight = []))
  | .server .takeIce => inferInstanceAs (Decidable (session.server.phase.doneReceivingIce = true →
      ∀ ice ∈ session.server.peer.channel.slots.head?, ice.isNone = true →
        session.c2s.inFlight = []))
  | .client (.createOffer _) | .client .sent | .client .setLocalDescription
  | .client .setRemoteDescription | .client .addIceCandidate | .client .registerHandler
  | .client .upgradeAgain | .server .setRemoteDescription | .server (.createAnswer _)
  | .server .sent | .server .setLocalDescription | .server .addIceCandidate
  | .server .onSuccessDone | .clientEmit _ | .serverEmit _ | .clientEnqueue | .serverEnqueue =>
      inferInstanceAs (Decidable True)

end UnorderedSession

/-- The offer arrives, and the server sends its answer and starts gathering. -/
def offerArrives : List (UnorderedEvent byteEnvironment) :=
  [.client (.createOffer (1 : UInt8)), .client .sent, .client .setLocalDescription,
    .serverRecv 0, .server .setRemoteDescription, .server (.createAnswer (2 : UInt8)),
    .server .sent, .server .setLocalDescription]

/-- Two candidates and the marker of the server are in flight behind the answer. -/
def candidatesInFlight : List (UnorderedEvent byteEnvironment) :=
  offerArrives ++
    [.serverEmit (some (3 : UInt8)), .serverEnqueue, .server .takeIce, .server .sent,
      .serverEmit (some (4 : UInt8)), .serverEnqueue, .server .takeIce, .server .sent,
      .serverEmit none, .serverEnqueue, .server .takeIce, .server .sent]

/-- The answer arrives, and the client sends nothing but its marker. -/
def clientMarker : List (UnorderedEvent byteEnvironment) :=
  [.clientEmit none, .clientEnqueue, .client .takeIce, .client .sent]

namespace UnorderedSession

/-- The second candidate and the marker overtake the first candidate. -/
theorem signaling_tolerant_late :
    ∃ session, (unorderedSystem byteEnvironment).run (initial byteEnvironment)
        (candidatesInFlight ++ [.clientRecv 0, .client .setRemoteDescription,
          .client .registerHandler, .clientRecv 1, .client .addIceCandidate, .clientRecv 1,
          .clientRecv 0, .client .addIceCandidate] ++ clientMarker ++ [.serverRecv 0]) =
            some session ∧
      session.client.Left .returned 0 ∧ session.server.Left .succeeded 0 ∧
      (session.client.added 0).map AddedCandidate.candidate = [104, 103] ∧ session.Tolerant := by
  obtain ⟨session, hrun, htest⟩ := (unorderedSystem byteEnvironment).exists_run_of_any
    (initial byteEnvironment)
    (candidatesInFlight ++ [.clientRecv 0, .client .setRemoteDescription,
      .client .registerHandler, .clientRecv 1, .client .addIceCandidate, .clientRecv 1,
      .clientRecv 0, .client .addIceCandidate] ++ clientMarker ++ [.serverRecv 0])
    (fun session => session.client.round = 0 ∧ session.server.round = 0 ∧
      (session.client.added 0).map AddedCandidate.candidate = [104, 103] ∧
      (match session.client.phase with | .returned => true | _ => false) = true ∧
      (match session.server.phase with | .succeeded => true | _ => false) = true)
    (by decide +kernel)
  obtain ⟨hclientRound, hserverRound, hadded, hclient, hserver⟩ := of_decide_eq_true htest
  have hguarded : (unorderedSystem byteEnvironment).Guarded InTurn (initial byteEnvironment)
      (candidatesInFlight ++ [.clientRecv 0, .client .setRemoteDescription,
        .client .registerHandler, .clientRecv 1, .client .addIceCandidate, .clientRecv 1,
        .clientRecv 0, .client .addIceCandidate] ++ clientMarker ++ [.serverRecv 0]) := by
    apply TransitionSystem.guarded_of_check
    decide +kernel
  refine ⟨session, hrun, .inr ⟨hclientRound.symm, ?_⟩, .inr ⟨hserverRound.symm, ?_⟩, hadded,
    signaling_tolerant ⟨_, rfl, .of_run hguarded hrun⟩⟩
  · split at hclient
    next hphase => exact hphase
    · cases hclient
  · split at hserver
    next hphase => exact hphase
    · cases hserver

/-- A candidate that overtakes the answer fails the client, and candidates that the marker
overtakes at a client that has sent its own are never received. -/
theorem signaling_not_tolerant :
    (∃ session, (unorderedSystem byteEnvironment).Reachable session ∧
      session.client.phase = .failed (.deserializeError ()) ∧ ¬ session.Tolerant) ∧
    ∃ session, (unorderedSystem byteEnvironment).Reachable session ∧
      session.client.Left .returned 0 ∧ session.server.Left .succeeded 0 ∧
      session.client.added 0 = [] ∧ session.s2c.inFlight.length = 2 ∧ ¬ session.Tolerant := by
  constructor
  · obtain ⟨session, hrun, htest⟩ := (unorderedSystem byteEnvironment).exists_run_of_any
      (initial byteEnvironment) (candidatesInFlight ++ [.clientRecv 1])
      (fun session => (match session.client.phase with
        | .failed (.deserializeError ()) => true
        | _ => false) = true)
      (by decide +kernel)
    have hphase : session.client.phase = .failed (.deserializeError ()) := by
      have hfailed := of_decide_eq_true htest
      split at hfailed
      next hphase => exact hphase
      · cases hfailed
    exact ⟨session, .of_run rfl hrun, hphase, fun htolerant => htolerant.clientRuns _ hphase⟩
  · obtain ⟨session, hrun, htest⟩ := (unorderedSystem byteEnvironment).exists_run_of_any
      (initial byteEnvironment)
      (candidatesInFlight ++ [.clientRecv 0, .client .setRemoteDescription,
        .client .registerHandler] ++ clientMarker ++ [.clientRecv 2, .serverRecv 0])
      (fun session => session.client.round = 0 ∧ session.server.round = 0 ∧
        session.client.added 0 = [] ∧ session.s2c.inFlight.length = 2 ∧
        (∃ frame ∈ session.s2c.inFlight, frame.round = 0) ∧
        (match session.client.phase with | .returned => true | _ => false) = true ∧
        (match session.server.phase with | .succeeded => true | _ => false) = true)
      (by decide +kernel)
    obtain ⟨hclientRound, hserverRound, hadded, hlength, ⟨frame, hmem, hround⟩, hclient, hserver⟩ :=
      of_decide_eq_true htest
    have hclientLeft : session.client.Left .returned 0 := by
      refine .inr ⟨hclientRound.symm, ?_⟩
      split at hclient
      next hphase => exact hphase
      · cases hclient
    have hserverLeft : session.server.Left .succeeded 0 := by
      refine .inr ⟨hserverRound.symm, ?_⟩
      split at hserver
      next hphase => exact hphase
      · cases hserver
    refine ⟨session, .of_run rfl hrun, hclientLeft, hserverLeft, hadded, hlength, ?_⟩
    intro htolerant
    have hlater := (htolerant.consumed 0 hclientLeft hserverLeft).2 frame hmem
    omega

end UnorderedSession

end MangleWebRTC.Upgrade
