import MangleWebRTC.Upgrade.Awake

/-! # What holds an end

The steps of a round in progress, and an end that has none of them: it sends into a full
transport, waits for a message of which nothing is on the way, or has finished.
-/

namespace MangleWebRTC.Upgrade

open Machine

namespace Link

variable {env : Environment} {Item : Type} {link : Link env Item}

/-- The transport has no room for another byte. -/
def Full (link : Link env Item) (capacity : Option Nat) : Prop :=
  ∃ limit ∈ capacity, limit ≤ link.receiver.unread.length

theorem exists_write {capacity : Option Nat} (houtgoing : link.outgoing ≠ [])
    (hroom : ¬ link.Full capacity) : ∃ next, link.write capacity 1 = some next := by
  refine ⟨_, if_pos ⟨Nat.one_pos, List.length_pos_iff.mpr houtgoing, fun limit hlimit => ?_⟩⟩
  by_contra hfull
  exact hroom ⟨limit, hlimit, by omega⟩

theorem Full.unread_ne_nil {capacity : Option Nat} (hfull : link.Full capacity)
    (hcapacity : ∀ limit ∈ capacity, 0 < limit) : link.receiver.unread ≠ [] := by
  obtain ⟨limit, hlimit, hle⟩ := hfull
  exact List.length_pos_iff.mp ((hcapacity limit hlimit).trans_le hle)

theorem Full.not_fits {capacity : Option Nat} (hfull : link.Full capacity)
    (houtgoing : link.outgoing ≠ []) : ¬ link.Fits capacity := by
  intro hfits
  obtain ⟨limit, hlimit, hle⟩ := hfull
  have hroom := hfits limit hlimit
  have hlength := List.length_pos_iff.mpr houtgoing
  omega

theorem Full.write_ne_some {next : Link env Item} {capacity : Option Nat} {count : Nat}
    (hfull : link.Full capacity) (hwrite : link.write capacity count = some next) : False := by
  obtain ⟨limit, hlimit, hle⟩ := hfull
  unfold write at hwrite
  split at hwrite
  next hroom =>
    have hbound := hroom.2.2 limit hlimit
    omega
  · cases hwrite

/-- A call that waits for bytes. -/
def Reading (link : Link env Item) : Prop :=
  (∃ ty, link.receiver.call = some (.reading, ty)) ∧ link.receiver.unread = []

/-- The code of a call up to its next await ends with a result of its type, if it ends. -/
theorem exists_recv_of_poll {ty : WireType} {action : RecvAction} {source : Receiver WireType}
    {poll : Option (RecvPoll env.Err (env.Value ty))}
    (hstep : link.receiver.step env.target env.codec.deserialize (action.event ty) =
      some (source.afterPoll ty poll)) :
    ∃ next result, link.recv ty action = some (next, result) ∧
      ∀ received ∈ result, received.1 = ty := by
  match poll with
  | none =>
      refine ⟨{ link with receiver := { source with call := none } }, none, ?_, by simp⟩
      rw [recv, hstep]
      rfl
  | some (.reading recvBuffer) =>
      refine ⟨{ link with receiver := ⟨recvBuffer, source.unread, some (.reading, ty)⟩ }, none,
        ?_, by simp⟩
      rw [recv, hstep]
      rfl
  | some (.ready result recvBuffer) =>
      refine ⟨{ link with
        receiver := ⟨recvBuffer, source.unread, none⟩
        received := link.received ++ [⟨ty, result⟩] }, some ⟨ty, result⟩, ?_, by simp⟩
      rw [recv, hstep]
      rfl

/-- A call can be created, polled, or given a byte, unless it waits for one. -/
theorem exists_recv {ty : WireType} (hcall : link.CallAt (some ty)) (hready : ¬ link.Reading) :
    ∃ action next result, link.recv ty action = some (next, result) ∧
      ∀ received ∈ result, received.1 = ty := by
  cases hinflight : link.receiver.call with
  | none =>
      refine ⟨.create, { link with receiver := { link.receiver with call := some (.created, ty) } },
        none, ?_, by simp⟩
      rw [recv, RecvAction.event, Receiver.step, hinflight]
      rfl
  | some call =>
      obtain ⟨phase, current⟩ := call
      obtain rfl := Option.some.inj (hcall phase current hinflight)
      cases phase with
      | created =>
          have hstep : link.receiver.step env.target env.codec.deserialize
              (RecvAction.poll.event ty) = some (link.receiver.afterPoll ty
                (recvObjBuffered env.target (env.codec.deserialize ty)
                  link.receiver.recvBuffer)) := by
            rw [RecvAction.event, Receiver.step, hinflight]
          exact ⟨.poll, exists_recv_of_poll hstep⟩
      | reading =>
          have hunread : link.receiver.unread ≠ [] := fun hnil => hready ⟨⟨ty, hinflight⟩, hnil⟩
          have hstep : link.receiver.step env.target env.codec.deserialize
              ((RecvAction.read 1).event ty) =
                some ({ link.receiver with unread := link.receiver.unread.drop 1 }.afterPoll ty
                  (recvObjRead env.target (env.codec.deserialize ty) link.receiver.recvBuffer
                    (link.receiver.unread.take 1))) := by
            rw [RecvAction.event, Receiver.step, hinflight]
            exact if_pos ⟨Nat.one_pos, by decide, List.length_pos_iff.mpr hunread⟩
          exact ⟨.read 1, exists_recv_of_poll hstep⟩

/-- When a call waits and the sender has nothing left to write, nothing is on the way. -/
theorem Coherent.drained {wire : Frame env.Sdp Item → (ty : WireType) × env.Value ty}
    (hlink : link.Coherent wire) (hreading : link.Reading) (houtgoing : link.outgoing = []) :
    link.undelivered = [] := by
  obtain ⟨⟨ty, hcall⟩, hunread⟩ := hreading
  have hwaits := hlink.waits ty hcall
  have hbytes := hlink.bytes
  rw [houtgoing, Receiver.remaining, hunread, List.append_nil, List.append_nil] at hbytes
  cases hundelivered : link.undelivered with
  | nil => rfl
  | cons frame later =>
      have hmem : frame ∈ link.sent := by
        apply List.mem_of_mem_drop
        rw [← undelivered, hundelivered]
        exact List.mem_cons_self
      rw [hbytes, hundelivered, List.flatMap_cons, frameBytes,
        parseFrame_encodeFrame (by simpa using hlink.fits frame hmem)] at hwaits
      cases hwaits

theorem Coherent.undelivered_ne_nil
    {wire : Frame env.Sdp Item → (ty : WireType) × env.Value ty} (hlink : link.Coherent wire)
    (houtgoing : link.outgoing ≠ []) : link.undelivered ≠ [] := by
  intro hnil
  have hbytes := hlink.bytes
  rw [hnil, List.flatMap_nil, List.append_eq_nil_iff] at hbytes
  exact houtgoing hbytes.2

/-- Between two stages of one round there are only candidates of the round. -/
theorem Carries.undelivered_eq_nil_of_ices
    {wire : Frame env.Sdp Item → (ty : WireType) × env.Value ty} {round : Nat}
    (hlink : link.Carries wire (.within round) (.within round))
    (hices : Frame.ices round link.sent = []) : link.undelivered = [] := by
  have hpath := hlink.path
  rw [← delivered_append_undelivered link, Frame.ices_append, List.append_eq_nil_iff] at hices
  cases hundelivered : link.undelivered with
  | nil => rfl
  | cons frame later =>
      rw [hundelivered] at hpath hices
      obtain ⟨next, hadvance, _⟩ := (Stage.follow_cons_eq_some _ _).mp hpath
      obtain ⟨ice, rfl, _⟩ := Frame.advance_within.mp hadvance
      rw [Frame.ices_candidate_self] at hices
      exact absurd hices.2 (List.cons_ne_nil _ _)

theorem Carries.stage_eq_of_drained
    {wire : Frame env.Sdp Item → (ty : WireType) × env.Value ty} {out inn : Stage}
    (hlink : link.Carries wire out inn) (hdrained : link.undelivered = []) : inn = out := by
  have hpath := hlink.path
  rw [hdrained] at hpath
  exact Option.some.inj hpath

end Link

namespace Endpoint

variable {env : Environment} {Phase Item : Type} {endpoint : Endpoint env Phase}

theorem exists_emit (hgathering : endpoint.peer.gathering = true)
    (hended : endpoint.peer.ended = false) (ice : Option env.Candidate) :
    ∃ next, endpoint.emit ice = some next := by
  unfold emit
  rw [if_pos ⟨hgathering, by simp [hended]⟩]
  split <;> exact ⟨_, rfl⟩

/-- A marker that met a handler and has left the channel has been sent. -/
theorem Conserves.none_mem_ices {convert : env.Candidate → Item}
    {sent : List (Frame env.Sdp Item)} (hkeeps : endpoint.Conserves convert sent)
    (hdropped : endpoint.dropped endpoint.round = [])
    (hcontents : endpoint.peer.channel.contents = [])
    (hmarker : none ∈ endpoint.emitted endpoint.round) :
    none ∈ Frame.ices endpoint.round sent := by
  have hkept := hkeeps.kept endpoint.round
  rw [hdropped, held_self, hcontents, List.map_nil, List.nil_append, List.append_nil] at hkept
  rw [← hkept]
  exact List.mem_map.mpr ⟨none, hmarker, rfl⟩

end Endpoint

theorem IceLoop.inStage_cases {Out In : Type} (loop : IceLoop Out In) (round : Nat) :
    loop.inStage round = .within round ∨ loop.inStage round = .before (round + 1) := by
  unfold inStage
  split
  · exact .inr rfl
  · exact .inl rfl

theorem ClientPhase.exists_receive {env : Environment} {phase : ClientPhase env} {ty : WireType}
    {received : Received env.Value env.Err} (hexpects : phase.expects = some ty)
    (htype : received.1 = ty) : ∃ next, phase.receive received = some next := by
  obtain ⟨current, result⟩ := received
  obtain rfl : current = ty := htype
  unfold expects at hexpects
  split at hexpects
  · obtain rfl := Option.some.inj hexpects
    rcases result with error | (answer | candidate) <;> exact ⟨_, rfl⟩
  · obtain rfl := Option.some.inj hexpects
    rcases result with error | (_ | (answer | candidate)) <;> exact ⟨_, rfl⟩
  · cases hexpects

theorem ClientPhase.inStage_of_sendsIce {env : Environment} {phase : ClientPhase env}
    (hsends : phase.sendsIce = true) (round : Nat) :
    phase.inStage round = .within round ∨ phase.inStage round = .before (round + 1) := by
  cases phase with
  | iceLoop loop => exact loop.inStage_cases round
  | _ => cases hsends

theorem ClientPhase.exists_loop_of_sendsIce {env : Environment} {phase : ClientPhase env}
    (hsends : phase.sendsIce = true) : ∃ doneSending doneReceiving ice,
      phase = .iceLoop ⟨doneSending, doneReceiving, .sending ice⟩ := by
  match phase with
  | .iceLoop ⟨doneSending, doneReceiving, .sending ice⟩ => exact ⟨_, _, _, rfl⟩

theorem ServerPhase.exists_loop_of_sendsIce {env : Environment} {phase : ServerPhase env}
    (hsends : phase.sendsIce = true) : ∃ doneSending doneReceiving ice,
      phase = .iceLoop ⟨doneSending, doneReceiving, .sending ice⟩ := by
  match phase with
  | .iceLoop ⟨doneSending, doneReceiving, .sending ice⟩ => exact ⟨_, _, _, rfl⟩

theorem ServerPhase.inStage_of_sends {env : Environment} {phase : ServerPhase env}
    (hsends : phase.sends = true) (round : Nat) :
    phase.inStage round = .within round ∨ phase.inStage round = .before (round + 1) := by
  cases phase with
  | iceLoop loop => exact loop.inStage_cases round
  | sendingAnswer answer => exact .inl rfl
  | _ => cases hsends

theorem Server.exists_receive {env : Environment} {server : Server env} {ty : WireType}
    {received : Received env.Value env.Err} (hexpects : server.phase.expects = some ty)
    (htype : received.1 = ty) : ∃ next, server.receive received = some next := by
  obtain ⟨current, result⟩ := received
  obtain rfl : current = ty := htype
  obtain ⟨round, phase, peer, emitted, dropped, added⟩ := server
  change phase.expects = some current at hexpects
  unfold ServerPhase.expects at hexpects
  split at hexpects
  · obtain rfl := Option.some.inj hexpects
    cases result <;> exact ⟨_, rfl⟩
  · obtain rfl := Option.some.inj hexpects
    rcases result with error | (_ | candidate) <;> exact ⟨_, rfl⟩
  · cases hexpects

namespace Session

variable {env : Environment}

/-- The events of a round in progress. The next call of `upgrade` is not one, the end of
the callback of a round is one for a later round, and a peer emits an event when the
handler call of the last one is over. -/
def Counts (session : Session env) : SessionEvent env → Prop
  | .client .upgradeAgain => False
  | .server .onSuccessDone => session.server.round < session.client.round
  | .clientEmit _ =>
      session.client.peer.handler = true ∧ session.client.peer.channel.waiting = []
  | .serverEmit _ => session.server.peer.channel.waiting = []
  | _ => True

/-- One of the ends, the peers or the transport can go on. -/
inductive Live (session : Session env) : Prop
  | step {next : Session env} (event : SessionEvent env) (hcounts : session.Counts event)
      (hstep : session.step event = some next) : Live session
  /-- `create_offer` returns. -/
  | clientDescribes (hphase : session.client.phase = .start) : Live session
  /-- `create_answer` returns. -/
  | serverDescribes (hphase : session.server.phase = .creatingAnswer) : Live session
  /-- `send_obj` panics at an event whose length is no `u32`. -/
  | clientPanics (doneSending doneReceiving : Bool) (ice : Option env.Candidate)
      (channel : Mailbox (Option env.Candidate) 3)
      (hphase : session.client.phase = .iceLoop ⟨doneSending, doneReceiving, .select⟩)
      (htake : session.client.peer.channel.take = some (ice, channel))
      (hlong : session.c2s.beginSend (clientWire env)
        (.candidate session.client.round ice) = none) : Live session
  | serverPanics (doneSending doneReceiving : Bool) (ice : Option env.Candidate)
      (channel : Mailbox (Option env.Candidate) 3)
      (hphase : session.server.phase = .iceLoop ⟨doneSending, doneReceiving, .select⟩)
      (htake : session.server.peer.channel.take = some (ice, channel))
      (hlong : session.s2c.beginSend (serverWire env)
        (.candidate session.server.round (ice.map env.toJson)) = none) : Live session

theorem exists_clientRecv {session : Session env} {ty : WireType}
    (hexpects : session.client.phase.expects = some ty)
    (hcall : session.s2c.CallAt session.client.phase.expects) (hready : ¬ session.s2c.Reading) :
    ∃ action next, session.clientRecv action = some next := by
  rw [hexpects] at hcall
  obtain ⟨action, s2c, result, hrecv, htype⟩ := Link.exists_recv hcall hready
  cases result with
  | none => exact ⟨action, { session with s2c := s2c }, by simp [clientRecv, hexpects, hrecv]⟩
  | some received =>
      obtain ⟨phase, hreceive⟩ := ClientPhase.exists_receive hexpects (htype received rfl)
      exact ⟨action,
        { session with client := { session.client with phase := phase }, s2c := s2c },
        by simp [clientRecv, hexpects, hrecv, hreceive]⟩

theorem exists_serverRecv {session : Session env} {ty : WireType}
    (hexpects : session.server.phase.expects = some ty)
    (hcall : session.c2s.CallAt session.server.phase.expects) (hready : ¬ session.c2s.Reading) :
    ∃ action next, session.serverRecv action = some next := by
  rw [hexpects] at hcall
  obtain ⟨action, c2s, result, hrecv, htype⟩ := Link.exists_recv hcall hready
  cases result with
  | none => exact ⟨action, { session with c2s := c2s }, by simp [serverRecv, hexpects, hrecv]⟩
  | some received =>
      obtain ⟨server, hreceive⟩ := Server.exists_receive hexpects (htype received rfl)
      exact ⟨action, { session with server := server, c2s := c2s },
        by simp [serverRecv, hexpects, hrecv, hreceive]⟩

theorem exists_clientSent {session : Session env} (hsends : session.client.phase.sends = true)
    (houtgoing : session.c2s.outgoing = []) : ∃ next, session.clientAct .sent = some next := by
  match hphase : session.client.phase with
  | .sendingOffer offer => simp [clientAct, hphase, houtgoing]
  | .iceLoop ⟨doneSending, doneReceiving, .sending ice⟩ => simp [clientAct, hphase, houtgoing]
  | .iceLoop ⟨_, _, .select⟩ | .iceLoop ⟨_, _, .applying _⟩ | .start | .settingLocal _
  | .awaitingAnswer _ | .settingRemote _ _ | .addingIces _ | .returned | .failed _ =>
      rw [hphase] at hsends
      cases hsends

theorem exists_serverSent {session : Session env} (hsends : session.server.phase.sends = true)
    (houtgoing : session.s2c.outgoing = []) : ∃ next, session.serverAct .sent = some next := by
  match hphase : session.server.phase with
  | .sendingAnswer answer => simp [serverAct, hphase, houtgoing]
  | .iceLoop ⟨doneSending, doneReceiving, .sending ice⟩ => simp [serverAct, hphase, houtgoing]
  | .iceLoop ⟨_, _, .select⟩ | .iceLoop ⟨_, _, .applying _⟩ | .awaitingOffer | .settingRemote _
  | .creatingAnswer | .settingLocal _ | .succeeded | .failed _ =>
      rw [hphase] at hsends
      cases hsends

/-- What holds an end that cannot go on: a full transport, a message that is not on the
way, or the end of its round. -/
inductive ClientHeld (session : Session env) : Prop
  | sending (houtgoing : session.c2s.outgoing ≠ []) (hfull : session.c2s.Full env.clientCapacity) :
      ClientHeld session
  | waiting (houtgoing : session.c2s.outgoing = []) (hreading : session.s2c.Reading)
      (hstages : (session.client.phase.outStage session.client.round).rank =
        (session.client.phase.inStage session.client.round).rank + 1) : ClientHeld session
  | returned (hphase : session.client.phase = .returned) : ClientHeld session

/-- The same for the server, which also waits between its rounds. -/
inductive ServerHeld (session : Session env) : Prop
  | sending (houtgoing : session.s2c.outgoing ≠ []) (hfull : session.s2c.Full env.serverCapacity) :
      ServerHeld session
  | waiting (houtgoing : session.s2c.outgoing = []) (hreading : session.c2s.Reading)
      (hstages : (session.server.phase.inStage session.server.round).rank ≤
        (session.server.phase.outStage session.server.round).rank)
      (hopen : (session.server.phase.inStage session.server.round).rank ≤
        2 * session.server.round + 1) : ServerHeld session
  | succeeded (hphase : session.server.phase = .succeeded) : ServerHeld session

theorem clientHeld_of_sends {session : Session env} (hstuck : ¬ session.Live)
    (hsends : session.client.phase.sends = true) : session.ClientHeld := by
  have houtgoing : session.c2s.outgoing ≠ [] := by
    intro hnil
    obtain ⟨next, hsent⟩ := exists_clientSent hsends hnil
    exact hstuck (.step (.client .sent) trivial hsent)
  refine .sending houtgoing ?_
  by_contra hroom
  obtain ⟨c2s, hwrite⟩ := Link.exists_write houtgoing hroom
  have hstep : session.step (.clientWrite 1) = some { session with c2s := c2s } := by
    simp [Session.step, hwrite]
  exact hstuck (.step (.clientWrite 1) trivial hstep)

theorem serverHeld_of_sends {session : Session env} (hstuck : ¬ session.Live)
    (hsends : session.server.phase.sends = true) : session.ServerHeld := by
  have houtgoing : session.s2c.outgoing ≠ [] := by
    intro hnil
    obtain ⟨next, hsent⟩ := exists_serverSent hsends hnil
    exact hstuck (.step (.server .sent) trivial hsent)
  refine .sending houtgoing ?_
  by_contra hroom
  obtain ⟨s2c, hwrite⟩ := Link.exists_write houtgoing hroom
  have hstep : session.step (.serverWrite 1) = some { session with s2c := s2c } := by
    simp [Session.step, hwrite]
  exact hstuck (.step (.serverWrite 1) trivial hstep)

/-- A client that waits in its loop and has no event to send has sent its marker. -/
theorem client_marker_sent {session : Session env} (hordered : session.Ordered)
    (hawake : session.Awake) (hstuck : ¬ session.Live) {doneSending doneReceiving : Bool}
    (hphase : session.client.phase = .iceLoop ⟨doneSending, doneReceiving, .select⟩) :
    doneSending = true := by
  have hgathers := hawake.clientGathers
  have hc2s := hordered.c2s
  rw [hphase] at hgathers hc2s
  have hcontents : session.client.peer.channel.contents = [] := by
    by_contra hcontents
    rcases Mailbox.take_or_enqueue (by decide) hcontents with ⟨ice, channel, htake⟩ |
      ⟨channel, henqueue⟩
    · cases hsend : session.c2s.beginSend (clientWire env)
        (.candidate session.client.round ice) with
      | none =>
          exact hstuck (.clientPanics doneSending doneReceiving ice channel hphase htake hsend)
      | some c2s =>
          have hstep : ∃ next, session.clientAct .takeIce = some next := by
            simp [clientAct, hphase, htake, hsend]
          obtain ⟨next, hstep⟩ := hstep
          exact hstuck (.step (.client .takeIce) trivial hstep)
    · have hstep : ∃ next, session.step .clientEnqueue = some next := by
        simp [Session.step, Endpoint.enqueue, henqueue]
      obtain ⟨next, hstep⟩ := hstep
      exact hstuck (.step .clientEnqueue trivial hstep)
  have hended : session.client.peer.ended = true := by
    by_contra hrunning
    obtain ⟨client, hemit⟩ := Endpoint.exists_emit hgathers.1 (by simpa using hrunning) none
    have hstep : session.step (.clientEmit none) = some { session with client := client } := by
      simp [Session.step, hemit]
    have hwaiting := (List.append_eq_nil_iff.mp hcontents).2
    exact hstuck (.step (.clientEmit none) ⟨hgathers.2, hwaiting⟩ hstep)
  have hmarker := hordered.clientKeeps.none_mem_ices (hawake.clientHears _) hcontents
    (hawake.clientEnded hended)
  cases doneSending with
  | true => rfl
  | false => exact absurd hmarker (hc2s.none_not_mem_sent le_rfl)

theorem server_marker_sent {session : Session env} (hordered : session.Ordered)
    (hawake : session.Awake) (hstuck : ¬ session.Live) {doneSending doneReceiving : Bool}
    (hphase : session.server.phase = .iceLoop ⟨doneSending, doneReceiving, .select⟩) :
    doneSending = true := by
  have hgathers := hawake.serverGathers
  have hs2c := hordered.s2c
  rw [hphase] at hgathers hs2c
  have hcontents : session.server.peer.channel.contents = [] := by
    by_contra hcontents
    rcases Mailbox.take_or_enqueue (by decide) hcontents with ⟨ice, channel, htake⟩ |
      ⟨channel, henqueue⟩
    · cases hsend : session.s2c.beginSend (serverWire env)
        (.candidate session.server.round (ice.map env.toJson)) with
      | none =>
          exact hstuck (.serverPanics doneSending doneReceiving ice channel hphase htake hsend)
      | some s2c =>
          have hstep : ∃ next, session.serverAct .takeIce = some next := by
            simp [serverAct, hphase, htake, hsend]
          obtain ⟨next, hstep⟩ := hstep
          exact hstuck (.step (.server .takeIce) trivial hstep)
    · have hstep : ∃ next, session.step .serverEnqueue = some next := by
        simp [Session.step, Endpoint.enqueue, henqueue]
      obtain ⟨next, hstep⟩ := hstep
      exact hstuck (.step .serverEnqueue trivial hstep)
  have hended : session.server.peer.ended = true := by
    by_contra hrunning
    obtain ⟨server, hemit⟩ := Endpoint.exists_emit hgathers (by simpa using hrunning) none
    have hstep : session.step (.serverEmit none) = some { session with server := server } := by
      simp [Session.step, hemit]
    have hwaiting := (List.append_eq_nil_iff.mp hcontents).2
    exact hstuck (.step (.serverEmit none) hwaiting hstep)
  have hmarker := hordered.serverKeeps.none_mem_ices (hordered.serverHears _) hcontents
    (hawake.serverEnded hended)
  cases doneSending with
  | true => rfl
  | false => exact absurd hmarker (hs2c.none_not_mem_sent le_rfl)

theorem client_held {session : Session env} (hordered : session.Ordered) (hawake : session.Awake)
    (hstuck : ¬ session.Live) : session.ClientHeld := by
  have hacts : ∀ action, action ≠ .upgradeAgain → session.clientAct action = none := by
    intro action hne
    by_contra hsome
    obtain ⟨next, hstep⟩ := Option.ne_none_iff_exists'.mp hsome
    have hcounts : session.Counts (.client action) := by
      cases action <;> trivial
    exact hstuck (.step (.client action) hcounts hstep)
  have hwaits : ∀ ty, session.client.phase.expects = some ty → session.s2c.Reading := by
    intro ty hexpects
    by_contra hready
    obtain ⟨action, next, hrecv⟩ := exists_clientRecv hexpects hordered.clientCall hready
    exact hstuck (.step (.clientRecv action) trivial hrecv)
  have hquiet := hawake.client_quiet
  have hproper := hordered.clientProper
  match hphase : session.client.phase with
  | .start => exact absurd (.clientDescribes hphase) hstuck
  | .sendingOffer offer => exact clientHeld_of_sends hstuck (hphase ▸ rfl)
  | .settingLocal offer => exact absurd (hacts .setLocalDescription) (by simp [clientAct, hphase])
  | .awaitingAnswer ices =>
      rw [hphase] at hwaits hquiet
      exact .waiting (hquiet rfl) (hwaits _ rfl) (by rw [hphase]; rfl)
  | .settingRemote answer ices =>
      exact absurd (hacts .setRemoteDescription) (by simp [clientAct, hphase])
  | .addingIces (ice :: ices) => exact absurd (hacts .addIceCandidate) (by simp [clientAct, hphase])
  | .addingIces [] => exact absurd (hacts .registerHandler) (by simp [clientAct, hphase])
  | .iceLoop ⟨doneSending, doneReceiving, .select⟩ =>
      obtain rfl := client_marker_sent hordered hawake hstuck hphase
      rw [hphase] at hwaits hquiet hproper
      obtain rfl : doneReceiving = false := by simpa [IceLoop.Proper] using hproper.1
      exact .waiting (hquiet rfl) (hwaits _ rfl) (by rw [hphase]; rfl)
  | .iceLoop ⟨doneSending, doneReceiving, .sending ice⟩ =>
      exact clientHeld_of_sends hstuck (hphase ▸ rfl)
  | .iceLoop ⟨doneSending, doneReceiving, .applying ice⟩ =>
      exact absurd (hacts .addIceCandidate) (by simp [clientAct, hphase])
  | .returned => exact .returned hphase
  | .failed error => exact (hphase ▸ hproper).elim

theorem server_held {session : Session env} (hordered : session.Ordered) (hawake : session.Awake)
    (hstuck : ¬ session.Live) : session.ServerHeld := by
  have hacts : ∀ action, action ≠ .onSuccessDone → session.serverAct action = none := by
    intro action hne
    by_contra hsome
    obtain ⟨next, hstep⟩ := Option.ne_none_iff_exists'.mp hsome
    have hcounts : session.Counts (.server action) := by
      cases action <;> trivial
    exact hstuck (.step (.server action) hcounts hstep)
  have hwaits : ∀ ty, session.server.phase.expects = some ty → session.c2s.Reading := by
    intro ty hexpects
    by_contra hready
    obtain ⟨action, next, hrecv⟩ := exists_serverRecv hexpects hordered.serverCall hready
    exact hstuck (.step (.serverRecv action) trivial hrecv)
  have hquiet := hawake.server_quiet
  have hproper := hordered.serverProper
  match hphase : session.server.phase with
  | .awaitingOffer =>
      rw [hphase] at hwaits hquiet
      refine .waiting (hquiet rfl) (hwaits _ rfl) ?_ ?_ <;> rw [hphase]
      · exact le_rfl
      · exact Nat.le_succ _
  | .settingRemote offer => exact absurd (hacts .setRemoteDescription) (by simp [serverAct, hphase])
  | .creatingAnswer => exact absurd (.serverDescribes hphase) hstuck
  | .sendingAnswer answer => exact serverHeld_of_sends hstuck (hphase ▸ rfl)
  | .settingLocal answer => exact absurd (hacts .setLocalDescription) (by simp [serverAct, hphase])
  | .iceLoop ⟨doneSending, doneReceiving, .select⟩ =>
      obtain rfl := server_marker_sent hordered hawake hstuck hphase
      rw [hphase] at hwaits hquiet hproper
      obtain rfl : doneReceiving = false := by simpa [IceLoop.Proper] using hproper.2.1
      refine .waiting (hquiet rfl) (hwaits _ rfl) ?_ ?_ <;> rw [hphase]
      · exact Nat.le_succ _
      · exact le_rfl
  | .iceLoop ⟨doneSending, doneReceiving, .sending ice⟩ =>
      exact serverHeld_of_sends hstuck (hphase ▸ rfl)
  | .iceLoop ⟨doneSending, doneReceiving, .applying ice⟩ =>
      exact absurd (hacts .addIceCandidate) (by simp [serverAct, hphase])
  | .succeeded => exact .succeeded hphase
  | .failed error => exact (hphase ▸ hproper).elim

end Session

end MangleWebRTC.Upgrade
