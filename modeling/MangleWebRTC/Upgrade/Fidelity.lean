import MangleWebRTC.Upgrade.SessionRuns

/-! # Session fidelity

The frames carry no tag, and the two ends leave their loops at different
moments. Still every call decodes the frame that was meant for it, and a round
that both ends have left leaves nothing behind.
-/

namespace MangleWebRTC.Upgrade

open Machine

/-- An end has left its ICE loop of a round when it is in a later round, or has
broken out of the loop of this one. -/
def Endpoint.Left {env : Environment} {Phase : Type} (endpoint : Endpoint env Phase)
    (last : Phase) (round : Nat) : Prop :=
  round < endpoint.round ∨ (round = endpoint.round ∧ endpoint.phase = last)

/-- Completed calls got the values of the frames they consumed, at the types these
were serialized from; the bytes on the way are the other frames. -/
structure Link.Faithful {env : Environment} {Item : Type}
    (wire : Frame env.Sdp Item → (ty : WireType) × env.Value ty) (link : Link env Item) :
    Prop where
  decoded : link.received = link.delivered.map (Link.faithful wire)
  inFlight : link.receiver.recvBuffer ++ link.receiver.unread ++ link.outgoing =
    link.undelivered.flatMap (Link.frameBytes wire)

namespace Session

variable {env : Environment}

/-- What holds in every state of a session. An end that waits for a message finds
next in its link one of the type it waits for, sent in its own round. -/
structure Faithful (session : Session env) : Prop where
  c2s : session.c2s.Faithful (clientWire env)
  s2c : session.s2c.Faithful (serverWire env)
  clientNext : ∀ ty, session.client.phase.expects = some ty →
    ∀ frame ∈ session.s2c.undelivered.head?,
      (serverWire env frame).1 = ty ∧ frame.round = session.client.round
  serverNext : ∀ ty, session.server.phase.expects = some ty →
    ∀ frame ∈ session.c2s.undelivered.head?,
      (clientWire env frame).1 = ty ∧ frame.round = session.server.round
  clientCall : session.s2c.CallMatches (serverWire env)
  serverCall : session.c2s.CallMatches (clientWire env)
  clientRuns : ∀ error, session.client.phase ≠ .failed error
  serverRuns : ∀ error, session.server.phase ≠ .failed error
  roundOver : ∀ round, session.client.Left .returned round →
    session.server.Left .succeeded round →
      (∀ frame ∈ session.c2s.undelivered, round < frame.round) ∧
      ∀ frame ∈ session.s2c.undelivered, round < frame.round

theorem client_inStage_of_left {client : Client env} {round : Nat}
    (hleft : client.Left .returned round) :
    (Stage.before (round + 1)).rank ≤ (client.phase.inStage client.round).rank := by
  rcases hleft with hlater | ⟨rfl, hphase⟩
  · have hrank := (client.phase.inStage_rank client.round).1
    simp only [Stage.rank_before]
    omega
  · rw [hphase]
    exact le_rfl

theorem server_inStage_of_left {server : Server env} {round : Nat}
    (hleft : server.Left .succeeded round) :
    (Stage.before (round + 1)).rank ≤ (server.phase.inStage server.round).rank := by
  rcases hleft with hlater | ⟨rfl, hphase⟩
  · have hrank := (server.phase.inStage_rank server.round).1
    simp only [Stage.rank_before]
    omega
  · rw [hphase]
    exact le_rfl

/-- An end that has broken out of its loop has sent the marker of the round. -/
theorem client_outStage_of_left {client : Client env} {round : Nat}
    (hleft : client.Left .returned round) :
    (Stage.before (round + 1)).rank ≤ (client.phase.outStage client.round).rank := by
  rcases hleft with hlater | ⟨rfl, hphase⟩
  · have hrank := (client.phase.outStage_rank client.round).1
    simp only [Stage.rank_before]
    omega
  · rw [hphase]
    exact le_rfl

theorem server_outStage_of_left {server : Server env} {round : Nat}
    (hleft : server.Left .succeeded round) :
    (Stage.before (round + 1)).rank ≤ (server.phase.outStage server.round).rank := by
  rcases hleft with hlater | ⟨rfl, hphase⟩
  · have hrank := (server.phase.outStage_rank server.round).1
    simp only [Stage.rank_before]
    omega
  · rw [hphase]
    exact le_rfl

theorem faithful_of_coherent {Item : Type}
    {wire : Frame env.Sdp Item → (ty : WireType) × env.Value ty} {link : Link env Item}
    (hlink : link.Coherent wire) : link.Faithful wire :=
  ⟨hlink.faithful, hlink.bytes⟩

/-- Every completed call of either end decodes a frame at the type it was
serialized from, neither end fails, and what is in flight after a round belongs
to later rounds. -/
theorem session_fidelity {session : Session env}
    (hreach : (sessionSystem env).Reachable session) : session.Faithful := by
  have hinv := ordered_of_reachable hreach
  refine ⟨faithful_of_coherent hinv.c2s.toCoherent, faithful_of_coherent hinv.s2c.toCoherent,
    fun _ => hinv.client_expects, fun _ => hinv.server_expects, ?_, ?_, ?_, ?_, ?_⟩
  · intro phase ty hcall frame hframe
    exact (hinv.client_expects (hinv.clientCall phase ty hcall) frame hframe).1
  · intro phase ty hcall frame hframe
    exact (hinv.server_expects (hinv.serverCall phase ty hcall) frame hframe).1
  · intro error hphase
    have hproper := hinv.clientProper
    rw [hphase] at hproper
    exact hproper
  · intro error hphase
    have hproper := hinv.serverProper
    rw [hphase] at hproper
    exact hproper
  · intro round hclient hserver
    have hc2s := hinv.c2s.round_of_undelivered (server_inStage_of_left hserver)
    have hs2c := hinv.s2c.round_of_undelivered (client_inStage_of_left hclient)
    exact ⟨fun frame hframe => hc2s frame hframe, fun frame hframe => hs2c frame hframe⟩

end Session

/-- Descriptions and candidates are bytes; enums and options are tagged by a byte. -/
def byteCodec : Codec WireType (WireValue UInt8 UInt8 UInt8) Unit where
  serialize
    | .sessionDescription, offer => [offer]
    | .rtcMessage, .sdpAnswer answer => [0, answer]
    | .rtcMessage, .ice candidate => [1, candidate]
    | .optionRtcMessage, none => [0]
    | .optionRtcMessage, some (.sdpAnswer answer) => [1, 0, answer]
    | .optionRtcMessage, some (.ice candidate) => [1, 1, candidate]
    | .optionIceCandidate, none => [0]
    | .optionIceCandidate, some candidate => [1, candidate]
  deserialize
    | .sessionDescription, [offer] => .ok offer
    | .rtcMessage, [0, answer] => .ok (.sdpAnswer answer)
    | .rtcMessage, [1, candidate] => .ok (.ice candidate)
    | .optionRtcMessage, [0] => .ok none
    | .optionRtcMessage, [1, 0, answer] => .ok (some (.sdpAnswer answer))
    | .optionRtcMessage, [1, 1, candidate] => .ok (some (.ice candidate))
    | .optionIceCandidate, [0] => .ok none
    | .optionIceCandidate, [1, candidate] => .ok (some candidate)
    | _, _ => .error ()
  deserialize_serialize := by
    intro ty value
    cases ty with
    | sessionDescription => rfl
    | rtcMessage => cases value <;> rfl
    | optionRtcMessage => rcases value with _ | (_ | _) <;> rfl
    | optionIceCandidate => cases value <;> rfl

/-- Descriptions and candidates of one byte, over a transport without a limit. -/
abbrev byteEnvironment : Environment where
  Sdp := UInt8
  Candidate := UInt8
  CandidateInit := UInt8
  Err := Unit
  toJson candidate := candidate + 100
  codec := byteCodec
  overflowChecks := true
  clientCapacity := none
  serverCapacity := none

/-- A round up to the start of the client's gathering. -/
def offerEvents (offer : UInt8) : List (SessionEvent byteEnvironment) :=
  [.client (.createOffer offer), .clientWrite 5, .client .sent, .client .setLocalDescription]

/-- From there to the registration of the client's handler. -/
def answerEvents (answer : UInt8) : List (SessionEvent byteEnvironment) :=
  [.serverRecv .create, .serverRecv .poll, .serverRecv (.read 3), .serverRecv (.read 2),
    .server .setRemoteDescription, .server (.createAnswer answer), .serverWrite 6, .server .sent,
    .server .setLocalDescription, .clientRecv .create, .clientRecv .poll, .clientRecv (.read 6),
    .client .setRemoteDescription, .client .registerHandler]

/-- One candidate and the end marker from each side. The server drops a call that
has read a part of the client's candidate. -/
def exchangeEvents (clientIce serverIce : UInt8) : List (SessionEvent byteEnvironment) :=
  [.clientEmit (some clientIce), .clientEnqueue, .clientEmit none, .clientEnqueue,
    .serverEmit (some serverIce), .serverEnqueue, .serverEmit none, .serverEnqueue,
    .client .takeIce, .clientWrite 6, .client .sent, .client .takeIce, .clientWrite 5,
    .client .sent, .serverRecv .create, .serverRecv .poll, .serverRecv (.read 3),
    .server .takeIce, .serverWrite 7, .server .sent,
    .serverRecv .create, .serverRecv .poll, .serverRecv (.read 8), .server .addIceCandidate,
    .serverRecv .create, .serverRecv .poll, .server .takeIce, .serverWrite 5, .server .sent,
    .clientRecv .create, .clientRecv .poll, .clientRecv (.read 12), .client .addIceCandidate,
    .clientRecv .create, .clientRecv .poll]

/-- A whole round, and a part of the next offer. -/
def secondOfferEvents : List (SessionEvent byteEnvironment) :=
  offerEvents 1 ++ answerEvents 2 ++ exchangeEvents 3 4 ++
    [.client .upgradeAgain, .client (.createOffer 5), .clientWrite 2]

namespace Session

/-- A whole round, and the offer of the next one while the server is still in
its callback. -/
theorem session_fidelity_second_offer :
    ∃ session, (sessionSystem byteEnvironment).run (initial byteEnvironment)
        secondOfferEvents = some session ∧
      session.client.round = 1 ∧ session.c2s.received.length = 3 ∧
      session.s2c.received.length = 3 ∧ session.Faithful := by
  obtain ⟨session, hrun, htest⟩ := (sessionSystem byteEnvironment).exists_run_of_any
    (initial byteEnvironment) secondOfferEvents
    (fun session => session.client.round = 1 ∧ session.c2s.received.length = 3 ∧
      session.s2c.received.length = 3)
    (by decide +kernel)
  obtain ⟨hround, hc2s, hs2c⟩ := of_decide_eq_true htest
  exact ⟨session, hrun, hround, hc2s, hs2c, session_fidelity (.of_run rfl hrun)⟩

end Session

end MangleWebRTC.Upgrade
