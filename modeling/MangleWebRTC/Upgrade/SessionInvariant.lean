import MangleWebRTC.Upgrade.Gathering
import MangleWebRTC.Upgrade.SessionSteps
import MangleWebRTC.Upgrade.Traffic

/-! # The invariant of a session

At every moment the two links lead from the receiving phase of one end to the
sending phase of the other, the calls in flight are those of the phases, and
both ends balance their candidates. From the stages alone it follows that an end
which has received the marker of a round and still sends finds its link drained.
-/

namespace MangleWebRTC.Upgrade

open Machine

namespace IceLoop

variable {Out In : Type}

/-- What the two flags say at each point of the loop. -/
def Proper (loop : IceLoop Out In) : Prop :=
  match loop.point with
  | .select => ¬ (loop.doneSendingIce = true ∧ loop.doneReceivingIce = true)
  | .sending _ => loop.doneSendingIce = false
  | .applying _ => loop.doneReceivingIce = false

theorem outStage_rank (loop : IceLoop Out In) (round : Nat) :
    2 * round ≤ (loop.outStage round).rank ∧ (loop.outStage round).rank ≤ 2 * round + 2 := by
  unfold outStage
  split <;> simp only [Stage.rank] <;> omega

theorem inStage_rank (loop : IceLoop Out In) (round : Nat) :
    2 * round ≤ (loop.inStage round).rank ∧ (loop.inStage round).rank ≤ 2 * round + 2 := by
  unfold inStage
  split <;> simp only [Stage.rank] <;> omega

/-- The end of a send moves neither stage, whether the loop goes on or is left. -/
theorem afterSend_stages {doneSending doneReceiving : Bool} {ice : Option Out}
    (hproper : Proper (⟨doneSending, doneReceiving, .sending ice⟩ : IceLoop Out In))
    (round : Nat) :
    let loop : IceLoop Out In := ⟨doneSending, doneReceiving, .sending ice⟩
    (loop.afterSend ice).elim (.before (round + 1)) (outStage · round) = loop.outStage round ∧
    (loop.afterSend ice).elim (.before (round + 1)) (inStage · round) = loop.inStage round ∧
    ∀ next ∈ loop.afterSend ice, next.Proper ∧ next.pending = [] := by
  obtain rfl : doneSending = false := hproper
  cases ice <;> cases doneReceiving <;> simp [afterSend, outStage, inStage, Proper, pending]

/-- The end marker of the other end closes its round. -/
theorem afterEnd_stages (doneSending : Bool) (round : Nat) :
    let loop : IceLoop Out In := ⟨doneSending, false, .select⟩
    loop.afterEnd.elim (.before (round + 1)) (outStage · round) = loop.outStage round ∧
    loop.afterEnd.elim (.before (round + 1)) (inStage · round) = .before (round + 1) ∧
    ∀ next ∈ loop.afterEnd, next.Proper ∧ next.pending = [] := by
  cases doneSending <;> simp [afterEnd, outStage, inStage, Proper, pending]

end IceLoop

namespace ClientPhase

variable {env : Environment}

/-- What the program order of `upgrade` guarantees at each await. -/
def Proper (phase : ClientPhase env) (peer : Peer env.Candidate) : Prop :=
  match phase with
  | addingIces _ => peer.remoteDescription = true
  | iceLoop loop => loop.Proper ∧ peer.remoteDescription = true
  | failed _ => False
  | _ => True

theorem outStage_rank (phase : ClientPhase env) (round : Nat) :
    2 * round ≤ (phase.outStage round).rank ∧ (phase.outStage round).rank ≤ 2 * round + 2 := by
  cases phase with
  | iceLoop loop => exact loop.outStage_rank round
  | _ => simp only [outStage, Stage.rank]; omega

theorem inStage_rank (phase : ClientPhase env) (round : Nat) :
    2 * round ≤ (phase.inStage round).rank ∧ (phase.inStage round).rank ≤ 2 * round + 2 := by
  cases phase with
  | iceLoop loop => exact loop.inStage_rank round
  | _ => simp only [inStage, Stage.rank]; omega

@[simp] theorem outStage_ofLoop (left : Option (ClientLoop env)) (round : Nat) :
    (ofLoop left).outStage round = left.elim (.before (round + 1)) (·.outStage round) := by
  cases left <;> rfl

@[simp] theorem inStage_ofLoop (left : Option (ClientLoop env)) (round : Nat) :
    (ofLoop left).inStage round = left.elim (.before (round + 1)) (·.inStage round) := by
  cases left <;> rfl

theorem proper_ofLoop {left : Option (ClientLoop env)} {peer : Peer env.Candidate}
    (hloop : ∀ next ∈ left, next.Proper ∧ next.pending = [])
    (hremote : peer.remoteDescription = true) :
    (ofLoop left).Proper peer ∧ (ofLoop left).pending = [] := by
  cases left with
  | none => exact ⟨trivial, rfl⟩
  | some loop => exact ⟨⟨(hloop loop rfl).1, hremote⟩, (hloop loop rfl).2⟩

/-- A phase that gets the next message of its stage handles it and moves on with
the stage; what it had received stays pending. -/
theorem receive_faithful {phase next : ClientPhase env} {peer : Peer env.Candidate}
    {round : Nat} {frame : Frame env.Sdp env.CandidateInit} {later : Stage}
    (hproper : phase.Proper peer) (hexpects : phase.expects = some (serverWire env frame).1)
    (hadvance : (phase.inStage round).advance frame.part frame.round = some later)
    (hreceive : phase.receive (Link.faithful (serverWire env) frame) = some next) :
    frame.round = round ∧
      next.outStage round = phase.outStage round ∧ next.inStage round = later ∧
      next.Proper peer ∧
      next.pending = phase.pending ++ (Frame.ices round [frame]).reduceOption := by
  cases phase with
  | awaitingAnswer ices =>
      obtain ⟨answer, rfl, rfl⟩ := Frame.advance_before.mp hadvance
      obtain rfl := Option.some.inj hreceive
      exact ⟨rfl, rfl, rfl, trivial, by simp [pending]⟩
  | iceLoop loop =>
      obtain ⟨doneSending, doneReceiving, point⟩ := loop
      cases point with
      | select =>
          cases doneReceiving with
          | true =>
              obtain ⟨answer, rfl, _⟩ := Frame.advance_before.mp hadvance
              simp [expects, serverWire] at hexpects
          | false =>
              obtain ⟨ice, rfl, rfl⟩ := Frame.advance_within.mp hadvance
              cases ice with
              | some candidate =>
                  obtain rfl := Option.some.inj hreceive
                  exact ⟨rfl, by cases doneSending <;> rfl, rfl, ⟨rfl, hproper.2⟩,
                    by simp [pending, IceLoop.pending]⟩
              | none =>
                  obtain rfl := Option.some.inj hreceive
                  obtain ⟨hout, hin, hloop⟩ :=
                    @IceLoop.afterEnd_stages env.Candidate _ doneSending round
                  obtain ⟨hnext, hpending⟩ := proper_ofLoop hloop hproper.2
                  refine ⟨rfl, ?_, ?_, hnext, ?_⟩
                  · rw [outStage_ofLoop]
                    exact hout
                  · rw [inStage_ofLoop]
                    exact hin
                  · rw [hpending]
                    simp [pending, IceLoop.pending, List.reduceOption]
      | sending ice => simp [expects] at hexpects
      | applying ice => simp [expects] at hexpects
  | _ => simp [expects] at hexpects

end ClientPhase

namespace ServerPhase

variable {env : Environment}

/-- What the program order of the connection task guarantees at each await. The
handler is there from the offer on. -/
def Proper (phase : ServerPhase env) (peer : Peer env.Candidate) : Prop :=
  match phase with
  | awaitingOffer => peer = .new
  | settingRemote _ => peer.handler = true
  | iceLoop loop => peer.handler = true ∧ loop.Proper ∧ peer.remoteDescription = true
  | failed _ => False
  | _ => peer.handler = true ∧ peer.remoteDescription = true

theorem outStage_rank (phase : ServerPhase env) (round : Nat) :
    2 * round ≤ (phase.outStage round).rank ∧ (phase.outStage round).rank ≤ 2 * round + 2 := by
  cases phase with
  | iceLoop loop => exact loop.outStage_rank round
  | _ => simp only [outStage, Stage.rank]; omega

theorem inStage_rank (phase : ServerPhase env) (round : Nat) :
    2 * round ≤ (phase.inStage round).rank ∧ (phase.inStage round).rank ≤ 2 * round + 2 := by
  cases phase with
  | iceLoop loop => exact loop.inStage_rank round
  | _ => simp only [inStage, Stage.rank]; omega

@[simp] theorem outStage_ofLoop (left : Option (ServerLoop env)) (round : Nat) :
    (ofLoop left).outStage round = left.elim (.before (round + 1)) (·.outStage round) := by
  cases left <;> rfl

@[simp] theorem inStage_ofLoop (left : Option (ServerLoop env)) (round : Nat) :
    (ofLoop left).inStage round = left.elim (.before (round + 1)) (·.inStage round) := by
  cases left <;> rfl

theorem proper_ofLoop {left : Option (ServerLoop env)} {peer : Peer env.Candidate}
    (hloop : ∀ next ∈ left, next.Proper ∧ next.pending = []) (hhandler : peer.handler = true)
    (hremote : peer.remoteDescription = true) :
    (ofLoop left).Proper peer ∧ (ofLoop left).pending = [] := by
  cases left with
  | none => exact ⟨⟨hhandler, hremote⟩, rfl⟩
  | some loop => exact ⟨⟨hhandler, (hloop loop rfl).1, hremote⟩, (hloop loop rfl).2⟩

/-- Outside `awaitingOffer` only the handler and the remote description matter. -/
theorem Proper.of_peer {phase : ServerPhase env} {peer other : Peer env.Candidate}
    (hproper : phase.Proper peer) (hused : peer ≠ .new) (hhandler : other.handler = peer.handler)
    (hremote : other.remoteDescription = peer.remoteDescription) : phase.Proper other := by
  cases phase with
  | awaitingOffer => exact absurd hproper hused
  | failed error => exact hproper
  | _ => simpa only [Proper, hhandler, hremote] using hproper

theorem handler_of_proper {phase : ServerPhase env} {peer : Peer env.Candidate}
    (hproper : phase.Proper peer) : peer = .new ∨ peer.handler = true := by
  cases phase with
  | awaitingOffer => exact .inl hproper
  | settingRemote offer => exact .inr hproper
  | failed error => exact hproper.elim
  | _ => exact .inr hproper.1

end ServerPhase

/-- The task that gets the next message of its stage handles it and moves on with
the stage. An offer finds a peer that was never used. -/
theorem Server.receive_faithful {env : Environment} {server next : Server env}
    {frame : Frame env.Sdp env.Candidate} {later : Stage}
    (hproper : server.phase.Proper server.peer)
    (hexpects : server.phase.expects = some (clientWire env frame).1)
    (hadvance : (server.phase.inStage server.round).advance frame.part frame.round = some later)
    (hreceive : server.receive (Link.faithful (clientWire env) frame) = some next) :
    frame.round = server.round ∧
      next.phase.outStage server.round = server.phase.outStage server.round ∧
      next.phase.inStage server.round = later ∧ next.phase.Proper next.peer ∧
      next.phase.pending =
        server.phase.pending ++ (Frame.ices server.round [frame]).reduceOption ∧
      (next.peer = server.peer ∨
        server.peer = .new ∧ next.peer = { Peer.new with handler := true }) ∧
      next = { server with phase := next.phase, peer := next.peer } := by
  obtain ⟨round, phase, peer, emitted, dropped, added⟩ := server
  cases phase with
  | awaitingOffer =>
      obtain ⟨offer, rfl, rfl⟩ := Frame.advance_before.mp hadvance
      obtain rfl := Option.some.inj hreceive
      exact ⟨rfl, rfl, rfl, rfl, by simp [ServerPhase.pending], .inr ⟨hproper, rfl⟩, rfl⟩
  | iceLoop loop =>
      obtain ⟨doneSending, doneReceiving, point⟩ := loop
      cases point with
      | select =>
          cases doneReceiving with
          | true =>
              obtain ⟨offer, rfl, _⟩ := Frame.advance_before.mp hadvance
              simp [ServerPhase.expects, clientWire] at hexpects
          | false =>
              obtain ⟨ice, rfl, rfl⟩ := Frame.advance_within.mp hadvance
              cases ice with
              | some candidate =>
                  obtain rfl := Option.some.inj hreceive
                  exact ⟨rfl, by cases doneSending <;> rfl, rfl, ⟨hproper.1, rfl, hproper.2.2⟩,
                    by simp [ServerPhase.pending, IceLoop.pending], .inl rfl, rfl⟩
              | none =>
                  obtain rfl := Option.some.inj hreceive
                  obtain ⟨hout, hin, hloop⟩ :=
                    @IceLoop.afterEnd_stages env.CandidateInit _ doneSending round
                  obtain ⟨hnext, hpending⟩ :=
                    ServerPhase.proper_ofLoop hloop hproper.1 hproper.2.2
                  refine ⟨rfl, ?_, ?_, hnext, ?_, .inl rfl, rfl⟩
                  · rw [ServerPhase.outStage_ofLoop]
                    exact hout
                  · rw [ServerPhase.inStage_ofLoop]
                    exact hin
                  · rw [hpending]
                    simp [ServerPhase.pending, IceLoop.pending, List.reduceOption]
      | sending ice => simp [ServerPhase.expects] at hexpects
      | applying ice => simp [ServerPhase.expects] at hexpects
  | _ => simp [ServerPhase.expects] at hexpects

/-- A loop whose channel still holds an event has not sent its marker. -/
theorem doneSending_of_take {env : Environment} {Phase Out In Item : Type}
    {endpoint : Endpoint env Phase}
    {convert : env.Candidate → Item} {sent : List (Frame env.Sdp Item)}
    {doneSending doneReceiving : Bool} {ice : Option env.Candidate}
    {channel : Mailbox (Option env.Candidate) 3}
    (hstage : Link.stageAfter sent = some ((⟨doneSending, doneReceiving, .select⟩ :
      IceLoop Out In).outStage endpoint.round))
    (hkeeps : endpoint.Conserves convert sent)
    (htake : endpoint.peer.channel.take = some (ice, channel)) : doneSending = false := by
  cases doneSending with
  | false => rfl
  | true =>
      have hmarker := Link.none_mem_ices_of_stageAfter hstage
        (le_refl (Stage.before (endpoint.round + 1)).rank)
      have hempty := hkeeps.contents_eq_nil hmarker
      rw [Mailbox.contents_take htake] at hempty
      exact absurd hempty (List.cons_ne_nil _ _)

namespace Session

variable {env : Environment}

/-- The invariant of every session, kept by every step. -/
structure Ordered (session : Session env) : Prop where
  c2s : session.c2s.Carries (clientWire env)
    (session.client.phase.outStage session.client.round)
    (session.server.phase.inStage session.server.round)
  s2c : session.s2c.Carries (serverWire env)
    (session.server.phase.outStage session.server.round)
    (session.client.phase.inStage session.client.round)
  clientCall : session.s2c.CallAt session.client.phase.expects
  serverCall : session.c2s.CallAt session.server.phase.expects
  clientKeeps : session.client.Conserves id session.c2s.sent
  serverKeeps : session.server.Conserves env.toJson session.s2c.sent
  clientApplies : session.client.Applies id session.client.phase.pending session.s2c.delivered
  serverApplies : session.server.Applies env.toJson session.server.phase.pending
    session.c2s.delivered
  clientProper : session.client.phase.Proper session.client.peer
  serverProper : session.server.phase.Proper session.server.peer
  serverHears : ∀ round, session.server.dropped round = []

theorem ordered_initial : (initial env).Ordered where
  c2s := Link.carries_empty
  s2c := Link.carries_empty
  clientCall := Link.callAt_of_call_none rfl
  serverCall := Link.callAt_of_call_none rfl
  clientKeeps := Endpoint.conserves_start _
  serverKeeps := Endpoint.conserves_start _
  clientApplies := Endpoint.applies_start _
  serverApplies := Endpoint.applies_start _
  clientProper := trivial
  serverProper := rfl
  serverHears _ := rfl

/-- An end that has received the marker of a round and not sent its own has
received everything: its partner cannot have begun the next round. -/
theorem undelivered_eq_nil_of_receiving {Back Forth : Type} {back : Link env Back}
    {forth : Link env Forth} {backWire forthWire} {backIn forthOut : Stage} {round other : Nat}
    (hback : back.Carries backWire (.within round) backIn)
    (hforth : forth.Carries forthWire forthOut (.before (round + 1)))
    (hbackIn : 2 * other ≤ backIn.rank) (hforthOut : forthOut.rank ≤ 2 * other + 2) :
    forth.undelivered = [] := by
  apply hforth.undelivered_eq_nil
  have hrank := Stage.rank_le_of_follow hback.path
  simp only [Stage.rank_before, Stage.rank_within] at hrank ⊢
  omega

/-- The next frame has the type the client waits for, and belongs to its round. -/
theorem Ordered.client_expects {session : Session env} (hinv : session.Ordered) {ty : WireType}
    (hexpects : session.client.phase.expects = some ty) :
    ∀ frame ∈ session.s2c.undelivered.head?,
      (serverWire env frame).1 = ty ∧ frame.round = session.client.round := by
  intro frame hframe
  obtain ⟨rest, hundelivered⟩ := List.head?_eq_some_iff.mp hframe
  have hpath := hinv.s2c.path
  rw [hundelivered] at hpath
  obtain ⟨later, hadvance, _⟩ := (Stage.follow_cons_eq_some _ _).mp hpath
  unfold ClientPhase.expects at hexpects
  split at hexpects
  next ices hphase =>
    rw [hphase] at hadvance
    obtain ⟨answer, rfl, _⟩ := Frame.advance_before.mp hadvance
    exact ⟨Option.some.inj hexpects, rfl⟩
  next doneSending doneReceiving hphase =>
    have hproper := hinv.clientProper
    rw [hphase] at hadvance hproper
    cases doneReceiving with
    | true =>
        -- The drained link has no next frame.
        obtain rfl : doneSending = false := by simpa [IceLoop.Proper] using hproper.1
        have hc2s := hinv.c2s
        have hs2c := hinv.s2c
        rw [hphase] at hc2s hs2c
        have hnil := undelivered_eq_nil_of_receiving hc2s hs2c
          (session.server.phase.inStage_rank _).1 (session.server.phase.outStage_rank _).2
        simp [hnil] at hframe
    | false =>
        obtain ⟨ice, rfl, _⟩ := Frame.advance_within.mp hadvance
        exact ⟨Option.some.inj hexpects, rfl⟩
  · cases hexpects

/-- The next frame has the type the server waits for, and belongs to its round. -/
theorem Ordered.server_expects {session : Session env} (hinv : session.Ordered) {ty : WireType}
    (hexpects : session.server.phase.expects = some ty) :
    ∀ frame ∈ session.c2s.undelivered.head?,
      (clientWire env frame).1 = ty ∧ frame.round = session.server.round := by
  intro frame hframe
  obtain ⟨rest, hundelivered⟩ := List.head?_eq_some_iff.mp hframe
  have hpath := hinv.c2s.path
  rw [hundelivered] at hpath
  obtain ⟨later, hadvance, _⟩ := (Stage.follow_cons_eq_some _ _).mp hpath
  unfold ServerPhase.expects at hexpects
  split at hexpects
  next hphase =>
    rw [hphase] at hadvance
    obtain ⟨offer, rfl, _⟩ := Frame.advance_before.mp hadvance
    exact ⟨Option.some.inj hexpects, rfl⟩
  next doneSending doneReceiving hphase =>
    have hproper := hinv.serverProper
    rw [hphase] at hadvance hproper
    cases doneReceiving with
    | true =>
        obtain rfl : doneSending = false := by simpa [IceLoop.Proper] using hproper.2.1
        have hc2s := hinv.c2s
        have hs2c := hinv.s2c
        rw [hphase] at hc2s hs2c
        have hnil := undelivered_eq_nil_of_receiving hs2c hc2s
          (session.client.phase.inStage_rank _).1 (session.client.phase.outStage_rank _).2
        simp [hnil] at hframe
    | false =>
        obtain ⟨ice, rfl, _⟩ := Frame.advance_within.mp hadvance
        exact ⟨Option.some.inj hexpects, rfl⟩
  · cases hexpects

end Session

end MangleWebRTC.Upgrade
