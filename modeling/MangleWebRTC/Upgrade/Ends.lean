import MangleWebRTC.Machine.Pool
import MangleWebRTC.Upgrade.Program

/-! # One end over any transport

What holds of an end whatever the transport does with the order of the messages, as long
as every message arrives at the stage at which it is handled. A loop that has received the
marker of its round and not sent its own still takes candidates.
-/

namespace MangleWebRTC.Upgrade

open Machine

namespace IceLoop

variable {Out In : Type}

/-- The flags of a loop that goes on. -/
def Running (loop : IceLoop Out In) : Prop :=
  match loop.point with
  | .sending _ => loop.doneSendingIce = false
  | _ => ¬ (loop.doneSendingIce = true ∧ loop.doneReceivingIce = true)

theorem Proper.running {loop : IceLoop Out In} (hproper : loop.Proper) : loop.Running := by
  obtain ⟨doneSending, doneReceiving, point⟩ := loop
  cases point with
  | select => exact hproper
  | sending ice => exact hproper
  | applying ice =>
      obtain rfl : doneReceiving = false := hproper
      simp [Running]

end IceLoop

namespace ClientPhase

variable {env : Environment}

/-- As `Proper`, with the loop's own notion within the loop. -/
def Running (phase : ClientPhase env) (peer : Peer env.Candidate) : Prop :=
  match phase with
  | iceLoop loop => loop.Running ∧ peer.remoteDescription = true
  | phase => phase.Proper peer

theorem Proper.running {phase : ClientPhase env} {peer : Peer env.Candidate}
    (hproper : phase.Proper peer) : phase.Running peer := by
  cases phase with
  | iceLoop loop => exact ⟨hproper.1.running, hproper.2⟩
  | _ => exact hproper

/-- Where a message is awaited the two notions agree. -/
theorem Running.proper {phase : ClientPhase env} {peer : Peer env.Candidate} {ty : WireType}
    (hrunning : phase.Running peer) (hexpects : phase.expects = some ty) : phase.Proper peer := by
  unfold expects at hexpects
  split at hexpects
  · exact hrunning
  · exact hrunning
  · cases hexpects

end ClientPhase

namespace ServerPhase

variable {env : Environment}

/-- As `Proper`, with the loop's own notion within the loop. -/
def Running (phase : ServerPhase env) (peer : Peer env.Candidate) : Prop :=
  match phase with
  | iceLoop loop => peer.handler = true ∧ loop.Running ∧ peer.remoteDescription = true
  | phase => phase.Proper peer

theorem Proper.running {phase : ServerPhase env} {peer : Peer env.Candidate}
    (hproper : phase.Proper peer) : phase.Running peer := by
  cases phase with
  | iceLoop loop => exact ⟨hproper.1, hproper.2.1.running, hproper.2.2⟩
  | _ => exact hproper

theorem Running.proper {phase : ServerPhase env} {peer : Peer env.Candidate} {ty : WireType}
    (hrunning : phase.Running peer) (hexpects : phase.expects = some ty) : phase.Proper peer := by
  unfold expects at hexpects
  split at hexpects
  · exact hrunning
  · exact hrunning
  · cases hexpects

/-- Outside `awaitingOffer` only the handler and the remote description matter. -/
theorem Running.of_peer {phase : ServerPhase env} {peer other : Peer env.Candidate}
    (hrunning : phase.Running peer) (hused : peer ≠ .new) (hhandler : other.handler = peer.handler)
    (hremote : other.remoteDescription = peer.remoteDescription) : phase.Running other := by
  cases phase with
  | awaitingOffer => exact absurd hrunning hused
  | failed error => exact hrunning
  | _ => simpa only [Running, Proper, hhandler, hremote] using hrunning

end ServerPhase

variable {env : Environment}

/-- The log of sent frames leads to the stage of the end, its events are accounted for,
and so are the candidates it received. -/
structure Client.Sound (client : Client env) (sent : List (Frame env.Sdp env.Candidate))
    (received : List (Frame env.Sdp env.CandidateInit)) : Prop where
  stage : Link.stageAfter sent = some (client.phase.outStage client.round)
  keeps : client.Conserves id sent
  applies : client.Applies id client.phase.pending received
  running : client.phase.Running client.peer

/-- The same for the server, whose candidates are sent in their JSON form. -/
structure Server.Sound (server : Server env) (sent : List (Frame env.Sdp env.CandidateInit))
    (received : List (Frame env.Sdp env.Candidate)) : Prop where
  stage : Link.stageAfter sent = some (server.phase.outStage server.round)
  keeps : server.Conserves env.toJson sent
  applies : server.Applies env.toJson server.phase.pending received
  running : server.phase.Running server.peer

/-- What a step sends: nothing, the description that opens a round, which is at most the
round that is being received, or an event of the round. -/
inductive Emits {Sdp Item : Type} (inn out : Stage) : Option (Frame Sdp Item) → Stage → Prop
  | nothing : Emits inn out none out
  | opening (round : Nat) (description : Sdp) (hout : out = .before round)
      (hinn : out.rank ≤ inn.rank) :
      Emits inn out (some (.opening round description)) (.within round)
  | event (round : Nat) (ice : Option Item) (hout : out = .within round) :
      Emits inn out (some (.candidate round ice))
        (if ice.isNone then .before (round + 1) else .within round)

/-- What an end sends continues its own direction. -/
theorem Emits.bridges_sender {Sdp Item : Type} {inn out later far back : Stage}
    {message : Option (Frame Sdp Item)} {inFlight : List (Frame Sdp Item)}
    (hemits : Emits inn out message later)
    (hbridges : Bridges Frame.part Frame.round far out back inFlight)
    (hbehind : inn.rank ≤ back.rank) :
    Bridges Frame.part Frame.round far later back (inFlight ++ message.toList) := by
  cases hemits with
  | nothing => rwa [Option.toList_none, List.append_nil]
  | opening round description hout hinn =>
      subst hout
      apply hbridges.post (Frame.advance_before.mpr ⟨description, rfl, rfl⟩)
      intro current hcurrent hback
      rw [hback] at hbehind
      rw [hcurrent] at hinn
      simp only [Stage.rank_before, Stage.rank_within] at hinn hbehind
      omega
  | event round ice hout =>
      subst hout
      apply hbridges.post (Frame.advance_within.mpr ⟨ice, rfl, rfl⟩)
      intro current hcurrent
      cases hcurrent

/-- An end goes on to wait for the stragglers of its round, or has none when it sends its
own marker. -/
theorem Emits.bridges_receiver {Sdp Item Message : Type} {inn out later far : Stage}
    {message : Option (Frame Sdp Item)} {part : Message → RoundPart} {roundOf : Message → Nat}
    {inFlight : List Message} (hemits : Emits inn out message later)
    (hbridges : Bridges part roundOf inn far out inFlight)
    (hmarker : ∀ round, message = some (.candidate round none) →
      ∀ current, inn = .before (current + 1) → inFlight = []) :
    Bridges part roundOf inn far later inFlight := by
  cases hemits with
  | nothing => exact hbridges
  | opening round description hout _ =>
      apply hbridges.move_back
      intro current hcurrent
      cases hout.symm.trans hcurrent
  | event round ice hout =>
      cases ice with
      | some candidate =>
          apply hbridges.move_back
          intro current hcurrent
          exact hout.symm.trans hcurrent
      | none =>
          cases hbridges with
          | path hfollow => exact .path hfollow
          | stragglers current hinn hfar _ _ =>
              obtain rfl := hmarker round rfl current hinn
              exact .path (by rw [hinn, hfar]; rfl)

/-- A step that sends nothing and moves neither stage. -/
theorem Client.Sound.quiet {client next : Client env} {before : ClientPhase env}
    {sent : List (Frame env.Sdp env.Candidate)}
    {received : List (Frame env.Sdp env.CandidateInit)} (hsound : client.Sound sent received)
    (hphase : client.phase = before)
    (hout : next.phase.outStage next.round = before.outStage client.round)
    (hin : next.phase.inStage next.round = before.inStage client.round)
    (hkeeps : next.Conserves id sent) (happlies : next.Applies id next.phase.pending received)
    (hrunning : next.phase.Running next.peer) :
    next.Sound (sent ++ (none : Option (Frame env.Sdp env.Candidate)).toList) received ∧
      next.phase.inStage next.round = client.phase.inStage client.round ∧
      Emits (client.phase.inStage client.round) (client.phase.outStage client.round)
        (none : Option (Frame env.Sdp env.Candidate)) (next.phase.outStage next.round) := by
  subst hphase
  rw [Option.toList_none, List.append_nil, hout]
  exact ⟨⟨hout ▸ hsound.stage, hkeeps, happlies, hrunning⟩, hin, .nothing⟩

theorem Server.Sound.quiet {server next : Server env} {before : ServerPhase env}
    {sent : List (Frame env.Sdp env.CandidateInit)}
    {received : List (Frame env.Sdp env.Candidate)} (hsound : server.Sound sent received)
    (hphase : server.phase = before)
    (hout : next.phase.outStage next.round = before.outStage server.round)
    (hin : next.phase.inStage next.round = before.inStage server.round)
    (hkeeps : next.Conserves env.toJson sent)
    (happlies : next.Applies env.toJson next.phase.pending received)
    (hrunning : next.phase.Running next.peer) :
    next.Sound (sent ++ (none : Option (Frame env.Sdp env.CandidateInit)).toList) received ∧
      next.phase.inStage next.round = server.phase.inStage server.round ∧
      Emits (server.phase.inStage server.round) (server.phase.outStage server.round)
        (none : Option (Frame env.Sdp env.CandidateInit)) (next.phase.outStage next.round) := by
  subst hphase
  rw [Option.toList_none, List.append_nil, hout]
  exact ⟨⟨hout ▸ hsound.stage, hkeeps, happlies, hrunning⟩, hin, .nothing⟩

theorem Client.Sound.act {client next : Client env} {action : ClientAction env}
    {sent : List (Frame env.Sdp env.Candidate)}
    {received : List (Frame env.Sdp env.CandidateInit)}
    {message : Option (Frame env.Sdp env.Candidate)} (hsound : client.Sound sent received)
    (hact : client.act action = some (next, message)) :
    next.Sound (sent ++ message.toList) received ∧
      next.phase.inStage next.round = client.phase.inStage client.round ∧
      Emits (client.phase.inStage client.round) (client.phase.outStage client.round) message
        (next.phase.outStage next.round) := by
  have hstage := hsound.stage
  have hkeeps := hsound.keeps
  have happlies := hsound.applies
  have hrunning := hsound.running
  simp only [Client.act] at hact
  split at hact
  next offer hphase =>
    obtain ⟨rfl, rfl⟩ := Prod.mk.inj (Option.some.inj hact)
    rw [hphase] at hstage happlies ⊢
    exact ⟨⟨Stage.follow_concat _ _ hstage (Frame.advance_before.mpr ⟨offer, rfl, rfl⟩),
      (hkeeps.sendOpening _ offer).move .refl, happlies.move, trivial⟩, rfl,
      .opening _ offer rfl le_rfl⟩
  next offer hphase =>
    obtain ⟨rfl, rfl⟩ := Prod.mk.inj (Option.some.inj hact)
    rw [hphase] at happlies
    exact hsound.quiet hphase rfl rfl (hkeeps.move .refl) happlies.move trivial
  next offer hphase =>
    obtain ⟨rfl, rfl⟩ := Prod.mk.inj (Option.some.inj hact)
    rw [hphase] at happlies
    exact hsound.quiet hphase rfl rfl (hkeeps.move .setLocal) happlies.move trivial
  next answer ices hphase =>
    obtain ⟨rfl, rfl⟩ := Prod.mk.inj (Option.some.inj hact)
    rw [hphase] at happlies
    exact hsound.quiet hphase rfl rfl (hkeeps.move .setRemote) happlies.move (Eq.refl true)
  next ice ices hphase =>
    obtain ⟨rfl, rfl⟩ := Prod.mk.inj (Option.some.inj hact)
    rw [hphase] at happlies hrunning
    exact hsound.quiet hphase rfl rfl (hkeeps.move .refl) (happlies.add _ hrunning) hrunning
  next hphase =>
    obtain ⟨rfl, rfl⟩ := Prod.mk.inj (Option.some.inj hact)
    rw [hphase] at happlies hrunning
    exact hsound.quiet hphase rfl rfl (hkeeps.move .register) happlies.move
      ⟨by simp [IceLoop.Running, IceLoop.start], hrunning⟩
  next doneSending doneReceiving hphase =>
    obtain ⟨⟨ice, channel⟩, htake, hnext⟩ := Option.map_eq_some_iff.mp hact
    obtain ⟨rfl, rfl⟩ := Prod.mk.inj hnext
    rw [hphase] at hstage happlies hrunning ⊢
    obtain rfl := doneSending_of_take hstage hkeeps htake
    have hadvance : (Stage.within client.round).advance
        (Frame.part (.candidate client.round ice : Frame env.Sdp env.Candidate)) client.round =
          some (if ice.isNone then .before (client.round + 1) else .within client.round) :=
      Frame.advance_within.mpr ⟨ice, rfl, rfl⟩
    have hsent := hkeeps.sendIce htake (.iceLoop ⟨false, doneReceiving, .sending ice⟩)
    rw [Option.map_id_fun, id] at hsent
    have hout : (ClientPhase.iceLoop ⟨false, doneReceiving, .sending ice⟩ :
        ClientPhase env).outStage client.round =
          if ice.isNone then .before (client.round + 1) else .within client.round := by
      cases ice <;> rfl
    refine ⟨⟨?_, hsent, happlies.move, Eq.refl false, hrunning.2⟩, rfl, ?_⟩
    · exact Stage.follow_concat _ _ hstage (hout ▸ hadvance)
    · exact hout ▸ .event client.round ice rfl
  next doneSending doneReceiving ice hphase =>
    obtain ⟨rfl, rfl⟩ := Prod.mk.inj (Option.some.inj hact)
    rw [hphase] at happlies hrunning
    -- The stage has moved when the send began.
    obtain ⟨hout, hin, hloop⟩ := IceLoop.afterSend_stages hrunning.1 client.round
    obtain ⟨hnext, hpending⟩ := ClientPhase.proper_ofLoop hloop hrunning.2
    refine hsound.quiet hphase ?_ ?_ (hkeeps.move .refl) ?_ hnext.running
    · rw [ClientPhase.outStage_ofLoop]
      exact hout
    · rw [ClientPhase.inStage_ofLoop]
      exact hin
    · rw [hpending]
      exact happlies.move
  next doneSending doneReceiving ice hphase =>
    obtain ⟨rfl, rfl⟩ := Prod.mk.inj (Option.some.inj hact)
    rw [hphase] at happlies hrunning
    refine hsound.quiet hphase ?_ rfl (hkeeps.move .refl) (happlies.add _ hrunning.2) hrunning
    cases doneSending <;> rfl
  next hphase =>
    obtain ⟨rfl, rfl⟩ := Prod.mk.inj (Option.some.inj hact)
    rw [hphase] at hstage happlies
    have hmarker := Link.none_mem_ices_of_stageAfter hstage le_rfl
    exact hsound.quiet hphase rfl rfl (hkeeps.nextRound hmarker _) (happlies.nextRound _) trivial
  · cases hact

theorem Server.Sound.act {server next : Server env} {action : ServerAction env}
    {sent : List (Frame env.Sdp env.CandidateInit)}
    {received : List (Frame env.Sdp env.Candidate)}
    {message : Option (Frame env.Sdp env.CandidateInit)} (hsound : server.Sound sent received)
    (hact : server.act action = some (next, message)) :
    next.Sound (sent ++ message.toList) received ∧
      next.phase.inStage next.round = server.phase.inStage server.round ∧
      Emits (server.phase.inStage server.round) (server.phase.outStage server.round) message
        (next.phase.outStage next.round) := by
  have hstage := hsound.stage
  have hkeeps := hsound.keeps
  have happlies := hsound.applies
  have hrunning := hsound.running
  simp only [Server.act] at hact
  split at hact
  next offer hphase =>
    obtain ⟨rfl, rfl⟩ := Prod.mk.inj (Option.some.inj hact)
    rw [hphase] at happlies hrunning
    exact hsound.quiet hphase rfl rfl (hkeeps.move .setRemote) happlies.move
      ⟨hrunning, Eq.refl true⟩
  next answer hphase =>
    obtain ⟨rfl, rfl⟩ := Prod.mk.inj (Option.some.inj hact)
    rw [hphase] at hstage happlies hrunning ⊢
    exact ⟨⟨Stage.follow_concat _ _ hstage (Frame.advance_before.mpr ⟨answer, rfl, rfl⟩),
      (hkeeps.sendOpening _ answer).move .refl, happlies.move, hrunning⟩, rfl,
      .opening _ answer rfl (Nat.le_succ _)⟩
  next answer hphase =>
    obtain ⟨rfl, rfl⟩ := Prod.mk.inj (Option.some.inj hact)
    rw [hphase] at happlies hrunning
    exact hsound.quiet hphase rfl rfl (hkeeps.move .refl) happlies.move hrunning
  next answer hphase =>
    obtain ⟨rfl, rfl⟩ := Prod.mk.inj (Option.some.inj hact)
    rw [hphase] at happlies hrunning
    exact hsound.quiet hphase rfl rfl (hkeeps.move .setLocal) happlies.move
      ⟨hrunning.1, by simp [IceLoop.Running, IceLoop.start], hrunning.2⟩
  next doneSending doneReceiving hphase =>
    obtain ⟨⟨ice, channel⟩, htake, hnext⟩ := Option.map_eq_some_iff.mp hact
    obtain ⟨rfl, rfl⟩ := Prod.mk.inj hnext
    rw [hphase] at hstage happlies hrunning ⊢
    obtain rfl := doneSending_of_take hstage hkeeps htake
    have hadvance : (Stage.within server.round).advance
        (Frame.part (.candidate server.round (ice.map env.toJson) :
          Frame env.Sdp env.CandidateInit)) server.round =
          some (if (ice.map env.toJson).isNone then .before (server.round + 1)
            else .within server.round) :=
      Frame.advance_within.mpr ⟨ice.map env.toJson, rfl, rfl⟩
    have hout : (ServerPhase.iceLoop ⟨false, doneReceiving, .sending (ice.map env.toJson)⟩ :
        ServerPhase env).outStage server.round =
          if (ice.map env.toJson).isNone then .before (server.round + 1)
            else .within server.round := by
      cases ice <;> rfl
    refine ⟨⟨?_, hkeeps.sendIce htake _, happlies.move,
      ⟨hrunning.1, Eq.refl false, hrunning.2.2⟩⟩, rfl, ?_⟩
    · exact Stage.follow_concat _ _ hstage (hout ▸ hadvance)
    · exact hout ▸ .event server.round (ice.map env.toJson) rfl
  next doneSending doneReceiving ice hphase =>
    obtain ⟨rfl, rfl⟩ := Prod.mk.inj (Option.some.inj hact)
    rw [hphase] at happlies hrunning
    -- The stage has moved when the send began.
    obtain ⟨hout, hin, hloop⟩ := IceLoop.afterSend_stages hrunning.2.1 server.round
    obtain ⟨hnext, hpending⟩ := ServerPhase.proper_ofLoop hloop hrunning.1 hrunning.2.2
    refine hsound.quiet hphase ?_ ?_ (hkeeps.move .refl) ?_ hnext.running
    · rw [ServerPhase.outStage_ofLoop]
      exact hout
    · rw [ServerPhase.inStage_ofLoop]
      exact hin
    · rw [hpending]
      exact happlies.move
  next doneSending doneReceiving ice hphase =>
    obtain ⟨rfl, rfl⟩ := Prod.mk.inj (Option.some.inj hact)
    rw [hphase] at happlies hrunning
    refine hsound.quiet hphase ?_ rfl (hkeeps.move .refl) (happlies.add _ hrunning.2.2) hrunning
    cases doneSending <;> rfl
  next hphase =>
    obtain ⟨rfl, rfl⟩ := Prod.mk.inj (Option.some.inj hact)
    rw [hphase] at hstage happlies
    have hmarker := Link.none_mem_ices_of_stageAfter hstage le_rfl
    exact hsound.quiet hphase rfl rfl (hkeeps.nextRound hmarker _) (happlies.nextRound _) rfl
  · cases hact

/-- A message at its stage has the type that is awaited, unless it opens a round that
cannot have begun. -/
theorem ClientPhase.wire_of_advance {phase : ClientPhase env} {peer : Peer env.Candidate}
    {round : Nat} {frame : Frame env.Sdp env.CandidateInit} {later : Stage} {ty : WireType}
    (hrunning : phase.Running peer) (hexpects : phase.expects = some ty)
    (hadvance : (phase.inStage round).advance frame.part frame.round = some later) :
    (serverWire env frame).1 = ty ∨
      (phase.outStage round = .within round ∧ later = .within (round + 1)) := by
  unfold expects at hexpects
  split at hexpects
  · obtain ⟨answer, rfl, _⟩ := Frame.advance_before.mp hadvance
    exact .inl (Option.some.inj hexpects)
  next doneSending doneReceiving =>
    cases doneReceiving with
    | true =>
        obtain rfl : doneSending = false := by simpa [IceLoop.Running] using hrunning.1
        obtain ⟨answer, rfl, rfl⟩ := Frame.advance_before.mp hadvance
        exact .inr ⟨rfl, rfl⟩
    | false =>
        obtain ⟨ice, rfl, _⟩ := Frame.advance_within.mp hadvance
        exact .inl (Option.some.inj hexpects)
  · cases hexpects

theorem ServerPhase.wire_of_advance {phase : ServerPhase env} {peer : Peer env.Candidate}
    {round : Nat} {frame : Frame env.Sdp env.Candidate} {later : Stage} {ty : WireType}
    (hrunning : phase.Running peer) (hexpects : phase.expects = some ty)
    (hadvance : (phase.inStage round).advance frame.part frame.round = some later) :
    (clientWire env frame).1 = ty ∨
      (phase.outStage round = .within round ∧ later = .within (round + 1)) := by
  unfold expects at hexpects
  split at hexpects
  · obtain ⟨offer, rfl, _⟩ := Frame.advance_before.mp hadvance
    exact .inl (Option.some.inj hexpects)
  next doneSending doneReceiving =>
    cases doneReceiving with
    | true =>
        obtain rfl : doneSending = false := by simpa [IceLoop.Running] using hrunning.2.1
        obtain ⟨offer, rfl, rfl⟩ := Frame.advance_before.mp hadvance
        exact .inr ⟨rfl, rfl⟩
    | false =>
        obtain ⟨ice, rfl, _⟩ := Frame.advance_within.mp hadvance
        exact .inl (Option.some.inj hexpects)
  · cases hexpects

/-- A call that gets the next message of its stage moves the end on with the stage. -/
theorem Client.Sound.receive {client : Client env} {next : ClientPhase env}
    {sent : List (Frame env.Sdp env.Candidate)}
    {received : List (Frame env.Sdp env.CandidateInit)}
    {frame : Frame env.Sdp env.CandidateInit} {later : Stage} (hsound : client.Sound sent received)
    (hexpects : client.phase.expects = some (serverWire env frame).1)
    (hadvance : (client.phase.inStage client.round).advance frame.part frame.round = some later)
    (hreceive : client.phase.receive (Link.faithful (serverWire env) frame) = some next) :
    Client.Sound { client with phase := next } sent (received ++ [frame]) ∧
      next.outStage client.round = client.phase.outStage client.round ∧
      next.inStage client.round = later := by
  obtain ⟨hround, hout, hin, hproper, hpending⟩ :=
    ClientPhase.receive_faithful (hsound.running.proper hexpects) hexpects hadvance hreceive
  have happlies := hsound.applies.deliver hround
  rw [← hpending] at happlies
  exact ⟨⟨hout ▸ hsound.stage, hsound.keeps.move .refl, happlies.move, hproper.running⟩, hout, hin⟩

theorem Server.Sound.receive {server next : Server env}
    {sent : List (Frame env.Sdp env.CandidateInit)}
    {received : List (Frame env.Sdp env.Candidate)}
    {frame : Frame env.Sdp env.Candidate} {later : Stage} (hsound : server.Sound sent received)
    (hexpects : server.phase.expects = some (clientWire env frame).1)
    (hadvance : (server.phase.inStage server.round).advance frame.part frame.round = some later)
    (hreceive : server.receive (Link.faithful (clientWire env) frame) = some next) :
    next.Sound sent (received ++ [frame]) ∧ next.round = server.round ∧
      next.phase.outStage next.round = server.phase.outStage server.round ∧
      next.phase.inStage next.round = later := by
  obtain ⟨hround, hout, hin, hproper, hpending, hpeer, hnext⟩ :=
    Server.receive_faithful (hsound.running.proper hexpects) hexpects hadvance hreceive
  have happlies := hsound.applies.deliver hround
  rw [← hpending] at happlies
  have hkeeps : next.Conserves env.toJson sent := by
    rw [hnext]
    rcases hpeer with hpeer | ⟨hunused, hpeer⟩
    · rw [hpeer]
      exact hsound.keeps.move .refl
    · -- The peer before the offer is as fresh as the one the offer creates.
      rw [hpeer]
      apply hsound.keeps.move
      constructor <;> simp [hunused, Peer.new]
  have hsame : next.round = server.round := by rw [hnext]
  refine ⟨⟨?_, hkeeps, ?_, hproper.running⟩, hsame, ?_, ?_⟩
  · rw [hsame, hout]
    exact hsound.stage
  · rw [hnext]
    exact happlies.move
  · rw [hsame, hout]
  · rw [hsame, hin]

/-- An end that awaits a message of a round whose marker it has received is in its loop. -/
theorem ClientPhase.loop_of_straggler {phase : ClientPhase env} {round current : Nat}
    {ty : WireType} (hexpects : phase.expects = some ty)
    (hin : phase.inStage round = .before (current + 1))
    (hout : phase.outStage round = .within current) :
    phase = .iceLoop ⟨false, true, .select⟩ ∧ round = current ∧ ty = .optionRtcMessage := by
  unfold expects at hexpects
  split at hexpects
  · cases hout
    simp [inStage] at hin
  next doneSending doneReceiving =>
    cases doneSending <;> cases doneReceiving <;> cases hout <;> cases hin
    exact ⟨rfl, rfl, (Option.some.inj hexpects).symm⟩
  · cases hexpects

theorem ServerPhase.loop_of_straggler {phase : ServerPhase env} {round current : Nat}
    {ty : WireType} (hexpects : phase.expects = some ty)
    (hin : phase.inStage round = .before (current + 1))
    (hout : phase.outStage round = .within current) :
    phase = .iceLoop ⟨false, true, .select⟩ ∧ round = current ∧ ty = .optionIceCandidate := by
  unfold expects at hexpects
  split at hexpects
  · cases hout
  next doneSending doneReceiving =>
    cases doneSending <;> cases doneReceiving <;> cases hout <;> cases hin
    exact ⟨rfl, rfl, (Option.some.inj hexpects).symm⟩
  · cases hexpects

/-- A loop that has received the marker of its round takes a candidate that came late. -/
theorem Client.Sound.receive_straggler {client : Client env} {next : ClientPhase env}
    {sent : List (Frame env.Sdp env.Candidate)}
    {received : List (Frame env.Sdp env.CandidateInit)}
    {frame : Frame env.Sdp env.CandidateInit} (hsound : client.Sound sent received)
    (hphase : client.phase = .iceLoop ⟨false, true, .select⟩) (hitem : frame.part = .item)
    (hround : frame.round = client.round)
    (hreceive : client.phase.receive (Link.faithful (serverWire env) frame) = some next) :
    Client.Sound { client with phase := next } sent (received ++ [frame]) ∧
      next.outStage client.round = client.phase.outStage client.round ∧
      next.inStage client.round = client.phase.inStage client.round := by
  have hstage := hsound.stage
  have happlies := hsound.applies.deliver hround
  have hrunning := hsound.running
  rw [hphase] at hstage happlies hrunning hreceive ⊢
  match frame, hitem with
  | .candidate round (some candidate), _ =>
      obtain rfl : round = client.round := hround
      obtain rfl := Option.some.inj hreceive
      rw [Frame.ices_candidate_self] at happlies
      exact ⟨⟨hstage, hsound.keeps.move .refl, happlies.move, hrunning⟩, rfl, rfl⟩

theorem Server.Sound.receive_straggler {server next : Server env}
    {sent : List (Frame env.Sdp env.CandidateInit)}
    {received : List (Frame env.Sdp env.Candidate)}
    {frame : Frame env.Sdp env.Candidate} (hsound : server.Sound sent received)
    (hphase : server.phase = .iceLoop ⟨false, true, .select⟩) (hitem : frame.part = .item)
    (hround : frame.round = server.round)
    (hreceive : server.receive (Link.faithful (clientWire env) frame) = some next) :
    next.Sound sent (received ++ [frame]) ∧ next.round = server.round ∧
      next.phase.outStage next.round = server.phase.outStage server.round ∧
      next.phase.inStage next.round = server.phase.inStage server.round := by
  have hstage := hsound.stage
  have happlies := hsound.applies.deliver hround
  have hrunning := hsound.running
  rw [hphase] at hstage happlies hrunning ⊢
  obtain ⟨current, phase, peer, emitted, dropped, added⟩ := server
  obtain rfl : phase = .iceLoop ⟨false, true, .select⟩ := hphase
  match frame, hitem with
  | .candidate round (some candidate), _ =>
      obtain rfl : round = current := hround
      obtain rfl := Option.some.inj hreceive
      rw [Frame.ices_candidate_self] at happlies
      exact ⟨⟨hstage, hsound.keeps.move .refl, happlies.move, hrunning⟩, rfl, rfl, rfl⟩

theorem Client.Sound.emit {client next : Client env} {sent : List (Frame env.Sdp env.Candidate)}
    {received : List (Frame env.Sdp env.CandidateInit)} {ice : Option env.Candidate}
    (hsound : client.Sound sent received) (hemit : Endpoint.emit client ice = some next) :
    next.Sound sent received := by
  have hkeeps := hsound.keeps.emit hemit
  obtain ⟨_, _, _, hnext⟩ := Endpoint.emit_eq_some hemit
  rcases hnext with ⟨_, hnext⟩ | ⟨_, hnext⟩ <;>
    rw [hnext] at hkeeps ⊢ <;>
    exact ⟨hsound.stage, hkeeps, hsound.applies.move, hsound.running⟩

theorem Client.Sound.enqueue {client next : Client env}
    {sent : List (Frame env.Sdp env.Candidate)}
    {received : List (Frame env.Sdp env.CandidateInit)} (hsound : client.Sound sent received)
    (henqueue : Endpoint.enqueue client = some next) :
    next.Sound sent received := by
  have hkeeps := hsound.keeps.enqueue henqueue
  obtain ⟨channel, _, rfl⟩ := Option.map_eq_some_iff.mp henqueue
  exact ⟨hsound.stage, hkeeps, hsound.applies.move, hsound.running⟩

theorem Server.Sound.emit {server next : Server env}
    {sent : List (Frame env.Sdp env.CandidateInit)}
    {received : List (Frame env.Sdp env.Candidate)} {ice : Option env.Candidate}
    (hsound : server.Sound sent received) (hemit : Endpoint.emit server ice = some next) :
    next.Sound sent received := by
  have hkeeps := hsound.keeps.emit hemit
  obtain ⟨hgathering, _, _, hnext⟩ := Endpoint.emit_eq_some hemit
  have hused : server.peer ≠ .new := by
    intro hunused
    rw [hunused] at hgathering
    cases hgathering
  rcases hnext with ⟨_, hnext⟩ | ⟨_, hnext⟩ <;>
    rw [hnext] at hkeeps ⊢ <;>
    exact ⟨hsound.stage, hkeeps, hsound.applies.move, hsound.running.of_peer hused rfl rfl⟩

theorem Server.Sound.enqueue {server next : Server env}
    {sent : List (Frame env.Sdp env.CandidateInit)}
    {received : List (Frame env.Sdp env.Candidate)} (hsound : server.Sound sent received)
    (henqueue : Endpoint.enqueue server = some next) :
    next.Sound sent received := by
  have hkeeps := hsound.keeps.enqueue henqueue
  obtain ⟨channel, hchannel, rfl⟩ := Option.map_eq_some_iff.mp henqueue
  have hused : server.peer ≠ .new := by
    intro hunused
    rw [hunused] at hchannel
    cases hchannel
  exact ⟨hsound.stage, hkeeps, hsound.applies.move, hsound.running.of_peer hused rfl rfl⟩

/-- The flag `done_sending_ice`; it exists within the loop. -/
def ClientPhase.doneSendingIce : ClientPhase env → Bool
  | iceLoop loop => loop.doneSendingIce
  | _ => false

/-- The flag `done_receiving_ice`. -/
def ClientPhase.doneReceivingIce : ClientPhase env → Bool
  | iceLoop loop => loop.doneReceivingIce
  | _ => false

/-- The flag `done_sending_ice` of the task's loop. -/
def ServerPhase.doneSendingIce : ServerPhase env → Bool
  | iceLoop loop => loop.doneSendingIce
  | _ => false

/-- The flag `done_receiving_ice` of the task's loop. -/
def ServerPhase.doneReceivingIce : ServerPhase env → Bool
  | iceLoop loop => loop.doneReceivingIce
  | _ => false

/-- An end that awaits candidates and has not sent its marker is within its round. -/
theorem ClientPhase.outStage_of_expects {phase : ClientPhase env} {round current : Nat}
    {ty : WireType} (hexpects : phase.expects = some ty)
    (hin : phase.inStage round = .within current) (hopen : phase.doneSendingIce = false) :
    phase.outStage round = .within current := by
  unfold expects at hexpects
  split at hexpects
  · cases hin
  next doneSending doneReceiving =>
    obtain rfl : doneSending = false := hopen
    cases doneReceiving <;> cases hin
    rfl
  · cases hexpects

theorem ServerPhase.outStage_of_expects {phase : ServerPhase env} {round current : Nat}
    {ty : WireType} (hexpects : phase.expects = some ty)
    (hin : phase.inStage round = .within current) (hopen : phase.doneSendingIce = false) :
    phase.outStage round = .within current := by
  unfold expects at hexpects
  split at hexpects
  · cases hin
  next doneSending doneReceiving =>
    obtain rfl : doneSending = false := hopen
    cases doneReceiving <;> cases hin
    rfl
  · cases hexpects

/-- The marker is the event at the front of the channel. -/
theorem Client.marker_of_act {client next : Client env} {action : ClientAction env} {round : Nat}
    (hact : client.act action = some (next, some (.candidate round none))) :
    action = .takeIce ∧ client.peer.channel.slots.head? = some none ∧
      ∀ current, client.phase.inStage client.round = .before (current + 1) →
        client.phase.doneReceivingIce = true := by
  simp only [Client.act] at hact
  split at hact <;> try cases hact
  next doneSending doneReceiving hphase =>
    obtain ⟨⟨ice, channel⟩, htake, hnext⟩ := Option.map_eq_some_iff.mp hact
    obtain ⟨_, hmessage⟩ := Prod.mk.inj hnext
    obtain ⟨_, rfl⟩ := Frame.candidate.inj (Option.some.inj hmessage)
    refine ⟨rfl, by rw [(Mailbox.take_eq_some htake).1, List.head?_cons], ?_⟩
    intro current hin
    rw [hphase] at hin ⊢
    cases doneReceiving with
    | true => rfl
    | false => cases hin

theorem Server.marker_of_act {server next : Server env} {action : ServerAction env} {round : Nat}
    (hact : server.act action = some (next, some (.candidate round none))) :
    action = .takeIce ∧ server.peer.channel.slots.head? = some none ∧
      ∀ current, server.phase.inStage server.round = .before (current + 1) →
        server.phase.doneReceivingIce = true := by
  simp only [Server.act] at hact
  split at hact <;> try cases hact
  next doneSending doneReceiving hphase =>
    obtain ⟨⟨ice, channel⟩, htake, hnext⟩ := Option.map_eq_some_iff.mp hact
    obtain ⟨_, hmessage⟩ := Prod.mk.inj hnext
    obtain ⟨_, hice⟩ := Frame.candidate.inj (Option.some.inj hmessage)
    obtain rfl := Option.map_eq_none_iff.mp hice
    refine ⟨rfl, by rw [(Mailbox.take_eq_some htake).1, List.head?_cons], ?_⟩
    intro current hin
    rw [hphase] at hin ⊢
    cases doneReceiving with
    | true => rfl
    | false => cases hin

/-- What `recv_obj` at a type makes of a message. The bytes carry no tag. -/
def decodeAt (env : Environment) (ty : WireType) (message : (ty : WireType) × env.Value ty) :
    Received env.Value env.Err :=
  ⟨ty, (env.codec.deserialize ty (env.codec.serialize message.1 message.2)).mapError
    .deserializeError⟩

theorem decodeAt_self {Item : Type}
    (wire : Frame env.Sdp Item → (ty : WireType) × env.Value ty) (frame : Frame env.Sdp Item) :
    decodeAt env (wire frame).1 (wire frame) = Link.faithful wire frame := by
  rw [decodeAt, env.codec.deserialize_serialize]
  rfl

end MangleWebRTC.Upgrade
