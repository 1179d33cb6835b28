import MangleWebRTC.Upgrade.ConnectionTask
import MangleWebRTC.Upgrade.Fidelity
import Mathlib.Data.List.Infix

/-! # Lifecycle of a connection

The trace of a connection task is a list of whole rounds, each of which hands its
peer over after both end markers, and the round at hand, which an error closes
before it is reported.
-/

namespace MangleWebRTC.Upgrade

open Machine

namespace ConnectionTask

variable {env : ServerEnvironment} {clientId : String}

namespace Action

/-- The call of a callback. -/
def isCallback : Action env → Bool
  | onSuccess _ _ | onErr _ => true
  | _ => false

/-- The call of `on_success` with the peer. -/
def handsOver (peer : Nat) : Action env → Bool
  | onSuccess other _ => other == peer
  | _ => false

/-- The close of the peer. -/
def closes (peer : Nat) : Action env → Bool
  | closed other => other == peer
  | _ => false

/-- An end marker of the peer's round. -/
def IsMark (peer : Nat) (action : Action env) : Prop :=
  action = .endSent peer ∨ action = .endReceived peer

/-- A test that no end marker passes. -/
theorem filter_marks {peer : Nat} {marks : List (Action env)} (test : Action env → Bool)
    (hmarks : ∀ action ∈ marks, action.IsMark peer) (hsent : test (.endSent peer) = false)
    (hreceived : test (.endReceived peer) = false) : marks.filter test = [] := by
  rw [List.filter_eq_nil_iff]
  intro action hmem
  rcases hmarks action hmem with rfl | rfl <;> simp [hsent, hreceived]

end Action

/-- The trace of a number of whole rounds. -/
inductive Rounds (clientId : String) : Nat → List (Action env) → Prop
  | start : Rounds clientId 0 []
  | round {peer : Nat} {trace marks : List (Action env)} (prior : Rounds clientId peer trace)
      (hmarks : ∀ action ∈ marks, action.IsMark peer) (hsent : .endSent peer ∈ marks)
      (hreceived : .endReceived peer ∈ marks) :
      Rounds clientId (peer + 1) (trace ++ .created peer :: marks ++ [.onSuccess peer clientId])

namespace Rounds

variable {rounds : Nat} {trace : List (Action env)}

/-- Every whole round calls `on_success` once. -/
theorem filter_isCallback (hrounds : Rounds clientId rounds trace) :
    trace.filter Action.isCallback = (List.range rounds).map (Action.onSuccess · clientId) := by
  induction hrounds with
  | start => rfl
  | round _ hmarks _ _ ih =>
      have hnone := Action.filter_marks Action.isCallback hmarks rfl rfl
      simp [ih, hnone, List.range_succ, Action.isCallback]

theorem countP_handsOver (hrounds : Rounds clientId rounds trace) (peer : Nat) :
    trace.countP (Action.handsOver peer) = if peer < rounds then 1 else 0 := by
  induction hrounds with
  | start => rfl
  | @round current _ marks _ hmarks _ _ ih =>
      have hnone : marks.countP (Action.handsOver peer) = 0 := by
        rw [List.countP_eq_length_filter, Action.filter_marks _ hmarks rfl rfl, List.length_nil]
      simp only [List.countP_append, List.countP_cons, List.countP_nil, ih, hnone,
        Action.handsOver, beq_iff_eq]
      grind

theorem countP_closes (hrounds : Rounds clientId rounds trace) (peer : Nat) :
    trace.countP (Action.closes peer) = 0 := by
  induction hrounds with
  | start => rfl
  | @round current _ marks _ hmarks _ _ ih =>
      have hnone : marks.countP (Action.closes peer) = 0 := by
        rw [List.countP_eq_length_filter, Action.filter_marks _ hmarks rfl rfl, List.length_nil]
      simp [List.countP_append, ih, hnone, Action.closes]

theorem lt_of_created (hrounds : Rounds clientId rounds trace) {peer : Nat}
    (hmem : .created peer ∈ trace) : peer < rounds := by
  induction hrounds with
  | start => cases hmem
  | @round current trace marks _ hmarks _ _ ih =>
      simp only [List.append_assoc, List.cons_append, List.mem_append, List.mem_cons,
        List.not_mem_nil, or_false, Action.created.injEq, reduceCtorEq] at hmem
      rcases hmem with hmem | rfl | hmem
      · exact (ih hmem).trans (Nat.lt_succ_self current)
      · exact Nat.lt_succ_self peer
      · rcases hmarks _ hmem with hmark | hmark <;> cases hmark

end Rounds

/-- The actions before a hand-over contain both end markers of its round. -/
def HandsMarked (trace : List (Action env)) : Prop :=
  ∀ before peer clientId, before ++ [.onSuccess peer clientId] <+: trace →
    .endSent peer ∈ before ∧ .endReceived peer ∈ before

theorem HandsMarked.concat {trace : List (Action env)} {action : Action env}
    (hmarked : HandsMarked trace)
    (hmarks : ∀ peer clientId, action = .onSuccess peer clientId →
      .endSent peer ∈ trace ∧ .endReceived peer ∈ trace) : HandsMarked (trace ++ [action]) := by
  intro before peer clientId hprefix
  rcases List.prefix_concat_iff.mp hprefix with heq | hprior
  · obtain ⟨rfl, hsame⟩ := List.append_inj' heq rfl
    exact hmarks peer clientId (List.singleton_inj.mp hsame).symm
  · exact hmarked before peer clientId hprior

theorem HandsMarked.append {trace more : List (Action env)} (hmarked : HandsMarked trace)
    (hmore : ∀ peer clientId, .onSuccess peer clientId ∉ more) :
    HandsMarked (trace ++ more) := by
  induction more using List.reverseRecOn with
  | nil => rwa [List.append_nil]
  | append_singleton more action ih =>
      rw [← List.append_assoc]
      apply (ih fun peer clientId hmem => hmore peer clientId
        (List.mem_append_left _ hmem)).concat
      rintro peer clientId rfl
      exact absurd (List.mem_append_right _ List.mem_cons_self) (hmore peer clientId)

theorem Rounds.handsMarked {rounds : Nat} {trace : List (Action env)}
    (hrounds : Rounds clientId rounds trace) : HandsMarked trace := by
  induction hrounds with
  | start =>
      intro before peer clientId hprefix
      simp at hprefix
  | @round current trace marks _ hmarks hsent hreceived ih =>
      apply HandsMarked.concat
      · apply ih.append
        intro peer clientId hmem
        rcases List.mem_cons.mp hmem with hopen | hmem
        · cases hopen
        · rcases hmarks _ hmem with hmark | hmark <;> cases hmark
      · intro peer clientId hsame
        obtain ⟨rfl, _⟩ := Action.onSuccess.inj hsame
        exact ⟨List.mem_append_right _ (List.mem_cons_of_mem _ hsent),
          List.mem_append_right _ (List.mem_cons_of_mem _ hreceived)⟩

/-- The trace ends in the round of a peer that is neither handed over nor closed. -/
structure OpenRound (clientId : String) (task : ConnectionTask env) (peer : Nat)
    (marks : List (Action env)) : Prop where
  peers : task.peers = peer + 1
  trace : ∃ done, Rounds clientId peer done ∧ task.trace = done ++ .created peer :: marks
  marks : ∀ action ∈ marks, action.IsMark peer

/-- The flags of the loop stand for markers of its own round. -/
structure Flagged (peer : Nat) (loop : Loop env) (marks : List (Action env)) : Prop where
  sent : loop.doneSendingIce = true → .endSent peer ∈ marks
  received : loop.doneReceivingIce = true → .endReceived peer ∈ marks

/-- The trace of a task that has reported an error: the peer at hand, if any, has been
closed before. -/
inductive Reported (clientId : String) (task : ConnectionTask env) : Prop
  | between {done : List (Action env)} (error : ServerError env)
      (hrounds : Rounds clientId task.peers done)
      (htrace : task.trace = done ++ [.onErr error])
  | inRound {peer : Nat} {done marks : List (Action env)} (error : ServerError env)
      (hpeers : task.peers = peer + 1) (hrounds : Rounds clientId peer done)
      (hmarks : ∀ action ∈ marks, action.IsMark peer)
      (htrace : task.trace = done ++ .created peer :: marks ++ [.closed peer] ++ [.onErr error])

/-- What the trace is at every await. -/
def Shape (clientId : String) (task : ConnectionTask env) : Prop :=
  match task.phase with
  | .awaitingOffer | .creatingPeer _ | .succeeding _ => Rounds clientId task.peers task.trace
  | .inRound peer point => ∃ marks, OpenRound clientId task peer marks ∧
      ∀ loop, point = .iceLoop loop → Flagged peer loop marks
  | .reporting _ | .ended => Reported clientId task
  | .panicked | .aborted => False

section Steps

variable {task : ConnectionTask env} {peer : Nat} {marks : List (Action env)}

theorem OpenRound.record (hround : OpenRound clientId task peer marks) {action : Action env}
    (hmark : action.IsMark peer) :
    OpenRound clientId (task.record action) peer (marks ++ [action]) where
  peers := hround.peers
  trace := by
    obtain ⟨done, hdone, htrace⟩ := hround.trace
    exact ⟨done, hdone, by simp [ConnectionTask.record, htrace]⟩
  marks other hmem := by
    rcases List.mem_append.mp hmem with hmem | hmem
    · exact hround.marks other hmem
    · rwa [List.mem_singleton.mp hmem]

theorem OpenRound.goto (hround : OpenRound clientId task peer marks) (point : RoundPoint env)
    (hflags : ∀ loop, point = .iceLoop loop → Flagged peer loop marks) :
    (task.goto peer point).Shape clientId :=
  ⟨marks, ⟨hround.peers, hround.trace, hround.marks⟩, hflags⟩

theorem OpenRound.returning (hround : OpenRound clientId task peer marks)
    (error : ServerError env) : (task.returning peer error).Shape clientId :=
  hround.goto _ fun _ hloop => by cases hloop

theorem OpenRound.webrtcUnwrap (hround : OpenRound clientId task peer marks) {Val : Type}
    (result : Except env.WebRTCError Val) (next : Val → RoundPoint env)
    (hflags : ∀ value loop, next value = .iceLoop loop → Flagged peer loop marks) :
    (task.webrtcUnwrap peer result next).Shape clientId := by
  cases result with
  | ok value => exact hround.goto _ (hflags value)
  | error error => exact hround.returning _

/-- The loop goes on with its flags, and its `break` is taken with both markers. -/
def Follows (peer : Nat) (marks : List (Action env)) : Option (Loop env) → Prop
  | some loop => Flagged peer loop marks
  | none => .endSent peer ∈ marks ∧ .endReceived peer ∈ marks

theorem OpenRound.afterLoop (hround : OpenRound clientId task peer marks)
    (after : Option (Loop env)) (hfollows : Follows peer marks after) :
    (task.afterLoop clientId peer after).Shape clientId := by
  cases after with
  | some loop =>
      refine hround.goto _ fun other hloop => ?_
      obtain rfl := RoundPoint.iceLoop.inj hloop
      exact hfollows
  | none =>
      obtain ⟨hsent, hreceived⟩ := hfollows
      obtain ⟨done, hdone, htrace⟩ := hround.trace
      have hwhole := hdone.round hround.marks hsent hreceived
      rw [← hround.peers, ← htrace] at hwhole
      exact hwhole

theorem Flagged.mono {loop : Loop env} {more : List (Action env)}
    (hflags : Flagged peer loop marks) (hsubset : marks ⊆ more) : Flagged peer loop more :=
  ⟨fun hsent => hsubset (hflags.sent hsent), fun hreceived => hsubset (hflags.received hreceived)⟩

theorem Flagged.afterEnd {loop : Loop env} (hflags : Flagged peer loop marks)
    (hmark : .endReceived peer ∈ marks) : Follows peer marks loop.afterEnd := by
  unfold IceLoop.afterEnd
  split
  next hsent => exact ⟨hflags.sent hsent, hmark⟩
  · exact ⟨hflags.sent, fun _ => hmark⟩

theorem Flagged.afterSend {loop : Loop env} (hflags : Flagged peer loop marks)
    (ice : Option env.CandidateInit) (hmark : ice = none → .endSent peer ∈ marks) :
    Follows peer marks (loop.afterSend ice) := by
  cases ice with
  | some candidate => exact ⟨hflags.sent, hflags.received⟩
  | none =>
      by_cases hreceived : loop.doneReceivingIce = true
      · rw [IceLoop.afterSend, if_pos hreceived]
        exact ⟨hmark rfl, hflags.received hreceived⟩
      · rw [IceLoop.afterSend, if_neg hreceived]
        exact ⟨fun _ => hmark rfl, hflags.received⟩

theorem OpenRound.receiveIce (hround : OpenRound clientId task peer marks) {loop : Loop env}
    (hflags : Flagged peer loop marks)
    (result : Except (RecvError env.Err) (Option (Except env.WebRTCError env.CandidateInit))) :
    (task.receiveIce clientId peer loop result).Shape clientId := by
  match result with
  | .error error => exact hround.returning _
  | .ok (some candidate) =>
      apply hround.webrtcUnwrap
      rintro init other hloop
      obtain rfl := RoundPoint.iceLoop.inj hloop
      exact ⟨hflags.sent, hflags.received⟩
  | .ok none =>
      have hkept := hflags.mono (List.subset_append_left marks [.endReceived peer])
      have hmark := List.mem_append_right marks (@List.mem_cons_self _ (.endReceived peer) [])
      exact (hround.record (.inr rfl)).afterLoop _ (hkept.afterEnd hmark)

theorem OpenRound.sendIce (hround : OpenRound clientId task peer marks) {loop : Loop env}
    (hflags : Flagged peer loop marks) (ice : Option env.CandidateInit)
    (result : Except IoError Unit) :
    (task.sendIce clientId peer loop ice result).Shape clientId := by
  cases result with
  | error error => exact hround.returning _
  | ok =>
      cases ice with
      | some candidate =>
          exact hround.afterLoop _ (hflags.afterSend (some candidate) fun hnone => by cases hnone)
      | none =>
          have hkept := hflags.mono (List.subset_append_left marks [.endSent peer])
          have hmark := List.mem_append_right marks (@List.mem_cons_self _ (.endSent peer) [])
          exact (hround.record (.inl rfl)).afterLoop _ (hkept.afterSend none fun _ => hmark)

/-- Between rounds there is no peer to close. -/
theorem Shape.report (hrounds : Rounds clientId task.peers task.trace) (error : ServerError env) :
    (task.report error).Shape clientId :=
  .between error hrounds rfl

/-- The peer at hand is closed before the report. -/
theorem OpenRound.report (hround : OpenRound clientId task peer marks) (error : ServerError env) :
    ((task.record (.closed peer)).report error).Shape clientId := by
  obtain ⟨done, hdone, htrace⟩ := hround.trace
  refine Reported.inRound error hround.peers hdone hround.marks ?_
  simp [ConnectionTask.report, ConnectionTask.record, htrace]

theorem Shape.created (hrounds : Rounds clientId task.peers task.trace) (offer : env.Sdp) :
    Shape clientId { (task.record (.created task.peers)).goto task.peers (.settingRemote offer) with
      peers := task.peers + 1 } :=
  ⟨[], ⟨rfl, ⟨task.trace, hrounds, rfl⟩, by simp⟩, fun _ hloop => by cases hloop⟩

end Steps

/-- At an await of a round its trace is open. -/
theorem Shape.openRound {task : ConnectionTask env} {peer : Nat} {point : RoundPoint env}
    (hshape : task.Shape clientId) (hphase : task.phase = .inRound peer point) :
    ∃ marks, OpenRound clientId task peer marks ∧
      ∀ loop, point = .iceLoop loop → Flagged peer loop marks := by
  rwa [Shape, hphase] at hshape

theorem Shape.step {task next : ConnectionTask env} {event : Event env}
    (hshape : task.Shape clientId) (hevent : event.Ordinary)
    (hstep : task.step clientId event = some next) : next.Shape clientId := by
  have hinRound : ∀ {peer : Nat} {point : RoundPoint env} {after : ConnectionTask env},
      task.phase = .inRound peer point → some after = some next →
      (∀ marks, OpenRound clientId task peer marks →
        (∀ loop, point = .iceLoop loop → Flagged peer loop marks) → after.Shape clientId) →
      next.Shape clientId := by
    intro peer point after hphase hnext hafter
    obtain ⟨marks, hround, hflags⟩ := hshape.openRound hphase
    exact Option.some.inj hnext ▸ hafter marks hround hflags
  unfold ConnectionTask.step at hstep
  split at hstep
  next offer hphase =>
    simp only [Shape, hphase] at hshape
    exact Option.some.inj hstep ▸ hshape
  next error hphase =>
    simp only [Shape, hphase] at hshape
    exact Option.some.inj hstep ▸ Shape.report hshape _
  next offer hphase =>
    simp only [Shape, hphase] at hshape
    exact Option.some.inj hstep ▸ Shape.created hshape offer
  next offer error hphase =>
    simp only [Shape, hphase] at hshape
    exact Option.some.inj hstep ▸ Shape.report hshape _
  next peer offer result hphase =>
    refine hinRound hphase hstep fun marks hround _ => hround.webrtcUnwrap _ _ ?_
    intro _ loop hloop
    cases hloop
  next peer result hphase =>
    refine hinRound hphase hstep fun marks hround _ => hround.webrtcUnwrap _ _ ?_
    intro _ loop hloop
    cases hloop
  next peer answer hphase =>
    refine hinRound hphase hstep fun marks hround _ => hround.goto _ ?_
    intro loop hloop
    cases hloop
  next peer answer error hphase =>
    exact hinRound hphase hstep fun marks hround _ => hround.returning _
  next peer answer result hphase =>
    -- The flags are fresh in every round.
    refine hinRound hphase hstep fun marks hround _ => hround.webrtcUnwrap _ _ ?_
    intro _ loop hloop
    obtain rfl := RoundPoint.iceLoop.inj hloop
    constructor <;> intro hflag <;> cases hflag
  next peer sending receiving hphase =>
    refine hinRound hphase hstep fun marks hround hflags => hround.goto _ ?_
    intro loop hloop
    obtain rfl := RoundPoint.iceLoop.inj hloop
    exact ⟨(hflags _ rfl).sent, (hflags _ rfl).received⟩
  next peer sending receiving candidate hphase =>
    refine hinRound hphase hstep fun marks hround hflags => hround.webrtcUnwrap _ _ ?_
    intro _ loop hloop
    obtain rfl := RoundPoint.iceLoop.inj hloop
    exact ⟨(hflags _ rfl).sent, (hflags _ rfl).received⟩
  next peer sending receiving ice result hphase =>
    exact hinRound hphase hstep fun marks hround hflags => hround.sendIce (hflags _ rfl) ice result
  next peer sending receiving result hphase =>
    exact hinRound hphase hstep fun marks hround hflags => hround.receiveIce (hflags _ rfl) result
  next peer sending receiving candidate result hphase =>
    refine hinRound hphase hstep fun marks hround hflags => hround.webrtcUnwrap _ _ ?_
    intro _ loop hloop
    obtain rfl := RoundPoint.iceLoop.inj hloop
    exact ⟨(hflags _ rfl).sent, (hflags _ rfl).received⟩
  next peer error hphase =>
    exact hinRound hphase hstep fun marks hround _ => hround.report error
  next peer hphase =>
    simp only [Shape, hphase] at hshape
    exact Option.some.inj hstep ▸ hshape
  next error hphase =>
    simp only [Shape, hphase] at hshape
    obtain rfl := Option.some.inj hstep
    cases hshape with
    | between error hrounds htrace => exact .between error hrounds htrace
    | inRound error hpeers hrounds hmarks htrace =>
      exact .inRound error hpeers hrounds hmarks htrace
  · cases hevent
  · cases hevent
  · cases hstep

/-- The peer that the task owns. -/
def Phase.owns : Phase env → Option Nat
  | inRound peer _ => some peer
  | _ => none

/-- The task has called `on_err`. -/
def Phase.reported : Phase env → Bool
  | reporting _ | ended => true
  | _ => false

/-- The callbacks called are calls of `on_success`. -/
def OnlySuccesses (clientId : String) (trace : List (Action env)) : Prop :=
  ∃ peers : List Nat, trace.filter Action.isCallback = peers.map (Action.onSuccess · clientId)

/-- How often the task has given a peer to `on_success`, and closed it. -/
def Settled (trace : List (Action env)) (peer handed closed : Nat) : Prop :=
  trace.countP (Action.handsOver peer) = handed ∧ trace.countP (Action.closes peer) = closed

/-- Callbacks, peers and end markers of a connection task. As long as it goes on, it calls
nothing but `on_success`, and hands over every peer but its own. With an error the trace
ends in the only call of `on_err`, and before it every peer is handed over once and not
closed, or closed once and not handed over. -/
structure Lifecycle (clientId : String) (task : ConnectionTask env) : Prop where
  running : task.phase.reported = false → OnlySuccesses clientId task.trace ∧
    ∀ peer, .created peer ∈ task.trace →
      Settled task.trace peer 1 0 ∨ some peer = task.phase.owns ∧ Settled task.trace peer 0 0
  reported : task.phase.reported = true → ∃ before error,
    task.trace = before ++ [.onErr error] ∧ OnlySuccesses clientId before ∧
    ∀ peer, .created peer ∈ before → Settled before peer 1 0 ∨ Settled before peer 0 1
  handsMarked : HandsMarked task.trace

section Traces

variable {done marks : List (Action env)} {peer : Nat}

theorem Rounds.onlySuccesses {rounds : Nat} (hrounds : Rounds clientId rounds done) :
    OnlySuccesses clientId done :=
  ⟨List.range rounds, hrounds.filter_isCallback⟩

theorem Rounds.settled {rounds : Nat} (hrounds : Rounds clientId rounds done)
    (hmem : .created peer ∈ done) : Settled done peer 1 0 := by
  refine ⟨?_, hrounds.countP_closes peer⟩
  rw [hrounds.countP_handsOver, if_pos (hrounds.lt_of_created hmem)]

theorem Rounds.unsettled {rounds : Nat} (hrounds : Rounds clientId rounds done)
    (hle : rounds ≤ peer) : Settled done peer 0 0 := by
  refine ⟨?_, hrounds.countP_closes peer⟩
  rw [hrounds.countP_handsOver, if_neg (Nat.not_lt.mpr hle)]

/-- The open round calls no callback, and neither closes nor hands over a peer. -/
theorem filter_openRound (test : Action env → Bool)
    (hmarks : ∀ action ∈ marks, action.IsMark peer) (hcreated : test (.created peer) = false)
    (hsent : test (.endSent peer) = false) (hreceived : test (.endReceived peer) = false) :
    (done ++ .created peer :: marks).filter test = done.filter test := by
  simp [hcreated, Action.filter_marks test hmarks hsent hreceived]

theorem settled_openRound (hmarks : ∀ action ∈ marks, action.IsMark peer)
    (other handed closed : Nat) :
    Settled (done ++ .created peer :: marks) other handed closed ↔
      Settled done other handed closed := by
  simp only [Settled, List.countP_eq_length_filter]
  rw [filter_openRound _ hmarks rfl rfl rfl, filter_openRound _ hmarks rfl rfl rfl]

theorem created_openRound (hmarks : ∀ action ∈ marks, action.IsMark peer) {other : Nat}
    (hmem : .created other ∈ done ++ .created peer :: marks) :
    .created other ∈ done ∨ other = peer := by
  rcases List.mem_append.mp hmem with hmem | hmem
  · exact .inl hmem
  rcases List.mem_cons.mp hmem with hsame | hmem
  · exact .inr (Action.created.inj hsame)
  · rcases hmarks _ hmem with hmark | hmark <;> cases hmark

theorem handsMarked_openRound (hrounds : Rounds clientId peer done)
    (hmarks : ∀ action ∈ marks, action.IsMark peer) :
    HandsMarked (done ++ .created peer :: marks) := by
  apply hrounds.handsMarked.append
  intro other clientId hmem
  rcases List.mem_cons.mp hmem with hsame | hmem
  · cases hsame
  · rcases hmarks _ hmem with hmark | hmark <;> cases hmark

/-- The close of the peer at hand. -/
theorem settled_closed (hrounds : Rounds clientId peer done)
    (hmarks : ∀ action ∈ marks, action.IsMark peer) {other : Nat}
    (hmem : .created other ∈ done ++ .created peer :: marks) :
    Settled (done ++ .created peer :: marks ++ [.closed peer]) other 1 0 ∨
      Settled (done ++ .created peer :: marks ++ [.closed peer]) other 0 1 := by
  rcases created_openRound hmarks hmem with hmem | rfl
  · have hlt := hrounds.lt_of_created hmem
    obtain ⟨hhanded, hclosed⟩ := (settled_openRound hmarks other 1 0).mpr (hrounds.settled hmem)
    refine .inl ⟨?_, ?_⟩
    · rw [List.countP_append, hhanded]
      rfl
    · rw [List.countP_append, hclosed]
      simp [Action.closes, hlt.ne']
  · obtain ⟨hhanded, hclosed⟩ :=
      (settled_openRound hmarks other 0 0).mpr (hrounds.unsettled le_rfl)
    refine .inr ⟨?_, ?_⟩
    · rw [List.countP_append, hhanded]
      rfl
    · rw [List.countP_append, hclosed]
      simp [Action.closes]

end Traces

section Lifecycle

variable {task : ConnectionTask env}

theorem Lifecycle.between (hrounds : Rounds clientId task.peers task.trace)
    (hreported : task.phase.reported = false) : task.Lifecycle clientId where
  running _ := ⟨hrounds.onlySuccesses, fun peer hmem => .inl (hrounds.settled hmem)⟩
  reported htrue := by rw [hreported] at htrue; cases htrue
  handsMarked := hrounds.handsMarked

theorem Lifecycle.inRound {peer : Nat} {marks : List (Action env)}
    (hround : OpenRound clientId task peer marks) (howns : task.phase.owns = some peer)
    (hreported : task.phase.reported = false) : task.Lifecycle clientId := by
  obtain ⟨done, hdone, htrace⟩ := hround.trace
  refine ⟨fun _ => ⟨⟨List.range peer, ?_⟩, fun other hmem => ?_⟩, fun htrue => ?_, ?_⟩
  · rw [htrace, filter_openRound _ hround.marks rfl rfl rfl, hdone.filter_isCallback]
  · rw [htrace] at hmem ⊢
    rcases created_openRound hround.marks hmem with hmem | rfl
    · exact .inl ((settled_openRound hround.marks other 1 0).mpr (hdone.settled hmem))
    · exact .inr ⟨howns.symm,
        (settled_openRound hround.marks other 0 0).mpr (hdone.unsettled le_rfl)⟩
  · rw [hreported] at htrue
    cases htrue
  · rw [htrace]
    exact handsMarked_openRound hdone hround.marks

theorem Reported.lifecycle (hstopped : task.Reported clientId)
    (hreported : task.phase.reported = true) : task.Lifecycle clientId := by
  have hrunning : task.phase.reported ≠ false := by simp [hreported]
  cases hstopped with
  | @between done error hrounds htrace =>
      refine ⟨fun hfalse => absurd hfalse hrunning, fun _ => ?_, ?_⟩
      · exact ⟨done, error, htrace, hrounds.onlySuccesses,
          fun peer hmem => .inl (hrounds.settled hmem)⟩
      · rw [htrace]
        exact hrounds.handsMarked.concat fun peer clientId hsame => by cases hsame
  | @inRound peer done marks error _ hrounds hmarks htrace =>
      refine ⟨fun hfalse => absurd hfalse hrunning, fun _ => ?_, ?_⟩
      · refine ⟨_, error, htrace, ⟨List.range peer, ?_⟩, fun other hmem => ?_⟩
        · rw [List.filter_append, filter_openRound _ hmarks rfl rfl rfl,
            hrounds.filter_isCallback]
          exact List.append_nil _
        · apply settled_closed hrounds hmarks
          simpa using hmem
      · rw [htrace]
        apply HandsMarked.concat _ fun peer clientId hsame => by cases hsame
        apply HandsMarked.concat _ fun peer clientId hsame => by cases hsame
        exact handsMarked_openRound hrounds hmarks

theorem Shape.lifecycle (hshape : task.Shape clientId) : task.Lifecycle clientId := by
  cases hphase : task.phase with
  | awaitingOffer | creatingPeer | succeeding =>
      simp only [Shape, hphase] at hshape
      exact .between hshape (by rw [hphase]; rfl)
  | inRound peer point =>
      obtain ⟨marks, hround, _⟩ := hshape.openRound hphase
      exact .inRound hround (by rw [hphase]; rfl) (by rw [hphase]; rfl)
  | reporting | ended =>
      simp only [Shape, hphase] at hshape
      exact hshape.lifecycle (by rw [hphase]; rfl)
  | panicked | aborted =>
      simp only [Shape, hphase] at hshape

end Lifecycle

end ConnectionTask

/-- Over every sequence of rounds and every placement of failures, a connection task that
is not aborted and whose calls do not panic keeps its lifecycle. -/
theorem connection_lifecycle {env : ServerEnvironment} {clientId : String}
    {task : ConnectionTask env}
    (hreach : (connectionSystem env clientId).ReachableIf (fun _ event => event.Ordinary) task) :
    task.Lifecycle clientId := by
  apply ConnectionTask.Shape.lifecycle
  apply hreach.invariant (ConnectionTask.Shape clientId)
  · rintro start rfl
    exact .start
  · intro state event next hshape hevent hstep
    exact hshape.step hevent hstep

/-- One-byte messages, with errors that say nothing. -/
abbrev byteServer : ServerEnvironment where
  toEnvironment := byteEnvironment
  AcceptError := Unit
  WebRTCError := Unit

/-- A round whose end markers cross, and one whose remote description is refused. -/
def secondRoundFails : List (ConnectionTask.Event byteServer) :=
  [.receivedOffer (.ok 1), .createdPeer (.ok ()), .setRemote (.ok ()), .createdAnswer (.ok 2),
    .sentAnswer (.ok ()), .setLocal (.ok ()), .tookIce none, .sentIce (.ok ()),
    .receivedIce (.ok none), .onSuccessReturned, .receivedOffer (.ok 3), .createdPeer (.ok ()),
    .setRemote (.error ()), .closedPeer, .onErrReturned]

theorem connection_lifecycle_second_round :
    ∃ task, (connectionSystem byteServer "peer").run .start secondRoundFails = some task ∧
      task.phase.reported = true ∧ task.trace.length = 7 ∧ task.Lifecycle "peer" := by
  obtain ⟨task, hrun, htest⟩ := (connectionSystem byteServer "peer").exists_run_of_any .start
    secondRoundFails (fun task => task.phase.reported = true ∧ task.trace.length = 7)
    (by decide +kernel)
  obtain ⟨hreported, hlength⟩ := of_decide_eq_true htest
  refine ⟨task, hrun, hreported, hlength, connection_lifecycle ⟨.start, rfl, .of_run ?_ hrun⟩⟩
  apply TransitionSystem.guarded_of_check
  decide +kernel

end MangleWebRTC.Upgrade
