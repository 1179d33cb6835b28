import MangleWebRTC.Upgrade.Link

/-! # Rounds on a link

A link between a sender and a receiver that are both somewhere in the rounds.
The log of sent frames leads to the sender's stage and its delivered part to the
receiver's, so the undelivered frames lead from the one to the other.
-/

namespace MangleWebRTC.Upgrade

open Machine

namespace Link

variable {env : Environment} {Item : Type}

/-- Frames that completed calls have returned, oldest first. -/
def delivered (link : Link env Item) : List (Frame env.Sdp Item) :=
  link.sent.take link.received.length

theorem delivered_append_undelivered (link : Link env Item) :
    link.delivered ++ link.undelivered = link.sent := List.take_append_drop _ _

/-- The stage after a sequence of frames of a connection. -/
def stageAfter (frames : List (Frame env.Sdp Item)) : Option Stage :=
  Stage.follow Frame.part Frame.round (.before 0) frames

/-- A coherent link whose sender stands at `out` and whose receiver at `inn`. -/
structure Carries (wire : Frame env.Sdp Item → (ty : WireType) × env.Value ty)
    (link : Link env Item) (out inn : Stage) : Prop extends link.Coherent wire where
  sentStage : stageAfter link.sent = some out
  deliveredStage : stageAfter link.delivered = some inn

/-- A call in flight is one at the expected type. -/
def CallAt (link : Link env Item) (expected : Option WireType) : Prop :=
  ∀ phase ty, link.receiver.call = some (phase, ty) → expected = some ty

theorem callAt_of_call_none {link : Link env Item} {expected : Option WireType}
    (hcall : link.receiver.call = none) : link.CallAt expected := by
  intro phase ty hinflight
  simp [hcall] at hinflight

/-- Where no call is expected none is in flight. -/
theorem CallAt.of_none {link : Link env Item} (hcall : link.CallAt none)
    (expected : Option WireType) : link.CallAt expected :=
  fun phase ty hinflight => absurd (hcall phase ty hinflight) (Option.some_ne_none ty).symm

variable {wire : Frame env.Sdp Item → (ty : WireType) × env.Value ty}

theorem carries_empty : (empty : Link env Item).Carries wire (.before 0) (.before 0) where
  toCoherent := coherent_empty
  sentStage := rfl
  deliveredStage := rfl

/-- The frames in between lead from the receiver's stage to the sender's. -/
theorem Carries.path {link : Link env Item} {out inn : Stage} (hlink : link.Carries wire out inn) :
    Stage.follow Frame.part Frame.round inn link.undelivered = some out := by
  have hsent := hlink.sentStage
  rw [← delivered_append_undelivered, stageAfter, Stage.follow_append] at hsent
  rw [← hsent, ← stageAfter, hlink.deliveredStage]
  rfl

theorem Carries.beginSend {link next : Link env Item} {out inn later : Stage}
    {frame : Frame env.Sdp Item} (hlink : link.Carries wire out inn)
    (hsend : link.beginSend wire frame = some next)
    (hadvance : out.advance frame.part frame.round = some later) :
    next.Carries wire later inn := by
  have hcoherent := hlink.toCoherent.beginSend hsend
  obtain ⟨_, rfl⟩ := beginSend_eq_some hsend
  refine ⟨hcoherent, Stage.follow_concat _ _ hlink.sentStage hadvance, ?_⟩
  rw [delivered, List.take_append_of_le_length hlink.count]
  exact hlink.deliveredStage

theorem Carries.write {link next : Link env Item} {out inn : Stage} {capacity : Option Nat}
    {count : Nat} (hlink : link.Carries wire out inn)
    (hwrite : link.write capacity count = some next) : next.Carries wire out inn := by
  have hcoherent := hlink.toCoherent.write hwrite
  obtain rfl := write_eq_some hwrite
  exact ⟨hcoherent, hlink.sentStage, hlink.deliveredStage⟩

theorem Carries.dropCall {link : Link env Item} {out inn : Stage}
    (hlink : link.Carries wire out inn) : link.dropCall.Carries wire out inn :=
  ⟨hlink.toCoherent.dropCall, hlink.sentStage, hlink.deliveredStage⟩

theorem callAt_write {link next : Link env Item} {capacity : Option Nat} {count : Nat}
    {expected : Option WireType} (hcall : link.CallAt expected)
    (hwrite : link.write capacity count = some next) : next.CallAt expected := by
  obtain rfl := write_eq_some hwrite
  exact hcall

theorem callAt_beginSend {link next : Link env Item} {frame : Frame env.Sdp Item}
    {expected : Option WireType} (hcall : link.CallAt expected)
    (hsend : link.beginSend wire frame = some next) : next.CallAt expected := by
  obtain ⟨_, rfl⟩ := beginSend_eq_some hsend
  exact hcall

theorem callAt_recv {link next : Link env Item} {ty : WireType} {action : RecvAction}
    {result : Option (Received env.Value env.Err)} (hcall : link.CallAt (some ty))
    (hrecv : link.recv ty action = some (next, result)) : next.CallAt (some ty) := by
  obtain ⟨⟨receiver, output⟩, hstep, hnext⟩ := Option.map_eq_some_iff.mp hrecv
  intro phase current hinflight
  have hreceiver : next.receiver = receiver := by
    cases output <;> exact ((Prod.mk.inj hnext).1 ▸ rfl)
  rw [hreceiver] at hinflight
  rcases Receiver.step_call env.codec.deserialize hstep hinflight with hevent | ⟨earlier, hbefore⟩
  · cases action <;> simp [RecvAction.event] at hevent
    rw [hevent]
  · exact hcall earlier current hbefore

/-- A step of a call at the right type: nothing is delivered, or the next frame
is, with its value, and the receiver moves on. -/
theorem Carries.recv {link next : Link env Item} {out inn : Stage} {ty : WireType}
    {action : RecvAction} {result : Option (Received env.Value env.Err)}
    (hlink : link.Carries wire out inn) (hcall : link.CallAt (some ty))
    (hmatch : ∀ frame ∈ link.undelivered.head?, (wire frame).1 = ty)
    (hrecv : link.recv ty action = some (next, result)) :
    next.sent = link.sent ∧
      ((result = none ∧ next.Carries wire out inn ∧ next.delivered = link.delivered) ∨
       ∃ frame later, (wire frame).1 = ty ∧
        inn.advance frame.part frame.round = some later ∧
        result = some (Link.faithful wire frame) ∧ next.receiver.call = none ∧
        next.Carries wire out later ∧ next.delivered = link.delivered ++ [frame]) := by
  have hmatches : link.CallMatches wire := by
    intro phase current hinflight frame hframe
    rw [hmatch frame hframe]
    exact Option.some.inj (hcall phase current hinflight)
  obtain ⟨hcoherent, hsent, _, heffect⟩ := hlink.toCoherent.recv hmatches hrecv
  refine ⟨hsent, ?_⟩
  rcases heffect with ⟨hresult, hreceived⟩ |
    ⟨frame, rest, phase, hundelivered, _, hidle, hresult, hreceived⟩
  · have hdelivered : next.delivered = link.delivered := by
      simp only [delivered, hsent, hreceived]
    exact .inl ⟨hresult, ⟨hcoherent, hsent ▸ hlink.sentStage, hdelivered ▸ hlink.deliveredStage⟩,
      hdelivered⟩
  · have hdelivered : next.delivered = link.delivered ++ [frame] := by
      have hget : link.sent[link.received.length]? = some frame := by
        rw [← List.head?_drop, ← undelivered, hundelivered]
        rfl
      simp only [delivered, hsent, hreceived, List.length_append, List.length_singleton,
        List.take_add_one, hget, Option.toList_some]
    have hpath := hlink.path
    rw [hundelivered] at hpath
    obtain ⟨later, hadvance, _⟩ := (Stage.follow_cons_eq_some _ _).mp hpath
    refine .inr ⟨frame, later, hmatch frame (by simp [hundelivered]), hadvance, hresult, hidle,
      ⟨hcoherent, hsent ▸ hlink.sentStage, ?_⟩, hdelivered⟩
    rw [hdelivered]
    exact Stage.follow_concat _ _ hlink.deliveredStage hadvance

/-- What is in between is no earlier than what the receiver has left. -/
theorem Carries.round_of_undelivered {link : Link env Item} {out inn : Stage}
    (hlink : link.Carries wire out inn) {round : Nat}
    (hleft : (Stage.before round).rank ≤ inn.rank) :
    ∀ frame ∈ link.undelivered, round ≤ frame.round :=
  Stage.le_round_of_follow hlink.path hleft

/-- A receiver that waits before a round the sender has not begun has everything. -/
theorem Carries.undelivered_eq_nil {link : Link env Item} {out : Stage} {round : Nat}
    (hlink : link.Carries wire out (.before round))
    (hbehind : out.rank ≤ (Stage.before round).rank) : link.undelivered = [] :=
  Stage.eq_nil_of_follow_before hlink.path hbehind

/-- The frames up to the end of a round contain its end marker. -/
theorem none_mem_ices_of_stageAfter {frames : List (Frame env.Sdp Item)} {stage : Stage}
    {round : Nat} (hstage : stageAfter frames = some stage)
    (hleft : (Stage.before (round + 1)).rank ≤ stage.rank) : none ∈ Frame.ices round frames := by
  apply Frame.none_mem_ices.mpr
  apply Stage.exists_closing_of_follow hstage _ hleft
  simp [Stage.rank]

/-- After the end of a round its end marker has been delivered. -/
theorem Carries.none_mem_delivered {link : Link env Item} {out inn : Stage}
    (hlink : link.Carries wire out inn) {round : Nat}
    (hleft : (Stage.before (round + 1)).rank ≤ inn.rank) :
    none ∈ Frame.ices round link.delivered :=
  none_mem_ices_of_stageAfter hlink.deliveredStage hleft

theorem Carries.none_mem_sent {link : Link env Item} {out inn : Stage}
    (hlink : link.Carries wire out inn) {round : Nat}
    (hleft : (Stage.before (round + 1)).rank ≤ out.rank) :
    none ∈ Frame.ices round link.sent :=
  none_mem_ices_of_stageAfter hlink.sentStage hleft

theorem Carries.none_not_mem_sent {link : Link env Item} {out inn : Stage}
    (hlink : link.Carries wire out inn) {round : Nat}
    (hopen : out.rank ≤ (Stage.within round).rank) : none ∉ Frame.ices round link.sent := by
  intro hmarker
  obtain ⟨frame, hmem, hclosing, rfl⟩ := Frame.none_mem_ices.mp hmarker
  have hended := Stage.rank_le_of_closing_mem hlink.sentStage hmem hclosing
  simp only [Stage.rank_before, Stage.rank_within] at hended hopen
  omega

/-- After the end of a round all its candidates have been delivered. -/
theorem Carries.ices_delivered {link : Link env Item} {out inn : Stage}
    (hlink : link.Carries wire out inn) {round : Nat}
    (hleft : (Stage.before (round + 1)).rank ≤ inn.rank) :
    Frame.ices round link.delivered = Frame.ices round link.sent := by
  have hrest : Frame.ices round link.undelivered = [] :=
    Frame.ices_eq_nil fun frame hframe =>
      (Nat.lt_of_succ_le (hlink.round_of_undelivered hleft frame hframe)).ne'
  rw [← delivered_append_undelivered link, Frame.ices_append, hrest, List.append_nil]

end Link

end MangleWebRTC.Upgrade
