import MangleWebRTC.Upgrade.Receiver
import MangleWebRTC.Upgrade.Signaling

/-! # One direction of a connection

A sender that writes one frame after another, the bytes in flight, and the
receiver at the other end. A link is coherent when its bytes are the frames that
were sent and not yet received; then a call at the type of the next frame gets
that frame's value.
-/

namespace MangleWebRTC.Upgrade

open Machine

/-- Bytes the current `send_obj` has yet to write, the receiving half, and the
history of sent frames and of completed `recv_obj` calls. -/
structure Link (env : Environment) (Item : Type) where
  outgoing : List UInt8
  receiver : Receiver WireType
  sent : List (Frame env.Sdp Item)
  received : List (Received env.Value env.Err)

/-- What a task can do with its pending `recv_obj`. The connection stays open
and reads do not fail. -/
inductive RecvAction where
  | create
  | poll
  | read (count : Nat)
  deriving DecidableEq, Repr

/-- The action as an event of the receiver. -/
def RecvAction.event (ty : WireType) : RecvAction → CallEvent WireType
  | .create => .start ty
  | .poll => .poll
  | .read count => .read count

namespace Link

variable {env : Environment} {Item : Type}

/-- Nothing has been sent, and no call is pending. -/
def empty : Link env Item := ⟨[], ⟨[], [], none⟩, [], []⟩

/-- Frames sent and not yet received, oldest first. -/
def undelivered (link : Link env Item) : List (Frame env.Sdp Item) :=
  link.sent.drop link.received.length

variable (wire : Frame env.Sdp Item → (ty : WireType) × env.Value ty)

/-- `send_obj` starts to write a message. -/
def beginSend (link : Link env Item) (frame : Frame env.Sdp Item) : Option (Link env Item) :=
  (sendObj (env.codec.serialize (wire frame).1 (wire frame).2)).map fun bytes =>
    { link with outgoing := link.outgoing ++ bytes, sent := link.sent ++ [frame] }

/-- The transport accepts the next bytes, as far as it has room. -/
def write (link : Link env Item) (capacity : Option Nat) (count : Nat) :
    Option (Link env Item) :=
  if 0 < count ∧ count ≤ link.outgoing.length ∧
      ∀ limit ∈ capacity, link.receiver.unread.length + count ≤ limit then
    some { link with
      outgoing := link.outgoing.drop count
      receiver := { link.receiver with
        unread := link.receiver.unread ++ link.outgoing.take count } }
  else none

/-- The receiving task runs its call of `recv_obj` at a type. -/
def recv (link : Link env Item) (ty : WireType) (action : RecvAction) :
    Option (Link env Item × Option (Received env.Value env.Err)) :=
  (link.receiver.step env.target env.codec.deserialize (action.event ty)).map
    fun (receiver, output) =>
      match output with
      | .returned result =>
          ({ link with receiver := receiver, received := link.received ++ [result] }, some result)
      | _ => ({ link with receiver := receiver }, none)

/-- The receiving task drops its pending call, if it has one. -/
def dropCall (link : Link env Item) : Link env Item :=
  { link with receiver := { link.receiver with call := none } }

/-- The bytes of a frame on the wire. -/
def frameBytes (frame : Frame env.Sdp Item) : List UInt8 :=
  encodeFrame 4 (env.codec.serialize (wire frame).1 (wire frame).2)

/-- What a receiver gets that decodes a frame at the type it was encoded from. -/
def faithful (frame : Frame env.Sdp Item) : Received env.Value env.Err :=
  ⟨(wire frame).1, .ok (wire frame).2⟩

/-- The link carries exactly the undelivered frames, and every completed call
got the value of its frame at the frame's type. -/
structure Coherent (link : Link env Item) : Prop where
  waits : link.receiver.Waits
  fits : ∀ frame ∈ link.sent,
    (env.codec.serialize (wire frame).1 (wire frame).2).length < 2 ^ 32
  bytes : link.receiver.remaining ++ link.outgoing =
    link.undelivered.flatMap (frameBytes wire)
  count : link.received.length ≤ link.sent.length
  faithful : link.received = (link.sent.take link.received.length).map (faithful wire)

/-- A call in flight decodes the type of the next frame. -/
def CallMatches (link : Link env Item) : Prop :=
  ∀ phase ty, link.receiver.call = some (phase, ty) →
    ∀ frame ∈ link.undelivered.head?, (wire frame).1 = ty

variable {wire}

theorem coherent_empty : (empty : Link env Item).Coherent wire where
  waits := Receiver.waits_of_call_none rfl
  fits := by simp [empty]
  bytes := rfl
  count := le_rfl
  faithful := rfl

/-- Starting a send appends one frame to the log and its bytes to the writer. -/
theorem beginSend_eq_some {link next : Link env Item} {frame : Frame env.Sdp Item}
    (hsend : link.beginSend wire frame = some next) :
    (env.codec.serialize (wire frame).1 (wire frame).2).length < 2 ^ 32 ∧
      next = { link with
        outgoing := link.outgoing ++ frameBytes wire frame, sent := link.sent ++ [frame] } := by
  obtain ⟨bytes, hbytes, rfl⟩ := Option.map_eq_some_iff.mp hsend
  obtain ⟨hfits, rfl⟩ := sendObj_eq_some.mp hbytes
  exact ⟨hfits, rfl⟩

theorem undelivered_beginSend {link next : Link env Item} {frame : Frame env.Sdp Item}
    (hcount : link.received.length ≤ link.sent.length)
    (hsend : link.beginSend wire frame = some next) :
    next.undelivered = link.undelivered ++ [frame] := by
  obtain ⟨_, rfl⟩ := beginSend_eq_some hsend
  exact List.drop_append_of_le_length hcount

theorem Coherent.beginSend {link next : Link env Item} {frame : Frame env.Sdp Item}
    (hlink : link.Coherent wire) (hsend : link.beginSend wire frame = some next) :
    next.Coherent wire := by
  have hundelivered := undelivered_beginSend hlink.count hsend
  obtain ⟨hfits, rfl⟩ := beginSend_eq_some hsend
  refine ⟨hlink.waits, ?_, ?_, ?_, ?_⟩
  · intro other hother
    rcases List.mem_append.mp hother with hother | hother
    · exact hlink.fits other hother
    · rwa [List.mem_singleton.mp hother]
  · rw [hundelivered, List.flatMap_append, ← hlink.bytes]
    simp
  · simpa using Nat.le_succ_of_le hlink.count
  · rw [List.take_append_of_le_length hlink.count]
    exact hlink.faithful

theorem write_eq_some {link next : Link env Item} {capacity : Option Nat} {count : Nat}
    (hwrite : link.write capacity count = some next) :
    next = { link with
      outgoing := link.outgoing.drop count
      receiver := { link.receiver with
        unread := link.receiver.unread ++ link.outgoing.take count } } := by
  unfold write at hwrite
  split at hwrite
  · exact (Option.some.inj hwrite).symm
  · cases hwrite

theorem Coherent.write {link next : Link env Item} {capacity : Option Nat} {count : Nat}
    (hlink : link.Coherent wire) (hwrite : link.write capacity count = some next) :
    next.Coherent wire := by
  obtain rfl := write_eq_some hwrite
  refine ⟨hlink.waits, hlink.fits, ?_, hlink.count, hlink.faithful⟩
  have hbytes := hlink.bytes
  simp only [Receiver.remaining, List.append_assoc, List.take_append_drop] at hbytes ⊢
  exact hbytes

theorem Coherent.dropCall {link : Link env Item} (hlink : link.Coherent wire) :
    link.dropCall.Coherent wire :=
  ⟨Receiver.waits_of_call_none rfl, hlink.fits, hlink.bytes, hlink.count, hlink.faithful⟩

/-- The next frame decides the first complete frame of the bytes that arrived. -/
theorem Coherent.parseFrame {link : Link env Item} (hlink : link.Coherent wire)
    {body rest : List UInt8}
    (hparse : Machine.parseFrame 4 link.receiver.remaining = some (body, rest)) :
    ∃ frame later, link.undelivered = frame :: later ∧
      body = env.codec.serialize (wire frame).1 (wire frame).2 ∧
      rest ++ link.outgoing = later.flatMap (frameBytes wire) := by
  have hwhole := parseFrame_append link.outgoing hparse
  rw [hlink.bytes] at hwhole
  cases hundelivered : link.undelivered with
  | nil =>
      rw [hundelivered] at hwhole
      simp [parseFrame_eq_some] at hwhole
  | cons frame later =>
      have hmem : frame ∈ link.sent := by
        apply List.mem_of_mem_drop
        rw [← undelivered, hundelivered]
        exact List.mem_cons_self
      rw [hundelivered, List.flatMap_cons, frameBytes,
        parseFrame_encodeFrame (by simpa using hlink.fits frame hmem)] at hwhole
      obtain ⟨hbody, hrest⟩ := Prod.mk.inj (Option.some.inj hwhole)
      exact ⟨frame, later, rfl, hbody.symm, hrest.symm⟩

/-- A step of the receiver's call: it returns nothing and the history stays, or
it returns the next frame faithfully. -/
theorem Coherent.recv {link next : Link env Item} {ty : WireType} {action : RecvAction}
    {result : Option (Received env.Value env.Err)} (hlink : link.Coherent wire)
    (hcall : link.CallMatches wire) (hrecv : link.recv ty action = some (next, result)) :
    next.Coherent wire ∧ next.sent = link.sent ∧ next.outgoing = link.outgoing ∧
      ((result = none ∧ next.received = link.received) ∨
       ∃ frame later phase, link.undelivered = frame :: later ∧
        link.receiver.call = some (phase, (wire frame).1) ∧
        next.receiver.call = none ∧
        result = some (Link.faithful wire frame) ∧
        next.received = link.received ++ [Link.faithful wire frame]) := by
  obtain ⟨⟨receiver, output⟩, hstep, hnext⟩ := Option.map_eq_some_iff.mp hrecv
  obtain ⟨hwaits, heffect⟩ :=
    Receiver.step_effect env.codec.deserialize env.overflowChecks hlink.waits hstep
  have hbytes := hlink.bytes
  cases heffect with
  | silent hremaining =>
      obtain ⟨rfl, rfl⟩ := Prod.mk.inj hnext
      exact ⟨⟨hwaits, hlink.fits, by simp only [hremaining]; exact hbytes, hlink.count,
        hlink.faithful⟩, rfl, rfl, .inl ⟨rfl, rfl⟩⟩
  | failed error hremaining =>
      obtain ⟨rfl, rfl⟩ := Prod.mk.inj hnext
      exact ⟨⟨hwaits, hlink.fits, by simp only [hremaining]; exact hbytes, hlink.count,
        hlink.faithful⟩, rfl, rfl, .inl ⟨rfl, rfl⟩⟩
  | returned phase decoded hphase hidle hframe hremaining =>
      obtain ⟨rfl, rfl⟩ := Prod.mk.inj hnext
      obtain ⟨⟨body, rest⟩, hparse⟩ : ∃ found,
          Machine.parseFrame 4 link.receiver.remaining = some found := by
        rcases hframe with heof | hframe
        · cases action <;> cases heof
        · exact Option.ne_none_iff_exists'.mp hframe
      obtain ⟨frame, later, hundelivered, rfl, hlater⟩ := hlink.parseFrame hparse
      have htype : (wire frame).1 = decoded :=
        hcall phase decoded hphase frame (by simp [hundelivered])
      subst htype
      have hreference : referenceRecv (env.codec.deserialize (wire frame).1)
          link.receiver.remaining = (.ok (wire frame).2, rest) := by
        rw [referenceRecv_of_parse _ hparse, env.codec.deserialize_serialize]
        rfl
      rw [hreference] at hremaining
      have hlength : link.received.length < link.sent.length := by
        have hpos := congrArg List.length hundelivered
        simp only [undelivered, List.length_drop, List.length_cons] at hpos
        omega
      have hnth : link.sent.take (link.received.length + 1) =
          link.sent.take link.received.length ++ [frame] := by
        rw [List.take_add_one]
        have hget : link.sent[link.received.length]? = some frame := by
          rw [← List.head?_drop, ← undelivered, hundelivered]
          rfl
        simp [hget]
      refine ⟨⟨hwaits, hlink.fits, ?_, ?_, ?_⟩, rfl, rfl, .inr ⟨frame, later, phase,
        hundelivered, hphase, hidle, ?_, ?_⟩⟩
      · have hdrop : link.sent.drop (link.received.length + 1) = later := by
          rw [← List.tail_drop, ← undelivered, hundelivered]
          rfl
        simp only [undelivered, List.length_append, List.length_singleton, hdrop, hremaining]
        exact hlater
      · simpa using Nat.succ_le_of_lt hlength
      · simp only [List.length_append, List.length_singleton, hnth, List.map_append,
          ← hlink.faithful, List.map_singleton, hreference]
        rfl
      · rw [hreference]
        rfl
      · rw [hreference]
        rfl

end Link

end MangleWebRTC.Upgrade
