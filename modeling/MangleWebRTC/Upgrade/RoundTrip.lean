import MangleWebRTC.Upgrade.Framing

/-! # Objects that are sent come back

Values of changing types are written one after another to one stream. The wire
may be cut at any byte: the values whose frames lie wholly inside the cut come
back in order, and the call behind them reports the end of the stream.
-/

namespace MangleWebRTC.Upgrade

open Machine

/-- Serialization at a family of types; decoding inverts encoding at the same
type. Nothing relates encodings at different types: the bytes carry no tag. -/
structure Codec (Ty : Type) (Val : Ty → Type) (Err : Type) where
  serialize : (ty : Ty) → Val ty → List UInt8
  deserialize : (ty : Ty) → List UInt8 → Except Err (Val ty)
  deserialize_serialize : ∀ ty value, deserialize ty (serialize ty value) = .ok value

theorem sendObj_eq_some {msg frame : List UInt8} :
    sendObj msg = some frame ↔ msg.length < 2 ^ 32 ∧ frame = encodeFrame 4 msg := by
  unfold sendObj encodeFrame
  by_cases hfits : msg.length < 2 ^ 32
  · rw [if_pos hfits, Option.some.injEq]
    exact ⟨fun heq => ⟨hfits, heq.symm⟩, fun h => h.2.symm⟩
  · rw [if_neg hfits]
    exact ⟨nofun, fun h => absurd h.1 hfits⟩

theorem parseFrame_sendObj {msg frame : List UInt8} (hsend : sendObj msg = some frame)
    (more : List UInt8) : parseFrame 4 (frame ++ more) = some (msg, more) := by
  obtain ⟨hfits, rfl⟩ := sendObj_eq_some.mp hsend
  exact parseFrame_encodeFrame (by simpa using hfits) more

namespace Codec

variable {Ty Err : Type} {Val : Ty → Type} (codec : Codec Ty Val Err)

/-- Bytes that `send_obj` writes for one value. -/
def frameLength (value : (ty : Ty) × Val ty) : Nat :=
  4 + (codec.serialize value.1 value.2).length

/-- The wire after sending the values one after another. -/
def sendObjs : List ((ty : Ty) × Val ty) → Option (List UInt8)
  | [] => some []
  | value :: values => do
      let frame ← sendObj (codec.serialize value.1 value.2)
      let wire ← sendObjs values
      return frame ++ wire

/-- The offset behind the frame of the value with the given index. -/
def frameEnd (values : List ((ty : Ty) × Val ty)) (index : Nat) : Nat :=
  ((values.take (index + 1)).map codec.frameLength).sum

@[simp] theorem frameEnd_cons_zero (value : (ty : Ty) × Val ty)
    (values : List ((ty : Ty) × Val ty)) :
    codec.frameEnd (value :: values) 0 = codec.frameLength value := by
  simp [frameEnd]

@[simp] theorem frameEnd_cons_succ (value : (ty : Ty) × Val ty)
    (values : List ((ty : Ty) × Val ty)) (index : Nat) :
    codec.frameEnd (value :: values) (index + 1) =
      codec.frameLength value + codec.frameEnd values index := by
  simp [frameEnd]

theorem sendObjs_cons {value : (ty : Ty) × Val ty} {values : List ((ty : Ty) × Val ty)}
    {wire : List UInt8} :
    codec.sendObjs (value :: values) = some wire ↔
      ∃ frame rest, sendObj (codec.serialize value.1 value.2) = some frame ∧
        codec.sendObjs values = some rest ∧ wire = frame ++ rest := by
  simp only [sendObjs, Option.bind_eq_bind, Option.pure_def, Option.bind_eq_some_iff,
    Option.some.injEq]
  constructor
  · rintro ⟨frame, hframe, rest, hrest, rfl⟩
    exact ⟨frame, rest, hframe, hrest, rfl⟩
  · rintro ⟨frame, rest, hframe, hrest, rfl⟩
    exact ⟨frame, hframe, rest, hrest, rfl⟩

/-- Decoding the first frame of a wire gives the value that was sent. -/
theorem referenceRecv_frame {value : (ty : Ty) × Val ty} {frame : List UInt8}
    (hframe : sendObj (codec.serialize value.1 value.2) = some frame) (more : List UInt8) :
    referenceRecv (codec.deserialize value.1) (frame ++ more) = (.ok value.2, more) := by
  rw [referenceRecv_of_parse _ (parseFrame_sendObj hframe more), codec.deserialize_serialize]
  rfl

/-- The reference parser on a cut of the wire. The induction is on the values:
either the cut ends inside the first frame, or the frame is whole and the rest
of the cut is a cut of the remaining wire. -/
theorem reference_round_trip {values : List ((ty : Ty) × Val ty)} {wire cut : List UInt8}
    (hsend : codec.sendObjs values = some wire) (hcut : cut <+: wire) :
    ∃ count rest, count ≤ values.length ∧
      (∀ index < values.length, codec.frameEnd values index ≤ cut.length ↔ index < count) ∧
      referenceRecvs codec.deserialize ((values.take count).map Sigma.fst) cut =
        ((values.take count).map fun value => ⟨value.1, .ok value.2⟩, rest) ∧
      parseFrame 4 rest = none ∧
      ((∃ sent, codec.sendObjs (values.take sent) = some cut) → rest = []) := by
  induction values generalizing wire cut with
  | nil =>
      obtain rfl : [] = wire := by simpa [sendObjs] using hsend
      obtain rfl : cut = [] := List.prefix_nil.mp hcut
      exact ⟨0, [], le_rfl, by simp, rfl, by simp [parseFrame_eq_none], fun _ => rfl⟩
  | cons value values ih =>
      obtain ⟨frame, tail, hframe, htail, rfl⟩ := codec.sendObjs_cons.mp hsend
      have hlength : frame.length = codec.frameLength value := by
        rw [(sendObj_eq_some.mp hframe).2, length_encodeFrame, frameLength]
      by_cases hshort : cut.length < frame.length
      · -- the first frame is cut: nothing is decoded
        have hprefix : cut <+: frame :=
          List.prefix_of_prefix_length_le hcut (List.prefix_append frame tail) hshort.le
        have hword : (frameParser 4).parse frame =
            some (codec.serialize value.1 value.2, []) := by
          have hparse := parseFrame_sendObj hframe []
          rwa [List.append_nil] at hparse
        have hnone : parseFrame 4 cut = none :=
          (frameParser 4).parse_eq_none_of_cut hword hprefix hshort
        refine ⟨0, cut, Nat.zero_le _, ?_, rfl, hnone, ?_⟩
        · intro index _
          have hfirst : codec.frameLength value ≤ codec.frameEnd (value :: values) index := by
            cases index <;> simp
          simp only [Nat.not_lt_zero, iff_false]
          omega
        · rintro ⟨sent, hboundary⟩
          cases sent with
          | zero => simpa [sendObjs, eq_comm] using hboundary
          | succ sent =>
              obtain ⟨frame', _, hframe', _, rfl⟩ := codec.sendObjs_cons.mp hboundary
              rw [hframe] at hframe'
              simp only [Option.some.injEq] at hframe'
              simp [← hframe'] at hshort
      · obtain ⟨cut, rfl⟩ : frame <+: cut :=
          List.prefix_of_prefix_length_le (List.prefix_append frame tail) hcut (by omega)
        obtain ⟨count, rest, hcount, hwhole, hrecv, hrest, hboundary⟩ :=
          ih htail ((List.prefix_append_right_inj frame).mp hcut)
        refine ⟨count + 1, rest, by simpa using hcount, ?_, ?_, hrest, ?_⟩
        · intro index hindex
          cases index with
          | zero => simp [hlength]
          | succ index =>
              have hnext := hwhole index (by simpa using hindex)
              simp only [frameEnd_cons_succ, List.length_append, hlength]
              omega
        · have hfirst := codec.referenceRecv_frame hframe cut
          simp only [List.take_succ_cons, List.map_cons, referenceRecvs, hfirst, hrecv]
        · rintro ⟨sent, hsent⟩
          cases sent with
          | zero =>
              have hempty : frame ++ cut = [] := by simpa [sendObjs, eq_comm] using hsent
              have hzero := congrArg List.length hempty
              simp only [List.length_append, List.length_nil, frameLength] at hzero hlength
              omega
          | succ sent =>
              obtain ⟨frame', cut', hframe', hcut', heq⟩ := codec.sendObjs_cons.mp hsent
              rw [hframe] at hframe'
              obtain rfl := Option.some.inj hframe'
              exact hboundary ⟨sent, List.append_cancel_left heq ▸ hcut'⟩

/-- Framing round trip. The connection dies after the bytes the stream hands
out, which are any prefix of the wire in any reads. The calls at the types in
the order sent return exactly the values whose frames end inside the prefix; a
further call at any type reports the end of the stream; and the buffer is empty
when the prefix ends on a frame boundary. -/
theorem framing_round_trip (overflowChecks : Bool) (values : List ((ty : Ty) × Val ty))
    (wire : List UInt8) (stream : List ReadChunk)
    (hsend : codec.sendObjs values = some wire)
    (hcut : stream.flatMap ReadChunk.bytes <+: wire) :
    ∃ count transport, count ≤ values.length ∧
      (∀ index < values.length,
        codec.frameEnd values index ≤ (stream.flatMap ReadChunk.bytes).length ↔
          index < count) ∧
      recvObjs (.usize64 overflowChecks) codec.deserialize
          ((values.take count).map Sigma.fst) (.ofStream stream) =
        some ((values.take count).map fun value => ⟨value.1, .ok value.2⟩, transport) ∧
      (∀ ty, ∃ last,
        transport.recvObj (.usize64 overflowChecks) (codec.deserialize ty) =
          some (.error (.ioError .unexpectedEof), last) ∧
        ((∃ sent, codec.sendObjs (values.take sent) = some (stream.flatMap ReadChunk.bytes)) →
          transport.recvBuffer = [] ∧ last.recvBuffer = [])) := by
  obtain ⟨count, rest, hcount, hwhole, hrecv, hrest, hboundary⟩ :=
    codec.reference_round_trip hsend hcut
  obtain ⟨transport, hcalls, hremaining⟩ := recvObjs_reference codec.deserialize overflowChecks
    ((values.take count).map Sigma.fst) (.ofStream stream)
  have hstart : (StreamTransport.ofStream stream).remaining =
      stream.flatMap ReadChunk.bytes := rfl
  rw [hstart, hrecv] at hcalls hremaining
  refine ⟨count, transport, hcount, hwhole, hcalls, ?_⟩
  intro ty
  obtain ⟨last, hcall, hlast⟩ :=
    recvObj_reference overflowChecks (codec.deserialize ty) transport
  have hend : parseFrame 4 transport.remaining = none := hremaining ▸ hrest
  rw [referenceRecv_of_parse_none _ hend] at hcall hlast
  refine ⟨last, hcall, fun hcutBoundary => ?_⟩
  have hempty : transport.remaining = [] := hremaining.trans (hboundary hcutBoundary)
  rw [hempty] at hlast
  exact ⟨(List.append_eq_nil_iff.mp hempty).1, (List.append_eq_nil_iff.mp hlast).1⟩

end Codec

/-- Two types for concrete runs: a byte, and a value that encodes to nothing. -/
abbrev ByteOrUnit : Bool → Type
  | true => UInt8
  | false => Unit

instance : (ty : Bool) → DecidableEq (ByteOrUnit ty)
  | true => inferInstanceAs (DecidableEq UInt8)
  | false => inferInstanceAs (DecidableEq Unit)

/-- A byte goes over the wire as itself, and the unit as nothing. -/
def byteOrUnitCodec : Codec Bool ByteOrUnit Unit where
  serialize
    | true, byte => [byte]
    | false, () => []
  deserialize
    | true, [byte] => .ok byte
    | false, [] => .ok ()
    | _, _ => .error ()
  deserialize_serialize := by
    intro ty value
    cases ty <;> rfl

/-- Three values, a wire of fourteen bytes, and a connection that dies inside
the third frame after reads that end inside a header and inside a body. -/
theorem framing_round_trip_cut :
    let values : List ((ty : Bool) × ByteOrUnit ty) :=
      [⟨true, (7 : UInt8)⟩, ⟨false, ()⟩, ⟨true, (9 : UInt8)⟩]
    let stream : List ReadChunk := [⟨[1, 0, 0], by decide, by decide⟩,
      ⟨[0, 7, 0, 0, 0, 0, 1], by decide, by decide⟩, ⟨[0], by decide, by decide⟩]
    ∃ count transport, count ≤ values.length ∧
      (∀ index < values.length,
        byteOrUnitCodec.frameEnd values index ≤ (stream.flatMap ReadChunk.bytes).length ↔
          index < count) ∧
      recvObjs (.usize64 true) byteOrUnitCodec.deserialize
          ((values.take count).map Sigma.fst) (.ofStream stream) =
        some ((values.take count).map fun value => ⟨value.1, .ok value.2⟩, transport) ∧
      (∀ ty, ∃ last,
        transport.recvObj (.usize64 true) (byteOrUnitCodec.deserialize ty) =
          some (.error (.ioError .unexpectedEof), last) ∧
        ((∃ sent, byteOrUnitCodec.sendObjs (values.take sent) =
            some (stream.flatMap ReadChunk.bytes)) →
          transport.recvBuffer = [] ∧ last.recvBuffer = [])) :=
  byteOrUnitCodec.framing_round_trip true _ [1, 0, 0, 0, 7, 0, 0, 0, 0, 1, 0, 0, 0, 9] _
    (by decide) (by decide)

end MangleWebRTC.Upgrade
