import MangleWebRTC.Upgrade.Transport

/-! # The transport as a frame parser

The reference parser works on the whole byte string that is still to come.
`recv_obj` refines it for every content of its buffer and every cut of the rest
into reads; from this follows that objects sent by `send_obj` come back.
-/

namespace MangleWebRTC.Upgrade

open Machine

/-- The reference parser: one frame off the front, or nothing. -/
def referenceRecv {Err Val : Type} (deserialize : List UInt8 → Except Err Val)
    (input : List UInt8) : Except (RecvError Err) Val × List UInt8 :=
  match parseFrame 4 input with
  | some (body, rest) => ((deserialize body).mapError RecvError.deserializeError, rest)
  | none => (.error (.ioError .unexpectedEof), input)

/-- The input starts with a header and at least the bytes it announces. -/
def HasFrame (input : List UInt8) : Prop :=
  4 ≤ input.length ∧ 4 + fromLeBytes (input.take 4) ≤ input.length

theorem parseFrame_of_hasFrame {input : List UInt8} (hframe : HasFrame input) :
    parseFrame 4 input = some ((input.drop 4).take (fromLeBytes (input.take 4)),
      input.drop (4 + fromLeBytes (input.take 4))) :=
  parseFrame_eq_some.mpr ⟨hframe.2, rfl, rfl⟩

theorem parseFrame_of_not_hasFrame {input : List UInt8} (hframe : ¬ HasFrame input) :
    parseFrame 4 input = none := by
  rw [parseFrame_eq_none]
  unfold HasFrame at hframe
  omega

section OneCall

variable {Err Val : Type} (overflowChecks : Bool) (deserialize : List UInt8 → Except Err Val)

/-- The loop is entered when the buffer has no complete frame, and pulls chunks
until it has one. -/
theorem recvObjLoop_eq_pull (stream : List ReadChunk) (recvBuffer : List UInt8)
    (hbuffer : parseFrame 4 recvBuffer = none) :
    recvObjLoop (.usize64 overflowChecks) deserialize recvBuffer stream =
      some (match (frameParser 4).pull ReadChunk.bytes recvBuffer stream with
        | some (body, rest, left) =>
            ((deserialize body).mapError RecvError.deserializeError, ⟨left, rest⟩)
        | none => (.error (.ioError .unexpectedEof),
            ⟨[], recvBuffer ++ stream.flatMap ReadChunk.bytes⟩)) := by
  induction stream generalizing recvBuffer with
  | nil =>
      have hparse : (frameParser 4).parse recvBuffer = none := hbuffer
      simp [recvObjLoop, PrefixParser.pull, hparse]
  | cons chunk stream ih =>
      have hparse : (frameParser 4).parse recvBuffer = none := hbuffer
      simp only [recvObjLoop, recvObjRead_usize64 overflowChecks deserialize recvBuffer chunk.bytes
        chunk.nonempty, framePoll, PrefixParser.pull, hparse, Option.bind_eq_bind,
        Option.bind_some]
      cases hnext : parseFrame 4 (recvBuffer ++ chunk.bytes) with
      | some found =>
          have hpull := (frameParser 4).pull_of_parse ReadChunk.bytes hnext stream
          simp [hpull]
      | none =>
          have hloop := ih _ hnext
          simpa [List.append_assoc] using hloop

theorem referenceRecv_of_parse {input body rest : List UInt8}
    (hparse : parseFrame 4 input = some (body, rest)) :
    referenceRecv deserialize input =
      ((deserialize body).mapError RecvError.deserializeError, rest) := by
  simp only [referenceRecv, hparse]

theorem referenceRecv_of_parse_none {input : List UInt8} (hparse : parseFrame 4 input = none) :
    referenceRecv deserialize input = (.error (.ioError .unexpectedEof), input) := by
  simp only [referenceRecv, hparse]

/-- One call of `recv_obj` is one step of the reference parser on the buffer
followed by the unread stream; it never panics. -/
theorem recvObj_reference (transport : StreamTransport) :
    ∃ next, transport.recvObj (.usize64 overflowChecks) deserialize =
        some ((referenceRecv deserialize transport.remaining).1, next) ∧
      next.remaining = (referenceRecv deserialize transport.remaining).2 := by
  have hwhole : parseFrame 4 transport.remaining = _ :=
    (frameParser 4).parse_flatMap ReadChunk.bytes transport.recvBuffer transport.stream
  simp only [StreamTransport.recvObj, recvObjBuffered_usize64, framePoll, Option.bind_eq_bind,
    Option.bind_some]
  cases hbuffer : parseFrame 4 transport.recvBuffer with
  | some found =>
      have hparse : parseFrame 4 transport.remaining = some (found.1, found.2 ++
          transport.stream.flatMap ReadChunk.bytes) := parseFrame_append _ hbuffer
      rw [referenceRecv_of_parse deserialize hparse]
      exact ⟨⟨transport.stream, found.2⟩, rfl, rfl⟩
  | none =>
      simp only [recvObjLoop_eq_pull overflowChecks deserialize _ _ hbuffer]
      cases hpull : (frameParser 4).pull ReadChunk.bytes transport.recvBuffer transport.stream with
      | some found =>
          rw [hpull] at hwhole
          rw [referenceRecv_of_parse deserialize hwhole]
          exact ⟨⟨found.2.2, found.2.1⟩, rfl, rfl⟩
      | none =>
          rw [hpull] at hwhole
          rw [referenceRecv_of_parse_none deserialize hwhole]
          exact ⟨⟨[], transport.remaining⟩, rfl, by simp [StreamTransport.remaining]⟩

theorem referenceRecv_of_hasFrame {input : List UInt8} (hframe : HasFrame input) :
    referenceRecv deserialize input =
      ((deserialize ((input.drop 4).take (fromLeBytes (input.take 4)))).mapError
        RecvError.deserializeError, input.drop (4 + fromLeBytes (input.take 4))) := by
  exact referenceRecv_of_parse deserialize (parseFrame_of_hasFrame hframe)

theorem referenceRecv_of_not_hasFrame {input : List UInt8} (hframe : ¬ HasFrame input) :
    referenceRecv deserialize input = (.error (.ioError .unexpectedEof), input) := by
  exact referenceRecv_of_parse_none deserialize (parseFrame_of_not_hasFrame hframe)

theorem mapError_ne_eof (decoded : Except Err Val) :
    decoded.mapError RecvError.deserializeError ≠ .error (.ioError .unexpectedEof) := by
  cases decoded <;> simp [Except.mapError]

theorem referenceRecv_eof_iff (input : List UInt8) :
    (referenceRecv deserialize input).1 = .error (.ioError .unexpectedEof) ↔
      ¬ HasFrame input := by
  by_cases hframe : HasFrame input
  · simp [referenceRecv_of_hasFrame deserialize hframe, hframe, mapError_ne_eof]
  · simp [referenceRecv_of_not_hasFrame deserialize hframe, hframe]

end OneCall

/-! ## Successive calls at changing types -/

/-- A result together with the type it was asked for. -/
abbrev Received {Ty : Type} (Val : Ty → Type) (Err : Type) :=
  (ty : Ty) × Except (RecvError Err) (Val ty)

section Calls

variable {Ty Err : Type} {Val : Ty → Type} (target : Target)
variable (deserialize : (ty : Ty) → List UInt8 → Except Err (Val ty))

/-- Calls of `recv_obj` at the listed types, one after another. -/
def recvObjs : List Ty → StreamTransport → Option (List (Received Val Err) × StreamTransport)
  | [], transport => some ([], transport)
  | ty :: tys, transport => do
      let (result, transport) ← transport.recvObj target (deserialize ty)
      let (results, transport) ← recvObjs tys transport
      return (⟨ty, result⟩ :: results, transport)

/-- The reference parser at the listed types. -/
def referenceRecvs : List Ty → List UInt8 → List (Received Val Err) × List UInt8
  | [], input => ([], input)
  | ty :: tys, input =>
      let (result, rest) := referenceRecv (deserialize ty) input
      let (results, rest) := referenceRecvs tys rest
      (⟨ty, result⟩ :: results, rest)

theorem recvObjs_reference (overflowChecks : Bool) (tys : List Ty) (transport : StreamTransport) :
    ∃ next, recvObjs (.usize64 overflowChecks) deserialize tys transport =
        some ((referenceRecvs deserialize tys transport.remaining).1, next) ∧
      next.remaining = (referenceRecvs deserialize tys transport.remaining).2 := by
  induction tys generalizing transport with
  | nil => exact ⟨transport, rfl, rfl⟩
  | cons ty tys ih =>
      obtain ⟨middle, hcall, hmiddle⟩ :=
        recvObj_reference overflowChecks (deserialize ty) transport
      obtain ⟨last, hcalls, hlast⟩ := ih middle
      rw [hmiddle] at hcalls hlast
      exact ⟨last, by simp [recvObjs, referenceRecvs, hcall, hcalls], hlast⟩

/-- `recv_obj` refines the reference parser on arbitrary input. Successive calls
give the reference results and leave the reference rest, whatever the buffer
holds and however the stream is cut into reads. A call whose input holds a frame
consumes the header and exactly the announced bytes and decodes exactly these;
it reports `UnexpectedEof` in the other case only, and then consumes nothing. -/
theorem recvObj_refines_reference (overflowChecks : Bool) (transport : StreamTransport) :
    (∀ tys, ∃ next, recvObjs (.usize64 overflowChecks) deserialize tys transport =
        some ((referenceRecvs deserialize tys transport.remaining).1, next) ∧
      next.remaining = (referenceRecvs deserialize tys transport.remaining).2) ∧
    (∀ ty, ∃ result next,
      transport.recvObj (.usize64 overflowChecks) (deserialize ty) = some (result, next) ∧
      (HasFrame transport.remaining →
        result = (deserialize ty ((transport.remaining.drop 4).take
          (fromLeBytes (transport.remaining.take 4)))).mapError RecvError.deserializeError ∧
        next.remaining =
          transport.remaining.drop (4 + fromLeBytes (transport.remaining.take 4))) ∧
      (result = .error (.ioError .unexpectedEof) ↔ ¬ HasFrame transport.remaining) ∧
      (¬ HasFrame transport.remaining → next.remaining = transport.remaining)) ∧
    (∀ other : StreamTransport, other.remaining = transport.remaining → ∀ tys,
      (recvObjs (.usize64 overflowChecks) deserialize tys other).map Prod.fst =
        (recvObjs (.usize64 overflowChecks) deserialize tys transport).map Prod.fst) := by
  refine ⟨fun tys => recvObjs_reference deserialize overflowChecks tys transport, ?_, ?_⟩
  · intro ty
    obtain ⟨next, hcall, hnext⟩ := recvObj_reference overflowChecks (deserialize ty) transport
    refine ⟨_, next, hcall, ?_, referenceRecv_eof_iff (deserialize ty) _, ?_⟩
    · intro hframe
      rw [hnext, referenceRecv_of_hasFrame (deserialize ty) hframe]
      exact ⟨rfl, rfl⟩
    · intro hframe
      rw [hnext, referenceRecv_of_not_hasFrame (deserialize ty) hframe]
  · intro other hsame tys
    obtain ⟨_, hother, _⟩ := recvObjs_reference deserialize overflowChecks tys other
    obtain ⟨_, hthis, _⟩ := recvObjs_reference deserialize overflowChecks tys transport
    rw [hother, hthis, hsame]
    rfl

end Calls

end MangleWebRTC.Upgrade
