import MangleWebRTC.Machine.LengthPrefix

/-! # Framed objects over a byte stream

`StreamTransport` writes every object as one length-prefixed frame and reads
objects back from a buffer that it fills from the stream. A call of `recv_obj`
first looks into the buffer and then reads until a frame is complete; the two
paths are written out separately in the source and here.

An absent result of these definitions is a panic of the call.
-/

namespace MangleWebRTC.Upgrade

open Machine

/-- The compilation target: the width of `usize`, and whether the build checks
arithmetic overflow (a panic) or wraps. -/
structure Target where
  usizeBits : Nat
  overflowChecks : Bool

/-- The targets on which `usize` has 64 bits, in either build profile. -/
def Target.usize64 (overflowChecks : Bool) : Target := ⟨64, overflowChecks⟩

/-- `value as usize`. -/
def Target.asUsize (target : Target) (value : Nat) : Nat := value % 2 ^ target.usizeBits

/-- Addition of two `usize` values. -/
def Target.add (target : Target) (left right : Nat) : Option Nat :=
  if left + right < 2 ^ target.usizeBits then some (left + right)
  else if target.overflowChecks then none
  else some ((left + right) % 2 ^ target.usizeBits)

/-- `slice.split_at(mid)`, which panics behind the end. -/
def splitAt (slice : List UInt8) (mid : Nat) : Option (List UInt8 × List UInt8) :=
  if mid ≤ slice.length then some (slice.take mid, slice.drop mid) else none

/-- `vec.drain(0..size)`, which panics behind the end. Returns what is left. -/
def drain (vec : List UInt8) (size : Nat) : Option (List UInt8) :=
  if size ≤ vec.length then some (vec.drop size) else none

/-- `slice.try_into().unwrap()` into `[u8; 4]`. -/
def toArray4 (slice : List UInt8) : Option (List UInt8) :=
  if slice.length = 4 then some slice else none

/-- The end of the stream, or an error of the operating system. -/
inductive IoError where
  | unexpectedEof
  | os (code : Nat)
  deriving DecidableEq, Repr

/-- `RecvError<DE>`. -/
inductive RecvError (Err : Type) where
  | deserializeError (error : Err)
  | ioError (error : IoError)
  deriving DecidableEq, Repr

/-- Where a call of `recv_obj` is after its code up to the next `stream.read`. -/
inductive RecvPoll (Err Val : Type) where
  | ready (result : Except (RecvError Err) Val) (recvBuffer : List UInt8)
  | reading (recvBuffer : List UInt8)

section Receive

variable {Err Val : Type} (target : Target) (deserialize : List UInt8 → Except Err Val)

/-- The part of `recv_obj` before its loop: an object that is already buffered. -/
def recvObjBuffered (recvBuffer : List UInt8) : Option (RecvPoll Err Val) :=
  if 4 ≤ recvBuffer.length then do
    let size ← toArray4 (← splitAt recvBuffer 4).1
    let size ← target.add (target.asUsize (fromLeBytes size)) 4
    if size ≤ recvBuffer.length then do
      let buf := (← splitAt (← splitAt recvBuffer size).1 4).2
      let result := (deserialize buf).mapError RecvError.deserializeError
      let recvBuffer ← drain recvBuffer size
      return .ready result recvBuffer
    else
      return .reading recvBuffer
  else
    return .reading recvBuffer

/-- One turn of the loop of `recv_obj`, after `stream.read` has returned `buf`. -/
def recvObjRead (recvBuffer buf : List UInt8) : Option (RecvPoll Err Val) :=
  -- No bytes: the end of the stream, also in the middle of a frame.
  if buf.length = 0 then
    return .ready (.error (.ioError .unexpectedEof)) recvBuffer
  else
    let recvBuffer := recvBuffer ++ buf
    if recvBuffer.length < 4 then
      return .reading recvBuffer
    else do
      let size ← toArray4 (← splitAt recvBuffer 4).1
      let size ← target.add (target.asUsize (fromLeBytes size)) 4
      if recvBuffer.length < size then
        return .reading recvBuffer
      else do
        let buf := (← splitAt (← splitAt recvBuffer size).1 4).2
        let result := (deserialize buf).mapError RecvError.deserializeError
        let recvBuffer ← drain recvBuffer size
        return .ready result recvBuffer

end Receive

/-- What one `stream.read` into the 1024-byte buffer hands out before the end. -/
structure ReadChunk where
  bytes : List UInt8
  nonempty : bytes ≠ []
  bounded : bytes.length ≤ 1024

/-- The transport over a stream that answers its reads with the listed chunks
and then with end of file. -/
structure StreamTransport where
  stream : List ReadChunk
  recvBuffer : List UInt8

/-- `StreamTransport::from`. -/
def StreamTransport.ofStream (stream : List ReadChunk) : StreamTransport := ⟨stream, []⟩

/-- The bytes not yet consumed: the buffer and then the unread stream. -/
def StreamTransport.remaining (transport : StreamTransport) : List UInt8 :=
  transport.recvBuffer ++ transport.stream.flatMap ReadChunk.bytes

section Calls

variable {Err Val : Type} (target : Target) (deserialize : List UInt8 → Except Err Val)

/-- The loop of `recv_obj`. -/
def recvObjLoop (recvBuffer : List UInt8) :
    List ReadChunk → Option (Except (RecvError Err) Val × StreamTransport)
  | [] => do
      match ← recvObjRead target deserialize recvBuffer [] with
      | .ready result recvBuffer => return (result, ⟨[], recvBuffer⟩)
      | .reading _ => none
  | chunk :: stream => do
      match ← recvObjRead target deserialize recvBuffer chunk.bytes with
      | .ready result recvBuffer => return (result, ⟨stream, recvBuffer⟩)
      | .reading recvBuffer => recvObjLoop recvBuffer stream

/-- `recv_obj`, run to completion. -/
def StreamTransport.recvObj (transport : StreamTransport) :
    Option (Except (RecvError Err) Val × StreamTransport) := do
  match ← recvObjBuffered target deserialize transport.recvBuffer with
  | .ready result recvBuffer => return (result, ⟨transport.stream, recvBuffer⟩)
  | .reading recvBuffer => recvObjLoop target deserialize recvBuffer transport.stream

end Calls

/-- The bytes `send_obj` writes for an object with serialized form `msg`. It
panics when the length does not fit in a `u32`. -/
def sendObj (msg : List UInt8) : Option (List UInt8) :=
  if msg.length < 2 ^ 32 then some (toLeBytes 4 msg.length ++ msg) else none

/-! ## What the two receive paths do on a 64-bit target -/

theorem usize64_add_header (overflowChecks : Bool) (bytes : List UInt8)
    (hlength : bytes.length = 4) :
    (Target.usize64 overflowChecks).add
      ((Target.usize64 overflowChecks).asUsize (fromLeBytes bytes)) 4 =
        some (fromLeBytes bytes + 4) := by
  have hvalue : fromLeBytes bytes < 256 ^ 4 := hlength ▸ fromLeBytes_lt bytes
  have hcast : (Target.usize64 overflowChecks).asUsize (fromLeBytes bytes) = fromLeBytes bytes :=
    Nat.mod_eq_of_lt (by simp only [Target.usize64]; omega)
  rw [hcast, Target.add, if_pos]
  simp only [Target.usize64]
  omega

/-- The poll that the frame at the front of a buffer decides. -/
def framePoll {Err Val : Type} (deserialize : List UInt8 → Except Err Val)
    (recvBuffer : List UInt8) : RecvPoll Err Val :=
  match parseFrame 4 recvBuffer with
  | some (body, rest) => .ready ((deserialize body).mapError RecvError.deserializeError) rest
  | none => .reading recvBuffer

section Paths

variable {Err Val : Type} (overflowChecks : Bool) (deserialize : List UInt8 → Except Err Val)

/-- While the size behind the header is computed exactly, the front of the
buffer decides. -/
theorem recvObjBuffered_of_add (target : Target) (recvBuffer : List UInt8)
    (hadd : 4 ≤ recvBuffer.length →
      target.add (target.asUsize (fromLeBytes (recvBuffer.take 4))) 4 =
        some (fromLeBytes (recvBuffer.take 4) + 4)) :
    recvObjBuffered target deserialize recvBuffer = some (framePoll deserialize recvBuffer) := by
  unfold recvObjBuffered framePoll
  by_cases hheader : 4 ≤ recvBuffer.length
  · have hlength : (recvBuffer.take 4).length = 4 := by simpa using hheader
    simp only [if_pos hheader, splitAt, toArray4, hlength, hadd hheader, Option.bind_eq_bind,
      Option.bind_some, ↓reduceIte]
    by_cases hframe : fromLeBytes (recvBuffer.take 4) + 4 ≤ recvBuffer.length
    · have hparse := parseFrame_eq_some.mpr ⟨Nat.add_comm _ 4 ▸ hframe, rfl, rfl⟩
      simp only [if_pos hframe, hparse, drain, Option.bind_some, List.length_take,
        Nat.min_eq_left hframe, Nat.le_add_left, ↓reduceIte, List.drop_take, Nat.add_sub_cancel]
      simp [Nat.add_comm 4]
    · have hparse : parseFrame 4 recvBuffer = none := parseFrame_eq_none.mpr (by omega)
      simp [if_neg hframe, hparse]
  · have hparse : parseFrame 4 recvBuffer = none := parseFrame_eq_none.mpr (by omega)
    simp [if_neg hheader, hparse]

theorem recvObjBuffered_usize64 (recvBuffer : List UInt8) :
    recvObjBuffered (.usize64 overflowChecks) deserialize recvBuffer =
      some (framePoll deserialize recvBuffer) := by
  apply recvObjBuffered_of_add
  intro hheader
  exact usize64_add_header overflowChecks (recvBuffer.take 4) (by simpa using hheader)

/-- The slow path decides as the fast path does on the extended buffer. -/
theorem recvObjRead_eq_buffered (target : Target) (recvBuffer buf : List UInt8) (hbuf : buf ≠ []) :
    recvObjRead target deserialize recvBuffer buf =
      recvObjBuffered target deserialize (recvBuffer ++ buf) := by
  have hnonzero : buf.length ≠ 0 := by simpa using hbuf
  unfold recvObjRead recvObjBuffered
  rw [if_neg hnonzero]
  dsimp only
  by_cases hheader : 4 ≤ (recvBuffer ++ buf).length
  · rw [if_neg (by omega), if_pos hheader]
    congr 1
    funext first
    congr 1
    funext header
    congr 1
    funext size
    by_cases hframe : size ≤ (recvBuffer ++ buf).length
    · rw [if_neg (by omega), if_pos hframe]
    · rw [if_pos (by omega), if_neg hframe]
  · rw [if_pos (by omega), if_neg hheader]

theorem recvObjRead_usize64 (recvBuffer buf : List UInt8) (hbuf : buf ≠ []) :
    recvObjRead (.usize64 overflowChecks) deserialize recvBuffer buf =
      some (framePoll deserialize (recvBuffer ++ buf)) := by
  rw [recvObjRead_eq_buffered deserialize _ recvBuffer buf hbuf, recvObjBuffered_usize64]

@[simp] theorem recvObjRead_eof (target : Target) (recvBuffer : List UInt8) :
    recvObjRead target deserialize recvBuffer [] =
      some (.ready (.error (.ioError .unexpectedEof)) recvBuffer) := rfl

end Paths

end MangleWebRTC.Upgrade
