import MangleWebRTC.Machine.PrefixParser
import Mathlib.Tactic.Ring

/-! # Length-prefixed frames

A frame is a body behind a little-endian header of fixed width that holds the
body's length. The frame parser is stable, so it can be run on a growing buffer.
-/

namespace MangleWebRTC.Machine

/-- The number a little-endian byte string denotes. -/
def fromLeBytes : List UInt8 → Nat
  | [] => 0
  | byte :: rest => byte.toNat + 256 * fromLeBytes rest

/-- The low `width` bytes of a number, least significant first. -/
def toLeBytes : Nat → Nat → List UInt8
  | 0, _ => []
  | width + 1, value => UInt8.ofNat value :: toLeBytes width (value / 256)

@[simp] theorem length_toLeBytes (width value : Nat) : (toLeBytes width value).length = width := by
  induction width generalizing value with
  | zero => rfl
  | succ width ih => simp [toLeBytes, ih]

theorem fromLeBytes_toLeBytes {width value : Nat} (hfits : value < 256 ^ width) :
    fromLeBytes (toLeBytes width value) = value := by
  induction width generalizing value with
  | zero =>
      obtain rfl : value = 0 := by simpa using hfits
      rfl
  | succ width ih =>
      have hdiv : value / 256 < 256 ^ width := by
        rw [Nat.div_lt_iff_lt_mul (by norm_num)]
        simpa [pow_succ] using hfits
      simp only [toLeBytes, fromLeBytes, ih hdiv, UInt8.toNat_ofNat']
      omega

theorem fromLeBytes_lt (bytes : List UInt8) : fromLeBytes bytes < 256 ^ bytes.length := by
  induction bytes with
  | nil => simp [fromLeBytes]
  | cons byte rest ih =>
      have hbyte : byte.toNat < 256 := byte.toNat_lt
      simp only [fromLeBytes, List.length_cons, pow_succ]
      omega

/-- Split one frame off the input: its body and what follows. -/
def parseFrame (width : Nat) (input : List UInt8) : Option (List UInt8 × List UInt8) :=
  let length := fromLeBytes (input.take width)
  if width + length ≤ input.length then
    some ((input.drop width).take length, input.drop (width + length))
  else none

theorem parseFrame_eq_some {width : Nat} {input body rest : List UInt8} :
    parseFrame width input = some (body, rest) ↔
      width + fromLeBytes (input.take width) ≤ input.length ∧
        body = (input.drop width).take (fromLeBytes (input.take width)) ∧
        rest = input.drop (width + fromLeBytes (input.take width)) := by
  simp only [parseFrame]
  split
  next hfits => simp [hfits, eq_comm]
  next hshort => simp [hshort]

theorem parseFrame_eq_none {width : Nat} {input : List UInt8} :
    parseFrame width input = none ↔
      input.length < width + fromLeBytes (input.take width) := by
  simp only [parseFrame]
  split
  next hfits => simpa using hfits
  next hshort => simpa using hshort

theorem parseFrame_append {width : Nat} {input body rest : List UInt8} (more : List UInt8)
    (hparse : parseFrame width input = some (body, rest)) :
    parseFrame width (input ++ more) = some (body, rest ++ more) := by
  obtain ⟨hfits, rfl, rfl⟩ := parseFrame_eq_some.mp hparse
  have hheader : (input ++ more).take width = input.take width :=
    List.take_append_of_le_length (by omega)
  rw [parseFrame_eq_some, hheader]
  refine ⟨by simp only [List.length_append]; omega, ?_, ?_⟩
  · rw [List.drop_append_of_le_length (by omega), List.take_append_of_le_length]
    simp only [List.length_drop]
    omega
  · rw [List.drop_append_of_le_length hfits]

/-- The frame parser as a stable parser of bodies. -/
def frameParser (width : Nat) : PrefixParser UInt8 (List UInt8) where
  parse := parseFrame width
  stable := parseFrame_append

/-- A body behind its header. The header is exact when the length fits in it. -/
def encodeFrame (width : Nat) (body : List UInt8) : List UInt8 :=
  toLeBytes width body.length ++ body

@[simp] theorem length_encodeFrame (width : Nat) (body : List UInt8) :
    (encodeFrame width body).length = width + body.length := by
  simp [encodeFrame]

theorem parseFrame_encodeFrame {width : Nat} {body : List UInt8}
    (hfits : body.length < 256 ^ width) (more : List UInt8) :
    parseFrame width (encodeFrame width body ++ more) = some (body, more) := by
  have hheader : (encodeFrame width body ++ more).take width = toLeBytes width body.length := by
    rw [encodeFrame, List.append_assoc, List.take_left' (length_toLeBytes _ _)]
  rw [parseFrame_eq_some, hheader, fromLeBytes_toLeBytes hfits]
  refine ⟨by simp, ?_, ?_⟩
  · rw [encodeFrame, List.append_assoc, List.drop_left' (length_toLeBytes _ _),
      List.take_left' rfl]
  · rw [List.drop_left' (length_encodeFrame _ _)]

/-! ## The headers of a byte stream -/

/-- The lengths declared by the frame headers of a stream that starts at a frame,
the header of an unfinished last frame included. -/
def declaredLengths (width : Nat) (input : List UInt8) : List Nat :=
  if 0 < width ∧ width ≤ input.length then
    fromLeBytes (input.take width) ::
      declaredLengths width (input.drop (width + fromLeBytes (input.take width)))
  else []
termination_by input.length
decreasing_by simp only [List.length_drop]; omega

/-- The largest declared length, zero without a header. -/
def largestDeclared (width : Nat) (input : List UInt8) : Nat :=
  (declaredLengths width input).max?.getD 0

theorem le_largestDeclared {width length : Nat} {input : List UInt8}
    (hlength : length ∈ declaredLengths width input) : length ≤ largestDeclared width input :=
  List.le_max?_getD_of_mem hlength

theorem declaredLengths_of_header {width : Nat} {input : List UInt8} (hwidth : 0 < width)
    (hheader : width ≤ input.length) :
    declaredLengths width input = fromLeBytes (input.take width) ::
      declaredLengths width (input.drop (width + fromLeBytes (input.take width))) := by
  rw [declaredLengths, if_pos ⟨hwidth, hheader⟩]

theorem declaredLengths_of_parse {width : Nat} {input body rest : List UInt8}
    (hwidth : 0 < width) (hparse : parseFrame width input = some (body, rest)) :
    declaredLengths width input =
      fromLeBytes (input.take width) :: declaredLengths width rest := by
  obtain ⟨hfits, -, rfl⟩ := parseFrame_eq_some.mp hparse
  exact declaredLengths_of_header hwidth (by omega)

/-- A buffer is in step with the stream it comes from: whatever follows, its
frames are the last frames of the stream. -/
def InStep (width : Nat) (stream buffer : List UInt8) : Prop :=
  ∀ more, declaredLengths width (buffer ++ more) <:+ declaredLengths width (stream ++ more)

theorem InStep.refl (width : Nat) (stream : List UInt8) : InStep width stream stream :=
  fun _ => List.suffix_rfl

theorem InStep.append {width : Nat} {stream buffer : List UInt8}
    (hinstep : InStep width stream buffer) (chunk : List UInt8) :
    InStep width (stream ++ chunk) (buffer ++ chunk) := by
  intro more
  simpa only [List.append_assoc] using hinstep (chunk ++ more)

/-- Removing the frame at the front keeps a buffer in step. -/
theorem InStep.parse {width : Nat} {stream buffer body rest : List UInt8} (hwidth : 0 < width)
    (hinstep : InStep width stream buffer)
    (hparse : parseFrame width buffer = some (body, rest)) : InStep width stream rest := by
  intro more
  have hframes := declaredLengths_of_parse hwidth (parseFrame_append more hparse)
  exact (List.suffix_cons _ _).trans (hframes ▸ hinstep more)

/-- A buffer without a complete frame, in step once more bytes are behind it, is
shorter than the largest declared frame. -/
theorem InStep.length_lt {width : Nat} {stream buffer more : List UInt8} (hwidth : 0 < width)
    (hinstep : InStep width stream (buffer ++ more)) (hparse : parseFrame width buffer = none) :
    buffer.length < width + largestDeclared width stream := by
  by_cases hheader : width ≤ buffer.length
  · have hshort := parseFrame_eq_none.mp hparse
    have hsuffix : declaredLengths width (buffer ++ more) <:+ declaredLengths width stream := by
      simpa only [List.append_nil] using hinstep []
    have hdeclared : fromLeBytes (buffer.take width) ∈ declaredLengths width stream := by
      apply hsuffix.subset
      rw [declaredLengths_of_header hwidth (by simp only [List.length_append]; omega),
        List.take_append_of_le_length hheader]
      exact List.mem_cons_self
    have hlargest := le_largestDeclared hdeclared
    omega
  · omega

/-- A frame completed by a chunk leaves less than the chunk behind it. -/
theorem length_rest_lt_chunk {width : Nat} {buffer chunk body rest : List UInt8}
    (hbuffer : parseFrame width buffer = none)
    (hparse : parseFrame width (buffer ++ chunk) = some (body, rest)) :
    rest.length < chunk.length := by
  have hshort := parseFrame_eq_none.mp hbuffer
  obtain ⟨hfits, -, rfl⟩ := parseFrame_eq_some.mp hparse
  simp only [List.length_append, List.length_drop] at hfits ⊢
  by_cases hheader : width ≤ buffer.length
  · rw [List.take_append_of_le_length hheader] at hfits ⊢
    omega
  · omega

end MangleWebRTC.Machine
