import MangleWebRTC.Upgrade.CancelSafety

/-! # Headers from an unauthenticated peer

The length behind a header is the peer's choice over the whole range of `u32`.
The receive path adds four to it in a `usize`. Here the target is one of 32 or
64 bits in either build profile, and every event of a schedule is watched: the
buffer whose front the code looks at and what the caller sees.
-/

namespace MangleWebRTC.Upgrade

open Machine

/-- The targets on which `usize` has 32 bits, in either build profile. -/
def Target.usize32 (overflowChecks : Bool) : Target := ⟨32, overflowChecks⟩

/-! ## The size behind a header -/

section Size

variable {Err Val : Type} {target : Target} (deserialize : List UInt8 → Except Err Val)

theorem fromLeBytes_take_lt {recvBuffer : List UInt8} (hheader : 4 ≤ recvBuffer.length) :
    fromLeBytes (recvBuffer.take 4) < 2 ^ 32 := by
  have hvalue := fromLeBytes_lt (recvBuffer.take 4)
  rw [List.length_take, Nat.min_eq_left hheader] at hvalue
  exact hvalue.trans_eq (by norm_num)

theorem asUsize_header (hword : 32 ≤ target.usizeBits) {recvBuffer : List UInt8}
    (hheader : 4 ≤ recvBuffer.length) :
    target.asUsize (fromLeBytes (recvBuffer.take 4)) = fromLeBytes (recvBuffer.take 4) :=
  Nat.mod_eq_of_lt
    ((fromLeBytes_take_lt hheader).trans_le (Nat.pow_le_pow_right (by norm_num) hword))

/-- A header whose size fits in `usize` is handled as on a target without limits. -/
theorem recvObjBuffered_of_fits (hword : 32 ≤ target.usizeBits) {recvBuffer : List UInt8}
    (hfits : 4 ≤ recvBuffer.length →
      fromLeBytes (recvBuffer.take 4) + 4 < 2 ^ target.usizeBits) :
    recvObjBuffered target deserialize recvBuffer = some (framePoll deserialize recvBuffer) := by
  apply recvObjBuffered_of_add
  intro hheader
  rw [asUsize_header hword hheader, Target.add, if_pos (hfits hheader)]

/-- A header whose size does not fit panics in both profiles: at the addition, or
with a wrapped size of at most three at the split behind the header. -/
theorem recvObjBuffered_of_overflow (hword : 32 ≤ target.usizeBits) {recvBuffer : List UInt8}
    (hheader : 4 ≤ recvBuffer.length)
    (hoverflow : 2 ^ target.usizeBits ≤ fromLeBytes (recvBuffer.take 4) + 4) :
    recvObjBuffered target deserialize recvBuffer = none := by
  have hlength : (recvBuffer.take 4).length = 4 := by simpa using hheader
  unfold recvObjBuffered
  simp only [if_pos hheader, splitAt, toArray4, hlength, asUsize_header hword hheader,
    Target.add, if_neg (Nat.not_lt.mpr hoverflow), Option.bind_eq_bind, Option.bind_some,
    ↓reduceIte]
  cases target.overflowChecks with
  | true => rfl
  | false =>
      have hvalue : fromLeBytes (recvBuffer.take 4) < 2 ^ target.usizeBits :=
        (fromLeBytes_take_lt hheader).trans_le (Nat.pow_le_pow_right (by norm_num) hword)
      have hwrapped : (fromLeBytes (recvBuffer.take 4) + 4) % 2 ^ target.usizeBits < 4 := by
        rw [Nat.mod_eq_sub_mod hoverflow]
        exact (Nat.mod_le _ _).trans_lt (by omega)
      have hinside : (fromLeBytes (recvBuffer.take 4) + 4) % 2 ^ target.usizeBits ≤
          recvBuffer.length := by omega
      simp [hinside, Nat.not_le.mpr hwrapped]

end Size

/-! ## Schedules under watch -/

variable {Ty Err : Type} {Val : Ty → Type}

/-- The buffer whose front the code of an event looks at. -/
def Receiver.examines (receiver : Receiver Ty) : CallEvent Ty → Option (List UInt8)
  | .poll => some receiver.recvBuffer
  | .read count => some (receiver.recvBuffer ++ receiver.unread.take count)
  | _ => none

/-- The bytes an event takes from the stream. -/
def Receiver.arrives (receiver : Receiver Ty) : CallEvent Ty → List UInt8
  | .read count => receiver.unread.take count
  | _ => []

/-- A receiver with all bytes its reads have returned so far and, of the last
event, the buffer it looked at and what the caller saw. -/
structure WatchedReceiver (Ty : Type) (Val : Ty → Type) (Err : Type) where
  receiver : Receiver Ty
  arrived : List UInt8
  examined : Option (List UInt8)
  output : CallOutput Val Err

/-- `StreamTransport::from`: an empty buffer, whatever the stream will hand out. -/
def WatchedReceiver.ofStream (unread : List UInt8) : WatchedReceiver Ty Val Err :=
  ⟨⟨[], unread, none⟩, [], none, .silent⟩

/-- The call has panicked. -/
def CallOutput.isPanic : CallOutput Val Err → Bool
  | .panicked => true
  | _ => false

/-- The call returned a value or a `DeserializeError`. -/
def CallOutput.Decoded : CallOutput Val Err → Prop
  | .returned ⟨_, .ok _⟩ | .returned ⟨_, .error (.deserializeError _)⟩ => True
  | _ => False

/-- All schedules of calls on one transport. A panic unwinds the task that owns
the transport, so nothing follows it. -/
def watchedSystem (target : Target)
    (deserialize : (ty : Ty) → List UInt8 → Except Err (Val ty)) :
    TransitionSystem (WatchedReceiver Ty Val Err) (CallEvent Ty) where
  init state := ∃ unread, state = .ofStream unread
  step state event :=
    if state.output.isPanic then none
    else (state.receiver.step target deserialize event).map fun (receiver, output) =>
      ⟨receiver, state.arrived ++ state.receiver.arrives event, state.receiver.examines event,
        output⟩

theorem watchedSystem_step_eq_some {target : Target}
    {deserialize : (ty : Ty) → List UInt8 → Except Err (Val ty)}
    {state next : WatchedReceiver Ty Val Err} {event : CallEvent Ty}
    (hnext : (watchedSystem target deserialize).step state event = some next) :
    state.receiver.step target deserialize event = some (next.receiver, next.output) ∧
      next.arrived = state.arrived ++ state.receiver.arrives event ∧
      next.examined = state.receiver.examines event := by
  simp only [watchedSystem] at hnext
  split at hnext
  · cases hnext
  · obtain ⟨⟨receiver, output⟩, hstep, rfl⟩ := Option.map_eq_some_iff.mp hnext
    exact ⟨hstep, rfl, rfl⟩

section Events

variable {target : Target} {deserialize : (ty : Ty) → List UInt8 → Except Err (Val ty)}

/-- What an event does: its code looks at the buffer with the new bytes behind it
and acts on what it finds, or it leaves the buffer alone and no call is left
waiting for the stream. -/
theorem Receiver.step_cases {receiver next : Receiver Ty} {event : CallEvent Ty}
    {output : CallOutput Val Err}
    (hstep : receiver.step target deserialize event = some (next, output)) :
    (receiver.examines event = some (receiver.recvBuffer ++ receiver.arrives event) ∧
      ∃ (source : Receiver Ty) (ty : Ty), source.afterPoll ty (recvObjBuffered target
        (deserialize ty) (receiver.recvBuffer ++ receiver.arrives event)) = (next, output)) ∨
    (receiver.examines event = none ∧ receiver.arrives event = [] ∧
      next.recvBuffer = receiver.recvBuffer ∧ (∀ ty, next.call ≠ some (.reading, ty)) ∧
      output.isPanic = false ∧ ¬ output.Decoded) := by
  cases event with
  | start ty =>
      simp only [step] at hstep
      split at hstep
      · obtain ⟨rfl, rfl⟩ := Prod.mk.inj (Option.some.inj hstep)
        exact .inr ⟨rfl, rfl, rfl, by simp, rfl, not_false⟩
      · cases hstep
  | poll =>
      simp only [step] at hstep
      split at hstep
      next ty hcall =>
        refine .inl ⟨by simp [examines, arrives], receiver, ty, ?_⟩
        simpa only [arrives, List.append_nil] using Option.some.inj hstep
      · cases hstep
  | read count =>
      simp only [step] at hstep
      split at hstep
      next ty hcall =>
        split at hstep
        next hcount =>
          have hbytes : receiver.unread.take count ≠ [] := by
            rw [Ne, List.take_eq_nil_iff, ← List.length_eq_zero_iff]
            omega
          rw [recvObjRead_eq_buffered _ _ _ _ hbytes] at hstep
          exact .inl ⟨rfl, _, ty, Option.some.inj hstep⟩
        · cases hstep
      · cases hstep
  | eof =>
      simp only [step] at hstep
      split at hstep
      next ty hcall =>
        split at hstep
        · rw [recvObjRead_eof] at hstep
          obtain ⟨rfl, rfl⟩ := Prod.mk.inj (Option.some.inj hstep)
          exact .inr ⟨rfl, rfl, rfl, by simp, rfl, not_false⟩
        · cases hstep
      · cases hstep
  | ioError | drop =>
      simp only [step] at hstep
      split at hstep
      · obtain ⟨rfl, rfl⟩ := Prod.mk.inj (Option.some.inj hstep)
        exact .inr ⟨rfl, rfl, rfl, by simp, rfl, not_false⟩
      · cases hstep

/-- Only a call that waits for the stream takes bytes, at most 1024 at once. -/
theorem Receiver.step_arrives {receiver next : Receiver Ty} {event : CallEvent Ty}
    {output : CallOutput Val Err}
    (hstep : receiver.step target deserialize event = some (next, output)) :
    receiver.arrives event = [] ∨
      (∃ ty, receiver.call = some (.reading, ty)) ∧ (receiver.arrives event).length ≤ 1024 := by
  cases event with
  | read count =>
      simp only [step] at hstep
      split at hstep
      next ty hcall =>
        split at hstep
        next hcount =>
          refine .inr ⟨⟨ty, hcall⟩, ?_⟩
          simp only [arrives, List.length_take]
          omega
        · cases hstep
      · cases hstep
  | start | poll | eof | ioError | drop => exact .inl rfl

/-- The code after a poll or a read whose size fits: the frame at the front is
decoded and removed, or the call waits and the buffer has no complete frame. -/
theorem Receiver.afterPoll_fits {source next : Receiver Ty} {ty : Ty} {buffer : List UInt8}
    {output : CallOutput Val Err}
    (hafter : source.afterPoll ty (some (framePoll (deserialize ty) buffer)) = (next, output)) :
    (∃ body, parseFrame 4 buffer = some (body, next.recvBuffer) ∧ next.call = none ∧
      output = .returned ⟨ty, (deserialize ty body).mapError RecvError.deserializeError⟩) ∨
    (parseFrame 4 buffer = none ∧ next.recvBuffer = buffer ∧ output = .silent) := by
  unfold framePoll at hafter
  cases hparse : parseFrame 4 buffer with
  | some found =>
      rw [hparse] at hafter
      obtain ⟨rfl, rfl⟩ := Prod.mk.inj hafter
      exact .inl ⟨found.1, rfl, rfl, rfl⟩
  | none =>
      rw [hparse] at hafter
      obtain ⟨rfl, rfl⟩ := Prod.mk.inj hafter
      exact .inr ⟨rfl, rfl, rfl⟩

end Events

/-! ## No panic while every size fits -/

/-- The last event was free of the faults of a hostile length: no index or
conversion panicked, the size behind the header it looked at did not overflow, and
what it decoded is the whole body the header declares. -/
structure SoundReceive (target : Target)
    (deserialize : (ty : Ty) → List UInt8 → Except Err (Val ty))
    (state : WatchedReceiver Ty Val Err) : Prop where
  noPanic : state.output.isPanic = false
  noOverflow : ∀ buffer, state.examined = some buffer → 4 ≤ buffer.length →
    fromLeBytes (buffer.take 4) + 4 < 2 ^ target.usizeBits
  exact : state.output.Decoded → ∃ buffer ty body, state.examined = some buffer ∧
    parseFrame 4 buffer = some (body, state.receiver.recvBuffer) ∧
    state.output = .returned ⟨ty, (deserialize ty body).mapError RecvError.deserializeError⟩

/-- The target has 64 bits, or the header an event looks at declares a length
below `2 ^ 32 - 4`. -/
def HeaderFits (target : Target) (state : WatchedReceiver Ty Val Err)
    (event : CallEvent Ty) : Prop :=
  ∀ buffer, state.receiver.examines event = some buffer → 4 ≤ buffer.length →
    target.usizeBits = 64 ∨ fromLeBytes (buffer.take 4) < 2 ^ 32 - 4

instance (target : Target) (state : WatchedReceiver Ty Val Err) (event : CallEvent Ty) :
    Decidable (HeaderFits target state event) :=
  inferInstanceAs (Decidable (∀ buffer ∈ state.receiver.examines event, 4 ≤ buffer.length →
    target.usizeBits = 64 ∨ fromLeBytes (buffer.take 4) < 2 ^ 32 - 4))

section Sound

variable {target : Target} {deserialize : (ty : Ty) → List UInt8 → Except Err (Val ty)}

theorem header_fits_iff (hword : target.usizeBits = 32 ∨ target.usizeBits = 64)
    {buffer : List UInt8} (hheader : 4 ≤ buffer.length) :
    (target.usizeBits = 64 ∨ fromLeBytes (buffer.take 4) < 2 ^ 32 - 4) ↔
      fromLeBytes (buffer.take 4) + 4 < 2 ^ target.usizeBits := by
  have hvalue := fromLeBytes_take_lt hheader
  obtain hbits | hbits := hword <;> rw [hbits] <;> omega

theorem step_sound (hword : target.usizeBits = 32 ∨ target.usizeBits = 64)
    {state next : WatchedReceiver Ty Val Err} {event : CallEvent Ty}
    (hfits : HeaderFits target state event)
    (hnext : (watchedSystem target deserialize).step state event = some next) :
    SoundReceive target deserialize next := by
  obtain ⟨hstep, -, hexamined⟩ := watchedSystem_step_eq_some hnext
  obtain ⟨hexamines, source, ty, hafter⟩ | ⟨hexamines, -, -, -, hpanic, hdecoded⟩ :=
    Receiver.step_cases hstep
  · rw [hexamines] at hexamined
    have hsize : 4 ≤ (state.receiver.recvBuffer ++ state.receiver.arrives event).length →
        fromLeBytes ((state.receiver.recvBuffer ++ state.receiver.arrives event).take 4) + 4 <
          2 ^ target.usizeBits :=
      fun hheader => (header_fits_iff hword hheader).mp (hfits _ hexamines hheader)
    rw [recvObjBuffered_of_fits _ (by omega) hsize] at hafter
    have hoverflow : ∀ buffer, next.examined = some buffer → 4 ≤ buffer.length →
        fromLeBytes (buffer.take 4) + 4 < 2 ^ target.usizeBits := by
      intro buffer hbuffer
      obtain rfl := Option.some.inj (hexamined.symm.trans hbuffer)
      exact hsize
    obtain ⟨body, hparse, -, houtput⟩ | ⟨-, -, houtput⟩ := Receiver.afterPoll_fits hafter
    · exact ⟨by rw [houtput]; rfl, hoverflow, fun _ => ⟨_, ty, body, hexamined, hparse, houtput⟩⟩
    · refine ⟨by rw [houtput]; rfl, hoverflow, fun hdecoded => ?_⟩
      rw [houtput] at hdecoded
      exact hdecoded.elim
  · exact ⟨hpanic, by simp [hexamined, hexamines], fun hnone => absurd hnone hdecoded⟩

/-- An event that looks at a header whose size does not fit panics. -/
theorem step_panics (hword : target.usizeBits = 32 ∨ target.usizeBits = 64)
    {state next : WatchedReceiver Ty Val Err} {event : CallEvent Ty}
    (hfits : ¬ HeaderFits target state event)
    (hnext : (watchedSystem target deserialize).step state event = some next) :
    next.output.isPanic = true := by
  obtain ⟨hstep, -, -⟩ := watchedSystem_step_eq_some hnext
  obtain ⟨buffer, hbuffer, hheader, hhostile⟩ : ∃ buffer,
      state.receiver.examines event = some buffer ∧ 4 ≤ buffer.length ∧
        ¬ (target.usizeBits = 64 ∨ fromLeBytes (buffer.take 4) < 2 ^ 32 - 4) := by
    simpa only [HeaderFits, not_forall, exists_prop] using hfits
  obtain ⟨hexamines, source, ty, hafter⟩ | ⟨hexamines, -⟩ := Receiver.step_cases hstep
  · obtain rfl := Option.some.inj (hexamines.symm.trans hbuffer)
    have hoverflow := mt (header_fits_iff hword hheader).mpr hhostile
    rw [recvObjBuffered_of_overflow _ (by omega) hheader (Nat.not_lt.mp hoverflow)] at hafter
    rw [← (Prod.mk.inj hafter).2]
    rfl
  · simp [hexamines] at hbuffer

/-- The receive path against a hostile peer, on 32 and 64 bits and in both build
profiles, for every stream, every cut of it into reads and every sequence of calls
completed or cancelled: a run has no panic, no overflowing size and no decode of
anything but a whole declared body if and only if the target has 64 bits or every
header looked at declares a length below `2 ^ 32 - 4`. -/
theorem recvObj_sound_iff (hword : target.usizeBits = 32 ∨ target.usizeBits = 64)
    {start final : WatchedReceiver Ty Val Err} {events : List (CallEvent Ty)}
    (hstart : (watchedSystem target deserialize).init start)
    (hrun : (watchedSystem target deserialize).run start events = some final) :
    (watchedSystem target deserialize).Throughout (SoundReceive target deserialize)
      start events ↔
    (watchedSystem target deserialize).Guarded (HeaderFits target) start events := by
  obtain ⟨unread, rfl⟩ := hstart
  refine TransitionSystem.throughout_iff_guarded (SoundReceive target deserialize)
    (fun _ hsound => hsound) (fun _ _ _ _ hfits hnext => step_sound hword hfits hnext) ?_
    ⟨rfl, nofun, False.elim⟩ hrun
  intro state event next _ hfits hnext hsound
  simpa [hsound.noPanic] using step_panics hword hfits hnext

end Sound

/-- A frame of one byte on 32 bits: the header is read in two pieces and a call in
between is dropped. -/
theorem recvObj_sound_split_header :
    let target := Target.usize32 false
    let start : WatchedReceiver Bool ByteOrUnit Unit := .ofStream [1, 0, 0, 0, 7]
    let events := [.start true, .poll, .read 2, .drop, .start true, .poll, .read 3]
    ∃ final, (watchedSystem target byteOrUnitCodec.deserialize).run start events = some final ∧
      (watchedSystem target byteOrUnitCodec.deserialize).Throughout
        (SoundReceive target byteOrUnitCodec.deserialize) start events := by
  intro target start events
  obtain ⟨final, hrun, -⟩ := (watchedSystem target byteOrUnitCodec.deserialize).exists_run_of_any
    start events (fun final => !final.output.isPanic) (by decide +kernel)
  have hguarded : (watchedSystem target byteOrUnitCodec.deserialize).Guarded
      (HeaderFits target) start events := TransitionSystem.guarded_of_check (by decide +kernel)
  exact ⟨final, hrun, (recvObj_sound_iff (.inl rfl) ⟨_, rfl⟩ hrun).mpr hguarded⟩

/-- Four bytes from a peer end a call in a panic on 32 bits, whether the build
checks the addition or wraps it. -/
theorem recvObj_panics :
    let checked := watchedSystem (.usize32 true) byteOrUnitCodec.deserialize
    let wrapping := watchedSystem (.usize32 false) byteOrUnitCodec.deserialize
    let start : WatchedReceiver Bool ByteOrUnit Unit := .ofStream [0xFC, 0xFF, 0xFF, 0xFF]
    let events := [.start true, .poll, .read 4]
    (∃ final, checked.run start events = some final ∧ final.output.isPanic = true ∧
      ¬ checked.Throughout (SoundReceive (.usize32 true) byteOrUnitCodec.deserialize)
        start events) ∧
    ∃ final, wrapping.run start events = some final ∧ final.output.isPanic = true ∧
      ¬ wrapping.Throughout (SoundReceive (.usize32 false) byteOrUnitCodec.deserialize)
        start events := by
  intro checked wrapping start events
  constructor
  · obtain ⟨final, hrun, hpanic⟩ := checked.exists_run_of_any start events
      (fun final => final.output.isPanic) (by decide +kernel)
    refine ⟨final, hrun, hpanic, fun hsound => ?_⟩
    simp [(hsound.final hrun).noPanic] at hpanic
  · obtain ⟨final, hrun, hpanic⟩ := wrapping.exists_run_of_any start events
      (fun final => final.output.isPanic) (by decide +kernel)
    refine ⟨final, hrun, hpanic, fun hsound => ?_⟩
    simp [(hsound.final hrun).noPanic] at hpanic

end MangleWebRTC.Upgrade
