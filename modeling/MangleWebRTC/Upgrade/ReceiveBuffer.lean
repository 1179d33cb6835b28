import MangleWebRTC.Upgrade.HostileStream

/-! # What the receive buffer can hold

On a 64-bit target the buffer stays in step with the bytes that have arrived: it
is what the frames taken out of the stream so far have left. A call waits for
more input only without a complete frame, and the buffer never outgrows the
largest declared frame by more than one read.
-/

namespace MangleWebRTC.Upgrade

open Machine

variable {Ty Err : Type} {Val : Ty → Type}

namespace WatchedReceiver

/-- The invariant of the receive buffer, between calls and while one waits. A
buffer with a complete frame is what a decoding call left of its last read. -/
structure BufferInvariant (state : WatchedReceiver Ty Val Err) : Prop where
  inStep : InStep 4 state.arrived state.receiver.recvBuffer
  waits : state.receiver.Waits
  short : parseFrame 4 state.receiver.recvBuffer = none ∨
    state.receiver.recvBuffer.length ≤ 1023
  decoded : state.output.Decoded → state.receiver.recvBuffer.length ≤ 1023
  examined : ∀ buffer, state.examined = some buffer →
    buffer.length < 4 + largestDeclared 4 state.arrived + 1024

theorem BufferInvariant.ofStream (unread : List UInt8) :
    (ofStream unread : WatchedReceiver Ty Val Err).BufferInvariant where
  inStep := .refl 4 []
  waits := Receiver.waits_of_call_none rfl
  short := .inl rfl
  decoded := False.elim
  examined := nofun

theorem BufferInvariant.length_lt {state : WatchedReceiver Ty Val Err}
    (hinv : state.BufferInvariant) :
    state.receiver.recvBuffer.length < 4 + largestDeclared 4 state.arrived + 1024 := by
  obtain hparse | hshort := hinv.short
  · have hinstep : InStep 4 state.arrived (state.receiver.recvBuffer ++ []) := by
      simpa only [List.append_nil] using hinv.inStep
    have hlength := hinstep.length_lt (by norm_num) hparse
    omega
  · omega

section Steps

variable {overflowChecks : Bool} {deserialize : (ty : Ty) → List UInt8 → Except Err (Val ty)}

/-- The buffer that an event looks at: the bytes it adds arrive while no frame is
complete. -/
theorem BufferInvariant.examined_lt {target : Target} {state : WatchedReceiver Ty Val Err}
    (hinv : state.BufferInvariant) {event : CallEvent Ty} {next : Receiver Ty}
    {output : CallOutput Val Err}
    (hstep : state.receiver.step target deserialize event = some (next, output)) :
    (state.receiver.recvBuffer ++ state.receiver.arrives event).length <
      4 + largestDeclared 4 (state.arrived ++ state.receiver.arrives event) + 1024 := by
  obtain harrives | ⟨⟨ty, hcall⟩, hchunk⟩ := Receiver.step_arrives hstep
  · simpa only [harrives, List.append_nil] using hinv.length_lt
  · have hlength := (hinv.inStep.append (state.receiver.arrives event)).length_lt (by norm_num)
      (hinv.waits ty hcall)
    rw [List.length_append]
    omega

/-- A decoding call leaves at most 1023 bytes: what is left of one read, or of a
buffer that was as short before. -/
theorem BufferInvariant.rest_le {target : Target} {state : WatchedReceiver Ty Val Err}
    (hinv : state.BufferInvariant) {event : CallEvent Ty} {next : Receiver Ty}
    {output : CallOutput Val Err}
    (hstep : state.receiver.step target deserialize event = some (next, output))
    {body rest : List UInt8} (hparse : parseFrame 4
      (state.receiver.recvBuffer ++ state.receiver.arrives event) = some (body, rest)) :
    rest.length ≤ 1023 := by
  obtain harrives | ⟨⟨ty, hcall⟩, hchunk⟩ := Receiver.step_arrives hstep
  · rw [harrives, List.append_nil] at hparse
    obtain hnone | hshort := hinv.short
    · simp [hnone] at hparse
    · obtain ⟨-, -, rfl⟩ := parseFrame_eq_some.mp hparse
      simp only [List.length_drop]
      omega
  · have hrest := length_rest_lt_chunk (hinv.waits ty hcall) hparse
    omega

theorem BufferInvariant.step {state next : WatchedReceiver Ty Val Err} {event : CallEvent Ty}
    (hinv : state.BufferInvariant)
    (hnext : (watchedSystem (.usize64 overflowChecks) deserialize).step state event = some next) :
    next.BufferInvariant := by
  obtain ⟨hstep, harrived, hexamined⟩ := watchedSystem_step_eq_some hnext
  have hexaminedLt := hinv.examined_lt hstep
  rw [← harrived] at hexaminedLt
  have hinstep := hinv.inStep.append (state.receiver.arrives event)
  rw [← harrived] at hinstep
  obtain ⟨hexamines, source, ty, hafter⟩ | ⟨hexamines, harrives, hbuffer, hcall, -, hdecoded⟩ :=
    Receiver.step_cases hstep
  · have hlt : ∀ buffer, next.examined = some buffer →
        buffer.length < 4 + largestDeclared 4 next.arrived + 1024 := by
      intro buffer hlooked
      rw [hexamined, hexamines] at hlooked
      exact Option.some.inj hlooked ▸ hexaminedLt
    rw [recvObjBuffered_usize64] at hafter
    obtain ⟨body, hparse, hidle, -⟩ | ⟨hparse, hbuffer, houtput⟩ := Receiver.afterPoll_fits hafter
    · have hrest := hinv.rest_le hstep hparse
      exact ⟨hinstep.parse (by norm_num) hparse, Receiver.waits_of_call_none hidle, .inr hrest,
        fun _ => hrest, hlt⟩
    · rw [← hbuffer] at hparse hinstep
      exact ⟨hinstep, fun _ _ => hparse, .inl hparse, by simp [houtput, CallOutput.Decoded], hlt⟩
  · rw [harrives, List.append_nil] at hinstep
    refine ⟨hbuffer ▸ hinstep, fun ty hreading => absurd hreading (hcall ty), hbuffer ▸ hinv.short,
      fun hreturned => absurd hreturned hdecoded, ?_⟩
    simp [hexamined, hexamines]

/-- The receive buffer in every state of every schedule of calls, with any stream
and any cut of it into reads. While a call waits in `stream.read` the buffer has
no complete frame; a call that returned a value or a `DeserializeError` has left
at most 1023 bytes; and the buffer, also after the bytes of a read were added and
before the frame was removed, is shorter than `4 + L + 1024` for the largest
length `L` declared by the headers that have arrived. -/
theorem receive_buffer_bounded (state : WatchedReceiver Ty Val Err)
    (hreach : (watchedSystem (.usize64 overflowChecks) deserialize).Reachable state) :
    (∀ ty, state.receiver.call = some (.reading, ty) →
      parseFrame 4 state.receiver.recvBuffer = none) ∧
    (state.output.Decoded → state.receiver.recvBuffer.length ≤ 1023) ∧
    state.receiver.recvBuffer.length < 4 + largestDeclared 4 state.arrived + 1024 ∧
    ∀ buffer, state.examined = some buffer →
      buffer.length < 4 + largestDeclared 4 state.arrived + 1024 := by
  have hinv : state.BufferInvariant := by
    refine hreach.invariant BufferInvariant ?_ fun _ _ _ hinv _ hnext => hinv.step hnext
    rintro start ⟨unread, rfl⟩
    exact .ofStream unread
  exact ⟨hinv.waits, hinv.decoded, hinv.length_lt, hinv.examined⟩

end Steps

/-- One read delivers two frames; the first call returns and the second frame is
buffered. -/
theorem receive_buffer_bounded_two_frames :
    let system := watchedSystem (.usize64 true) byteOrUnitCodec.deserialize
    let start : WatchedReceiver Bool ByteOrUnit Unit :=
      .ofStream [1, 0, 0, 0, 7, 1, 0, 0, 0, 9]
    ∃ state, system.run start [.start true, .poll, .read 10] = some state ∧
      state.receiver.recvBuffer = [1, 0, 0, 0, 9] ∧
      ((∀ ty, state.receiver.call = some (.reading, ty) →
        parseFrame 4 state.receiver.recvBuffer = none) ∧
      (state.output.Decoded → state.receiver.recvBuffer.length ≤ 1023) ∧
      state.receiver.recvBuffer.length < 4 + largestDeclared 4 state.arrived + 1024 ∧
      ∀ buffer, state.examined = some buffer →
        buffer.length < 4 + largestDeclared 4 state.arrived + 1024) := by
  intro system start
  obtain ⟨state, hrun, hbuffer⟩ := system.exists_run_of_any start [.start true, .poll, .read 10]
    (fun state => decide (state.receiver.recvBuffer = [1, 0, 0, 0, 9])) (by decide +kernel)
  exact ⟨state, hrun, of_decide_eq_true hbuffer,
    receive_buffer_bounded state (.of_run ⟨_, rfl⟩ hrun)⟩

end WatchedReceiver

end MangleWebRTC.Upgrade
