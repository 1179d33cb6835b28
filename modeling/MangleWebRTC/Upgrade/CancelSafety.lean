import MangleWebRTC.Upgrade.Receiver
import MangleWebRTC.Upgrade.RoundTrip

/-! # Cancel safety of `recv_obj`

The results of the calls that run to completion do not depend on the calls that
were dropped or failed in between, nor on the cut of the stream into reads.
-/

namespace MangleWebRTC.Upgrade

open Machine

variable {Ty Err : Type} {Val : Ty → Type}

/-- A receiver with the results of the calls that ran to completion. -/
structure CallState (Ty : Type) (Val : Ty → Type) (Err : Type) where
  receiver : Receiver Ty
  completed : List (Received Val Err)

/-- The result of a completed call; an I/O error does not complete one. -/
def CallOutput.completed : CallOutput Val Err → List (Received Val Err)
  | .returned result => [result]
  | _ => []

/-- All schedules of calls on one receiver. -/
def callSystem (target : Target) (deserialize : (ty : Ty) → List UInt8 → Except Err (Val ty)) :
    TransitionSystem (CallState Ty Val Err) (CallEvent Ty) where
  init state := state.receiver.call = none ∧ state.completed = []
  step state event := (state.receiver.step target deserialize event).map
    fun (receiver, output) => ⟨receiver, state.completed ++ output.completed⟩

/-- Events of a schedule in which no call is dropped or failed. -/
def CallEvent.Undisturbed : CallEvent Ty → Prop
  | .start _ | .poll | .read _ | .eof => True
  | .ioError _ | .drop => False

instance (event : CallEvent Ty) : Decidable event.Undisturbed := by
  cases event <;> simp only [CallEvent.Undisturbed] <;> infer_instance

section Runs

variable (overflowChecks : Bool) (deserialize : (ty : Ty) → List UInt8 → Except Err (Val ty))

theorem callSystem_step_eq_some {target : Target} {state next : CallState Ty Val Err}
    {event : CallEvent Ty} :
    (callSystem target deserialize).step state event = some next ↔
      ∃ output, state.receiver.step target deserialize event = some (next.receiver, output) ∧
        next.completed = state.completed ++ output.completed := by
  simp only [callSystem, Option.map_eq_some_iff, Prod.exists]
  constructor
  · rintro ⟨receiver, output, hstep, rfl⟩
    exact ⟨output, hstep, rfl⟩
  · rintro ⟨output, hstep, hcompleted⟩
    exact ⟨next.receiver, output, hstep, by rw [← hcompleted]⟩

theorem callSystem_run_cons {target : Target} {receiver next : Receiver Ty}
    {event : CallEvent Ty} {output : CallOutput Val Err}
    (hstep : receiver.step target deserialize event = some (next, output))
    (completed : List (Received Val Err)) (events : List (CallEvent Ty)) :
    (callSystem target deserialize).run ⟨receiver, completed⟩ (event :: events) =
      (callSystem target deserialize).run ⟨next, completed ++ output.completed⟩ events := by
  have hnext : (callSystem target deserialize).step ⟨receiver, completed⟩ event =
      some ⟨next, completed ++ output.completed⟩ :=
    (callSystem_step_eq_some deserialize).mpr ⟨output, hstep, rfl⟩
  rw [TransitionSystem.run_cons, hnext, Option.bind_some]

/-- An event that adds nothing to the completed results. -/
theorem callSystem_run_silent {target : Target} {receiver next : Receiver Ty}
    {event : CallEvent Ty}
    (hstep : receiver.step target deserialize event = some (next, .silent))
    (completed : List (Received Val Err)) (events : List (CallEvent Ty)) :
    (callSystem target deserialize).run ⟨receiver, completed⟩ (event :: events) =
      (callSystem target deserialize).run ⟨next, completed⟩ events := by
  have hnone : (CallOutput.silent : CallOutput Val Err).completed = [] := rfl
  rw [callSystem_run_cons deserialize hstep, hnone, List.append_nil]

/-- An event that completes a call. -/
theorem callSystem_run_returned {target : Target} {receiver next : Receiver Ty}
    {event : CallEvent Ty} {result : Received Val Err}
    (hstep : receiver.step target deserialize event = some (next, .returned result))
    (completed : List (Received Val Err)) :
    (callSystem target deserialize).run ⟨receiver, completed⟩ [event] =
      some ⟨next, completed ++ [result]⟩ :=
  callSystem_run_cons deserialize hstep completed []

/-- One event of a schedule: the completed results and the remaining bytes both
stay, or one result is added and the bytes change as for the reference parser. -/
theorem callSystem_step {state next : CallState Ty Val Err} {event : CallEvent Ty}
    (hwaits : state.receiver.Waits)
    (hstep : (callSystem (.usize64 overflowChecks) deserialize).step state event = some next) :
    next.receiver.Waits ∧
      (next.completed = state.completed ∧
          next.receiver.remaining = state.receiver.remaining ∨
        ∃ ty, next.completed = state.completed ++
            [⟨ty, (referenceRecv (deserialize ty) state.receiver.remaining).1⟩] ∧
          next.receiver.remaining =
            (referenceRecv (deserialize ty) state.receiver.remaining).2) := by
  obtain ⟨output, houtput, hcompleted⟩ := (callSystem_step_eq_some deserialize).mp hstep
  obtain ⟨hnext, heffect⟩ := Receiver.step_effect deserialize overflowChecks hwaits houtput
  refine ⟨hnext, ?_⟩
  cases heffect with
  | silent hremaining => exact .inl ⟨by simpa [CallOutput.completed] using hcompleted, hremaining⟩
  | failed error hremaining =>
      exact .inl ⟨by simpa [CallOutput.completed] using hcompleted, hremaining⟩
  | returned phase ty hcall hidle hframe hremaining => exact .inr ⟨ty, hcompleted, hremaining⟩

/-- The completed calls of any schedule give the results of the reference parser
at their types. -/
theorem run_reference {state final : CallState Ty Val Err} {events : List (CallEvent Ty)}
    (hwaits : state.receiver.Waits)
    (hrun : (callSystem (.usize64 overflowChecks) deserialize).run state events = some final) :
    ∃ later, final.completed = state.completed ++ later ∧
      referenceRecvs deserialize (later.map Sigma.fst) state.receiver.remaining =
        (later, final.receiver.remaining) := by
  induction events generalizing state with
  | nil =>
      obtain rfl : state = final := by simpa using hrun
      exact ⟨[], by simp, rfl⟩
  | cons event events ih =>
      obtain ⟨next, hstep, hrest⟩ := Option.bind_eq_some_iff.mp hrun
      obtain ⟨hnext, hcases⟩ := callSystem_step overflowChecks deserialize hwaits hstep
      obtain ⟨later, hcompleted, hreference⟩ := ih hnext hrest
      obtain ⟨hsame, hremaining⟩ | ⟨ty, hadded, hremaining⟩ := hcases
      · exact ⟨later, hsame ▸ hcompleted, hremaining ▸ hreference⟩
      · rw [hremaining] at hreference
        refine ⟨⟨ty, (referenceRecv (deserialize ty) state.receiver.remaining).1⟩ :: later, ?_, ?_⟩
        · simp [hcompleted, hadded]
        · simp [referenceRecvs, hreference]

/-! ## An undisturbed schedule exists -/

/-- A waiting call completes by reads and at worst the end of the stream. The
induction is on the bytes the stream still holds. -/
theorem exists_undisturbed_reading (receiver : Receiver Ty) (ty : Ty)
    (hcall : receiver.call = some (.reading, ty)) (completed : List (Received Val Err)) :
    ∃ events next result, (∀ event ∈ events, CallEvent.Undisturbed event) ∧
      (callSystem (.usize64 overflowChecks) deserialize).run ⟨receiver, completed⟩ events =
        some ⟨next, completed ++ [⟨ty, result⟩]⟩ ∧ next.call = none := by
  induction hlength : receiver.unread.length using Nat.strong_induction_on
    generalizing receiver with
  | _ length ih =>
      subst hlength
      by_cases hunread : receiver.unread = []
      · have hstep : receiver.step (.usize64 overflowChecks) deserialize .eof =
            some ({ receiver with call := none },
              .returned ⟨ty, .error (.ioError .unexpectedEof)⟩) := by
          simp [Receiver.step, hcall, hunread, Receiver.afterPoll]
        exact ⟨[.eof], _, _, by simp [CallEvent.Undisturbed],
          callSystem_run_returned deserialize hstep completed, rfl⟩
      · have hpos : 0 < receiver.unread.length := List.length_pos_iff.mpr hunread
        let count := min 1024 receiver.unread.length
        have hcount : 0 < count ∧ count ≤ 1024 ∧ count ≤ receiver.unread.length := by omega
        have hbytes : receiver.unread.take count ≠ [] := by
          rw [Ne, List.take_eq_nil_iff, ← List.length_eq_zero_iff]
          omega
        have hstep : receiver.step (.usize64 overflowChecks) deserialize (.read count) =
            some ({ receiver with unread := receiver.unread.drop count }.afterPoll ty
              (some (framePoll (deserialize ty)
                (receiver.recvBuffer ++ receiver.unread.take count)))) := by
          simp only [Receiver.step, hcall, if_pos hcount, recvObjRead_usize64 _ _ _ _ hbytes]
        -- The read completes the frame, or the call goes on with fewer bytes to come.
        cases hparse : parseFrame 4 (receiver.recvBuffer ++ receiver.unread.take count) with
        | some found =>
            simp only [framePoll, hparse, Receiver.afterPoll] at hstep
            exact ⟨[.read count], _, _, by simp [CallEvent.Undisturbed],
              callSystem_run_returned deserialize hstep completed, rfl⟩
        | none =>
            simp only [framePoll, hparse, Receiver.afterPoll] at hstep
            obtain ⟨events, next, result, hevents, hrun, hidle⟩ :=
              ih (receiver.unread.drop count).length (by simp only [List.length_drop]; omega)
                { receiver with
                  unread := receiver.unread.drop count
                  recvBuffer := receiver.recvBuffer ++ receiver.unread.take count
                  call := some (.reading, ty) } rfl rfl
            refine ⟨.read count :: events, next, result, ?_, ?_, hidle⟩
            · simpa [CallEvent.Undisturbed] using hevents
            · rw [callSystem_run_silent deserialize hstep]
              exact hrun

theorem exists_undisturbed_call (receiver : Receiver Ty) (ty : Ty)
    (hcall : receiver.call = none) (completed : List (Received Val Err)) :
    ∃ events next result, (∀ event ∈ events, CallEvent.Undisturbed event) ∧
      (callSystem (.usize64 overflowChecks) deserialize).run ⟨receiver, completed⟩ events =
        some ⟨next, completed ++ [⟨ty, result⟩]⟩ ∧ next.call = none := by
  let created : Receiver Ty := { receiver with call := some (.created, ty) }
  have hstart : receiver.step (.usize64 overflowChecks) deserialize (.start ty) =
      some (created, .silent) := by
    simp [Receiver.step, hcall, created]
  have hpoll : created.step (.usize64 overflowChecks) deserialize .poll =
      some (created.afterPoll ty (some (framePoll (deserialize ty) created.recvBuffer))) := by
    simp only [Receiver.step, created, recvObjBuffered_usize64]
  cases hparse : parseFrame 4 created.recvBuffer with
  | some found =>
      simp only [framePoll, hparse, Receiver.afterPoll] at hpoll
      have hrun := callSystem_run_returned deserialize hpoll completed
      rw [← callSystem_run_silent deserialize hstart] at hrun
      exact ⟨[.start ty, .poll], _, _, by simp [CallEvent.Undisturbed], hrun, rfl⟩
  | none =>
      simp only [framePoll, hparse, Receiver.afterPoll] at hpoll
      obtain ⟨events, next, result, hevents, hrun, hidle⟩ :=
        exists_undisturbed_reading overflowChecks deserialize
          { created with call := some (.reading, ty) } ty rfl completed
      refine ⟨.start ty :: .poll :: events, next, result, ?_, ?_, hidle⟩
      · simpa [CallEvent.Undisturbed] using hevents
      · rw [callSystem_run_silent deserialize hstart, callSystem_run_silent deserialize hpoll]
        exact hrun

theorem exists_undisturbed_calls (tys : List Ty) (receiver : Receiver Ty)
    (hcall : receiver.call = none) (completed : List (Received Val Err)) :
    ∃ events final, (∀ event ∈ events, CallEvent.Undisturbed event) ∧
      (callSystem (.usize64 overflowChecks) deserialize).run ⟨receiver, completed⟩ events =
        some final ∧
      final.completed.map Sigma.fst = completed.map Sigma.fst ++ tys := by
  induction tys generalizing receiver completed with
  | nil => exact ⟨[], ⟨receiver, completed⟩, by simp, rfl, by simp⟩
  | cons ty tys ih =>
      obtain ⟨first, next, result, hfirst, hrun, hidle⟩ :=
        exists_undisturbed_call overflowChecks deserialize receiver ty hcall completed
      obtain ⟨rest, final, hrest, hrunRest, htypes⟩ := ih next hidle (completed ++ [⟨ty, result⟩])
      refine ⟨first ++ rest, final, ?_, ?_, by simpa using htypes⟩
      · intro event hevent
        exact (List.mem_append.mp hevent).elim (hfirst event) (hrest event)
      · rw [TransitionSystem.run_append, hrun]
        exact hrunRest

/-- Cancel safety of `recv_obj`. Take any schedule of calls that are started,
dropped while pending or ended by an I/O error. Some schedule without drops and
errors completes calls at the same types, and every such schedule, with any cut
of the stream into reads, completes them with the same results. At every point
the buffer followed by the unread stream changes only when a call returns a
decoded value or a decoding error, and then loses exactly that call's frame. -/
theorem recvObj_cancel_safe (start final : CallState Ty Val Err) (events : List (CallEvent Ty))
    (hstart : (callSystem (.usize64 overflowChecks) deserialize).init start)
    (hrun : (callSystem (.usize64 overflowChecks) deserialize).run start events = some final) :
    (∃ calm calmFinal, (∀ event ∈ calm, CallEvent.Undisturbed event) ∧
      (callSystem (.usize64 overflowChecks) deserialize).run start calm = some calmFinal ∧
      calmFinal.completed.map Sigma.fst = final.completed.map Sigma.fst) ∧
    (∀ calm calmFinal, (∀ event ∈ calm, CallEvent.Undisturbed event) →
      (callSystem (.usize64 overflowChecks) deserialize).run start calm = some calmFinal →
      calmFinal.completed.map Sigma.fst = final.completed.map Sigma.fst →
      calmFinal.completed = final.completed) ∧
    (∀ before event after state next, events = before ++ event :: after →
      (callSystem (.usize64 overflowChecks) deserialize).run start before = some state →
      (callSystem (.usize64 overflowChecks) deserialize).step state event = some next →
      (next.receiver.remaining = state.receiver.remaining ∧
        (next.completed = state.completed ∨
          ∃ ty, next.completed =
            state.completed ++ [⟨ty, .error (.ioError .unexpectedEof)⟩])) ∨
      ∃ ty body, parseFrame 4 state.receiver.remaining = some (body, next.receiver.remaining) ∧
        next.completed = state.completed ++
          [⟨ty, (deserialize ty body).mapError RecvError.deserializeError⟩]) := by
  have hwaits : start.receiver.Waits := Receiver.waits_of_call_none hstart.1
  have hreference : ∀ {other : CallState Ty Val Err} {schedule : List (CallEvent Ty)},
      (callSystem (.usize64 overflowChecks) deserialize).run start schedule = some other →
      other.completed = (referenceRecvs deserialize (other.completed.map Sigma.fst)
        start.receiver.remaining).1 := by
    intro other schedule hother
    obtain ⟨later, hcompleted, hlater⟩ :=
      run_reference overflowChecks deserialize hwaits hother
    rw [hstart.2, List.nil_append] at hcompleted
    rw [hcompleted, hlater]
  refine ⟨?_, ?_, ?_⟩
  · obtain ⟨calm, calmFinal, hcalm, hcalmRun, htypes⟩ := exists_undisturbed_calls overflowChecks
      deserialize (final.completed.map Sigma.fst) start.receiver hstart.1 start.completed
    exact ⟨calm, calmFinal, hcalm, hcalmRun, by simpa [hstart.2] using htypes⟩
  · intro calm calmFinal _ hcalmRun htypes
    rw [hreference hcalmRun, hreference hrun, htypes]
  · intro before event after state next _ hbefore hstep
    have hstate : state.receiver.Waits := by
      have hreach := TransitionSystem.ReachableFrom.of_run
        (TransitionSystem.guarded_true before start) hbefore
      exact hreach.invariant (fun state => state.receiver.Waits) hwaits
        fun _ _ _ hwaits _ hstep => (callSystem_step overflowChecks deserialize hwaits hstep).1
    obtain ⟨hsame, hremaining⟩ | ⟨ty, hadded, hremaining⟩ :=
      (callSystem_step overflowChecks deserialize hstate hstep).2
    · exact .inl ⟨hremaining, .inl hsame⟩
    · cases hparse : parseFrame 4 state.receiver.remaining with
      | some found =>
          rw [referenceRecv_of_parse _ hparse] at hadded hremaining
          exact .inr ⟨ty, found.1, by rw [hremaining], hadded⟩
      | none =>
          rw [referenceRecv_of_parse_none _ hparse] at hadded hremaining
          exact .inl ⟨hremaining, .inr ⟨ty, hadded⟩⟩

end Runs

/-- Two calls that are dropped and failed in the middle of a header, and then two
that complete. Every undisturbed schedule at these types gives the same byte and
the same unit. -/
theorem recvObj_cancel_safe_dropped :
    let system := callSystem (.usize64 true) byteOrUnitCodec.deserialize
    let start : CallState Bool ByteOrUnit Unit := ⟨⟨[], [1, 0, 0, 0, 7, 0, 0, 0, 0], none⟩, []⟩
    let events : List (CallEvent Bool) := [.start true, .poll, .read 2, .drop, .start true, .poll,
      .read 1, .ioError 104, .start true, .poll, .read 6, .start false, .poll]
    ∃ final, system.run start events = some final ∧
      final.completed = [⟨true, .ok (7 : UInt8)⟩, ⟨false, .ok ()⟩] ∧
      ∀ calm calmFinal, (∀ event ∈ calm, CallEvent.Undisturbed event) →
        system.run start calm = some calmFinal →
        calmFinal.completed.map Sigma.fst = final.completed.map Sigma.fst →
        calmFinal.completed = final.completed := by
  intro system start events
  obtain ⟨final, hrun, hcompleted⟩ := system.exists_run_of_any start events
    (fun final => decide (final.completed = [⟨true, .ok (7 : UInt8)⟩, ⟨false, .ok ()⟩]))
    (by decide +kernel)
  exact ⟨final, hrun, of_decide_eq_true hcompleted,
    (recvObj_cancel_safe true _ start final events ⟨rfl, rfl⟩ hrun).2.1⟩

end MangleWebRTC.Upgrade
