import MangleWebRTC.Machine.TransitionSystem
import MangleWebRTC.Upgrade.Framing

/-! # Receive calls that may be dropped

The receiving half of a transport seen from outside: calls of `recv_obj` are
created, polled, woken by reads, dropped at their await point or ended by an
I/O error. The buffer is all that survives a call. Every event either keeps the
bytes still to be consumed or completes a call as the reference parser does.
-/

namespace MangleWebRTC.Upgrade

open Machine

/-- A future is created without running any code; after its first poll it waits
in `stream.read`. -/
inductive CallPhase where
  | created
  | reading
  deriving DecidableEq, Repr

/-- The receive buffer, the bytes the stream has yet to hand out, and the call
in flight with the type it decodes. -/
structure Receiver (Ty : Type) where
  recvBuffer : List UInt8
  unread : List UInt8
  call : Option (CallPhase × Ty)

/-- The bytes not yet consumed by a call. -/
def Receiver.remaining {Ty : Type} (receiver : Receiver Ty) : List UInt8 :=
  receiver.recvBuffer ++ receiver.unread

/-- What can happen to a call. A read hands out the next `count` bytes; `eof` is
the read of no bytes at the end of the stream; an I/O error consumes nothing. -/
inductive CallEvent (Ty : Type) where
  | start (ty : Ty)
  | poll
  | read (count : Nat)
  | eof
  | ioError (code : Nat)
  | drop
  deriving DecidableEq, Repr

/-- What the caller sees of an event. -/
inductive CallOutput {Ty : Type} (Val : Ty → Type) (Err : Type) where
  | silent
  | returned (result : Received Val Err)
  | failed (error : IoError)
  | panicked

namespace Receiver

variable {Ty Err : Type} {Val : Ty → Type} (target : Target)
variable (deserialize : (ty : Ty) → List UInt8 → Except Err (Val ty))

/-- The state after the code of a call has run to its next await or its end. -/
def afterPoll (receiver : Receiver Ty) (ty : Ty) :
    Option (RecvPoll Err (Val ty)) → Receiver Ty × CallOutput Val Err
  | none => ({ receiver with call := none }, .panicked)
  | some (.ready result recvBuffer) =>
      ({ receiver with recvBuffer := recvBuffer, call := none }, .returned ⟨ty, result⟩)
  | some (.reading recvBuffer) =>
      ({ receiver with recvBuffer := recvBuffer, call := some (.reading, ty) }, .silent)

/-- One event of the receiver, with what its caller sees of it. -/
def step (receiver : Receiver Ty) : CallEvent Ty → Option (Receiver Ty × CallOutput Val Err)
  | .start ty =>
      match receiver.call with
      | none => some ({ receiver with call := some (.created, ty) }, .silent)
      | some _ => none
  -- The first poll runs up to the first `stream.read`.
  | .poll =>
      match receiver.call with
      | some (.created, ty) =>
          some (receiver.afterPoll ty
            (recvObjBuffered target (deserialize ty) receiver.recvBuffer))
      | _ => none
  | .read count =>
      match receiver.call with
      | some (.reading, ty) =>
          if 0 < count ∧ count ≤ 1024 ∧ count ≤ receiver.unread.length then
            some ({ receiver with unread := receiver.unread.drop count }.afterPoll ty
              (recvObjRead target (deserialize ty) receiver.recvBuffer
                (receiver.unread.take count)))
          else none
      | _ => none
  | .eof =>
      match receiver.call with
      | some (.reading, ty) =>
          if receiver.unread.isEmpty then
            some (receiver.afterPoll ty
              (recvObjRead target (deserialize ty) receiver.recvBuffer []))
          else none
      | _ => none
  | .ioError code =>
      match receiver.call with
      | some (.reading, _) => some ({ receiver with call := none }, .failed (.os code))
      | _ => none
  -- Another arm of a `select!` was taken; the buffer stays.
  | .drop =>
      match receiver.call with
      | some _ => some ({ receiver with call := none }, .silent)
      | none => none

/-- A call waits for the stream only while the buffer holds no complete frame. -/
def Waits (receiver : Receiver Ty) : Prop :=
  ∀ ty, receiver.call = some (.reading, ty) → parseFrame 4 receiver.recvBuffer = none

theorem waits_of_call_none {receiver : Receiver Ty} (hcall : receiver.call = none) :
    receiver.Waits := by
  intro ty hreading
  simp [hcall] at hreading

/-- The effect of an event: the caller sees nothing or an I/O error and no byte
is consumed, or the call in flight ends with the reference result. Without a
frame it ends at the end of the stream only. -/
inductive Effect (receiver : Receiver Ty) (event : CallEvent Ty) (next : Receiver Ty) :
    CallOutput Val Err → Prop
  | silent (hremaining : next.remaining = receiver.remaining) : Effect receiver event next .silent
  | failed (error : IoError) (hremaining : next.remaining = receiver.remaining) :
      Effect receiver event next (.failed error)
  | returned (phase : CallPhase) (ty : Ty) (hcall : receiver.call = some (phase, ty))
      (hidle : next.call = none)
      (hframe : event = .eof ∨ parseFrame 4 receiver.remaining ≠ none)
      (hremaining : next.remaining = (referenceRecv (deserialize ty) receiver.remaining).2) :
      Effect receiver event next
        (.returned ⟨ty, (referenceRecv (deserialize ty) receiver.remaining).1⟩)

/-- A poll decided by the front of the buffer is the reference step, or leaves
the call waiting with no complete frame. -/
theorem afterPoll_framePoll {receiver source : Receiver Ty} {event : CallEvent Ty}
    {phase : CallPhase} {ty : Ty} {recvBuffer : List UInt8}
    (hcall : source.call = some (phase, ty))
    (hbytes : source.remaining = recvBuffer ++ receiver.unread)
    {next : Receiver Ty} {output : CallOutput Val Err}
    (hnext : receiver.afterPoll ty (some (framePoll (deserialize ty) recvBuffer)) =
      (next, output)) :
    next.Waits ∧ Effect deserialize source event next output := by
  unfold framePoll at hnext
  cases hparse : parseFrame 4 recvBuffer with
  | some found =>
      rw [hparse] at hnext
      obtain ⟨rfl, rfl⟩ := Prod.mk.inj hnext
      have hwhole : parseFrame 4 source.remaining = some (found.1, found.2 ++ receiver.unread) :=
        hbytes ▸ parseFrame_append _ hparse
      have hreference := referenceRecv_of_parse (deserialize ty) hwhole
      refine ⟨waits_of_call_none rfl, ?_⟩
      have heffect : Effect deserialize source event
          { receiver with recvBuffer := found.2, call := none } _ :=
        .returned phase ty hcall rfl (.inr (by simp [hwhole])) (by rw [hreference]; rfl)
      rwa [hreference] at heffect
  | none =>
      rw [hparse] at hnext
      obtain ⟨rfl, rfl⟩ := Prod.mk.inj hnext
      exact ⟨fun _ _ => hparse, .silent hbytes.symm⟩

variable (overflowChecks : Bool)

/-- What an event can do on a 64-bit target: it keeps the waiting invariant, it
never panics, and its effect is that of the reference parser. -/
theorem step_effect {receiver next : Receiver Ty} {event : CallEvent Ty}
    {output : CallOutput Val Err} (hwaits : receiver.Waits)
    (hstep : receiver.step (.usize64 overflowChecks) deserialize event = some (next, output)) :
    next.Waits ∧ Effect deserialize receiver event next output := by
  cases event with
  | start ty =>
      simp only [step] at hstep
      split at hstep
      · obtain ⟨rfl, rfl⟩ := Prod.mk.inj (Option.some.inj hstep)
        exact ⟨fun _ hreading => by simp at hreading, .silent rfl⟩
      · cases hstep
  | poll =>
      simp only [step] at hstep
      split at hstep
      next ty hcall =>
        rw [recvObjBuffered_usize64] at hstep
        exact afterPoll_framePoll deserialize hcall rfl (Option.some.inj hstep)
      · cases hstep
  | read count =>
      simp only [step] at hstep
      split at hstep
      next ty hcall =>
        split at hstep
        next hcount =>
          have hbytes : receiver.unread.take count ≠ [] := by
            rw [Ne, List.take_eq_nil_iff, ← List.length_eq_zero_iff]
            omega
          rw [recvObjRead_usize64 _ _ _ _ hbytes] at hstep
          refine afterPoll_framePoll deserialize hcall ?_ (Option.some.inj hstep)
          simp [remaining, List.append_assoc]
        · cases hstep
      · cases hstep
  | eof =>
      simp only [step] at hstep
      split at hstep
      next ty hcall =>
        split at hstep
        next hend =>
          rw [recvObjRead_eof] at hstep
          obtain ⟨rfl, rfl⟩ := Prod.mk.inj (Option.some.inj hstep)
          have hunread : receiver.unread = [] := List.isEmpty_iff.mp hend
          have hparse : parseFrame 4 receiver.remaining = none := by
            rw [remaining, hunread, List.append_nil]
            exact hwaits ty hcall
          have hreference := referenceRecv_of_parse_none (deserialize ty) hparse
          refine ⟨waits_of_call_none rfl, ?_⟩
          have heffect : Effect deserialize receiver .eof { receiver with call := none } _ :=
            .returned .reading ty hcall rfl (.inl rfl) (by rw [hreference]; rfl)
          rwa [hreference] at heffect
        · cases hstep
      · cases hstep
  | ioError code =>
      simp only [step] at hstep
      split at hstep
      · obtain ⟨rfl, rfl⟩ := Prod.mk.inj (Option.some.inj hstep)
        exact ⟨waits_of_call_none rfl, .failed _ rfl⟩
      · cases hstep
  | drop =>
      simp only [step] at hstep
      split at hstep
      · obtain ⟨rfl, rfl⟩ := Prod.mk.inj (Option.some.inj hstep)
        exact ⟨waits_of_call_none rfl, .silent rfl⟩
      · cases hstep

/-- A call in flight was in flight before at the same type, or was just created. -/
theorem step_call {target : Target} {receiver next : Receiver Ty} {event : CallEvent Ty}
    {output : CallOutput Val Err}
    (hstep : receiver.step target deserialize event = some (next, output)) {phase : CallPhase}
    {ty : Ty} (hcall : next.call = some (phase, ty)) :
    event = .start ty ∨ ∃ earlier, receiver.call = some (earlier, ty) := by
  have hafter : ∀ {source : Receiver Ty} {decoded : Ty}
      {poll : Option (RecvPoll Err (Val decoded))},
      source.afterPoll decoded poll = (next, output) → decoded = ty := by
    intro source decoded poll hpoll
    unfold afterPoll at hpoll
    split at hpoll <;> obtain ⟨rfl, _⟩ := Prod.mk.inj hpoll <;> simp_all
  cases event with
  | start created =>
      simp only [step] at hstep
      split at hstep
      · obtain ⟨rfl, _⟩ := Prod.mk.inj (Option.some.inj hstep)
        simp only [Option.some.injEq, Prod.mk.injEq] at hcall
        exact .inl (hcall.2 ▸ rfl)
      · cases hstep
  | poll =>
      simp only [step] at hstep
      split at hstep
      next hbefore => exact .inr ⟨_, hafter (Option.some.inj hstep) ▸ hbefore⟩
      · cases hstep
  | read count =>
      simp only [step] at hstep
      split at hstep
      next hbefore =>
        split at hstep
        · exact .inr ⟨_, hafter (Option.some.inj hstep) ▸ hbefore⟩
        · cases hstep
      · cases hstep
  | eof =>
      simp only [step] at hstep
      split at hstep
      next hbefore =>
        split at hstep
        · exact .inr ⟨_, hafter (Option.some.inj hstep) ▸ hbefore⟩
        · cases hstep
      · cases hstep
  | ioError | drop =>
      simp only [step] at hstep
      split at hstep
      · obtain ⟨rfl, _⟩ := Prod.mk.inj (Option.some.inj hstep)
        cases hcall
      · cases hstep

end Receiver

end MangleWebRTC.Upgrade
