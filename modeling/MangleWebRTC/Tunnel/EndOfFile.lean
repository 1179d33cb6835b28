import MangleWebRTC.Tunnel.ClientRelay

/-! # The relay after the end of the local stream

The loop of the relay looks at no read's length: a read of no bytes goes back to
`select!`, where the next read returns no bytes again. The receiving arm is the only
one with a `break`.
-/

namespace MangleWebRTC.Tunnel

open Machine TransitionSystem

namespace ClientRelay

/-- A read of the local stream has returned 0. -/
def SawEof (relay : ClientRelay) : Prop := [] ∈ relay.chunks

/-- With finitely many messages to come, the task takes finitely many steps only, in
every execution. -/
def LeavesLoop (relay : ClientRelay) : Prop :=
  ∀ execution : clientRelaySystem.Execution relay,
    execution.FinitelyOften (fun event => ∃ msg, event = .message msg) →
      execution.FinitelyOften ClientRelayEvent.OfTask

/-- The relay ends after the end of file. -/
def EndsAfterEof (relay : ClientRelay) : Prop := relay.SawEof → relay.LeavesLoop

/-- The step is not a poll of the reading arm at the end of the local stream. -/
def ReadsInput (relay : ClientRelay) : ClientRelayEvent → Prop
  | .pollRead _ => relay.incoming ≠ [] ∨ relay.finished = false
  | _ => True

instance (relay : ClientRelay) (event : ClientRelayEvent) :
    Decidable (relay.ReadsInput event) := by
  cases event <;> simp only [ReadsInput] <;> infer_instance

/-- The relay is in its `select!` and the local stream has ended. -/
def AtEof (relay : ClientRelay) : Prop :=
  relay.tcp.phase = .select ∧ relay.readPending = false ∧ relay.incoming = [] ∧
    relay.finished = true

/-- Nothing to send: the loop of sends is not entered. -/
theorem step_read_nil {tcp : ClientTcp} (hselect : tcp.phase = .select) :
    tcp.step (.read []) = some tcp := by
  simp [ClientTcp.step, ClientTcp.sendingPhase, ← hselect]

/-- A read at the end of the local stream returns 0 and leads back to `select!`. -/
theorem step_pollRead_atEof {relay : ClientRelay} (heof : relay.AtEof) :
    ∃ next, clientRelaySystem.step relay (.pollRead 0) = some next ∧ next.AtEof := by
  obtain ⟨hselect, hpending, hincoming, hfinished⟩ := heof
  refine ⟨{ relay.takeArm relay.tcp with chunks := relay.chunks ++ [[]] }, ?_,
    hselect, rfl, hincoming, hfinished⟩
  simp [clientRelaySystem, step, pollRead, hselect, hpending, hincoming, hfinished,
    step_read_nil hselect, takeArm]

/-- At the end of the local stream the relay can spin forever: every read returns 0,
without a message and without input. -/
theorem not_leavesLoop_of_atEof {relay : ClientRelay} (heof : relay.AtEof) :
    ¬ relay.LeavesLoop := by
  obtain ⟨execution, hevents⟩ : ∃ execution : clientRelaySystem.Execution relay,
      ∀ time, execution.events time = .pollRead 0 :=
    exists_execution_of_repeat (fun _ => step_pollRead_atEof) heof
  intro hleaves
  have hquiet : execution.FinitelyOften (fun event => ∃ msg, event = .message msg) :=
    ⟨0, fun time _ => by simp [hevents]⟩
  obtain ⟨bound, hbound⟩ := hleaves execution hquiet
  have hnone := hbound bound le_rfl
  rw [hevents] at hnone
  exact hnone trivial

/-- What the body of the reading arm gets by a step: input or nothing, or the empty
chunk of a poll at the end of the local stream. -/
theorem step_chunks {relay next : ClientRelay} {event : ClientRelayEvent}
    (hstep : relay.step event = some next) :
    (relay.ReadsInput event ∧ ∃ chunks, [] ∉ chunks ∧ next.chunks = relay.chunks ++ chunks) ∨
      (¬ relay.ReadsInput event ∧ next.AtEof ∧ next.SawEof) := by
  have hsame : relay.ReadsInput event → next.chunks = relay.chunks →
      relay.ReadsInput event ∧ ∃ chunks, [] ∉ chunks ∧ next.chunks = relay.chunks ++ chunks :=
    fun hreads hchunks => ⟨hreads, [], by simp, by simp [hchunks]⟩
  cases Step.of_step hstep with
  | opens | message | enqueueMessage | dropHandler | localBytes | localEof | establish | receives
  | breaks | recvWaits | sendReturns | writeSome | wrote | fails => exact .inl (hsame trivial rfl)
  | readWaits count _ hfinished => exact .inl (hsame (.inr hfinished) rfl)
  | reads count tcp hselect hfinished hcount htcp =>
      by_cases hincoming : relay.incoming = []
      · rw [hincoming, List.take_nil, step_read_nil hselect] at htcp
        obtain rfl := Option.some.inj htcp
        refine .inr ⟨by simp [ReadsInput, hincoming, hfinished hincoming], ?_, ?_⟩
        · exact ⟨hselect, rfl, by simp [hincoming], hfinished hincoming⟩
        · simp [SawEof, hincoming]
      · refine .inl ⟨.inl hincoming, [relay.incoming.take count], ?_, rfl⟩
        simpa [List.take_eq_nil_iff, hincoming] using Nat.ne_of_gt (hcount hincoming)

/-- The relay ends after the end of file in exactly the runs that never poll the
reading arm at the end of the local stream, whatever the traffic and the
interleaving: the first read that returns 0 has an execution behind it that takes
steps forever with no message to come. -/
theorem ends_after_eof_iff {events : List ClientRelayEvent} {final : ClientRelay}
    (hrun : clientRelaySystem.run start events = some final) :
    clientRelaySystem.Throughout EndsAfterEof start events ↔
      clientRelaySystem.Guarded ReadsInput start events := by
  refine throughout_iff_guarded (fun relay => ¬ relay.SawEof)
    (fun relay hnone hsaw => absurd hsaw hnone) ?_ ?_ (by simp [SawEof, start]) hrun
  · intro relay event next hnone hreads hnext
    obtain ⟨-, chunks, hchunks, hnextChunks⟩ | ⟨hguard, -⟩ := step_chunks hnext
    · simp only [SawEof] at hnone ⊢
      rw [hnextChunks, List.mem_append, not_or]
      exact ⟨hnone, hchunks⟩
    · exact absurd hreads hguard
  · intro relay event next _ hguard hnext hends
    obtain ⟨hreads, -⟩ | ⟨-, heof, hsaw⟩ := step_chunks hnext
    · exact hguard hreads
    · exact not_leavesLoop_of_atEof heof (hends hsaw)

/-- A local peer sends one byte, a message goes the other way, and nothing is closed. -/
theorem ends_after_eof_traffic :
    let events : List ClientRelayEvent := [.opens, .establish, .pollRead 0, .message [7],
      .enqueueMessage, .pollRecv, .writeSome 1, .wrote, .localBytes [1], .pollRead 1]
    ∃ final, clientRelaySystem.run start events = some final ∧
      clientRelaySystem.Throughout EndsAfterEof start events := by
  intro events
  obtain ⟨final, hrun, -⟩ := clientRelaySystem.exists_run_of_any start events
    (fun _ => true) (by decide +kernel)
  have hguarded : clientRelaySystem.Guarded ReadsInput start events :=
    guarded_of_check (by decide +kernel)
  exact ⟨final, hrun, (ends_after_eof_iff hrun).mpr hguarded⟩

/-- The local peer closes its side before it sends anything, and the relay spins. -/
theorem spins_after_eof :
    ∃ final, clientRelaySystem.run start [.opens, .establish, .localEof, .pollRead 0] =
        some final ∧ final.SawEof ∧ ¬ final.LeavesLoop := by
  obtain ⟨final, hrun, hfinal⟩ := clientRelaySystem.exists_run_of_any start
    [.opens, .establish, .localEof, .pollRead 0]
    (fun final => decide ([] ∈ final.chunks ∧ final.tcp.phase = .select ∧
      final.readPending = false ∧ final.incoming = [] ∧ final.finished = true))
    (by decide +kernel)
  obtain ⟨hsaw, heof⟩ := of_decide_eq_true hfinal
  exact ⟨final, hrun, hsaw, not_leavesLoop_of_atEof heof⟩

end ClientRelay

end MangleWebRTC.Tunnel
