import MangleWebRTC.Upgrade.HeadOfLine

/-! # The tunnel server's run loop

`server_command` runs the upgrade server with an `on_err` that panics and callbacks
that ignore their `ServerHandle`. In a connection task the panic ends that task. The
loop itself awaits `on_err` for the errors of `accept`.
-/

namespace MangleWebRTC.Tunnel

open Machine Upgrade

variable {env : ServerEnvironment}

/-- `server.run(on_success, on_err!())`, with TLS or without. -/
def serverCommand (listener : RunConfig env) : RunConfig env :=
  { listener with onErr := fun _ => .panics, closes := false }

/-- The loop waits in `accept`. -/
def Serving (loop : RunLoop env) : Prop :=
  loop.phase = .accepting ∨ ∃ id, loop.phase = .handshaking id

/-- The loop waits in `accept`, now or later. -/
def WaitsAgain (listener : RunConfig env) (loop : RunLoop env) : Prop :=
  ∃ next, (runSystem (serverCommand listener)).ReachableFrom (fun _ _ => True) loop next ∧
    Serving next

/-- The event is no failure of an `accept`. -/
def Accepts : RunLoop env → RunEvent env → Prop
  | _, .acceptFails _ | _, .handshakeFails => False
  | _, _ => True

instance (loop : RunLoop env) : (event : RunEvent env) → Decidable (Accepts loop event)
  | .acceptFails _ | .handshakeFails => inferInstanceAs (Decidable False)
  | .connect | .send _ _ | .disconnect _ _ | .accept | .handshakeDone | .onErrDone | .close
  | .task _ _ => inferInstanceAs (Decidable True)

variable {listener : RunConfig env} {loop next : RunLoop env} {event : RunEvent env}

/-- A step of a connection task, its panic included, changes that task only. -/
theorem task_step_frame {config : RunConfig env} {index : Nat} {event : ConnectionTask.Event env}
    (hstep : RunLoop.Step config loop (.task index event) next) :
    next.phase = loop.phase ∧ next.backlog = loop.backlog ∧
      ∀ other, other ≠ index → next.tasks[other]? = loop.tasks[other]? := by
  cases hstep with
  | task _ _ id task changed hentry hnext =>
      refine ⟨rfl, rfl, fun other hother => ?_⟩
      exact (getElem?_set_of_some hentry other).trans (if_neg hother)

theorem Serving.step (hserving : Serving loop) (haccepts : Accepts loop event)
    (hstep : RunLoop.Step (serverCommand listener) loop event next) : Serving next := by
  cases hstep with
  | connect | send | disconnect => exact hserving
  | task index event id task changed hentry hnext =>
      rw [Serving, (task_step_frame (.task index event id task changed hentry hnext)).1]
      exact hserving
  | spawns | handshakeDone => exact .inl rfl
  | handshakes id => exact .inr ⟨id, rfl⟩
  | acceptFails | handshakeFails => cases haccepts
  | onErrReturns _ hphase | onErrPanics _ hphase =>
      rcases hserving with hother | ⟨_, hother⟩ <;> cases hphase.symm.trans hother
  | close _ hcloses => cases hcloses

/-- The loop is in its `on_err`, or has panicked. -/
def Lost (loop : RunLoop env) : Prop :=
  (∃ error, loop.phase = .reporting error) ∨ loop.phase = .unwound

theorem Lost.step (hlost : Lost loop)
    (hstep : RunLoop.Step (serverCommand listener) loop event next) : Lost next := by
  cases hstep with
  | connect | send | disconnect | task => exact hlost
  | onErrReturns _ _ hreturns => cases hreturns
  | onErrPanics => exact .inr rfl
  | close _ hcloses => cases hcloses
  | spawns _ _ hphase | handshakes _ _ hphase | acceptFails _ hphase
  | handshakeDone _ _ _ hphase | handshakeFails _ _ _ _ hphase =>
      rcases hlost with ⟨_, hother⟩ | hother <;> cases hphase.symm.trans hother

theorem Lost.not_waitsAgain (hlost : Lost loop) : ¬ WaitsAgain listener loop := by
  rintro ⟨next, hreach, hserving⟩
  have hnext : Lost next :=
    hreach.invariant Lost hlost fun _ _ _ hstate _ hstep => hstate.step (.of_step hstep)
  rcases hserving with hphase | ⟨_, hphase⟩ <;> rcases hnext with ⟨_, hother⟩ | hother <;>
    cases hphase.symm.trans hother

/-- The tunnel server's loop waits in `accept` again after every step of a run, if and only
if no `accept` of the run fails: no TLS handshake is refused or cut off, and the operating
system reports no error. -/
theorem waitsAgain_iff_accepts (listener : RunConfig env) {events : List (RunEvent env)}
    {final : RunLoop env}
    (hrun : (runSystem (serverCommand listener)).run .start events = some final) :
    (runSystem (serverCommand listener)).Throughout (WaitsAgain listener) .start events ↔
      (runSystem (serverCommand listener)).Guarded Accepts .start events := by
  apply TransitionSystem.throughout_iff_guarded Serving _ _ _ (.inl rfl) hrun
  · intro loop hserving
    exact ⟨loop, .refl, hserving⟩
  · intro loop event next hserving haccepts hstep
    exact hserving.step haccepts (.of_step hstep)
  · intro loop event next _ hfails hstep
    have hcases := RunLoop.Step.of_step hstep
    apply Lost.not_waitsAgain
    cases hcases with
    | acceptFails | handshakeFails => exact .inl ⟨_, rfl⟩
    | _ => exact absurd trivial hfails

/-- A client with TLS whose first message does not decode: its task panics. -/
def badOffer : List (RunEvent byteServer) :=
  [.connect, .send 0 [22], .accept, .handshakeDone,
    .task 0 (.receivedOffer (.error (.deserializeError ()))), .task 0 .panics]

theorem waitsAgain_bad_offer :
    ∃ loop, (runSystem (serverCommand tlsConfig)).run .start badOffer = some loop ∧
      loop.tasks.length = 1 ∧ WaitsAgain tlsConfig loop := by
  obtain ⟨loop, hrun, htasks⟩ := (runSystem (serverCommand tlsConfig)).exists_run_of_any .start
    badOffer (fun loop => loop.tasks.length = 1) (by decide +kernel)
  refine ⟨loop, hrun, of_decide_eq_true htasks, ?_⟩
  apply ((waitsAgain_iff_accepts tlsConfig hrun).mpr _).final hrun
  apply TransitionSystem.guarded_of_check
  decide +kernel

/-- A byte that is no handshake, on a server with TLS. -/
def badHandshake : List (RunEvent byteServer) :=
  [.connect, .send 0 [0], .accept, .handshakeFails, .onErrDone]

/-- One client with one byte ends the server. -/
theorem bad_handshake_unwinds :
    ∃ loop, (runSystem (serverCommand tlsConfig)).run .start badHandshake = some loop ∧
      loop.phase = .unwound ∧ ¬ WaitsAgain tlsConfig loop := by
  refine ⟨⟨[⟨[0], none⟩], [], .unwound, []⟩, rfl, rfl, ?_⟩
  exact Lost.not_waitsAgain (.inr rfl)

end MangleWebRTC.Tunnel
