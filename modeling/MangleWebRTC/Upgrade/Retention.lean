import MangleWebRTC.Upgrade.HeadOfLine

/-! # Handles of ended tasks

`running_tasks` gets the handle of every connection task and gives none back. A server
that runs for long holds as many as it has accepted connections, when all of its clients
have gone and all of the tasks have ended.
-/

namespace MangleWebRTC.Upgrade

open Machine

namespace RunLoop

variable {env : ServerEnvironment} {config : RunConfig env} {loop next : RunLoop env}

/-- The handles of `running_tasks`, by their connections. -/
def handles (loop : RunLoop env) : List Nat := loop.tasks.map Prod.fst

theorem handles_of_step {event : RunEvent env} (hstep : Step config loop event next) :
    loop.handles <+: next.handles := by
  cases hstep with
  | connect | send | disconnect | handshakes | acceptFails | handshakeFails | onErrReturns
  | onErrPanics => exact List.prefix_refl _
  | spawns | handshakeDone =>
      rw [handles, handles, spawn, List.map_append]
      exact List.prefix_append _ _
  | close =>
      rw [handles, handles, List.map_map]
      exact List.prefix_refl _
  | task index event id task after hentry =>
      have hsame : (loop.tasks.set index (id, after)).map Prod.fst = loop.tasks.map Prod.fst :=
        map_set_of_eq hentry rfl
      rw [handles, handles, hsame]

/-- All clients have gone, and all tasks have ended. -/
structure Deserted (loop : RunLoop env) : Prop where
  phase : loop.phase = .accepting
  backlog : loop.backlog = []
  clients : ∀ client ∈ loop.clients, client.gone.isSome = true
  tasks : ∀ entry ∈ loop.tasks, entry.2.phase.running = false

/-- A client can be served: it can get through the handshake, if there is one. -/
def CanServe (config : RunConfig env) : Prop :=
  ∀ acceptor, config.acceptor = some acceptor → ∃ bytes, acceptor bytes = .done

/-- A client that connects, completes its handshake and leaves: its task has not run yet. -/
theorem Deserted.exists_spawned (hserve : CanServe config) (hdeserted : loop.Deserted) :
    ∃ bytes, (runSystem config).ReachableFrom (fun _ _ => True) loop
      ⟨loop.clients ++ [⟨bytes, some .unexpectedEof⟩], [], .accepting,
        loop.tasks ++ [(loop.clients.length, .start)]⟩ := by
  obtain ⟨hphase, hbacklog, -, -⟩ := hdeserted
  cases hacceptor : config.acceptor with
  | none =>
      have hrun : (runSystem config).run loop [.connect, .accept,
          .disconnect loop.clients.length .unexpectedEof] =
            some ⟨loop.clients ++ [⟨[], some .unexpectedEof⟩], [], .accepting,
              loop.tasks ++ [(loop.clients.length, .start)]⟩ := by
        simp [runSystem, step, setClient, spawn, hphase, hbacklog, hacceptor]
      exact ⟨[], .of_run (TransitionSystem.guarded_true _ loop) hrun⟩
  | some acceptor =>
      obtain ⟨bytes, hdone⟩ := hserve acceptor hacceptor
      have hrun : (runSystem config).run loop [.connect, .send loop.clients.length bytes, .accept,
          .handshakeDone, .disconnect loop.clients.length .unexpectedEof] =
            some ⟨loop.clients ++ [⟨bytes, some .unexpectedEof⟩], [], .accepting,
              loop.tasks ++ [(loop.clients.length, .start)]⟩ := by
        simp [runSystem, step, setClient, spawn, hphase, hbacklog, hacceptor, hdone]
      exact ⟨bytes, .of_run (TransitionSystem.guarded_true _ loop) hrun⟩

/-- A task that gets the end of file reports it and ends, when `on_err` returns or panics. -/
theorem exists_task_ended (honErr : config.onErr (.ioError .unexpectedEof) ≠ .hangs)
    {tasks : List (Nat × ConnectionTask env)} {id : Nat}
    (htasks : loop.tasks = tasks ++ [(id, .start)]) :
    ∃ ended : ConnectionTask env, ended.phase.running = false ∧
      (runSystem config).ReachableFrom (fun _ _ => True) loop
        { loop with tasks := tasks ++ [(id, ended)] } := by
  let gone : ConnectionTask.Event env := .receivedOffer (.error (.ioError .unexpectedEof))
  let trace : List (ConnectionTask.Action env) := [.onErr (.ioError .unexpectedEof)]
  let reporting : ConnectionTask env := ⟨.reporting (.ioError .unexpectedEof), 0, trace⟩
  have hgone : (runSystem config).step loop (.task tasks.length gone) =
      some { loop with tasks := tasks ++ [(id, reporting)] } := by
    have hreport : ConnectionTask.start.step (config.clientId id) gone = some reporting := rfl
    simp [runSystem, step, htasks, allows, hreport, gone]
  have hreported : (runSystem config).ReachableFrom (fun _ _ => True) loop
      { loop with tasks := tasks ++ [(id, reporting)] } := .tail .refl trivial hgone
  cases hdone : config.onErr (.ioError .unexpectedEof) with
  | returns =>
      have hreturned : (runSystem config).step { loop with tasks := tasks ++ [(id, reporting)] }
          (.task tasks.length .onErrReturned) =
            some { loop with tasks := tasks ++ [(id, ⟨.ended, 0, trace⟩)] } := by
        simp [runSystem, step, allows, ConnectionTask.step, hdone, reporting]
      exact ⟨⟨.ended, 0, trace⟩, rfl, .tail hreported trivial hreturned⟩
  | panics =>
      have hpanicked : (runSystem config).step { loop with tasks := tasks ++ [(id, reporting)] }
          (.task tasks.length .panics) =
            some { loop with tasks := tasks ++ [(id, ⟨.panicked, 0, trace⟩)] } := by
        simp [runSystem, step, allows, ConnectionTask.step, ConnectionTask.Phase.running, reporting]
      exact ⟨⟨.panicked, 0, trace⟩, rfl, .tail hreported trivial hpanicked⟩
  | hangs => exact absurd hdone honErr

/-- A client that comes and goes leaves a handle behind. -/
theorem Deserted.visit (honErr : config.onErr (.ioError .unexpectedEof) ≠ .hangs)
    (hserve : CanServe config) (hdeserted : loop.Deserted) :
    ∃ later, (runSystem config).ReachableFrom (fun _ _ => True) loop later ∧ later.Deserted ∧
      later.handles.length = loop.handles.length + 1 := by
  obtain ⟨bytes, hspawned⟩ := hdeserted.exists_spawned hserve
  obtain ⟨ended, hended, hleft⟩ := @exists_task_ended env config
    ⟨loop.clients ++ [⟨bytes, some .unexpectedEof⟩], [], .accepting,
      loop.tasks ++ [(loop.clients.length, .start)]⟩ honErr loop.tasks loop.clients.length rfl
  obtain ⟨-, -, hclients, htasks⟩ := hdeserted
  refine ⟨_, hspawned.trans hleft, ⟨rfl, rfl, ?_, ?_⟩, ?_⟩
  · intro client hmem
    rcases List.mem_append.mp hmem with hmem | hmem
    · exact hclients client hmem
    · rw [List.mem_singleton.mp hmem]
      rfl
  · intro entry hmem
    rcases List.mem_append.mp hmem with hmem | hmem
    · exact htasks entry hmem
    · rw [List.mem_singleton.mp hmem]
      exact hended
  · simp [handles]

/-- In every run of every server `running_tasks` only grows. A server that can serve a client,
and whose `on_err` does not hang when the client has left, can hold any number of handles with
all clients gone and all tasks ended. -/
theorem handles_retained (config : RunConfig env) :
    (∀ loop later, (runSystem config).ReachableFrom (fun _ _ => True) loop later →
      loop.handles <+: later.handles) ∧
    (config.onErr (.ioError .unexpectedEof) ≠ .hangs → CanServe config →
      ∀ count, ∃ loop, (runSystem config).Reachable loop ∧ loop.Deserted ∧
        loop.handles.length = count) := by
  constructor
  · intro loop later hlater
    apply hlater.invariant fun later => loop.handles <+: later.handles
    · exact List.prefix_refl _
    · intro state event next hprefix _ hstep
      exact hprefix.trans (handles_of_step (.of_step hstep))
  · intro honErr hserve count
    induction count with
    | zero =>
        refine ⟨.start, ⟨_, rfl, .refl⟩, ⟨rfl, rfl, ?_, ?_⟩, rfl⟩ <;> intro _ hmem <;> cases hmem
    | succ count ih =>
        obtain ⟨loop, hreach, hdeserted, hcount⟩ := ih
        obtain ⟨later, hvisit, hlater, hmore⟩ := hdeserted.visit honErr hserve
        exact ⟨later, hreach.trans hvisit, hlater, hcount ▸ hmore⟩

/-- Three clients have come and gone, at a server with TLS whose `on_err` panics. -/
theorem handles_retained_three :
    ∃ loop, (runSystem { tlsConfig with onErr := fun _ => .panics }).Reachable loop ∧
      loop.Deserted ∧ loop.handles.length = 3 :=
  (handles_retained { tlsConfig with onErr := fun _ => .panics }).2 Outcome.noConfusion
    (fun _ hacceptor => ⟨[22], Option.some.inj hacceptor ▸ rfl⟩) 3

end RunLoop

end MangleWebRTC.Upgrade
