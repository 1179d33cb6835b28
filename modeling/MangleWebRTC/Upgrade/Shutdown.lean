import MangleWebRTC.Upgrade.Lifecycle
import MangleWebRTC.Upgrade.RunLoop

/-! # Peer connections at the shutdown of the server

`close_server` makes `run` abort every connection task at the await where it stands.
The code of a round that closes its peer is behind `returning!`, which an abort never
reaches: what becomes of a peer depends on where its task is aborted.
-/

namespace MangleWebRTC.Upgrade

open Machine

namespace ConnectionTask

variable {env : ServerEnvironment} {clientId : String}

/-- The peer has been given to `on_success` or closed. -/
def HandedOrClosed (trace : List (Action env)) (peer : Nat) : Prop :=
  (∃ clientId, .onSuccess peer clientId ∈ trace) ∨ .closed peer ∈ trace

/-- An action inside a round: the creation of its peer, or an end marker. -/
def Action.ofRound : Action env → Bool
  | .created _ | .endSent _ | .endReceived _ => true
  | .closed _ | .onSuccess _ _ | .onErr _ => false

/-- The last thing the task did belongs to a round. A task that was stopped inside a
round still stands there. -/
def insideRound (task : ConnectionTask env) : Bool := task.trace.getLast?.any Action.ofRound

theorem insideRound_of_concat {task : ConnectionTask env} {trace : List (Action env)}
    {action : Action env} (htrace : task.trace = trace ++ [action]) :
    task.insideRound = action.ofRound := by
  simp [insideRound, htrace]

theorem handed_iff {trace : List (Action env)} {peer : Nat} :
    0 < trace.countP (Action.handsOver peer) ↔ ∃ clientId, .onSuccess peer clientId ∈ trace := by
  rw [List.countP_pos_iff]
  constructor
  · rintro ⟨action, hmem, hhands⟩
    cases action with
    | onSuccess other clientId =>
        obtain rfl : other = peer := by simpa [Action.handsOver] using hhands
        exact ⟨clientId, hmem⟩
    | created | endSent | endReceived | closed | onErr => cases hhands
  · rintro ⟨clientId, hmem⟩
    exact ⟨_, hmem, by simp [Action.handsOver]⟩

theorem closed_iff {trace : List (Action env)} {peer : Nat} :
    0 < trace.countP (Action.closes peer) ↔ .closed peer ∈ trace := by
  rw [List.countP_pos_iff]
  constructor
  · rintro ⟨action, hmem, hcloses⟩
    cases action with
    | closed other =>
        obtain rfl : other = peer := by simpa [Action.closes] using hcloses
        exact hmem
    | created | endSent | endReceived | onSuccess | onErr => cases hcloses
  · intro hmem
    exact ⟨_, hmem, by simp [Action.closes]⟩

theorem handedOrClosed_iff {trace : List (Action env)} {peer handed closed : Nat}
    (hsettled : Settled trace peer handed closed) :
    HandedOrClosed trace peer ↔ 0 < handed ∨ 0 < closed := by
  obtain ⟨rfl, rfl⟩ := hsettled
  rw [handed_iff, closed_iff, HandedOrClosed]

/-- Inside a round the peer at hand is neither handed over nor closed; outside every
peer is. -/
structure Accounted (task : ConnectionTask env) : Prop where
  inside : task.insideRound = true →
    ∃ peer, .created peer ∈ task.trace ∧ ¬ HandedOrClosed task.trace peer
  outside : task.insideRound = false →
    ∀ peer, .created peer ∈ task.trace → HandedOrClosed task.trace peer

theorem Rounds.insideRound {task : ConnectionTask env} {rounds : Nat}
    (hrounds : Rounds clientId rounds task.trace) : task.insideRound = false := by
  generalize htrace : task.trace = trace at hrounds
  cases hrounds with
  | start => simp [ConnectionTask.insideRound, htrace]
  | round => exact insideRound_of_concat htrace

theorem Reported.insideRound {task : ConnectionTask env} (hreported : task.Reported clientId) :
    task.insideRound = false := by
  cases hreported with
  | between error _ htrace | inRound error _ _ _ htrace => exact insideRound_of_concat htrace

theorem OpenRound.insideRound {task : ConnectionTask env} {peer : Nat}
    {marks : List (Action env)} (hround : OpenRound clientId task peer marks) :
    task.insideRound = true := by
  obtain ⟨done, -, htrace⟩ := hround.trace
  rcases marks.eq_nil_or_concat with rfl | ⟨rest, action, rfl⟩
  · exact insideRound_of_concat htrace
  · have hlast : task.trace = (done ++ .created peer :: rest) ++ [action] := by simp [htrace]
    rw [insideRound_of_concat hlast]
    rcases hround.marks action (by simp) with rfl | rfl <;> rfl

/-- At an await of its own, a task is inside a round exactly at the awaits from
`set_remote_description` to `peer.close()`. -/
theorem Shape.insideRound_iff {task : ConnectionTask env} (hshape : task.Shape clientId) :
    task.insideRound = true ↔ ∃ peer point, task.phase = .inRound peer point := by
  cases hphase : task.phase with
  | awaitingOffer | creatingPeer | succeeding =>
      simp only [Shape, hphase] at hshape
      simp [hshape.insideRound]
  | inRound peer point =>
      obtain ⟨marks, hround, -⟩ := hshape.openRound hphase
      simp [hround.insideRound]
  | reporting | ended =>
      simp only [Shape, hphase] at hshape
      simp [hshape.insideRound]
  | panicked | aborted => simp only [Shape, hphase] at hshape

theorem Shape.accounted {task : ConnectionTask env} (hshape : task.Shape clientId) :
    task.Accounted := by
  have hlifecycle := hshape.lifecycle
  constructor
  · intro hinside
    obtain ⟨peer, point, hphase⟩ := hshape.insideRound_iff.mp hinside
    obtain ⟨marks, hround, -⟩ := hshape.openRound hphase
    obtain ⟨done, hdone, htrace⟩ := hround.trace
    refine ⟨peer, by simp [htrace], ?_⟩
    have hunsettled := (settled_openRound hround.marks peer 0 0).mpr (hdone.unsettled le_rfl)
    rw [htrace, handedOrClosed_iff hunsettled]
    simp
  · intro hinside peer hmem
    cases hreported : task.phase.reported with
    | false =>
        obtain hsettled | ⟨howns, -⟩ := (hlifecycle.running hreported).2 peer hmem
        · exact (handedOrClosed_iff hsettled).mpr (.inl Nat.one_pos)
        · -- A peer that the task owns is that of its round.
          refine absurd (hshape.insideRound_iff.mpr ?_) (by simp [hinside])
          cases hphase : task.phase <;> simp_all [Phase.owns]
    | true =>
        obtain ⟨before, error, htrace, -, hall⟩ := hlifecycle.reported hreported
        rw [htrace] at hmem ⊢
        have hbefore : HandedOrClosed before peer := by
          obtain hsettled | hsettled := hall peer (by simpa using hmem)
          · exact (handedOrClosed_iff hsettled).mpr (.inl Nat.one_pos)
          · exact (handedOrClosed_iff hsettled).mpr (.inr Nat.one_pos)
        obtain ⟨clientId, hhanded⟩ | hclosed := hbefore
        · exact .inl ⟨clientId, List.mem_append_left _ hhanded⟩
        · exact .inr (List.mem_append_left _ hclosed)

/-- Only a running task takes steps. -/
theorem running_of_step {task next : ConnectionTask env} {event : Event env}
    (hstep : task.step clientId event = some next) : task.phase.running = true := by
  cases hphase : task.phase with
  | ended | panicked | aborted =>
      cases event <;> simp [ConnectionTask.step, hphase, Phase.running] at hstep
  | awaitingOffer | creatingPeer | inRound | succeeding | reporting => rfl

/-- A panic or an abort stops the task where it is. -/
theorem trace_of_not_ordinary {task next : ConnectionTask env} {event : Event env}
    (hevent : ¬ event.Ordinary) (hstep : task.step clientId event = some next) :
    next.trace = task.trace ∧ next.phase.running = false := by
  have hrunning := running_of_step hstep
  cases event with
  | panics | abort =>
      cases hphase : task.phase <;>
        simp only [ConnectionTask.step, hphase, Phase.running, ↓reduceIte, Bool.false_eq_true,
          Option.some.injEq, reduceCtorEq] at hstep <;>
        exact hstep ▸ ⟨rfl, rfl⟩
  | _ => exact absurd trivial hevent

/-- With panics and aborts at any await, the peers of a task are accounted for in every
state it can reach. -/
theorem accounted_of_reachable {task : ConnectionTask env}
    (hreach : (connectionSystem env clientId).Reachable task) : task.Accounted := by
  have hstopped : ∃ before : ConnectionTask env, before.Shape clientId ∧
      before.trace = task.trace ∧ (task.phase.running = true → before = task) := by
    apply hreach.invariant fun task => ∃ before : ConnectionTask env, before.Shape clientId ∧
      before.trace = task.trace ∧ (task.phase.running = true → before = task)
    · rintro start rfl
      exact ⟨.start, .start, rfl, fun _ => rfl⟩
    · rintro task event next ⟨before, hshape, htrace, hsame⟩ - hstep
      obtain rfl := hsame (running_of_step hstep)
      by_cases hevent : event.Ordinary
      · exact ⟨next, hshape.step hevent hstep, rfl, fun _ => rfl⟩
      · obtain ⟨hnext, hstops⟩ := trace_of_not_ordinary hevent hstep
        exact ⟨before, hshape, hnext.symm, fun hrunning => by simp [hstops] at hrunning⟩
  obtain ⟨before, hshape, htrace, -⟩ := hstopped
  have hinside : before.insideRound = task.insideRound := by
    rw [ConnectionTask.insideRound, htrace, ConnectionTask.insideRound]
  obtain ⟨hlost, hsettled⟩ := hshape.accounted
  rw [hinside, htrace] at hlost hsettled
  exact ⟨hlost, hsettled⟩

end ConnectionTask

namespace RunLoop

variable {env : ServerEnvironment} {config : RunConfig env}

/-- When `run` has returned after `close_server`, every peer that a connection task has
created and not handed over is closed. -/
def NoLeak (loop : RunLoop env) : Prop :=
  loop.phase = .closed → ∀ entry ∈ loop.tasks, ∀ peer, .created peer ∈ entry.2.trace →
    ConnectionTask.HandedOrClosed entry.2.trace peer

/-- A shutdown finds no connection task inside a round. -/
def ClosesBetweenRounds (loop : RunLoop env) : RunEvent env → Prop
  | .close => ∀ entry ∈ loop.tasks, entry.2.insideRound = false
  | _ => True

instance (loop : RunLoop env) :
    (event : RunEvent env) → Decidable (ClosesBetweenRounds loop event)
  | .close => inferInstanceAs (Decidable (∀ entry ∈ loop.tasks, entry.2.insideRound = false))
  | .connect | .send _ _ | .disconnect _ _ | .accept | .acceptFails _ | .handshakeDone
  | .handshakeFails | .onErrDone | .task _ _ => inferInstanceAs (Decidable True)

/-- Every task is in a state of its own system; after the shutdown none is running or
inside a round. -/
structure ShutdownInvariant (config : RunConfig env) (loop : RunLoop env) : Prop where
  known : ∀ entry ∈ loop.tasks,
    (connectionSystem env (config.clientId entry.1)).Reachable entry.2
  stopped : loop.phase = .closed → ∀ entry ∈ loop.tasks,
    entry.2.phase.running = false ∧ entry.2.insideRound = false

theorem ShutdownInvariant.noLeak {loop : RunLoop env} (hinv : loop.ShutdownInvariant config) :
    loop.NoLeak := by
  intro hclosed entry hmem
  exact (ConnectionTask.accounted_of_reachable (hinv.known entry hmem)).outside
    (hinv.stopped hclosed entry hmem).2

theorem insideRound_abortTask (task : ConnectionTask env) :
    (abortTask task).insideRound = task.insideRound := by
  unfold abortTask
  split <;> rfl

theorem running_abortTask (task : ConnectionTask env) :
    (abortTask task).phase.running = false := by
  unfold abortTask
  split
  · rfl
  next hrunning => simpa using hrunning

/-- An abort is a step of the task, or the task has ended before. -/
theorem reachable_abortTask {clientId : String} {task : ConnectionTask env}
    (hreach : (connectionSystem env clientId).Reachable task) :
    (connectionSystem env clientId).Reachable (abortTask task) := by
  unfold abortTask
  split
  next hrunning =>
    have habort : task.step clientId .abort = some { task with phase := .aborted } := by
      cases hphase : task.phase <;>
        simp_all [ConnectionTask.step, ConnectionTask.Phase.running]
    exact hreach.tail trivial habort
  · exact hreach

theorem ShutdownInvariant.step {loop next : RunLoop env} {event : RunEvent env}
    (hinv : loop.ShutdownInvariant config) (hguard : loop.ClosesBetweenRounds event)
    (hstep : loop.step config event = some next) : next.ShutdownInvariant config := by
  cases Step.of_step hstep with
  | connect | send | disconnect => exact ⟨hinv.known, hinv.stopped⟩
  | spawns id | handshakeDone id =>
      refine ⟨fun entry hmem => ?_, fun hclosed => by cases hclosed⟩
      rcases List.mem_append.mp hmem with hmem | hmem
      · exact hinv.known entry hmem
      · obtain rfl := List.mem_singleton.mp hmem
        exact ⟨.start, rfl, .refl⟩
  | handshakes | acceptFails | handshakeFails | onErrReturns | onErrPanics =>
      exact ⟨hinv.known, fun hclosed => by cases hclosed⟩
  | close =>
      refine ⟨fun entry hmem => ?_, fun _ entry hmem => ?_⟩ <;>
        obtain ⟨⟨id, task⟩, hbefore, rfl⟩ := List.mem_map.mp hmem
      · exact reachable_abortTask (hinv.known _ hbefore)
      · exact ⟨running_abortTask task, (insideRound_abortTask task).trans (hguard _ hbefore)⟩
  | task index event id task after hentry hnext =>
      have hbefore := List.mem_of_getElem? hentry
      refine ⟨fun entry hmem => ?_, fun hclosed => ?_⟩
      · rcases List.mem_or_eq_of_mem_set hmem with hmem | rfl
        · exact hinv.known entry hmem
        · exact (hinv.known _ hbefore).tail trivial hnext
      · -- No task runs after the shutdown.
        have hstopped := (hinv.stopped hclosed _ hbefore).1
        simp [ConnectionTask.running_of_step hnext] at hstopped

/-- A shutdown inside a round leaks that round's peer. -/
theorem not_noLeak_of_close {loop next : RunLoop env} {event : RunEvent env}
    (hinv : loop.ShutdownInvariant config) (hguard : ¬ loop.ClosesBetweenRounds event)
    (hstep : loop.step config event = some next) : ¬ next.NoLeak := by
  cases Step.of_step hstep with
  | close =>
      simp only [ClosesBetweenRounds, not_forall] at hguard
      obtain ⟨⟨id, task⟩, hmem, hinside⟩ := hguard
      intro hnoLeak
      have haborted := hnoLeak rfl (id, abortTask task) (List.mem_map.mpr ⟨_, hmem, rfl⟩)
      have haccounted :=
        ConnectionTask.accounted_of_reachable (reachable_abortTask (hinv.known _ hmem))
      rw [Bool.not_eq_false, ← insideRound_abortTask] at hinside
      obtain ⟨peer, hcreated, hlost⟩ := haccounted.inside hinside
      exact hlost (haborted peer hcreated)
  | _ => exact absurd trivial hguard

/-- For every number of connection tasks, every await at which each of them stands and
every moment of `close_server`: the shutdown leaves no peer behind that is neither handed
over nor closed, in exactly the runs whose shutdown finds no task inside a round. -/
theorem shutdown_leaks_nothing_iff {events : List (RunEvent env)} {final : RunLoop env}
    (hrun : (runSystem config).run .start events = some final) :
    (runSystem config).Throughout NoLeak .start events ↔
      (runSystem config).Guarded ClosesBetweenRounds .start events := by
  refine TransitionSystem.throughout_iff_guarded (ShutdownInvariant config)
    (fun _ hinv => hinv.noLeak) (fun _ _ _ hinv hguard hnext => hinv.step hguard hnext)
    (fun _ _ _ hinv hguard hnext => not_noLeak_of_close hinv hguard hnext) ?_ hrun
  exact ⟨fun _ hmem => (by cases hmem), fun hclosed => (by cases hclosed)⟩

end RunLoop

/-- A server without TLS. -/
def plainConfig : RunConfig byteServer where
  acceptor := none
  acceptError _ := ()
  acceptFails _ _ _ := false
  onErr _ := .returns
  closes := true
  clientId _ := "peer"

open RunLoop in
/-- A client is handed over, and its `on_success` closes the server. -/
theorem shutdown_leaks_nothing_handed :
    let events : List (RunEvent byteServer) := [.connect, .accept,
      .task 0 (.receivedOffer (.ok 1)), .task 0 (.createdPeer (.ok ())),
      .task 0 (.setRemote (.ok ())), .task 0 (.createdAnswer (.ok 2)),
      .task 0 (.sentAnswer (.ok ())), .task 0 (.setLocal (.ok ())), .task 0 (.tookIce none),
      .task 0 (.sentIce (.ok ())), .task 0 (.receivedIce (.ok none)), .close]
    ∃ final, (runSystem plainConfig).run .start events = some final ∧
      (runSystem plainConfig).Throughout NoLeak .start events := by
  intro events
  obtain ⟨final, hrun, -⟩ := (runSystem plainConfig).exists_run_of_any .start events
    (fun _ => true) (by decide +kernel)
  have hguarded : (runSystem plainConfig).Guarded ClosesBetweenRounds .start events :=
    TransitionSystem.guarded_of_check (by decide +kernel)
  exact ⟨final, hrun, (shutdown_leaks_nothing_iff hrun).mpr hguarded⟩

open RunLoop in
/-- One client is in its round; the garbage of another one makes `on_err` close the
server, and the first client's peer is neither handed over nor closed. -/
theorem shutdown_leaks_peer :
    ∃ final, (runSystem plainConfig).run .start [.connect, .accept, .connect, .accept,
        .task 0 (.receivedOffer (.ok 1)), .task 0 (.createdPeer (.ok ())),
        .task 1 (.receivedOffer (.error (.deserializeError ()))), .close] = some final ∧
      ¬ final.NoLeak := by
  let leaking : ConnectionTask byteServer := ⟨.aborted, 1, [.created 0]⟩
  let reported : ConnectionTask byteServer := ⟨.aborted, 0, [.onErr (.badMessage () "peer")]⟩
  refine ⟨⟨[⟨[], none⟩, ⟨[], none⟩], [], .closed, [(0, leaking), (1, reported)]⟩, rfl, ?_⟩
  intro hnoLeak
  obtain ⟨clientId, hhanded⟩ | hclosed :=
    hnoLeak rfl (0, leaking) List.mem_cons_self 0 List.mem_cons_self
  · simp [leaking] at hhanded
  · simp [leaking] at hclosed

end MangleWebRTC.Upgrade
