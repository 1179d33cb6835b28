import MangleWebRTC.Upgrade.Shutdown

/-! # The handles of a server

Every call of a callback comes with a `ServerHandle`, a sender of the loop's
`mpsc::channel(1)`. The loop with this channel refines the loop: a request is kept until
the loop gets to its `select!`, `run` returns for no other reason, and it leaves no task
behind that still calls callbacks.
-/

namespace MangleWebRTC.Upgrade

open Machine

variable {env : ServerEnvironment}

/-- A connection task has called a callback. -/
def RunLoop.calledBack (loop : RunLoop env) : Bool :=
  loop.tasks.any fun entry => entry.2.trace.any ConnectionTask.Action.isCallback

/-- The loop with the calls of `on_err` that it has made itself, whether `close_server` has
been called, and whether the channel holds a request. -/
structure HandledLoop (env : ServerEnvironment) where
  loop : RunLoop env
  reports : Nat
  requested : Bool
  slot : Bool

/-- A step of the loop, or a call of `close_server` on some handle. -/
inductive HandleEvent (env : ServerEnvironment) where
  | run (event : RunEvent env)
  | closeServer

/-- The loop itself calls `on_err`. -/
def RunEvent.isReport : RunEvent env → Bool
  | .acceptFails _ | .handshakeFails => true
  | _ => false

namespace HandledLoop

/-- No callback has been called. -/
def start : HandledLoop env := ⟨.start, 0, false, false⟩

/-- Some callback has been called, so that somebody may have a handle. -/
def handedOut (handled : HandledLoop env) : Bool :=
  decide (0 < handled.reports) || handled.loop.calledBack

/-- `close_recv` lives as long as `run`. -/
def receives (handled : HandledLoop env) : Bool :=
  match handled.loop.phase with
  | .closed | .unwound => false
  | _ => true

/-- One step of the loop with the channel of its handles. -/
def step (config : RunConfig env) (handled : HandledLoop env) :
    HandleEvent env → Option (HandledLoop env)
  -- The result of `try_send` is dropped: the channel is full, or nobody receives.
  | .closeServer =>
      if config.closes ∧ handled.handedOut then
        some { handled with requested := true, slot := handled.slot || handled.receives }
      else none
  | .run .close =>
      if handled.slot then
        (handled.loop.step config .close).map fun loop =>
          { handled with loop := loop, slot := false }
      else none
  | .run event =>
      (handled.loop.step config event).map fun loop =>
        { handled with
          loop := loop
          reports := if event.isReport then handled.reports + 1 else handled.reports }

end HandledLoop

/-- All runs of a server with those who hold its handles. -/
def handleSystem (config : RunConfig env) :
    TransitionSystem (HandledLoop env) (HandleEvent env) where
  init handled := handled = .start
  step := HandledLoop.step config

/-! ## Callbacks that have been called -/

namespace ConnectionTask

variable {clientId : String} {task next : ConnectionTask env}

theorem trace_record (action : Action env) : task.trace <+: (task.record action).trace :=
  List.prefix_append _ _

@[simp] theorem trace_webrtcUnwrap {Val : Type} (peer : Nat) (result : Except env.WebRTCError Val)
    (point : Val → RoundPoint env) : (task.webrtcUnwrap peer result point).trace = task.trace := by
  cases result <;> rfl

theorem trace_afterLoop (peer : Nat) (loop : Option (Loop env)) :
    task.trace <+: (task.afterLoop clientId peer loop).trace := by
  cases loop with
  | none => exact trace_record _
  | some loop => exact List.prefix_refl _

theorem trace_receiveIce (peer : Nat) (loop : Loop env)
    (result : Except (RecvError env.Err) (Option (Except env.WebRTCError env.CandidateInit))) :
    task.trace <+: (task.receiveIce clientId peer loop result).trace := by
  match result with
  | .ok (some candidate) => exact (trace_webrtcUnwrap peer candidate _).symm ▸ List.prefix_refl _
  | .ok none => exact (trace_record _).trans (trace_afterLoop peer _)
  | .error error => exact List.prefix_refl _

theorem trace_sendIce (peer : Nat) (loop : Loop env) (ice : Option env.CandidateInit)
    (result : Except IoError Unit) :
    task.trace <+: (task.sendIce clientId peer loop ice result).trace := by
  match result, ice with
  | .ok (), none => exact (trace_record _).trans (trace_afterLoop peer _)
  | .ok (), some candidate => exact trace_afterLoop peer _
  | .error error, _ => exact List.prefix_refl _

/-- A step of a task adds to its trace. -/
theorem trace_of_step {event : Event env} (hstep : task.step clientId event = some next) :
    task.trace <+: next.trace := by
  unfold step at hstep
  split at hstep
  case h_2 | h_3 | h_4 => exact Option.some.inj hstep ▸ trace_record _
  case h_12 => exact Option.some.inj hstep ▸ trace_sendIce _ _ _ _
  case h_13 => exact Option.some.inj hstep ▸ trace_receiveIce _ _ _
  case h_15 => exact Option.some.inj hstep ▸ (trace_record _).trans (trace_record _)
  case h_18 | h_19 =>
    split at hstep
    · exact Option.some.inj hstep ▸ List.prefix_refl _
    · cases hstep
  case h_20 => cases hstep
  all_goals
    obtain rfl := Option.some.inj hstep
    simp [goto, returning]

end ConnectionTask

namespace RunLoop

variable {config : RunConfig env} {loop next : RunLoop env} {event : RunEvent env}

theorem calledBack_of_step (hstep : Step config loop event next)
    (hcalled : loop.calledBack = true) : next.calledBack = true := by
  obtain ⟨entry, hmem, hcallback⟩ := List.any_eq_true.mp hcalled
  cases hstep with
  | connect | send | disconnect | handshakes | acceptFails | handshakeFails | onErrReturns
  | onErrPanics => exact hcalled
  | spawns | handshakeDone =>
      exact List.any_eq_true.mpr ⟨entry, List.mem_append_left _ hmem, hcallback⟩
  | close =>
      refine List.any_eq_true.mpr ⟨_, List.mem_map_of_mem hmem, ?_⟩
      simp only [abortTask]
      split <;> exact hcallback
  | task index event id task after hentry hnext =>
      obtain ⟨place, hplace⟩ := List.mem_iff_getElem?.mp hmem
      have hget := @getElem?_set_of_some _ loop.tasks index (id, task) (id, after) hentry place
      by_cases hsame : place = index
      · subst hsame
        obtain rfl := Option.some.inj (hentry.symm.trans hplace)
        obtain ⟨action, haction, hcalls⟩ := List.any_eq_true.mp hcallback
        refine List.any_eq_true.mpr
          ⟨(id, after), List.mem_of_getElem? (hget.trans (if_pos rfl)), ?_⟩
        exact List.any_eq_true.mpr
          ⟨action, (ConnectionTask.trace_of_step hnext).subset haction, hcalls⟩
      · exact List.any_eq_true.mpr ⟨entry,
          List.mem_of_getElem? (hget.trans ((if_neg hsame).trans hplace)), hcallback⟩

/-- Only `close_recv` ends the loop. -/
theorem phase_of_step (hstep : Step config loop event next) :
    (next.phase = .closed → loop.phase = .closed ∨ event = .close) ∧
      (loop.phase = .closed ∨ loop.phase = .unwound → next.phase = loop.phase) := by
  cases hstep with
  | connect | send | disconnect | task => exact ⟨.inl, fun _ => rfl⟩
  | spawns id rest hphase | handshakes id rest hphase | acceptFails error hphase
  | handshakeDone id acceptor client hphase | handshakeFails id acceptor client error hphase
  | onErrReturns error hphase | onErrPanics error hphase =>
      refine ⟨(fun hclosed => by cases hclosed), fun hover => ?_⟩
      rcases hover with hover | hover <;> cases hphase.symm.trans hover
  | close hphase =>
      refine ⟨fun _ => .inr rfl, fun hover => ?_⟩
      rcases hphase with hphase | ⟨id, hphase⟩ <;> rcases hover with hover | hover <;>
        cases hphase.symm.trans hover

/-- Stopped tasks stay as they are when the loop is over. -/
theorem tasks_of_closed (hclosed : loop.phase = .closed)
    (hstopped : ∀ entry ∈ loop.tasks, entry.2.phase.running = false)
    (hstep : Step config loop event next) : next.tasks = loop.tasks := by
  cases hstep with
  | connect | send | disconnect => rfl
  | task index event id task after hentry hnext =>
      have hrunning := ConnectionTask.running_of_step hnext
      rw [hstopped _ (List.mem_of_getElem? hentry)] at hrunning
      cases hrunning
  | spawns id rest hphase | handshakes id rest hphase | acceptFails error hphase
  | handshakeDone id acceptor client hphase | handshakeFails id acceptor client error hphase
  | onErrReturns error hphase | onErrPanics error hphase => cases hphase.symm.trans hclosed
  | close hphase =>
      rcases hphase with hphase | ⟨id, hphase⟩ <;> cases hphase.symm.trans hclosed

end RunLoop

namespace HandledLoop

variable {config : RunConfig env} {handled next : HandledLoop env}

/-- A request is in the channel until the loop takes it, and stands for a call of a handle
that a callback got. -/
structure Kept (config : RunConfig env) (handled : HandledLoop env) : Prop where
  reach : (runSystem config).Reachable handled.loop
  kept : handled.requested = true → handled.receives = true → handled.slot = true
  asked : handled.slot = true → handled.requested = true
  handed : handled.requested = true → config.closes = true ∧ handled.handedOut = true
  stopped : handled.loop.phase = .closed → handled.requested = true ∧
    ∀ entry ∈ handled.loop.tasks, entry.2.phase.running = false

theorem kept_start : (start : HandledLoop env).Kept config where
  reach := ⟨_, rfl, .refl⟩
  kept hrequested := Bool.noConfusion hrequested
  asked hslot := Bool.noConfusion hslot
  handed hrequested := Bool.noConfusion hrequested
  stopped hclosed := by cases hclosed

theorem handedOut_mono {loop : RunLoop env} {reports : Nat} {slot : Bool}
    (hreports : handled.reports ≤ reports)
    (hcalled : handled.loop.calledBack = true → loop.calledBack = true)
    (hhanded : handled.handedOut = true) :
    handedOut ⟨loop, reports, handled.requested, slot⟩ = true := by
  rcases Bool.or_eq_true_iff.mp hhanded with hreported | hcallback
  · refine Bool.or_eq_true_iff.mpr (.inl (decide_eq_true ?_))
    exact Nat.lt_of_lt_of_le (of_decide_eq_true hreported) hreports
  · exact Bool.or_eq_true_iff.mpr (.inr (hcalled hcallback))

/-- The steps of a handled loop. -/
theorem step_eq_some {event : HandleEvent env} (hstep : handled.step config event = some next) :
    (event = .closeServer ∧ config.closes = true ∧ handled.handedOut = true ∧ next =
        { handled with requested := true, slot := handled.slot || handled.receives }) ∨
      (∃ loop, event = .run .close ∧ handled.slot = true ∧
        handled.loop.step config .close = some loop ∧
        next = { handled with loop := loop, slot := false }) ∨
      ∃ inner loop, event = .run inner ∧ inner ≠ .close ∧
        handled.loop.step config inner = some loop ∧
        next = { handled with
          loop := loop
          reports := if inner.isReport then handled.reports + 1 else handled.reports } := by
  cases event with
  | closeServer =>
      simp only [step] at hstep
      split at hstep
      next henabled =>
        exact .inl ⟨rfl, henabled.1, henabled.2, (Option.some.inj hstep).symm⟩
      · cases hstep
  | run inner =>
      by_cases hclose : inner = .close
      · subst hclose
        simp only [step] at hstep
        split at hstep
        next hslot =>
          obtain ⟨loop, hloop, rfl⟩ := Option.map_eq_some_iff.mp hstep
          exact .inr (.inl ⟨loop, rfl, hslot, hloop, rfl⟩)
        · cases hstep
      · have hother : handled.step config (.run inner) =
            (handled.loop.step config inner).map fun loop => { handled with
              loop := loop
              reports := if inner.isReport then handled.reports + 1 else handled.reports } := by
          cases inner with
          | close => exact absurd rfl hclose
          | _ => rfl
        obtain ⟨loop, hloop, rfl⟩ := Option.map_eq_some_iff.mp (hother.symm.trans hstep)
        exact .inr (.inr ⟨inner, loop, rfl, hclose, hloop, rfl⟩)

theorem receives_eq_true_iff : handled.receives = true ↔
    handled.loop.phase ≠ .closed ∧ handled.loop.phase ≠ .unwound := by
  unfold receives
  split
  next hphase => simp [hphase]
  next hphase => simp [hphase]
  next hclosed hunwound => simpa using ⟨hclosed, hunwound⟩

/-- Nobody receives again. -/
theorem receives_of_step {event : RunEvent env} {loop : RunLoop env}
    (hstep : handled.loop.step config event = some loop)
    (hreceives : loop.phase ≠ .closed ∧ loop.phase ≠ .unwound) : handled.receives = true := by
  obtain ⟨_, hover⟩ := RunLoop.phase_of_step (.of_step hstep)
  refine receives_eq_true_iff.mpr ⟨fun hclosed => ?_, fun hunwound => ?_⟩
  · exact hreceives.1 ((hover (.inl hclosed)).trans hclosed)
  · exact hreceives.2 ((hover (.inr hunwound)).trans hunwound)

theorem Kept.close {loop : RunLoop env} (hkept : handled.Kept config)
    (hslot : handled.slot = true) (hloop : handled.loop.step config .close = some loop) :
    Kept config { handled with loop := loop, slot := false } := by
  have hrequested := hkept.asked hslot
  obtain ⟨hcloses, hhanded⟩ := hkept.handed hrequested
  have hreach : (runSystem config).step handled.loop .close = some loop := hloop
  refine ⟨hkept.reach.tail trivial hreach, fun _ hreceives => ?_, (fun hnone => by cases hnone), ?_,
    ?_⟩
  · have hphase := (receives_eq_true_iff.mp hreceives).1
    cases RunLoop.Step.of_step hloop with
    | close => exact absurd rfl hphase
  · exact fun _ => ⟨hcloses, handedOut_mono (Nat.le_refl _)
      (RunLoop.calledBack_of_step (.of_step hloop)) hhanded⟩
  · refine fun _ => ⟨hrequested, fun entry hmem => ?_⟩
    cases RunLoop.Step.of_step hloop with
    | close =>
        obtain ⟨⟨id, task⟩, _, rfl⟩ := List.mem_map.mp hmem
        exact RunLoop.running_abortTask task

theorem Kept.run {inner : RunEvent env} {loop : RunLoop env} (hkept : handled.Kept config)
    (hinner : inner ≠ .close) (hloop : handled.loop.step config inner = some loop) :
    Kept config { handled with
      loop := loop
      reports := if inner.isReport then handled.reports + 1 else handled.reports } := by
  have hreach : (runSystem config).step handled.loop inner = some loop := hloop
  refine ⟨hkept.reach.tail trivial hreach, fun hrequested hreceives => ?_, hkept.asked,
    fun hrequested => ?_, fun hclosed => ?_⟩
  · exact hkept.kept hrequested (receives_of_step hloop (receives_eq_true_iff.mp hreceives))
  · obtain ⟨hcloses, hhanded⟩ := hkept.handed hrequested
    refine ⟨hcloses, handedOut_mono ?_ (RunLoop.calledBack_of_step (.of_step hloop)) hhanded⟩
    split <;> simp
  · have hbefore := ((RunLoop.phase_of_step (.of_step hloop)).1 hclosed).resolve_right hinner
    obtain ⟨hrequested, hstopped⟩ := hkept.stopped hbefore
    refine ⟨hrequested, fun entry hmem => hstopped entry ?_⟩
    exact RunLoop.tasks_of_closed hbefore hstopped (.of_step hloop) ▸ hmem

theorem Kept.step {event : HandleEvent env} (hkept : handled.Kept config)
    (hstep : handled.step config event = some next) : next.Kept config := by
  rcases step_eq_some hstep with ⟨_, hcloses, hhanded, rfl⟩ | ⟨loop, _, hslot, hloop, rfl⟩ |
    ⟨inner, loop, _, hinner, hloop, rfl⟩
  · refine ⟨hkept.reach, fun _ hreceives => ?_, fun _ => rfl, fun _ => ⟨hcloses, hhanded⟩,
      fun hclosed => ⟨rfl, (hkept.stopped hclosed).2⟩⟩
    exact Bool.or_eq_true_iff.mpr (.inr hreceives)
  · exact hkept.close hslot hloop
  · exact hkept.run hinner hloop

theorem kept_of_reachable (hreach : (handleSystem config).Reachable handled) :
    handled.Kept config := by
  apply hreach.invariant (Kept config)
  · rintro _ rfl
    exact kept_start
  · intro state event after hkept _ hstep
    exact hkept.step hstep

/-- After `run` has returned no connection task takes a step. -/
theorem stopped_of_step {event : HandleEvent env} (hkept : handled.Kept config)
    (hclosed : handled.loop.phase = .closed) (hstep : handled.step config event = some next) :
    next.loop.phase = .closed ∧ next.loop.tasks = handled.loop.tasks := by
  rcases step_eq_some hstep with ⟨_, _, _, rfl⟩ | ⟨loop, _, _, hloop, rfl⟩ |
    ⟨inner, loop, _, _, hloop, rfl⟩
  · exact ⟨hclosed, rfl⟩
  all_goals
    exact ⟨((RunLoop.phase_of_step (.of_step hloop)).2 (.inl hclosed)).trans hclosed,
      RunLoop.tasks_of_closed hclosed (hkept.stopped hclosed).2 (.of_step hloop)⟩

/-- In every run of a server and of those who hold its handles: a request is never lost,
the loop can end by it whenever it is at its `select!`; `run` returns only after a handle
that a callback got was used; and then no connection task goes on, so that no callback is
called any more. -/
theorem server_handle (handled : HandledLoop env)
    (hreach : (handleSystem config).Reachable handled) :
    (runSystem config).Reachable handled.loop ∧
    (handled.requested = true →
      (handled.loop.phase = .accepting ∨ ∃ id, handled.loop.phase = .handshaking id) →
      ∃ next, handled.step config (.run .close) = some next ∧ next.loop.phase = .closed) ∧
    (handled.loop.phase = .closed → handled.requested = true ∧ handled.handedOut = true ∧
      ∀ later, (handleSystem config).ReachableFrom (fun _ _ => True) handled later →
        later.loop.phase = .closed ∧ later.loop.tasks = handled.loop.tasks) := by
  have hkept := kept_of_reachable hreach
  refine ⟨hkept.reach, fun hrequested hphase => ?_, fun hclosed => ?_⟩
  · obtain ⟨hcloses, _⟩ := hkept.handed hrequested
    have hreceives : handled.receives = true := by
      refine receives_eq_true_iff.mpr ?_
      rcases hphase with hphase | ⟨id, hphase⟩ <;> simp [hphase]
    have hslot := hkept.kept hrequested hreceives
    rcases hphase with hphase | ⟨id, hphase⟩ <;>
      simp [step, RunLoop.step, hslot, hphase, hcloses]
  · obtain ⟨hrequested, _⟩ := hkept.stopped hclosed
    refine ⟨hrequested, (hkept.handed hrequested).2, fun later hlater => ?_⟩
    have hstays := hlater.invariant (fun later => later.Kept config ∧
      later.loop.phase = .closed ∧ later.loop.tasks = handled.loop.tasks) ⟨hkept, hclosed, rfl⟩ ?_
    · exact hstays.2
    · rintro state event next ⟨hbefore, hover, hsame⟩ _ hstep
      obtain ⟨hphase, htasks⟩ := stopped_of_step hbefore hover hstep
      exact ⟨hbefore.step hstep, hphase, htasks.trans hsame⟩

end HandledLoop

open HandledLoop in
/-- The garbage of a client makes `on_err` close the server twice; `run` returns, and a third
call changes nothing. -/
theorem server_handle_closed :
    ∃ handled, (handleSystem plainConfig).run .start [.run .connect, .run .accept,
        .run (.task 0 (.receivedOffer (.error (.deserializeError ())))), .closeServer,
        .closeServer, .run .close, .closeServer] = some handled ∧
      handled.loop.phase = .closed ∧ handled.requested = true ∧ handled.handedOut = true := by
  obtain ⟨handled, hrun, htest⟩ := (handleSystem plainConfig).exists_run_of_any .start
    [.run .connect, .run .accept,
      .run (.task 0 (.receivedOffer (.error (.deserializeError ())))), .closeServer,
      .closeServer, .run .close, .closeServer]
    (fun handled => match handled.loop.phase with
      | .closed => true
      | _ => false) (by decide +kernel)
  have hclosed : handled.loop.phase = .closed := by
    split at htest
    next hphase => exact hphase
    · cases htest
  obtain ⟨hrequested, hhanded, -⟩ := (server_handle handled (.of_run rfl hrun)).2.2 hclosed
  exact ⟨handled, hrun, hclosed, hrequested, hhanded⟩

end MangleWebRTC.Upgrade
