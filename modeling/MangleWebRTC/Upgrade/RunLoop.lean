import MangleWebRTC.Machine.Slots
import MangleWebRTC.Upgrade.ConnectionTask
import Mathlib.Data.List.Nodup

/-! # The loop of `UpgradeWebRTCServer::run`

The loop awaits `accept` of its listener and spawns a connection task for every
transport it returns. Under TLS `accept` also awaits the handshake. A failed `accept`
is reported by the loop itself.
-/

namespace MangleWebRTC.Upgrade

open Machine

/-- What the bytes of a client make of its TLS handshake. -/
inductive Handshake where
  | wantsMore
  | done
  | failed (error : IoError)
  deriving DecidableEq, Repr

/-- The error of the inner listener, or of the handshake. -/
inductive TlsAcceptError where
  | acceptError (error : IoError)
  | ioError (error : IoError)
  deriving DecidableEq, Repr

/-- What becomes of a future that a callback returns. -/
inductive Outcome where
  | returns
  | panics
  | hangs
  deriving DecidableEq, Repr

/-- A client's end of an accepted or queued connection: the bytes it has sent, and how it
has ended the connection. -/
structure RemoteClient where
  sent : List UInt8
  gone : Option IoError

/-- The listener and the callbacks of a server. -/
structure RunConfig (env : ServerEnvironment) where
  /-- The TLS acceptor, for a server to which `add_tls` has been applied. -/
  acceptor : Option (List UInt8 → Handshake)
  /-- The listener's error for a failure of `accept`; without TLS only the inner one occurs. -/
  acceptError : TlsAcceptError → env.AcceptError
  /-- The errors that the operating system can report for the queued connections. -/
  acceptFails : List RemoteClient → List Nat → IoError → Bool
  onErr : ConnectionTask.ServerError env → Outcome
  /-- Whether a callback calls `close_server`. -/
  closes : Bool
  clientId : Nat → String

/-- Where the loop is: in the `accept` of the inner listener, in the TLS handshake that
follows, or in `on_err`. The last two are the end of `run` and its panic. -/
inductive LoopPhase (env : ServerEnvironment) where
  | accepting
  | handshaking (client : Nat)
  | reporting (error : ConnectionTask.ServerError env)
  | closed
  | unwound

/-- The clients by the order of their connections, those in the listener's queue, and the
loop with `running_tasks`. -/
structure RunLoop (env : ServerEnvironment) where
  clients : List RemoteClient
  backlog : List Nat
  phase : LoopPhase env
  tasks : List (Nat × ConnectionTask env)

/-- What clients do to their connections, the results of the loop's awaits, a request of
`close_server` that the loop takes, and the steps of the connection tasks. -/
inductive RunEvent (env : ServerEnvironment) where
  | connect
  | send (client : Nat) (bytes : List UInt8)
  | disconnect (client : Nat) (error : IoError)
  | accept
  | acceptFails (error : IoError)
  | handshakeDone
  | handshakeFails
  | onErrDone
  | close
  | task (index : Nat) (event : ConnectionTask.Event env)

/-- The error of the handshake: the acceptor's, or that of a client that has gone. -/
def RemoteClient.failure (acceptor : List UInt8 → Handshake) (client : RemoteClient) :
    Option IoError :=
  match acceptor client.sent with
  | .failed error => some error
  | .wantsMore | .done => client.gone

namespace RunLoop

variable {env : ServerEnvironment}

/-- The listener is bound, and nobody has connected. -/
def start : RunLoop env := ⟨[], [], .accepting, []⟩

/-- A client takes a step; the others stay as they are. -/
def setClient (loop : RunLoop env) (id : Nat) (client : RemoteClient) : RunLoop env :=
  { loop with clients := loop.clients.set id client }

/-- `running_tasks.push(tokio::spawn(..))`. -/
def spawn (loop : RunLoop env) (id : Nat) : RunLoop env :=
  { loop with phase := .accepting, tasks := loop.tasks ++ [(id, .start)] }

/-- An aborted connection leaves the queue with the error. -/
def dropAborted (loop : RunLoop env) : List Nat :=
  match loop.backlog with
  | [] => []
  | id :: rest => if loop.clients[id]?.any (·.gone.isSome) then rest else id :: rest

/-- `on_err` returns to a task only if its future does. -/
def allows (config : RunConfig env) (task : ConnectionTask env) :
    ConnectionTask.Event env → Bool
  | .onErrReturned =>
      match task.phase with
      | .reporting error => config.onErr error = .returns
      | _ => false
  | _ => true

/-- `handle.abort()`, which does nothing to a task that is over. -/
def abortTask (task : ConnectionTask env) : ConnectionTask env :=
  if task.phase.running then { task with phase := .aborted } else task

/-- One step of a client, of the loop of `run`, or of a connection task. -/
def step (config : RunConfig env) (loop : RunLoop env) : RunEvent env → Option (RunLoop env)
  | .connect => some { loop with
      clients := loop.clients ++ [⟨[], none⟩], backlog := loop.backlog ++ [loop.clients.length] }
  | .send id bytes => do
      let client ← loop.clients[id]?
      if client.gone.isSome then none
      else some (loop.setClient id { client with sent := client.sent ++ bytes })
  | .disconnect id error => do
      let client ← loop.clients[id]?
      if client.gone.isSome then none
      else some (loop.setClient id { client with gone := some error })
  | .accept =>
      match loop.phase, loop.backlog, config.acceptor with
      | .accepting, id :: rest, none => some ({ loop with backlog := rest }.spawn id)
      -- `accept` of the TLS listener goes on with the handshake.
      | .accepting, id :: rest, some _ =>
          some { loop with backlog := rest, phase := .handshaking id }
      | _, _, _ => none
  | .acceptFails error =>
      match loop.phase with
      | .accepting =>
          if config.acceptFails loop.clients loop.backlog error then
            some { loop with
              backlog := loop.dropAborted
              phase := .reporting (.acceptError (config.acceptError (.acceptError error))) }
          else none
      | _ => none
  | .handshakeDone =>
      match loop.phase, config.acceptor with
      | .handshaking id, some acceptor => do
          let client ← loop.clients[id]?
          if acceptor client.sent = .done then some (loop.spawn id) else none
      | _, _ => none
  | .handshakeFails =>
      match loop.phase, config.acceptor with
      | .handshaking id, some acceptor => do
          let client ← loop.clients[id]?
          let error ← client.failure acceptor
          some { loop with
            phase := .reporting (.acceptError (config.acceptError (.ioError error))) }
      | _, _ => none
  | .onErrDone =>
      match loop.phase with
      | .reporting error =>
          match config.onErr error with
          | .returns => some { loop with phase := .accepting }
          | .panics => some { loop with phase := .unwound }
          | .hangs => none
      | _ => none
  -- `close_recv.recv()` drops the future of `accept`, and all tasks are aborted.
  | .close =>
      match loop.phase with
      | .accepting | .handshaking _ =>
          if config.closes then
            some { loop with
              phase := .closed, tasks := loop.tasks.map fun (id, task) => (id, abortTask task) }
          else none
      | _ => none
  | .task index event => do
      let (id, task) ← loop.tasks[index]?
      if allows config task event then
        let next ← task.step (config.clientId id) event
        some { loop with tasks := loop.tasks.set index (id, next) }
      else none

variable {config : RunConfig env}

/-- What each event does, with the conditions under which it is enabled. -/
inductive Step (config : RunConfig env) (loop : RunLoop env) :
    RunEvent env → RunLoop env → Prop
  | connect : Step config loop .connect { loop with
      clients := loop.clients ++ [⟨[], none⟩], backlog := loop.backlog ++ [loop.clients.length] }
  | send (id : Nat) (bytes : List UInt8) (client : RemoteClient)
      (hclient : loop.clients[id]? = some client) : Step config loop (.send id bytes)
        (loop.setClient id { client with sent := client.sent ++ bytes })
  | disconnect (id : Nat) (error : IoError) (client : RemoteClient)
      (hclient : loop.clients[id]? = some client) : Step config loop (.disconnect id error)
        (loop.setClient id { client with gone := some error })
  | spawns (id : Nat) (rest : List Nat) (hphase : loop.phase = .accepting)
      (hbacklog : loop.backlog = id :: rest) (hplain : config.acceptor = none) :
      Step config loop .accept ({ loop with backlog := rest }.spawn id)
  | handshakes (id : Nat) (rest : List Nat) (hphase : loop.phase = .accepting)
      (hbacklog : loop.backlog = id :: rest) (htls : config.acceptor ≠ none) :
      Step config loop .accept { loop with backlog := rest, phase := .handshaking id }
  | acceptFails (error : IoError) (hphase : loop.phase = .accepting) :
      Step config loop (.acceptFails error) { loop with
        backlog := loop.dropAborted
        phase := .reporting (.acceptError (config.acceptError (.acceptError error))) }
  | handshakeDone (id : Nat) (acceptor : List UInt8 → Handshake) (client : RemoteClient)
      (hphase : loop.phase = .handshaking id) (hacceptor : config.acceptor = some acceptor)
      (hclient : loop.clients[id]? = some client) (hdone : acceptor client.sent = .done) :
      Step config loop .handshakeDone (loop.spawn id)
  | handshakeFails (id : Nat) (acceptor : List UInt8 → Handshake) (client : RemoteClient)
      (error : IoError) (hphase : loop.phase = .handshaking id)
      (hacceptor : config.acceptor = some acceptor) (hclient : loop.clients[id]? = some client)
      (hfailure : client.failure acceptor = some error) : Step config loop .handshakeFails
        { loop with phase := .reporting (.acceptError (config.acceptError (.ioError error))) }
  | onErrReturns (error : ConnectionTask.ServerError env) (hphase : loop.phase = .reporting error)
      (hreturns : config.onErr error = .returns) :
      Step config loop .onErrDone { loop with phase := .accepting }
  | onErrPanics (error : ConnectionTask.ServerError env) (hphase : loop.phase = .reporting error)
      (hpanics : config.onErr error = .panics) :
      Step config loop .onErrDone { loop with phase := .unwound }
  | close (hphase : loop.phase = .accepting ∨ ∃ id, loop.phase = .handshaking id)
      (hcloses : config.closes = true) : Step config loop .close { loop with
        phase := .closed, tasks := loop.tasks.map fun (id, task) => (id, abortTask task) }
  | task (index : Nat) (event : ConnectionTask.Event env) (id : Nat)
      (task next : ConnectionTask env) (hentry : loop.tasks[index]? = some (id, task))
      (hnext : task.step (config.clientId id) event = some next) :
      Step config loop (.task index event) { loop with tasks := loop.tasks.set index (id, next) }

theorem Step.of_step {loop next : RunLoop env} {event : RunEvent env}
    (hstep : loop.step config event = some next) : Step config loop event next := by
  cases event with
  | connect => exact Option.some.inj hstep ▸ .connect
  | send id bytes =>
      obtain ⟨client, hclient, hrest⟩ := Option.bind_eq_some_iff.mp hstep
      split at hrest
      · cases hrest
      · exact Option.some.inj hrest ▸ .send id bytes client hclient
  | disconnect id error =>
      obtain ⟨client, hclient, hrest⟩ := Option.bind_eq_some_iff.mp hstep
      split at hrest
      · cases hrest
      · exact Option.some.inj hrest ▸ .disconnect id error client hclient
  | accept =>
      simp only [step] at hstep
      split at hstep
      next id rest hphase hbacklog hplain =>
        exact Option.some.inj hstep ▸ .spawns id rest hphase hbacklog hplain
      next id rest acceptor hphase hbacklog hacceptor =>
        exact Option.some.inj hstep ▸ .handshakes id rest hphase hbacklog (by simp [hacceptor])
      · cases hstep
  | acceptFails error =>
      simp only [step] at hstep
      split at hstep
      next hphase =>
        split at hstep
        · exact Option.some.inj hstep ▸ .acceptFails error hphase
        · cases hstep
      · cases hstep
  | handshakeDone =>
      simp only [step] at hstep
      split at hstep
      next id acceptor hphase hacceptor =>
        obtain ⟨client, hclient, hrest⟩ := Option.bind_eq_some_iff.mp hstep
        split at hrest
        next hdone =>
          exact Option.some.inj hrest ▸
            .handshakeDone id acceptor client hphase hacceptor hclient hdone
        · cases hrest
      · cases hstep
  | handshakeFails =>
      simp only [step] at hstep
      split at hstep
      next id acceptor hphase hacceptor =>
        obtain ⟨client, hclient, hrest⟩ := Option.bind_eq_some_iff.mp hstep
        obtain ⟨error, hfailure, hrest⟩ := Option.bind_eq_some_iff.mp hrest
        exact Option.some.inj hrest ▸
          .handshakeFails id acceptor client error hphase hacceptor hclient hfailure
      · cases hstep
  | onErrDone =>
      simp only [step] at hstep
      split at hstep
      next error hphase =>
        split at hstep
        next hreturns => exact Option.some.inj hstep ▸ .onErrReturns error hphase hreturns
        next hpanics => exact Option.some.inj hstep ▸ .onErrPanics error hphase hpanics
        · cases hstep
      · cases hstep
  | close =>
      simp only [step] at hstep
      split at hstep
      next hphase =>
        split at hstep
        next hcloses => exact Option.some.inj hstep ▸ .close (.inl hphase) hcloses
        · cases hstep
      next id hphase =>
        split at hstep
        next hcloses => exact Option.some.inj hstep ▸ .close (.inr ⟨id, hphase⟩) hcloses
        · cases hstep
      · cases hstep
  | task index event =>
      obtain ⟨⟨id, task⟩, hentry, hrest⟩ := Option.bind_eq_some_iff.mp hstep
      simp only at hrest
      split at hrest
      · obtain ⟨next, hnext, hrest⟩ := Option.bind_eq_some_iff.mp hrest
        exact Option.some.inj hrest ▸ .task index event id task next hentry hnext
      · cases hrest

/-- The connections in the order in which they came: spawned, in the handshake, queued. -/
def order (loop : RunLoop env) : List Nat :=
  loop.tasks.map Prod.fst ++ (match loop.phase with
    | .handshaking id => [id]
    | _ => []) ++ loop.backlog

/-- A connection has one place. -/
structure Orderly (loop : RunLoop env) : Prop where
  nodup : loop.order.Nodup
  known : ∀ id ∈ loop.order, id < loop.clients.length

theorem Orderly.sublist {loop next : RunLoop env} (horderly : loop.Orderly)
    (horder : next.order.Sublist loop.order)
    (hclients : next.clients.length = loop.clients.length) : next.Orderly :=
  ⟨horderly.nodup.sublist horder, fun id hmem => hclients ▸ horderly.known id (horder.mem hmem)⟩

theorem dropAborted_sublist (loop : RunLoop env) : loop.dropAborted.Sublist loop.backlog := by
  unfold dropAborted
  split
  next hbacklog => rw [hbacklog]
  next id rest hbacklog =>
    rw [hbacklog]
    split
    · exact List.sublist_cons_self id rest
    · exact .refl _

theorem Orderly.step {loop next : RunLoop env} {event : RunEvent env} (horderly : loop.Orderly)
    (hstep : Step config loop event next) : next.Orderly := by
  cases hstep with
  | connect =>
      have horder : order { loop with
          clients := loop.clients ++ [⟨[], none⟩],
          backlog := loop.backlog ++ [loop.clients.length] } =
          loop.order ++ [loop.clients.length] := by
        simp [order]
      refine ⟨?_, fun id hmem => ?_⟩
      · rw [horder, List.nodup_append_comm, List.singleton_append, List.nodup_cons]
        exact ⟨fun hmem => (horderly.known _ hmem).ne rfl, horderly.nodup⟩
      · rw [horder] at hmem
        rw [List.length_append, List.length_singleton]
        rcases List.mem_append.mp hmem with hmem | hmem
        · exact (horderly.known id hmem).trans (Nat.lt_succ_self _)
        · exact (List.mem_singleton.mp hmem) ▸ Nat.lt_succ_self _
  | send | disconnect => exact horderly.sublist (.refl _) (List.length_set ..)
  | spawns id rest hphase hbacklog =>
      refine horderly.sublist ?_ rfl
      simp [order, spawn, hphase, hbacklog]
  | handshakes id rest hphase hbacklog =>
      refine horderly.sublist ?_ rfl
      simp [order, hphase, hbacklog]
  | acceptFails error hphase =>
      refine horderly.sublist ?_ rfl
      simp only [order, hphase]
      exact (dropAborted_sublist loop).append_left _
  | handshakeDone id acceptor client hphase =>
      refine horderly.sublist ?_ rfl
      simp [order, spawn, hphase]
  | handshakeFails id acceptor client error hphase =>
      refine horderly.sublist ?_ rfl
      simp [order, hphase]
  | onErrReturns error hphase | onErrPanics error hphase =>
      refine horderly.sublist ?_ rfl
      simp [order, hphase]
  | close hphase =>
      refine horderly.sublist ?_ rfl
      rcases hphase with hphase | ⟨id, hphase⟩ <;>
        simp [order, hphase, Function.comp_def]
  | task index event id task next hentry =>
      have hids : (loop.tasks.set index (id, next)).map Prod.fst = loop.tasks.map Prod.fst :=
        map_set_of_eq hentry rfl
      refine horderly.sublist ?_ rfl
      simp [order, hids]

end RunLoop

/-- All runs of a server with its clients and its connection tasks. -/
def runSystem {env : ServerEnvironment} (config : RunConfig env) :
    TransitionSystem (RunLoop env) (RunEvent env) where
  init loop := loop = .start
  step := RunLoop.step config

end MangleWebRTC.Upgrade
