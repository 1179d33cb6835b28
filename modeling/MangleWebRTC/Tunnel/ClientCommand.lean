import MangleWebRTC.Machine.Slots
import MangleWebRTC.Tunnel.Config
import MangleWebRTC.Tunnel.UdpSessions

/-! # The UDP listeners of the tunnel client and their addresses

`client_command` spawns one task for each channel and returns with the first task that
ends. A UDP task binds its listener, and binds the same address again for every new
source. Binding an address fails while a live socket holds it: a socket of the process,
or one of another process.
-/

namespace MangleWebRTC.Tunnel

open Machine

/-- The port and the quality of a UDP channel: `remap.unwrap_or(port)`. -/
def Channel.udpListener : Channel → Option (Port × Option Quality)
  | udp port remap quality => some (remap.getD port, quality)
  | tcp _ _ _ | localSocket _ _ _ => none

/-- How a UDP task ends: the panic of its `expect`, or `AddrInUse` from the bind of its
listener or from the bind for a new source. -/
inductive UdpTaskEnd (Addr : Type) where
  | missingQuality
  | bindsListener
  | bindsSource (addr : Addr)
  deriving DecidableEq, Repr

/-- A UDP task before its bind, in its loop, or over. -/
inductive UdpTaskPhase (Addr : Type) where
  | starting
  | listening
  | ended (result : UdpTaskEnd Addr)
  deriving DecidableEq, Repr

/-- The task of a UDP channel with its sessions. -/
structure UdpTask (Addr : Type) where
  port : Port
  quality : Option Quality
  phase : UdpTaskPhase Addr
  udp : UdpSessions Addr

/-- Why `client_command` returned: Ctrl-C, the end of a UDP task, or that of another. -/
inductive CommandEnd (Addr : Type) where
  | interrupted
  | udpTask (result : UdpTaskEnd Addr)
  | otherTask
  deriving DecidableEq, Repr

/-- The UDP tasks of the command, and why it has returned if it has. -/
structure ClientCommand (Addr : Type) where
  tasks : List (UdpTask Addr)
  returned : Option (CommandEnd Addr)

/-- The steps of the tasks and of their sessions, and the three ways out of the `select!`. -/
inductive ClientCommandEvent (Addr : Type) where
  | bindListener (index : Nat)
  | datagram (index : Nat) (addr : Addr) (payload : List UInt8)
  | handed (index : Nat)
  | sendFails (index : Nat)
  | session (index id : Nat) (event : UdpSessionEvent)
  | joinNext (index : Nat)
  | otherTask
  | ctrlC

namespace ClientCommand

variable {Addr : Type} [DecidableEq Addr]

/-- The tasks of the UDP channels, in the order of the configuration. -/
def start (channels : List Channel) : ClientCommand Addr where
  tasks := (channels.filterMap Channel.udpListener).map fun (port, quality) =>
    ⟨port, quality, .starting, .start⟩
  returned := none

/-- The live UDP sockets of a task: its listener, and one of every running session. -/
def sockets (task : UdpTask Addr) : List Port :=
  (if task.phase = .listening then [task.port] else []) ++
    (task.udp.sessions.filter fun session => session.point ≠ .ended).map fun _ => task.port

/-- The ports that live sockets of the process hold. -/
def boundPorts (command : ClientCommand Addr) : List Port := command.tasks.flatMap sockets

/-- `UdpSocket::bind` of a port fails with `AddrInUse`. -/
def addrInUse (occupied : Port → Bool) (command : ClientCommand Addr) (port : Port) : Bool :=
  port ∈ command.boundPorts ∨ occupied port

/-- A task takes a step; the others stay as they are. -/
def setTask (command : ClientCommand Addr) (index : Nat) (task : UdpTask Addr) :
    ClientCommand Addr :=
  { command with tasks := command.tasks.set index task }

/-- A step of the listener's loop after its bind. -/
def listenerStep (command : ClientCommand Addr) (index : Nat) (event : UdpSessionsEvent Addr) :
    Option (ClientCommand Addr) := do
  let task ← command.tasks[index]?
  if task.phase = .listening then
    let udp ← task.udp.step event
    some (command.setTask index { task with udp := udp })
  else none

/-- A datagram: the bind for a new source comes before anything else, and its error ends
the task. -/
def datagram (occupied : Port → Bool) (command : ClientCommand Addr) (index : Nat) (addr : Addr)
    (payload : List UInt8) : Option (ClientCommand Addr) := do
  let task ← command.tasks[index]?
  if task.phase = .listening ∧ task.udp.point = .receiving ∧ task.udp.entry addr = none ∧
      command.addrInUse occupied task.port then
    some (command.setTask index { task with phase := .ended (.bindsSource addr) })
  else command.listenerStep index (.datagram addr payload)

/-- The start of a task, up to its loop. -/
def bindListener (occupied : Port → Bool) (command : ClientCommand Addr) (index : Nat) :
    Option (ClientCommand Addr) := do
  let task ← command.tasks[index]?
  if task.phase = .starting then
    if task.quality = none then
      some (command.setTask index { task with phase := .ended .missingQuality })
    else if command.addrInUse occupied task.port then
      some (command.setTask index { task with phase := .ended .bindsListener })
    else some (command.setTask index { task with phase := .listening })
  else none

/-- One step of the command: of a task, of a session of a task, or of the `select!` over Ctrl-C
and `join_next`. -/
def step (occupied : Port → Bool) (command : ClientCommand Addr)
    (event : ClientCommandEvent Addr) : Option (ClientCommand Addr) :=
  -- The process ends when `client_command` has returned.
  if command.returned.isSome then none
  else match event with
  | .bindListener index => command.bindListener occupied index
  | .datagram index addr payload => command.datagram occupied index addr payload
  | .handed index => command.listenerStep index .handed
  | .sendFails index => command.listenerStep index .sendFails
  -- Sessions are tasks of their own and outlive the listener.
  | .session index id event => do
      let task ← command.tasks[index]?
      let udp ← task.udp.step (.session id event)
      some (command.setTask index { task with udp := udp })
  | .joinNext index => do
      let task ← command.tasks[index]?
      match task.phase with
      | .ended result => some { command with returned := some (.udpTask result) }
      | .starting | .listening => none
  | .otherTask => some { command with returned := some .otherTask }
  | .ctrlC => some { command with returned := some .interrupted }

end ClientCommand

/-- `client_command` after it has connected, with the ports that other processes hold. -/
def clientCommandSystem (Addr : Type) [DecidableEq Addr] (occupied : Port → Bool) :
    TransitionSystem (ClientCommand Addr) (ClientCommandEvent Addr) where
  init command := ∃ channels, command = .start channels
  step := ClientCommand.step occupied

namespace ClientCommand

variable {Addr : Type}

/-! ## Before the first datagram -/

/-- No task has returned an error out of the handling of a datagram, and neither has
`client_command`. -/
def Survives (command : ClientCommand Addr) : Prop :=
  (∀ task ∈ command.tasks, ∀ addr, task.phase ≠ .ended (.bindsSource addr)) ∧
    ∀ addr, command.returned ≠ some (.udpTask (.bindsSource addr))

/-- The event is not the arrival of a datagram at a listener. -/
def NoDatagram : ClientCommandEvent Addr → Prop
  | .datagram _ _ _ => False
  | _ => True

instance : (event : ClientCommandEvent Addr) → Decidable (NoDatagram event)
  | .datagram _ _ _ => inferInstanceAs (Decidable False)
  | .bindListener _ | .handed _ | .sendFails _ | .session _ _ _ | .joinNext _ | .otherTask
  | .ctrlC => inferInstanceAs (Decidable True)

/-- Nothing has been forwarded, and no task has ended but at its start. -/
structure Untouched (command : ClientCommand Addr) : Prop where
  udp : ∀ task ∈ command.tasks, task.udp = .start
  survives : command.Survives

theorem untouched_start (channels : List Channel) :
    (start channels : ClientCommand Addr).Untouched := by
  have hmem : ∀ task ∈ (start channels : ClientCommand Addr).tasks,
      task.udp = .start ∧ task.phase = .starting := by
    intro task hmem
    obtain ⟨⟨port, quality⟩, -, rfl⟩ := List.mem_map.mp hmem
    exact ⟨rfl, rfl⟩
  exact ⟨fun task htask => (hmem task htask).1,
    fun task htask addr => by simp [(hmem task htask).2], fun addr => nofun⟩

/-- A change of one task that is itself untouched. -/
theorem Untouched.setTask {command : ClientCommand Addr} (huntouched : command.Untouched)
    {index : Nat} {task next : UdpTask Addr} (htask : command.tasks[index]? = some task)
    (hudp : next.udp = task.udp) (hphase : ∀ addr, next.phase ≠ .ended (.bindsSource addr)) :
    (command.setTask index next).Untouched := by
  have hbefore := List.mem_of_getElem? htask
  refine ⟨fun other hmem => ?_, fun other hmem => ?_, huntouched.survives.2⟩
  · rcases List.mem_or_eq_of_mem_set hmem with hmem | rfl
    · exact huntouched.udp other hmem
    · exact hudp.trans (huntouched.udp task hbefore)
  · rcases List.mem_or_eq_of_mem_set hmem with hmem | rfl
    · exact huntouched.survives.1 other hmem
    · exact hphase

variable [DecidableEq Addr] {occupied : Port → Bool}

/-! ## A listener holds its own address -/

theorem mem_boundPorts_of_listening {command : ClientCommand Addr} {index : Nat}
    {task : UdpTask Addr} (htask : command.tasks[index]? = some task)
    (hphase : task.phase = .listening) : task.port ∈ command.boundPorts := by
  refine List.mem_flatMap.mpr ⟨task, List.mem_of_getElem? htask, ?_⟩
  simp [sockets, hphase]

/-- Whatever the traffic before, a datagram of a source without a session ends its
task: the bind meets the listener's own socket. -/
theorem datagram_of_new_source {command : ClientCommand Addr} {index : Nat}
    {task : UdpTask Addr} {addr : Addr} (htask : command.tasks[index]? = some task)
    (hphase : task.phase = .listening) (hpoint : task.udp.point = .receiving)
    (hentry : task.udp.entry addr = none) (payload : List UInt8) :
    command.datagram occupied index addr payload =
      some (command.setTask index { task with phase := .ended (.bindsSource addr) }) := by
  have hinUse : command.addrInUse occupied task.port = true := by
    simp [addrInUse, mem_boundPorts_of_listening htask hphase]
  simp [datagram, htask, hphase, hpoint, hentry, hinUse]

/-! ## No datagram survives its handling -/

/-- Before the first datagram a listener has nothing to hand over and no sessions. -/
theorem Untouched.no_listenerStep {command next : ClientCommand Addr}
    (huntouched : command.Untouched) {index : Nat} {event : UdpSessionsEvent Addr}
    (hevent : ∀ addr payload, event ≠ .datagram addr payload) :
    command.listenerStep index event ≠ some next := by
  intro hstep
  obtain ⟨task, htask, hrest⟩ := Option.bind_eq_some_iff.mp hstep
  split at hrest
  · obtain ⟨udp, hudp, -⟩ := Option.bind_eq_some_iff.mp hrest
    rw [huntouched.udp task (List.mem_of_getElem? htask)] at hudp
    cases event with
    | datagram addr payload => exact hevent addr payload rfl
    | handed | sendFails => cases hudp
    | session id event => simp [UdpSessions.step, UdpSessions.start] at hudp
  · cases hrest

theorem Untouched.step {command next : ClientCommand Addr} {event : ClientCommandEvent Addr}
    (huntouched : command.Untouched) (hevent : NoDatagram event)
    (hstep : command.step occupied event = some next) : next.Untouched := by
  unfold ClientCommand.step at hstep
  split at hstep
  · cases hstep
  cases event with
  | datagram index addr payload => cases hevent
  | bindListener index =>
      obtain ⟨task, htask, hrest⟩ := Option.bind_eq_some_iff.mp hstep
      split at hrest
      · split at hrest
        · exact Option.some.inj hrest ▸ huntouched.setTask htask rfl (by simp)
        · split at hrest
          · exact Option.some.inj hrest ▸ huntouched.setTask htask rfl (by simp)
          · exact Option.some.inj hrest ▸ huntouched.setTask htask rfl (by simp)
      · cases hrest
  | handed index => exact absurd hstep (huntouched.no_listenerStep (by simp))
  | sendFails index => exact absurd hstep (huntouched.no_listenerStep (by simp))
  | session index id event =>
      obtain ⟨task, htask, hrest⟩ := Option.bind_eq_some_iff.mp hstep
      obtain ⟨udp, hudp, -⟩ := Option.bind_eq_some_iff.mp hrest
      rw [huntouched.udp task (List.mem_of_getElem? htask)] at hudp
      simp [UdpSessions.step, UdpSessions.start] at hudp
  | joinNext index =>
      obtain ⟨task, htask, hrest⟩ := Option.bind_eq_some_iff.mp hstep
      split at hrest
      next result hphase =>
        obtain rfl := Option.some.inj hrest
        refine ⟨huntouched.udp, huntouched.survives.1, fun addr hreturned => ?_⟩
        obtain rfl : result = .bindsSource addr := by simpa using hreturned
        exact huntouched.survives.1 task (List.mem_of_getElem? htask) addr hphase
      · cases hrest
      · cases hrest
  | otherTask | ctrlC =>
      exact Option.some.inj hstep ▸
        ⟨huntouched.udp, huntouched.survives.1, fun addr hreturned => by simp at hreturned⟩

/-- The first datagram ends the task of its channel. -/
theorem Untouched.not_survives {command next : ClientCommand Addr}
    {event : ClientCommandEvent Addr} (huntouched : command.Untouched)
    (hevent : ¬ NoDatagram event) (hstep : command.step occupied event = some next) :
    ¬ next.Survives := by
  unfold ClientCommand.step at hstep
  split at hstep
  · cases hstep
  cases event with
  | datagram index addr payload =>
      obtain ⟨task, htask, hrest⟩ := Option.bind_eq_some_iff.mp hstep
      have hudp := huntouched.udp task (List.mem_of_getElem? htask)
      have hphase : task.phase = .listening := by
        split at hrest
        next hvacant => exact hvacant.1
        · obtain ⟨other, hother, hlistening⟩ := Option.bind_eq_some_iff.mp hrest
          obtain rfl := Option.some.inj (htask.symm.trans hother)
          split at hlistening
          next hphase => exact hphase
          · cases hlistening
      have hends : command.datagram occupied index addr payload = _ :=
        datagram_of_new_source htask hphase (by rw [hudp]; rfl)
          (by rw [hudp]; rfl : task.udp.entry addr = none) payload
      obtain rfl := Option.some.inj (hends.symm.trans hstep)
      intro hsurvives
      refine hsurvives.1 { task with phase := .ended (.bindsSource addr) } ?_ addr rfl
      exact List.mem_of_getElem? (getElem?_set_self_of_some htask)
  | bindListener | handed | sendFails | session | joinNext | otherTask | ctrlC =>
      exact absurd trivial hevent

/-- For every configuration, whatever the ports of other processes, and every run: no UDP
task returns an error out of the handling of a datagram, and `client_command` does not
return by one, in exactly the runs in which no datagram arrives. -/
theorem udp_survives_iff {channels : List Channel} {events : List (ClientCommandEvent Addr)}
    {final : ClientCommand Addr}
    (hrun : (clientCommandSystem Addr occupied).run (.start channels) events = some final) :
    (clientCommandSystem Addr occupied).Throughout Survives (.start channels) events ↔
      (clientCommandSystem Addr occupied).Guarded (fun _ event => NoDatagram event)
        (.start channels) events :=
  TransitionSystem.throughout_iff_guarded Untouched (fun _ huntouched => huntouched.survives)
    (fun _ _ _ huntouched hevent hnext => huntouched.step hevent hnext)
    (fun _ _ _ huntouched hevent hnext => huntouched.not_survives hevent hnext)
    (untouched_start channels) hrun

/-- Two UDP channels and one of another kind; both listeners are bound and Ctrl-C ends
the command. -/
theorem udp_survives_idle :
    let channels : List Channel := [.udp ⟨53, by decide⟩ none (some .udp),
      .tcp ⟨8080, by decide⟩ none none, .udp ⟨54, by decide⟩ (some ⟨5354, by decide⟩) (some .udp)]
    let events : List (ClientCommandEvent Nat) := [.bindListener 0, .bindListener 1, .ctrlC]
    ∃ final, (clientCommandSystem Nat fun _ => false).run (.start channels) events =
        some final ∧ final.returned = some .interrupted ∧
      (clientCommandSystem Nat fun _ => false).Throughout Survives (.start channels) events := by
  intro channels events
  obtain ⟨final, hrun, htest⟩ := (clientCommandSystem Nat fun _ => false).exists_run_of_any
    (.start channels) events (fun final => decide (final.returned = some .interrupted))
    (by decide +kernel)
  have hguarded : (clientCommandSystem Nat fun _ => false).Guarded
      (fun _ event => NoDatagram event) (.start channels) events :=
    TransitionSystem.guarded_of_check (by decide +kernel)
  exact ⟨final, hrun, of_decide_eq_true htest, (udp_survives_iff hrun).mpr hguarded⟩

/-- One UDP channel on a machine with no other socket: the first datagram ends its task
with `AddrInUse`, and `client_command` returns that error. -/
theorem udp_first_datagram_ends_command :
    ∃ final, (clientCommandSystem Nat fun _ => false).run
        (.start [.udp ⟨53, by decide⟩ none (some .udp)])
        [.bindListener 0, .datagram 0 7 [1, 2, 3], .joinNext 0] = some final ∧
      final.returned = some (.udpTask (.bindsSource 7)) ∧ ¬ final.Survives := by
  obtain ⟨final, hrun, htest⟩ := (clientCommandSystem Nat fun _ => false).exists_run_of_any
    (.start [.udp ⟨53, by decide⟩ none (some .udp)])
    [.bindListener 0, .datagram 0 7 [1, 2, 3], .joinNext 0]
    (fun final => decide (final.returned = some (.udpTask (.bindsSource 7)))) (by decide +kernel)
  have hreturned := of_decide_eq_true htest
  exact ⟨final, hrun, hreturned, fun hsurvives => hsurvives.2 7 hreturned⟩

end ClientCommand

end MangleWebRTC.Tunnel
