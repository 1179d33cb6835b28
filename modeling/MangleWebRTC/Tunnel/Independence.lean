import MangleWebRTC.Tunnel.Blocked

/-! # One task for all channels of a peer

A channel that waits behind another one can be relayed exactly when the task gets past the
other one with what its ends have brought before.
-/

namespace MangleWebRTC.Tunnel

open Machine

namespace ServerTask

variable {config : List Channel} {task : ServerTask} {pending : Option Item}

/-! ## What gets past the others -/

/-- A continuation without the ends of other channels that leaves the queue alone. -/
def Leads (config : List Channel) (id : Nat) (pending : Option Item) (task next : ServerTask) :
    Prop :=
  (serverSystem config).ReachableFrom (Spares id pending) task next ∧ next.queue = task.queue

theorem Leads.refl (id : Nat) : Leads config id pending task task := ⟨.refl, rfl⟩

theorem Leads.trans {id : Nat} {middle next : ServerTask}
    (hfirst : Leads config id pending task middle)
    (hsecond : Leads config id pending middle next) : Leads config id pending task next :=
  ⟨hfirst.1.trans hsecond.1, hsecond.2.trans hfirst.2⟩

theorem Leads.single {id : Nat} {next : ServerTask} {event : ServerEvent}
    (hspares : Spares id pending task event) (hstep : task.step config event = some next)
    (hqueue : next.queue = task.queue) : Leads config id pending task next :=
  ⟨.tail .refl hspares hstep, hqueue⟩

theorem reaches_step {id : Nat} {start middle next : ServerTask} {event : ServerEvent}
    (hreach : (serverSystem config).ReachableFrom (Spares id pending) start middle)
    (hstep : middle.step config event = some next) (hspares : Spares id pending middle event) :
    (serverSystem config).ReachableFrom (Spares id pending) start next :=
  .tail hreach hspares hstep

theorem CanRelay.of_reaches {id : Nat} {next : ServerTask}
    (hcan : CanRelay config next id pending)
    (hreach : (serverSystem config).ReachableFrom (Spares id pending) task next) :
    CanRelay config task id pending := by
  obtain ⟨before, after, event, hbefore, hrest⟩ := hcan
  exact ⟨before, after, event, hreach.trans hbefore, hrest⟩

theorem protocol_of_reaches {guard : ServerTask → ServerEvent → Prop} {next : ServerTask}
    (hreach : (serverSystem config).ReachableFrom guard task next) (id : Nat)
    (channel : ServerChannel) (hchannel : task.channels[id]? = some channel) :
    ∃ kept, next.channels[id]? = some kept ∧ kept.protocol = channel.protocol := by
  apply hreach.invariant (fun state : ServerTask =>
    ∃ kept, state.channels[id]? = some kept ∧ kept.protocol = channel.protocol)
    ⟨channel, hchannel, rfl⟩
  rintro state event next ⟨kept, hkept, hprotocol⟩ _ hstep
  obtain ⟨later, hlater, hsame, _⟩ := channel_of_step (.of_step hstep) id kept hkept
  exact ⟨later, hlater, hsame.trans hprotocol⟩

/-- A continuation that leaves the queue alone puts no channel before another. -/
theorem Behind.of_reaches {guard : ServerTask → ServerEvent → Prop} {next : ServerTask}
    {id : Nat} (hbehind : Behind config next id) (horderly : task.Orderly config)
    (hreach : (serverSystem config).ReachableFrom guard task next)
    (hqueue : next.queue = task.queue) : Behind config task id := by
  obtain ⟨ahead, rest, other, kept, hcontents, hmem, hkept, hserved⟩ := hbehind
  rw [hqueue] at hcontents
  obtain ⟨channel, hchannel, _⟩ := horderly.queued other (by
    rw [hcontents]
    exact List.mem_append_left _ hmem)
  obtain ⟨found, hfound, hprotocol⟩ := protocol_of_reaches hreach other channel hchannel
  obtain rfl := Option.some.inj (hfound.symm.trans hkept)
  exact ⟨ahead, rest, other, channel, hcontents, hmem, hchannel, hprotocol ▸ hserved⟩

end ServerTask

end MangleWebRTC.Tunnel
