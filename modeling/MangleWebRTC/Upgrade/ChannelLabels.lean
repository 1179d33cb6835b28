import MangleWebRTC.Upgrade.UpgradeCall

/-! # The data channels that `upgrade` returns

Whatever the results of its awaits, a call that returns a value has one data channel for
every configuration, in their order.
-/

namespace MangleWebRTC.Upgrade

open Machine

namespace UpgradeCall

variable {env : ClientEnvironment} {call next : UpgradeCall env} {event : Event env}

/-- The labels that the `for` loop has yet to come to. -/
def Phase.uncreated : Phase env → List String
  | creatingPeer channelConfigs => channelConfigs.map Prod.fst
  | creatingChannel label _ channelConfigs => label :: channelConfigs.map Prod.fst
  | _ => []

/-- The labels that the call returns if nothing fails from here on. -/
def labels (call : UpgradeCall env) : Option (List String) :=
  match call.phase with
  | .returned (.ok channels) => some channels
  | .returned (.error _) | .panicked => none
  | phase => some (call.channels ++ phase.uncreated)

theorem labels_of_running (hrunning : call.phase.running = true) :
    call.labels = some (call.channels ++ call.phase.uncreated) := by
  unfold labels
  split
  next channels hphase => simp [hphase, Phase.running] at hrunning
  next error hphase => simp [hphase, Phase.running] at hrunning
  next hphase => simp [hphase, Phase.running] at hrunning
  · rfl

theorem uncreated_createChannels (channelConfigs : List (String × env.DataChannelInit)) :
    (createChannels channelConfigs).uncreated = channelConfigs.map Prod.fst := by
  cases channelConfigs <;> rfl

theorem running_createChannels (channelConfigs : List (String × env.DataChannelInit)) :
    (createChannels channelConfigs).running = true := by
  cases channelConfigs <;> rfl

/-- The call has failed, or is going to return the same labels as before. -/
def Keeps (call next : UpgradeCall env) : Prop := next.labels = none ∨ next.labels = call.labels

theorem Keeps.running (hrunning : call.phase.running = true) (hnext : next.phase.running = true)
    (hlabels : next.channels ++ next.phase.uncreated = call.channels ++ call.phase.uncreated) :
    call.Keeps next := by
  right
  rw [labels_of_running hrunning, labels_of_running hnext, hlabels]

theorem Keeps.attempt {Val Error : Type} (result : Except Error Val)
    (ofError : Error → ClientError env.Err env.WebRTCError) (after : Val → UpgradeCall env)
    (hafter : ∀ value, call.Keeps (after value)) :
    call.Keeps (call.attempt result ofError after) := by
  cases result with
  | ok value => exact hafter value
  | error error => exact .inl rfl

/-- Nothing is left to create once the offer has been asked for. -/
theorem Keeps.goto {phase : Phase env} (hrunning : call.phase.running = true)
    (huncreated : call.phase.uncreated = []) (hnext : phase.running = true)
    (hnone : phase.uncreated = []) : call.Keeps (call.goto phase) :=
  .running hrunning hnext (by rw [huncreated]; exact congrArg (call.channels ++ ·) hnone)

theorem Keeps.afterLoop (hrunning : call.phase.running = true)
    (huncreated : call.phase.uncreated = [])
    (after : Option (IceLoop env.Candidate env.CandidateInit)) :
    call.Keeps (call.afterLoop after) := by
  cases after with
  | some loop => exact .goto hrunning huncreated rfl rfl
  | none =>
      right
      rw [labels_of_running hrunning, huncreated, List.append_nil]
      rfl

theorem Keeps.receiveIce (hrunning : call.phase.running = true)
    (huncreated : call.phase.uncreated = [])
    (loop : IceLoop env.Candidate env.CandidateInit) (msg : Option (Message env)) :
    call.Keeps (call.receiveIce loop msg) := by
  match msg with
  | some (.ice candidate) => exact .goto hrunning huncreated rfl rfl
  | none => exact .afterLoop hrunning huncreated _
  | some (.sdpAnswer answer) => exact .inl rfl

theorem keeps_of_step (hstep : call.step event = some next) : call.Keeps next := by
  -- Most awaits are behind the `for` loop, and the code behind their `?` goes to another await.
  have hawait : ∀ {phase : Phase env} {Val Error : Type} {result : Except Error Val}
      {ofError : Error → ClientError env.Err env.WebRTCError} {after : Val → UpgradeCall env},
      call.phase = phase → phase.running = true → phase.uncreated = [] →
      some (call.attempt result ofError after) = some next →
      (∀ value, call.phase.running = true → call.phase.uncreated = [] →
        call.Keeps (after value)) → call.Keeps next := by
    intro phase Val Error result ofError after hphase hrunning huncreated hnext hafter
    rw [← hphase] at hrunning huncreated
    exact Option.some.inj hnext ▸
      .attempt result ofError after fun value => hafter value hrunning huncreated
  unfold step at hstep
  split at hstep
  next channelConfigs hphase =>
    obtain rfl := Option.some.inj hstep
    refine .running (by rw [hphase]; rfl) (running_createChannels channelConfigs) ?_
    rw [hphase]
    exact congrArg (call.channels ++ ·) (uncreated_createChannels channelConfigs)
  next channelConfigs error hphase =>
    exact Option.some.inj hstep ▸ .inl rfl
  next label option channelConfigs result hphase =>
    obtain rfl := Option.some.inj hstep
    refine .attempt result .webRTCError _ fun _ => ?_
    refine .running (by rw [hphase]; rfl) (running_createChannels channelConfigs) ?_
    rw [hphase]
    change (call.channels ++ [label]) ++ (createChannels channelConfigs).uncreated = _
    rw [uncreated_createChannels, List.append_assoc]
    rfl
  next result hphase =>
    exact hawait hphase rfl rfl hstep fun _ hrunning hnone => .goto hrunning hnone rfl rfl
  next offer result hphase =>
    exact hawait hphase rfl rfl hstep fun _ hrunning hnone => .goto hrunning hnone rfl rfl
  next offer result hphase =>
    exact hawait hphase rfl rfl hstep fun _ hrunning hnone => .goto hrunning hnone rfl rfl
  next ices result hphase =>
    refine hawait hphase rfl rfl hstep fun message hrunning hnone => ?_
    cases message with
    | sdpAnswer answer => exact .goto hrunning hnone rfl rfl
    | ice candidate => exact .goto hrunning hnone rfl rfl
  next answer ices result hphase =>
    refine hawait hphase rfl rfl hstep fun _ hrunning hnone => ?_
    cases ices <;> exact .goto hrunning hnone rfl rfl
  next ice ices result hphase =>
    refine hawait hphase rfl rfl hstep fun _ hrunning hnone => ?_
    cases ices <;> exact .goto hrunning hnone rfl rfl
  next sending receiving ice hphase =>
    exact Option.some.inj hstep ▸
      .goto (by rw [hphase]; rfl) (by rw [hphase]; rfl) rfl rfl
  next sending receiving ice result hphase =>
    exact hawait hphase rfl rfl hstep fun _ hrunning hnone => .afterLoop hrunning hnone _
  next sending receiving result hphase =>
    exact hawait hphase rfl rfl hstep fun msg hrunning hnone => .receiveIce hrunning hnone _ msg
  next sending receiving ice result hphase =>
    exact hawait hphase rfl rfl hstep fun _ hrunning hnone => .goto hrunning hnone rfl rfl
  · split at hstep
    · exact Option.some.inj hstep ▸ .inl rfl
    · cases hstep
  · cases hstep

/-- In every run of a call, whatever fails. -/
theorem labels_of_reachable {channelConfigs : List (String × env.DataChannelInit)}
    (hreach : (upgradeSystem env).ReachableFrom (fun _ _ => True) (start channelConfigs) call) :
    call.labels = none ∨ call.labels = some (channelConfigs.map Prod.fst) := by
  apply hreach.invariant fun call =>
    call.labels = none ∨ call.labels = some (channelConfigs.map Prod.fst)
  · exact .inr rfl
  · intro state event next hlabels _ hstep
    have hcall : state.step event = some next := hstep
    rcases keeps_of_step hcall with hnone | hsame
    · exact .inl hnone
    · exact hsame ▸ hlabels

theorem channels_of_returned {channelConfigs : List (String × env.DataChannelInit)}
    (hreach : (upgradeSystem env).ReachableFrom (fun _ _ => True) (start channelConfigs) call)
    {channels : List String} (hphase : call.phase = .returned (.ok channels)) :
    channels = channelConfigs.map Prod.fst := by
  have hlabels : call.labels = some channels := by
    unfold labels
    rw [hphase]
  rcases labels_of_reachable hreach with hnone | hsome
  · cases hnone.symm.trans hlabels
  · exact Option.some.inj (hlabels.symm.trans hsome)

end UpgradeCall

end MangleWebRTC.Upgrade
