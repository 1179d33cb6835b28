import MangleWebRTC.Machine.TransitionSystem
import MangleWebRTC.Upgrade.Fidelity
import MangleWebRTC.Upgrade.IceExchange

/-! # A call of `UpgradeWebRTCClient::upgrade`, with its failures

One phase for every await of the call, and one event for every result the await can
have. A `?` on an error drops the peer connection with the other locals and returns;
the source has no call of `peer.close()`.
-/

namespace MangleWebRTC.Upgrade

open Machine

/-- What `upgrade` takes from outside the repository. -/
structure ClientEnvironment extends Environment where
  DataChannelInit : Type
  WebRTCError : Type

namespace UpgradeCall

/-- The messages of the server. -/
abbrev Message (env : ClientEnvironment) : Type := RTCMessage env.Sdp env.CandidateInit

/-- The awaits of `upgrade`, and its end: the result with the labels of the data
channels, or a panic. -/
inductive Phase (env : ClientEnvironment) where
  | creatingPeer (channelConfigs : List (String × env.DataChannelInit))
  | creatingChannel (label : String) (option : env.DataChannelInit)
      (channelConfigs : List (String × env.DataChannelInit))
  | creatingOffer
  | sendingOffer (offer : env.Sdp)
  | settingLocal (offer : env.Sdp)
  | awaitingAnswer (ices : List env.CandidateInit)
  | settingRemote (answer : env.Sdp) (ices : List env.CandidateInit)
  | addingIce (ice : env.CandidateInit) (ices : List env.CandidateInit)
  | iceLoop (loop : IceLoop env.Candidate env.CandidateInit)
  | returned (result : Except (ClientError env.Err env.WebRTCError) (List String))
  | panicked

/-- What happens to the peer connection: a drop does not close it. -/
inductive Action where
  | created
  | closed
  | dropped
  | handedOut
  deriving DecidableEq, Repr

/-- The results of the awaits. -/
inductive Event (env : ClientEnvironment) where
  | createdPeer (result : Except env.WebRTCError Unit)
  | createdChannel (result : Except env.WebRTCError Unit)
  | createdOffer (result : Except env.WebRTCError env.Sdp)
  | sentOffer (result : Except IoError Unit)
  | setLocal (result : Except env.WebRTCError Unit)
  | receivedMsg (result : Except (RecvError env.Err) (Message env))
  | setRemote (result : Except env.WebRTCError Unit)
  | addedIce (result : Except env.WebRTCError Unit)
  | tookIce (ice : Option env.Candidate)
  | sentIce (result : Except IoError Unit)
  | receivedIce (result : Except (RecvError env.Err) (Option (Message env)))
  /-- An `expect` of `send_obj`, or the `unwrap` of a candidate channel without sender. -/
  | panics

end UpgradeCall

/-- The call, with the labels of the data channels created so far. -/
structure UpgradeCall (env : ClientEnvironment) where
  phase : UpgradeCall.Phase env
  channels : List String
  trace : List UpgradeCall.Action

namespace UpgradeCall

variable {env : ClientEnvironment}

/-- The call has not created its peer yet. -/
def start (channelConfigs : List (String × env.DataChannelInit)) : UpgradeCall env :=
  ⟨.creatingPeer channelConfigs, [], []⟩

/-- The call goes on to its next await. -/
def goto (call : UpgradeCall env) (phase : Phase env) : UpgradeCall env :=
  { call with phase := phase }

/-- Something happens to the peer connection of the call. -/
def record (call : UpgradeCall env) (action : Action) : UpgradeCall env :=
  { call with trace := call.trace ++ [action] }

/-- `return Err(..)`, where the peer goes out of scope. -/
def fail (call : UpgradeCall env) (error : ClientError env.Err env.WebRTCError) : UpgradeCall env :=
  (call.record .dropped).goto (.returned (.error error))

/-- The operator `?`. -/
def attempt {Val Error : Type} (call : UpgradeCall env) (result : Except Error Val)
    (ofError : Error → ClientError env.Err env.WebRTCError) (next : Val → UpgradeCall env) :
    UpgradeCall env :=
  match result with
  | .ok value => next value
  | .error error => call.fail (ofError error)

/-- `for (label, option) in channel_configs`. -/
def createChannels : List (String × env.DataChannelInit) → Phase env
  | [] => .creatingOffer
  | (label, option) :: channelConfigs => .creatingChannel label option channelConfigs

/-- `for ice in ices`. -/
def addIces : List env.CandidateInit → Phase env
  | [] => .iceLoop .start
  | ice :: ices => .addingIce ice ices

/-- The loop goes on, or its `break` leads to `Ok(PeerAndChannels { peer, channels })`. -/
def afterLoop (call : UpgradeCall env) :
    Option (IceLoop env.Candidate env.CandidateInit) → UpgradeCall env
  | some loop => call.goto (.iceLoop loop)
  | none => (call.record .handedOut).goto (.returned (.ok call.channels))

/-- The first message that is an answer ends the loop; candidates are kept. -/
def receiveMsg (call : UpgradeCall env) (ices : List env.CandidateInit) :
    Message env → UpgradeCall env
  | .sdpAnswer answer => call.goto (.settingRemote answer ices)
  | .ice candidate => call.goto (.awaitingAnswer (ices ++ [candidate]))

/-- A message received in the candidate exchange. -/
def receiveIce (call : UpgradeCall env) (loop : IceLoop env.Candidate env.CandidateInit) :
    Option (Message env) → UpgradeCall env
  | some (.ice candidate) => call.goto (.iceLoop { loop with point := .applying candidate })
  | none => call.afterLoop loop.afterEnd
  | some (.sdpAnswer _) => call.fail .unexpectedMessage

/-- The peer connection is a local of the call. -/
def Phase.ownsPeer : Phase env → Bool
  | creatingPeer _ | returned _ | panicked => false
  | _ => true

/-- The call has neither returned nor panicked. -/
def Phase.running : Phase env → Bool
  | returned _ | panicked => false
  | _ => true

/-- The result of one await, with the code of the call up to the next await. -/
def step (call : UpgradeCall env) (event : Event env) : Option (UpgradeCall env) :=
  match call.phase, event with
  | .creatingPeer channelConfigs, .createdPeer (.ok ()) =>
      some ((call.record .created).goto (createChannels channelConfigs))
  -- There is no peer to drop.
  | .creatingPeer _, .createdPeer (.error error) =>
      some (call.goto (.returned (.error (.webRTCError error))))
  | .creatingChannel label _ channelConfigs, .createdChannel result =>
      some (call.attempt result .webRTCError fun () =>
        { call with channels := call.channels ++ [label] }.goto (createChannels channelConfigs))
  | .creatingOffer, .createdOffer result =>
      some (call.attempt result .webRTCError fun offer => call.goto (.sendingOffer offer))
  | .sendingOffer offer, .sentOffer result =>
      some (call.attempt result .ioError fun () => call.goto (.settingLocal offer))
  | .settingLocal _, .setLocal result =>
      some (call.attempt result .webRTCError fun () => call.goto (.awaitingAnswer []))
  | .awaitingAnswer ices, .receivedMsg result =>
      some (call.attempt result .ofRecvError (call.receiveMsg ices))
  | .settingRemote _ ices, .setRemote result =>
      some (call.attempt result .webRTCError fun () => call.goto (addIces ices))
  | .addingIce _ ices, .addedIce result =>
      some (call.attempt result .webRTCError fun () => call.goto (addIces ices))
  | .iceLoop ⟨sending, receiving, .select⟩, .tookIce ice =>
      some (call.goto (.iceLoop ⟨sending, receiving, .sending ice⟩))
  | .iceLoop ⟨sending, receiving, .sending ice⟩, .sentIce result =>
      some (call.attempt result .ioError fun () =>
        call.afterLoop (IceLoop.afterSend ⟨sending, receiving, .sending ice⟩ ice))
  | .iceLoop ⟨sending, receiving, .select⟩, .receivedIce result =>
      some (call.attempt result .ofRecvError (call.receiveIce ⟨sending, receiving, .select⟩))
  | .iceLoop ⟨sending, receiving, .applying _⟩, .addedIce result =>
      some (call.attempt result .webRTCError fun () =>
        call.goto (.iceLoop ⟨sending, receiving, .select⟩))
  | phase, .panics => if phase.running then some (call.goto .panicked) else none
  | _, _ => none

end UpgradeCall

/-- All runs of a call, whatever its awaits result in and whatever channels it creates. -/
def upgradeSystem (env : ClientEnvironment) :
    TransitionSystem (UpgradeCall env) (UpgradeCall.Event env) where
  init call := ∃ channelConfigs, call = .start channelConfigs
  step := UpgradeCall.step

/-! ## What becomes of the peer -/

namespace UpgradeCall

variable {env : ClientEnvironment}

/-- The await gave no error, and the message is no answer in the candidate exchange.
A failed `new_peer_connection` leaves no peer and does not count. -/
def Event.Succeeds : Event env → Prop
  | .createdPeer _ | .tookIce _ | .panics => True
  | .createdChannel result | .setLocal result | .setRemote result | .addedIce result =>
      result.isOk
  | .createdOffer result => result.isOk
  | .sentOffer result | .sentIce result => result.isOk
  | .receivedMsg result => result.isOk
  | .receivedIce (.ok (some (.sdpAnswer _))) => False
  | .receivedIce result => result.isOk

/-- What an event does to the peer. -/
inductive Effect (call next : UpgradeCall env) (event : Event env) : Prop
  | created (hphase : ∃ channelConfigs, call.phase = .creatingPeer channelConfigs)
      (hsucceeds : event.Succeeds) (hnext : next.phase.ownsPeer = true)
      (htrace : next.trace = call.trace ++ [.created])
  | refused (error : ClientError env.Err env.WebRTCError)
      (hphase : ∃ channelConfigs, call.phase = .creatingPeer channelConfigs)
      (hsucceeds : event.Succeeds) (hnext : next.phase = .returned (.error error))
      (htrace : next.trace = call.trace)
  | goesOn (howns : call.phase.ownsPeer = true) (hsucceeds : event.Succeeds)
      (hnext : next.phase.ownsPeer = true) (htrace : next.trace = call.trace)
  | returns (channels : List String) (howns : call.phase.ownsPeer = true)
      (hsucceeds : event.Succeeds) (hnext : next.phase = .returned (.ok channels))
      (htrace : next.trace = call.trace ++ [.handedOut])
  | fails (error : ClientError env.Err env.WebRTCError) (howns : call.phase.ownsPeer = true)
      (hfails : ¬ event.Succeeds) (hnext : next.phase = .returned (.error error))
      (htrace : next.trace = call.trace ++ [.dropped])
  | panicked (hsucceeds : event.Succeeds) (hnext : next.phase = .panicked)

theorem ownsPeer_createChannels (channelConfigs : List (String × env.DataChannelInit)) :
    (createChannels channelConfigs).ownsPeer = true := by
  cases channelConfigs <;> rfl

theorem ownsPeer_addIces (ices : List env.CandidateInit) :
    (addIces ices).ownsPeer = true := by
  cases ices <;> rfl

/-- A result and what the code behind its `?` does with a value. -/
theorem Effect.attempt {call : UpgradeCall env} {event : Event env} {Val Error : Type}
    (howns : call.phase.ownsPeer = true) (result : Except Error Val)
    (ofError : Error → ClientError env.Err env.WebRTCError) (after : Val → UpgradeCall env)
    (hsucceeds : event.Succeeds ↔ result.isOk = true)
    (hafter : ∀ value, event.Succeeds → Effect call (after value) event) :
    Effect call (call.attempt result ofError after) event := by
  cases result with
  | ok value => exact hafter value (hsucceeds.mpr rfl)
  | error error =>
      exact .fails (ofError error) howns (fun hall => by cases hsucceeds.mp hall) rfl rfl

theorem Effect.goto {call : UpgradeCall env} {event : Event env}
    (howns : call.phase.ownsPeer = true) (hsucceeds : event.Succeeds) {phase : Phase env}
    (hnext : phase.ownsPeer = true) : Effect call (call.goto phase) event :=
  .goesOn howns hsucceeds hnext rfl

theorem Effect.afterLoop {call : UpgradeCall env} {event : Event env}
    (howns : call.phase.ownsPeer = true) (hsucceeds : event.Succeeds)
    (after : Option (IceLoop env.Candidate env.CandidateInit)) :
    Effect call (call.afterLoop after) event := by
  cases after with
  | some loop => exact .goto howns hsucceeds rfl
  | none => exact .returns call.channels howns hsucceeds rfl rfl

theorem step_effect {call next : UpgradeCall env} {event : Event env}
    (hstep : call.step event = some next) : Effect call next event := by
  have hattempt : ∀ {phase : Phase env} {Val Error : Type} {result : Except Error Val}
      {ofError : Error → ClientError env.Err env.WebRTCError} {after : Val → UpgradeCall env},
      call.phase = phase → phase.ownsPeer = true → (event.Succeeds ↔ result.isOk = true) →
      some (call.attempt result ofError after) = some next →
      (∀ value, call.phase.ownsPeer = true → event.Succeeds → Effect call (after value) event) →
      Effect call next event := by
    intro phase Val Error result ofError after hphase howns hsucceeds hnext hafter
    rw [← hphase] at howns
    exact Option.some.inj hnext ▸
      .attempt howns result ofError after hsucceeds fun value => hafter value howns
  unfold step at hstep
  split at hstep
  next channelConfigs hphase =>
    exact Option.some.inj hstep ▸
      .created ⟨_, hphase⟩ trivial (ownsPeer_createChannels channelConfigs) rfl
  next channelConfigs error hphase =>
    exact Option.some.inj hstep ▸ .refused _ ⟨_, hphase⟩ trivial rfl rfl
  next label option channelConfigs result hphase =>
    exact hattempt hphase rfl .rfl hstep fun _ howns hsucceeds =>
      .goesOn howns hsucceeds (ownsPeer_createChannels channelConfigs) rfl
  next result hphase =>
    exact hattempt hphase rfl .rfl hstep fun _ howns hsucceeds =>
      .goto howns hsucceeds rfl
  next offer result hphase =>
    exact hattempt hphase rfl .rfl hstep fun _ howns hsucceeds =>
      .goto howns hsucceeds rfl
  next offer result hphase =>
    exact hattempt hphase rfl .rfl hstep fun _ howns hsucceeds =>
      .goto howns hsucceeds rfl
  next ices result hphase =>
    refine hattempt hphase rfl .rfl hstep fun message howns hsucceeds => ?_
    cases message with
    | sdpAnswer answer => exact .goto howns hsucceeds rfl
    | ice candidate => exact .goto howns hsucceeds rfl
  next answer ices result hphase =>
    exact hattempt hphase rfl .rfl hstep fun _ howns hsucceeds =>
      .goto howns hsucceeds (ownsPeer_addIces ices)
  next ice ices result hphase =>
    exact hattempt hphase rfl .rfl hstep fun _ howns hsucceeds =>
      .goto howns hsucceeds (ownsPeer_addIces ices)
  next sending receiving ice hphase =>
    have howns : call.phase.ownsPeer = true := by rw [hphase]; rfl
    have hsucceeds : (Event.tookIce ice : Event env).Succeeds := trivial
    exact Option.some.inj hstep ▸ .goto howns hsucceeds rfl
  next sending receiving ice result hphase =>
    exact hattempt hphase rfl .rfl hstep fun _ howns hsucceeds =>
      .afterLoop howns hsucceeds _
  next sending receiving result hphase =>
    have howns : call.phase.ownsPeer = true := by rw [hphase]; rfl
    obtain rfl := Option.some.inj hstep
    match result with
    | .error error => exact .fails (.ofRecvError error) howns Bool.noConfusion rfl rfl
    | .ok none =>
        have hsucceeds : (Event.receivedIce (.ok none) : Event env).Succeeds := rfl
        exact .afterLoop howns hsucceeds _
    | .ok (some (.ice candidate)) =>
        have hsucceeds : (Event.receivedIce (.ok (some (.ice candidate))) : Event env).Succeeds :=
          rfl
        exact .goto howns hsucceeds rfl
    -- An answer in the candidate exchange is well formed and still an error.
    | .ok (some (.sdpAnswer answer)) => exact .fails .unexpectedMessage howns id rfl rfl
  next sending receiving ice result hphase =>
    exact hattempt hphase rfl .rfl hstep fun _ howns hsucceeds =>
      .goto howns hsucceeds rfl
  · split at hstep
    · exact Option.some.inj hstep ▸ .panicked trivial rfl
    · cases hstep
  · cases hstep

/-- The peer at the end of a call: an error is returned with the peer closed, if it was
created, and a value with the peer handed out once and not closed. -/
def PeerAccounted (call : UpgradeCall env) : Prop :=
  match call.phase with
  | .returned (.error _) => .created ∈ call.trace → .closed ∈ call.trace
  | .returned (.ok _) => call.trace.count .created = 1 ∧ call.trace.count .handedOut = 1 ∧
      .closed ∉ call.trace ∧ .dropped ∉ call.trace
  | _ => True

/-- The trace of a call in which nothing has failed behind the creation of its peer. -/
structure OpenTrace (call : UpgradeCall env) : Prop where
  before : ∀ channelConfigs, call.phase = .creatingPeer channelConfigs → call.trace = []
  owns : call.phase.ownsPeer = true → call.trace = [.created]
  refused : ∀ error, call.phase = .returned (.error error) → call.trace = []
  returned : ∀ channels, call.phase = .returned (.ok channels) →
    call.trace = [.created, .handedOut]

theorem OpenTrace.start (channelConfigs : List (String × env.DataChannelInit)) :
    (start channelConfigs).OpenTrace :=
  ⟨fun _ _ => rfl, nofun, nofun, nofun⟩

theorem OpenTrace.peerAccounted {call : UpgradeCall env} (hopen : call.OpenTrace) :
    call.PeerAccounted := by
  unfold PeerAccounted
  split
  next error hphase => simp [hopen.refused error hphase]
  next channels hphase => simp [hopen.returned channels hphase]
  · trivial

/-- A phase that owns the peer is neither the first nor the last. -/
theorem OpenTrace.of_ownsPeer {call : UpgradeCall env} (howns : call.phase.ownsPeer = true)
    (htrace : call.trace = [.created]) : call.OpenTrace := by
  refine ⟨fun _ hphase => ?_, fun _ => htrace, fun _ hphase => ?_, fun _ hphase => ?_⟩ <;>
    simp [hphase, Phase.ownsPeer] at howns

theorem OpenTrace.step {call next : UpgradeCall env} {event : Event env}
    (hopen : call.OpenTrace) (hsucceeds : event.Succeeds) (hstep : call.step event = some next) :
    next.OpenTrace := by
  cases step_effect hstep with
  | created hphase _ hnext htrace =>
      obtain ⟨channelConfigs, hphase⟩ := hphase
      rw [hopen.before _ hphase] at htrace
      exact .of_ownsPeer hnext htrace
  | refused error hphase _ hnext htrace =>
      obtain ⟨channelConfigs, hphase⟩ := hphase
      rw [hopen.before _ hphase] at htrace
      exact ⟨fun _ _ => htrace, by simp [hnext, Phase.ownsPeer], fun _ _ => htrace, by simp [hnext]⟩
  | goesOn howns _ hnext htrace => exact .of_ownsPeer hnext (htrace.trans (hopen.owns howns))
  | returns channels howns _ hnext htrace =>
      rw [hopen.owns howns] at htrace
      exact ⟨by simp [hnext], by simp [hnext, Phase.ownsPeer], by simp [hnext], fun _ _ => htrace⟩
  | fails error howns hfails => exact absurd hsucceeds hfails
  | panicked _ hnext =>
      exact ⟨by simp [hnext], by simp [hnext, Phase.ownsPeer], by simp [hnext], by simp [hnext]⟩

/-- The first failure behind the creation of the peer returns an error with the peer
dropped and not closed. -/
theorem not_peerAccounted_of_failure {call next : UpgradeCall env} {event : Event env}
    (hopen : call.OpenTrace) (hfails : ¬ event.Succeeds) (hstep : call.step event = some next) :
    ¬ next.PeerAccounted := by
  cases step_effect hstep with
  | created _ hsucceeds | refused _ _ hsucceeds | goesOn _ hsucceeds | returns _ _ hsucceeds
  | panicked hsucceeds => exact absurd hsucceeds hfails
  | fails error howns _ hnext htrace =>
      rw [hopen.owns howns] at htrace
      simp [PeerAccounted, hnext, htrace]

/-- For every list of channel configurations, every behaviour of the server and of webrtc
and every failure: an `upgrade` that returns an error has closed its peer, and one that
returns a value hands its peer out open and once, in exactly the calls in which nothing
fails after `new_peer_connection`. -/
theorem upgrade_leaks_nothing_iff {channelConfigs : List (String × env.DataChannelInit)}
    {events : List (Event env)} {final : UpgradeCall env}
    (hrun : (upgradeSystem env).run (.start channelConfigs) events = some final) :
    (upgradeSystem env).Throughout PeerAccounted (.start channelConfigs) events ↔
      (upgradeSystem env).Guarded (fun _ event => event.Succeeds) (.start channelConfigs) events :=
  TransitionSystem.throughout_iff_guarded OpenTrace (fun _ hopen => hopen.peerAccounted)
    (fun _ _ _ hopen hsucceeds hnext => hopen.step hsucceeds hnext)
    (fun _ _ _ hopen hfails hnext => not_peerAccounted_of_failure hopen hfails hnext)
    (.start channelConfigs) hrun

end UpgradeCall

/-- One-byte messages, with errors that say nothing. -/
abbrev byteClient : ClientEnvironment where
  toEnvironment := byteEnvironment
  DataChannelInit := Unit
  WebRTCError := Unit

namespace UpgradeCall

/-- Two data channels, a candidate before the answer and one after it. -/
theorem upgrade_leaks_nothing_two_channels :
    let channelConfigs := [("first", ()), ("second", ())]
    let events : List (Event byteClient) := [.createdPeer (.ok ()), .createdChannel (.ok ()),
      .createdChannel (.ok ()), .createdOffer (.ok 1), .sentOffer (.ok ()), .setLocal (.ok ()),
      .receivedMsg (.ok (.ice 3)), .receivedMsg (.ok (.sdpAnswer 2)), .setRemote (.ok ()),
      .addedIce (.ok ()), .tookIce none, .sentIce (.ok ()), .receivedIce (.ok (some (.ice 4))),
      .addedIce (.ok ()), .receivedIce (.ok none)]
    ∃ final, (upgradeSystem byteClient).run (.start channelConfigs) events = some final ∧
      final.trace = [.created, .handedOut] ∧
      (upgradeSystem byteClient).Throughout PeerAccounted (.start channelConfigs) events := by
  intro channelConfigs events
  obtain ⟨final, hrun, htest⟩ := (upgradeSystem byteClient).exists_run_of_any
    (.start channelConfigs) events (fun final => decide (final.trace = [.created, .handedOut]))
    (by decide +kernel)
  have hguarded : (upgradeSystem byteClient).Guarded (fun _ event => event.Succeeds)
      (.start channelConfigs) events := by
    apply TransitionSystem.guarded_of_forall
    simp [events, Event.Succeeds, Except.isOk, Except.toBool]
  exact ⟨final, hrun, of_decide_eq_true htest, (upgrade_leaks_nothing_iff hrun).mpr hguarded⟩

/-- The server closes the connection instead of answering. -/
theorem upgrade_leaks_peer :
    ∃ final, (upgradeSystem byteClient).run (.start []) [.createdPeer (.ok ()),
        .createdOffer (.ok 1), .sentOffer (.ok ()), .setLocal (.ok ()),
        .receivedMsg (.error (.ioError .unexpectedEof))] = some final ∧
      final.phase = .returned (.error (.ioError .unexpectedEof)) ∧
      final.trace = [.created, .dropped] ∧ ¬ final.PeerAccounted := by
  refine ⟨⟨.returned (.error (.ioError .unexpectedEof)), [], [.created, .dropped]⟩, rfl, rfl, rfl,
    ?_⟩
  simp [PeerAccounted]

end UpgradeCall

end MangleWebRTC.Upgrade
