import MangleWebRTC.Tunnel.ServerService
import MangleWebRTC.Tunnel.Startup
import MangleWebRTC.Upgrade.ChannelLabels
import MangleWebRTC.Upgrade.TlsTrust

/-! # The tunnel client from its configuration on

`client_command` connects, adds TLS if the configuration says so, upgrades with the data
channel `init` alone, closes that and runs the tasks of its entries. The upgrade goes over
the stream that the configuration asks for, and none of the command's own calls of `unwrap`
panics.
-/

namespace MangleWebRTC.Tunnel

open Machine Upgrade

/-- The configuration of the client, as far as the command reads it after it has been parsed. -/
structure ClientConfig where
  useTls : Bool
  rootCertPath : Option String
  domainName : Option String
  channels : List Channel

/-- What the command takes from outside the repository: webrtc, the TLS libraries and the
names that they accept for a server. -/
structure CommandEnvironment where
  session : Environment
  WebRTCError : Type
  tls : TlsEnvironment
  connectors : TlsClient tls
  ServerName : Type
  NameError : Type
  tryFrom : String → Except NameError ServerName

/-- What the call of `upgrade` takes from outside the repository. -/
def CommandEnvironment.upgrade (env : CommandEnvironment) : ClientEnvironment where
  toEnvironment := env.session
  DataChannelInit := RTCDataChannelInit
  WebRTCError := env.WebRTCError

/-- The errors that the command returns before its tasks run. -/
inductive CommandError (env : CommandEnvironment) where
  | anyhow (message : String)
  | connect (error : IoError)
  | invalidName (error : env.NameError)
  | tls (error : TlsInitError env.tls)
  | upgrade (error : ClientError env.session.Err env.WebRTCError)
  | closeInit (error : env.WebRTCError)

/-- The stream of the upgrade client. -/
inductive ClientStream (env : CommandEnvironment) where
  | plain
  | tls (domain : env.ServerName) (connector : env.connectors.Connector)

/-- Where the command is: its awaits before the tasks, the tasks, an error, or the panic of
`channels.pop().unwrap()`. The stream and the call of `upgrade` are kept, and the label of the
data channel that is popped and then closed. -/
inductive CommandPoint (env : CommandEnvironment) where
  | connecting
  | handshaking (domain : env.ServerName) (connector : env.connectors.Connector)
  | upgrading (stream : ClientStream env) (call : UpgradeCall env.upgrade)
  | closingInit (stream : ClientStream env) (call : UpgradeCall env.upgrade) (label : String)
  | running (stream : ClientStream env) (call : UpgradeCall env.upgrade) (closed : String)
      (client : TunnelClient)
  | failed (error : CommandError env)
  | panicked

/-- The results of the awaits, with the files that a connector is made from. -/
inductive CommandEvent (env : CommandEnvironment) where
  | connected (files : Files String) (openRoot readRoot : Option TlsIoError)
  | connectFails (error : IoError)
  | handshake (result : Except TlsIoError Unit)
  | upgrade (event : UpgradeCall.Event env.upgrade)
  | closedInit (result : Except env.WebRTCError Unit)
  | task (event : TunnelClientEvent)

/-- `init_channels`. -/
def initChannels : List (String × RTCDataChannelInit) := [("init", tcpDataChannel)]

namespace CommandPoint

variable {env : CommandEnvironment}

/-- The check of the configuration, up to the first await. -/
def start (config : ClientConfig) : CommandPoint env :=
  if config.channels = [] then .failed (.anyhow "No channels provided") else .connecting

/-- The name and the connector for `add_tls_from_config`, up to its first await. -/
def prepareTls (config : ClientConfig) (files : Files String)
    (openRoot readRoot : Option TlsIoError) :
    Except (CommandError env) (env.ServerName × env.connectors.Connector) := do
  match config.domainName with
  | none => .error (.anyhow "Missing domain name")
  | some name => do
      let domain ← (env.tryFrom name).mapError .invalidName
      let connector ←
        (newTlsConnector env.connectors config.rootCertPath openRoot readRoot files).mapError .tls
      return (domain, connector)

/-- What follows `TcpStream::connect`. -/
def afterConnect (config : ClientConfig) (files : Files String)
    (openRoot readRoot : Option TlsIoError) : CommandPoint env :=
  if config.useTls then
    match prepareTls config files openRoot readRoot with
    | .ok (domain, connector) => .handshaking domain connector
    | .error error => .failed error
  else .upgrading .plain (.start initChannels)

/-- What follows `upgrade`, where `channels.pop().unwrap()` takes the last data channel. -/
def afterUpgrade (stream : ClientStream env) (call : UpgradeCall env.upgrade) :
    CommandPoint env :=
  match call.phase with
  | .returned (.ok channels) =>
      match channels.getLast? with
      | some label => .closingInit stream call label
      | none => .panicked
  | .returned (.error error) => .failed (.upgrade error)
  | _ => .upgrading stream call

/-- The result of one await of the command, or a step of its tasks. -/
def step (occupied : SocketKind → Port → Bool) (config : ClientConfig)
    (point : CommandPoint env) : CommandEvent env → Option (CommandPoint env)
  | .connected files openRoot readRoot =>
      match point with
      | .connecting => some (afterConnect config files openRoot readRoot)
      | _ => none
  | .connectFails error =>
      match point with
      | .connecting => some (.failed (.connect error))
      | _ => none
  | .handshake (.ok ()) =>
      match point with
      | .handshaking domain connector =>
          some (.upgrading (.tls domain connector) (.start initChannels))
      | _ => none
  | .handshake (.error error) =>
      match point with
      | .handshaking _ _ => some (.failed (.tls (.ioError error)))
      | _ => none
  | .upgrade event =>
      match point with
      | .upgrading stream call => (call.step event).map (afterUpgrade stream)
      | _ => none
  | .closedInit (.ok ()) =>
      match point with
      | .closingInit stream call label => some (.running stream call label (.start config.channels))
      | _ => none
  | .closedInit (.error error) =>
      match point with
      | .closingInit _ _ _ => some (.failed (.closeInit error))
      | _ => none
  | .task event =>
      match point with
      | .running stream call closed client =>
          (client.step occupied event).map (.running stream call closed)
      | _ => none

end CommandPoint

/-- All runs of the command under a configuration. -/
def commandSystem (env : CommandEnvironment) (occupied : SocketKind → Port → Bool)
    (config : ClientConfig) : TransitionSystem (CommandPoint env) (CommandEvent env) where
  init point := point = .start config
  step := CommandPoint.step occupied config

/-- The stream is the one that the configuration asks for: TLS goes to the configured domain,
with a connector from the configured certificate. -/
def ClientStream.Configured {env : CommandEnvironment} (config : ClientConfig) :
    ClientStream env → Prop
  | plain => config.useTls = false
  | tls domain connector => config.useTls = true ∧
      (∃ name, config.domainName = some name ∧ env.tryFrom name = .ok domain) ∧
      ∃ files openRoot readRoot,
        newTlsConnector env.connectors config.rootCertPath openRoot readRoot files = .ok connector

namespace CommandPoint

variable {env : CommandEnvironment} {occupied : SocketKind → Port → Bool} {config : ClientConfig}

/-- The call has run as it does alone, and it has returned one data channel, `init`. -/
def HasUpgraded (call : UpgradeCall env.upgrade) (label : String) : Prop :=
  (upgradeSystem env.upgrade).ReachableFrom (fun _ _ => True) (.start initChannels) call ∧
    call.phase = .returned (.ok [label]) ∧ label = "init"

/-- What holds at each point of the command. The call of `upgrade` and the tasks run as they
do alone, the tasks behind the return of the call and the close of its data channel, and
`join_next` always has a task. -/
def Proceeds (occupied : SocketKind → Port → Bool) (config : ClientConfig) :
    CommandPoint env → Prop
  | connecting => config.channels ≠ []
  | handshaking domain connector => config.channels ≠ [] ∧
      (ClientStream.tls domain connector : ClientStream env).Configured config
  | upgrading stream call => config.channels ≠ [] ∧ stream.Configured config ∧
      (upgradeSystem env.upgrade).ReachableFrom (fun _ _ => True) (.start initChannels) call
  | closingInit stream call label => config.channels ≠ [] ∧ stream.Configured config ∧
      HasUpgraded call label
  | running stream call closed client => config.channels ≠ [] ∧ stream.Configured config ∧
      HasUpgraded call closed ∧ (tunnelClientSystem occupied config.channels).Reachable client ∧
      client.step occupied .joinNone = none
  | failed _ => True
  | panicked => False

theorem proceeds_start : (start config : CommandPoint env).Proceeds occupied config := by
  unfold start
  split
  · trivial
  next hchannels => exact hchannels

theorem prepareTls_eq_ok {files : Files String} {openRoot readRoot : Option TlsIoError}
    {domain : env.ServerName} {connector : env.connectors.Connector} (htls : config.useTls = true)
    (hprepare : (prepareTls config files openRoot readRoot : Except (CommandError env) _) =
      .ok (domain, connector)) :
    (ClientStream.tls domain connector : ClientStream env).Configured config := by
  unfold prepareTls at hprepare
  split at hprepare
  · cases hprepare
  next name hname =>
    obtain ⟨found, hfound, hprepare⟩ := bind_eq_ok.mp hprepare
    obtain ⟨made, hmade, hprepare⟩ := bind_eq_ok.mp hprepare
    obtain ⟨rfl, rfl⟩ := Prod.mk.inj (Except.ok.inj hprepare)
    exact ⟨htls, ⟨name, hname, mapError_eq_ok.mp hfound⟩, files, openRoot, readRoot,
      mapError_eq_ok.mp hmade⟩

theorem proceeds_afterConnect (hchannels : config.channels ≠ []) (files : Files String)
    (openRoot readRoot : Option TlsIoError) :
    (afterConnect config files openRoot readRoot : CommandPoint env).Proceeds occupied config := by
  unfold afterConnect
  split
  next htls =>
    split
    next domain connector hprepare => exact ⟨hchannels, prepareTls_eq_ok htls hprepare⟩
    · trivial
  next htls => exact ⟨hchannels, Bool.eq_false_iff.mpr htls, .refl⟩

/-- The data channel that is popped is `init`. -/
theorem proceeds_afterUpgrade {stream : ClientStream env} {call : UpgradeCall env.upgrade}
    (hchannels : config.channels ≠ []) (hstream : stream.Configured config)
    (hreach : (upgradeSystem env.upgrade).ReachableFrom (fun _ _ => True) (.start initChannels)
      call) : (afterUpgrade stream call).Proceeds occupied config := by
  unfold afterUpgrade
  split
  next channels hphase =>
    obtain rfl := UpgradeCall.channels_of_returned hreach hphase
    exact ⟨hchannels, hstream, hreach, hphase, rfl⟩
  · trivial
  · exact ⟨hchannels, hstream, hreach⟩

theorem Proceeds.step {point next : CommandPoint env} {event : CommandEvent env}
    (hproceeds : point.Proceeds occupied config)
    (hstep : point.step occupied config event = some next) : next.Proceeds occupied config := by
  unfold CommandPoint.step at hstep
  split at hstep
  next files openRoot readRoot =>
    split at hstep
    · exact Option.some.inj hstep ▸ proceeds_afterConnect hproceeds files openRoot readRoot
    · cases hstep
  next error =>
    split at hstep
    · exact Option.some.inj hstep ▸ trivial
    · cases hstep
  next =>
    split at hstep
    next domain connector =>
      obtain ⟨hchannels, hstream⟩ := hproceeds
      exact Option.some.inj hstep ▸ ⟨hchannels, hstream, .refl⟩
    · cases hstep
  next error =>
    split at hstep
    · exact Option.some.inj hstep ▸ trivial
    · cases hstep
  next event =>
    split at hstep
    next stream call =>
      obtain ⟨hchannels, hstream, hreach⟩ := hproceeds
      obtain ⟨after, hafter, rfl⟩ := Option.map_eq_some_iff.mp hstep
      have hcall : (upgradeSystem env.upgrade).step call event = some after := hafter
      exact proceeds_afterUpgrade hchannels hstream (hreach.tail trivial hcall)
    · cases hstep
  next =>
    split at hstep
    next stream call label =>
      obtain ⟨hchannels, hstream, hupgraded⟩ := hproceeds
      obtain rfl := Option.some.inj hstep
      have hreach : (tunnelClientSystem occupied config.channels).Reachable
          (.start config.channels) := ⟨_, rfl, .refl⟩
      exact ⟨hchannels, hstream, hupgraded, hreach,
        TunnelClient.joinNone_eq_none hchannels hreach⟩
    · cases hstep
  next error =>
    split at hstep
    · exact Option.some.inj hstep ▸ trivial
    · cases hstep
  next event =>
    split at hstep
    next stream call closed client =>
      obtain ⟨hchannels, hstream, hupgraded, hreach, _⟩ := hproceeds
      obtain ⟨after, hafter, rfl⟩ := Option.map_eq_some_iff.mp hstep
      have htask : (tunnelClientSystem occupied config.channels).step client event =
          some after := hafter
      have hlater := hreach.tail trivial htask
      exact ⟨hchannels, hstream, hupgraded, hlater,
        TunnelClient.joinNone_eq_none hchannels hlater⟩
    · cases hstep

/-- In every run of the command, whatever fails: the upgrade goes over the stream that is
configured and never over a plain one when TLS is, the tasks run behind a call of `upgrade`
that has returned `init` alone and behind the close of `init`, and no `unwrap` of the command
panics. -/
theorem command_proceeds (point : CommandPoint env)
    (hreach : (commandSystem env occupied config).Reachable point) :
    point.Proceeds occupied config := by
  apply hreach.invariant (Proceeds occupied config)
  · rintro _ rfl
    exact proceeds_start
  · intro state event next hproceeds _ hstep
    exact hproceeds.step hstep

end CommandPoint

/-- The name of a server is any text, and errors say nothing. -/
def byteCommand : CommandEnvironment where
  session := byteEnvironment
  WebRTCError := Unit
  tls := byteTls
  connectors := byteTrust
  ServerName := String
  NameError := Unit
  tryFrom := .ok

/-- A client with TLS and one UDP entry. -/
def secureConfig : ClientConfig where
  useTls := true
  rootCertPath := some "certs/root_cert.pem"
  domainName := some "localhost"
  channels := [.udp ⟨123, by decide⟩ none (some .udp)]

/-- The client connects, trusts root 7, upgrades and closes its data channel; its only task
starts. -/
def connectsAndStarts : List (CommandEvent byteCommand) :=
  [.connected (fun _ => some [0x43, 7]) none none, .handshake (.ok ()),
    .upgrade (.createdPeer (.ok ())), .upgrade (.createdChannel (.ok ())),
    .upgrade (.createdOffer (.ok (1 : UInt8))), .upgrade (.sentOffer (.ok ())),
    .upgrade (.setLocal (.ok ())), .upgrade (.receivedMsg (.ok (.sdpAnswer (2 : UInt8)))),
    .upgrade (.setRemote (.ok ())), .upgrade (.tookIce none), .upgrade (.sentIce (.ok ())),
    .upgrade (.receivedIce (.ok none)), .closedInit (.ok ()), .task (.start 0)]

open CommandPoint in
theorem command_proceeds_secure :
    ∃ stream call client, (commandSystem byteCommand (fun _ _ => false) secureConfig).run
        (start secureConfig) connectsAndStarts = some (.running stream call "init" client) ∧
      client.listeners.map Listener.phase = [.serving] ∧
      (running stream call "init" client : CommandPoint byteCommand).Proceeds (fun _ _ => false)
        secureConfig := by
  obtain ⟨point, hrun, htest⟩ :=
    (commandSystem byteCommand (fun _ _ => false) secureConfig).exists_run_of_any
      (start secureConfig) connectsAndStarts (fun point => match point with
        | .running _ _ closed client => decide (closed = "init") &&
            decide (client.listeners.map Listener.phase = [.serving])
        | _ => false) (by decide +kernel)
  match point, htest with
  | .running stream call closed client, htest =>
      obtain ⟨hclosed, hserving⟩ := Bool.and_eq_true_iff.mp htest
      obtain rfl := of_decide_eq_true hclosed
      exact ⟨stream, call, client, hrun, of_decide_eq_true hserving,
        command_proceeds (.running stream call "init" client) (.of_run rfl hrun)⟩

/-- `init` is created without a protocol: whatever its configuration, no server opens a
socket for it. -/
theorem init_unserved {config : List Channel} {task : ServerTask}
    (hreach : (serverSystem config).Reachable task) {id : Nat} {channel : ServerChannel}
    (hchannel : task.channels[id]? = some channel) {label : String} {init : RTCDataChannelInit}
    (hinit : (label, init) ∈ initChannels)
    (hprotocol : channel.protocol = init.protocol.getD "") : channel.socket = none := by
  obtain ⟨_, rfl⟩ := Prod.mk.inj (List.mem_singleton.mp hinit)
  by_contra hsocket
  obtain ⟨socket, hsocket⟩ := Option.ne_none_iff_exists'.mp hsocket
  have hserved := ((ServerTask.orderly_of_reachable hreach).served id channel hchannel socket
    hsocket).2
  rw [hprotocol] at hserved
  obtain ⟨entry, hentry, htarget⟩ := Option.bind_eq_some_iff.mp hserved
  rw [allowedChannels_eq] at hentry
  obtain ⟨_, hkey⟩ := lastWithKey_eq_some hentry
  cases entry with
  | udp port remap quality | tcp port remap quality => exact Nat.repr_ne_empty hkey
  | localSocket addr remap quality => cases htarget

end MangleWebRTC.Tunnel
