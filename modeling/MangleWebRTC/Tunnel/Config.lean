import Mathlib.Logic.Function.Basic

/-! # Channels of the configuration

The server's table of channels, by the protocol string that a remote data channel
carries.
-/

namespace MangleWebRTC.Tunnel

/-- `NonZeroU16`. -/
abbrev Port : Type := { port : Nat // 0 < port ∧ port < UInt16.size }

/-- The kind of data channel that a client asks for. -/
inductive Quality where
  | udp
  | tcp
  | reliableUnordered
  deriving DecidableEq, Repr

/-- An entry of the configuration; both ends read the same format. -/
inductive Channel where
  | udp (port : Port) (remap : Option Port) (quality : Option Quality)
  | tcp (port : Port) (remap : Option Port) (quality : Option Quality)
  | localSocket (addr : String) (remap : Option String) (quality : Option Quality)
  deriving DecidableEq, Repr

/-- The sockets the server opens for a channel. -/
inductive SocketKind where
  | udp
  | tcp
  deriving DecidableEq, Repr

namespace Channel

/-- The key of `allowed_channels`: `remap.unwrap_or(port).to_string()`. -/
def key : Channel → String
  | udp port remap _ | tcp port remap _ => toString (remap.getD port).val
  | localSocket addr remap _ => remap.getD addr

/-- The local socket an entry is served with; `LocalSocket` entries have none. -/
def target : Channel → Option (SocketKind × Port)
  | udp port _ _ => some (.udp, port)
  | tcp port _ _ => some (.tcp, port)
  | localSocket _ _ _ => none

end Channel

/-- `allowed_channels`: later entries replace earlier ones with the same key. -/
def allowedChannels (channels : List Channel) : String → Option Channel :=
  channels.foldl (fun allowed channel => Function.update allowed channel.key (some channel))
    fun _ => none

/-- The socket with which a channel of this protocol is served, if any. -/
def servedBy (channels : List Channel) (protocol : String) : Option (SocketKind × Port) :=
  (allowedChannels channels protocol).bind Channel.target

/-- One TCP entry at port 80. -/
def webConfig : List Channel := [.tcp ⟨80, by decide⟩ none none]

end MangleWebRTC.Tunnel
