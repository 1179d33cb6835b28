import Mathlib
import MangleWebRTC.Machine.KeyedTable
import MangleWebRTC.Tunnel.ServerSteps

/-! # Routing from client entries to server entries

The client names a data channel by the port of its entry, the server looks it up
by the remapped port of its own. All kinds of entry share one table, so the last
entry with a key decides for every kind.
-/

namespace MangleWebRTC.Tunnel

open Machine

namespace Channel

/-- The protocol of the data channels that `client_command` opens for an entry:
`port.to_string()`. There is no client for `LocalSocket` entries. -/
def protocol : Channel → Option String
  | udp port _ _ | tcp port _ _ => some (toString port.val)
  | localSocket _ _ _ => none

/-- The server's entry offers a service of this kind under `remap.unwrap_or(port)`. -/
def Exports : Channel → SocketKind → Port → Prop
  | udp port remap _, kind, exported => kind = .udp ∧ remap.getD port = exported
  | tcp port remap _, kind, exported => kind = .tcp ∧ remap.getD port = exported
  | localSocket _ _ _, _, _ => False

instance : (entry : Channel) → (kind : SocketKind) → (exported : Port) →
    Decidable (entry.Exports kind exported)
  | udp port remap _, kind, exported =>
      inferInstanceAs (Decidable (kind = .udp ∧ remap.getD port = exported))
  | tcp port remap _, kind, exported =>
      inferInstanceAs (Decidable (kind = .tcp ∧ remap.getD port = exported))
  | localSocket _ _ _, _, _ => inferInstanceAs (Decidable False)

theorem protocol_of_target {entry : Channel} {kind : SocketKind} {port : Port}
    (htarget : entry.target = some (kind, port)) : entry.protocol = some (toString port.val) := by
  cases entry with
  | udp _ _ _ | tcp _ _ _ =>
      obtain ⟨_, rfl⟩ := Prod.mk.inj (Option.some.inj htarget)
      rfl
  | localSocket _ _ _ => cases htarget

theorem Exports.key {entry : Channel} {kind : SocketKind} {exported : Port}
    (hexports : entry.Exports kind exported) : entry.key = toString exported.val := by
  cases entry with
  | udp _ _ _ | tcp _ _ _ =>
      obtain ⟨_, rfl⟩ := hexports
      rfl
  | localSocket _ _ _ => exact hexports.elim

theorem Exports.target {entry : Channel} {kind : SocketKind} {exported : Port}
    (hexports : entry.Exports kind exported) : entry.target.map Prod.fst = some kind := by
  cases entry with
  | udp _ _ _ | tcp _ _ _ =>
      obtain ⟨rfl, _⟩ := hexports
      rfl
  | localSocket _ _ _ => exact hexports.elim

/-- Two ports with the same decimal text are the same port. -/
theorem port_eq_of_toString {port other : Port}
    (htext : toString port.val = toString other.val) : port = other :=
  Subtype.ext (Nat.repr_inj.mp htext)

/-- An entry with a socket exports the port that its key is the text of. -/
theorem exports_of_key {entry : Channel} {kind : SocketKind} {exported : Port}
    (hkind : entry.target.map Prod.fst = some kind)
    (hkey : entry.key = toString exported.val) : entry.Exports kind exported := by
  cases entry with
  | udp _ _ _ | tcp _ _ _ =>
      obtain rfl := Option.some.inj hkind
      exact ⟨rfl, port_eq_of_toString hkey⟩
  | localSocket _ _ _ => cases hkind

end Channel

/-- The table holds the last entry of every key. -/
theorem allowedChannels_eq (config : List Channel) (protocol : String) :
    allowedChannels config protocol = lastWithKey Channel.key config protocol :=
  insertAll_empty config protocol

/-- A task of this configuration that takes a channel with this protocol from its
queue connects a socket of this kind to this port. -/
def ServesWith (config : List Channel) (protocol : String) (kind : SocketKind) (port : Port) :
    Prop :=
  ∀ (task : ServerTask) (id : Nat) (queue : Mailbox Nat 1) (channel : ServerChannel),
    task.phase = .idle → task.queue.take = some (id, queue) →
    task.channels[id]? = some channel → channel.protocol = protocol →
    task.step config .takeChannel =
      some { task with queue := queue, phase := .connecting id kind port }

/-- A task that turns from its queue to a socket took a channel served with it. -/
theorem served_of_connecting {config : List Channel} {task next : ServerTask} {id : Nat}
    {kind : SocketKind} {port : Port} (hstep : task.step config .takeChannel = some next)
    (hnext : next.phase = .connecting id kind port) :
    ∃ queue channel, task.queue.take = some (id, queue) ∧ task.channels[id]? = some channel ∧
      servedBy config channel.protocol = some (kind, port) := by
  cases ServerTask.Step.of_step hstep with
  | close other queue channel hphase => cases hphase.symm.trans hnext
  | pass other queue => cases hnext
  | serve other queue channel kind port _ htake hchannel hserved =>
      obtain ⟨rfl, rfl, rfl⟩ := TaskPhase.connecting.inj hnext
      exact ⟨queue, channel, htake, hchannel, hserved⟩

theorem servesWith_iff {config : List Channel} {protocol : String} {kind : SocketKind}
    {port : Port} :
    ServesWith config protocol kind port ↔ servedBy config protocol = some (kind, port) := by
  constructor
  · intro hserves
    -- One channel in the queue of an idle task.
    have hstep := hserves ⟨[.new protocol], ⟨[0], [], by simp⟩, .idle⟩ 0 ⟨[], [], by simp⟩
      (.new protocol) rfl rfl rfl rfl
    obtain ⟨queue, channel, _, hchannel, hserved⟩ := served_of_connecting hstep rfl
    obtain rfl := Option.some.inj hchannel
    exact hserved
  · intro hserved task id queue channel hphase htake hchannel hprotocol
    obtain ⟨entry, hentry, htarget⟩ := Option.bind_eq_some_iff.mp hserved
    simp [ServerTask.step, hphase, htake, hchannel, hprotocol, hentry, htarget,
      ServerTask.dispatch]

/-- Every client entry with a service of its kind on the server is served by such a
service: the data channels it opens get a socket of that kind, connected to the port
of an entry that exports the client's port. -/
def RoutingAgrees (server client : List Channel) : Prop :=
  ∀ entry ∈ client, ∀ kind port protocol, entry.target = some (kind, port) →
    entry.protocol = some protocol → (∃ offer ∈ server, offer.Exports kind port) →
    ∃ offer ∈ server, offer.Exports kind port ∧
      ∃ exposed, offer.target = some (kind, exposed) ∧ ServesWith server protocol kind exposed

/-- Client and server agree if and only if, for every client entry with a service of
its kind on the server, the last server entry with that key is of that kind. -/
theorem routing_agrees_iff (server client : List Channel) :
    RoutingAgrees server client ↔
      ∀ entry ∈ client, ∀ kind port, entry.target = some (kind, port) →
        (∃ offer ∈ server, offer.Exports kind port) →
        ∀ last ∈ lastWithKey Channel.key server (toString port.val),
          last.target.map Prod.fst = some kind := by
  constructor
  · intro hagrees entry hentry kind port htarget hoffered last hlast
    obtain ⟨offer, _, _, exposed, _, hserves⟩ := hagrees entry hentry kind port _ htarget
      (Channel.protocol_of_target htarget) hoffered
    have hserved := servesWith_iff.mp hserves
    rw [servedBy, allowedChannels_eq, Option.mem_def.mp hlast, Option.bind_some] at hserved
    rw [hserved, Option.map_some]
  · intro hlast entry hentry kind port protocol htarget hprotocol hoffered
    obtain rfl := Option.some.inj ((Channel.protocol_of_target htarget).symm.trans hprotocol)
    obtain ⟨offer, hoffer, hexports⟩ := hoffered
    obtain ⟨last, hfound⟩ := @exists_lastWithKey _ _ _ Channel.key _ _ hoffer
    rw [hexports.key] at hfound
    have hkind := hlast entry hentry kind port htarget ⟨offer, hoffer, hexports⟩ last hfound
    obtain ⟨hmem, hkey⟩ := lastWithKey_eq_some hfound
    obtain ⟨⟨_, exposed⟩, hsocket, rfl⟩ := Option.map_eq_some_iff.mp hkind
    refine ⟨last, hmem, Channel.exports_of_key hkind hkey, exposed, hsocket,
      servesWith_iff.mpr ?_⟩
    rw [servedBy, allowedChannels_eq, hfound, Option.bind_some, hsocket]

/-- A UDP entry behind a TCP entry of the same port takes its place, and so does a
local socket with a name that looks like the port. -/
theorem routing_disagrees :
    ¬ RoutingAgrees [.tcp ⟨80, by decide⟩ none none, .udp ⟨80, by decide⟩ none none]
      [.tcp ⟨80, by decide⟩ none none] ∧
    ¬ RoutingAgrees [.tcp ⟨80, by decide⟩ none none, .localSocket "80" none none]
      [.tcp ⟨80, by decide⟩ none none] := by
  constructor <;> rw [routing_agrees_iff] <;> intro hlast
  · have hkind := hlast _ List.mem_cons_self .tcp ⟨80, by decide⟩ rfl
      ⟨_, List.mem_cons_self, rfl, rfl⟩ (.udp ⟨80, by decide⟩ none none) (by decide)
    cases hkind
  · have hkind := hlast _ List.mem_cons_self .tcp ⟨80, by decide⟩ rfl
      ⟨_, List.mem_cons_self, rfl, rfl⟩ (.localSocket "80" none none) (by decide)
    cases hkind

end MangleWebRTC.Tunnel
