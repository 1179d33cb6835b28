import MangleWebRTC.Tunnel.ClientTcp
import MangleWebRTC.Tunnel.UdpIsolation

/-! # Sending before the data channel is open

`create_data_channel` returns before the channel is open, and `send` fails until then.
A TCP connection waits for the open event before its relay starts. A UDP session starts
with a payload in its queue and does not wait.
-/

namespace MangleWebRTC.Tunnel

open Machine

namespace ClientTcp

/-- A call of `data_channel.send` is made on an open channel. -/
def SendsOpen (tcp : ClientTcp) : Prop :=
  ∀ bytes sentN, tcp.phase = .sending bytes sentN → tcp.opened = true

/-- The relay starts behind the open event. -/
theorem opened_of_reachable {tcp : ClientTcp} (hreach : clientTcpSystem.Reachable tcp) :
    tcp.phase = .awaitingOpen ∨ tcp.opened = true := by
  apply hreach.invariant fun tcp => tcp.phase = .awaitingOpen ∨ tcp.opened = true
  · rintro start rfl
    exact .inl rfl
  · intro tcp event next hinv _ hstep
    cases Step.of_step hstep with
    | opens => exact .inr rfl
    | establish hopened | message _ hopened => exact .inr hopened
    | enqueueMessage => exact hinv
    | read _ hphase | sendReturns _ _ _ hphase | takeMessage _ _ hphase | wrote _ hphase =>
        exact .inr (hinv.resolve_left (by simp [hphase]))
    | fails hawaiting => exact .inr (hinv.resolve_left hawaiting)

theorem sendsOpen_of_reachable {tcp : ClientTcp} (hreach : clientTcpSystem.Reachable tcp) :
    tcp.SendsOpen := by
  intro bytes sentN hphase
  exact (opened_of_reachable hreach).resolve_left (by simp [hphase])

end ClientTcp

/-- A call of `data_channel.send` is made on an open channel. -/
def UdpSession.SendsOpen {Addr : Type} (session : UdpSession Addr) : Prop :=
  ∀ payload, session.point = .sending payload → session.opened = true

namespace UdpSessions

variable {Addr : Type}

/-- No session of the listener sends on a channel that is not open. -/
def SendsOpen (udp : UdpSessions Addr) : Prop :=
  ∀ (id : Nat) (session : UdpSession Addr), udp.sessions[id]? = some session →
    session.SendsOpen

variable {udp : UdpSessions Addr}

theorem SendsOpen.setSession (hopen : udp.SendsOpen) {id : Nat} {session next : UdpSession Addr}
    (hsession : udp.sessions[id]? = some session) (hnext : next.SendsOpen) :
    ∀ (other : Nat) (found : UdpSession Addr),
      (udp.sessions.set id next)[other]? = some found → found.SendsOpen := by
  intro other found hfound
  rcases eq_or_getElem?_of_set hsession hfound with ⟨_, rfl⟩ | ⟨_, hbefore⟩
  · exact hnext
  · exact hopen other found hbefore

variable [DecidableEq Addr]

/-- A session takes a payload that is not empty from its queue behind the open event
of its channel. -/
def TakesOpen (udp : UdpSessions Addr) : UdpSessionsEvent Addr → Prop
  | .session id .takePayload => ∀ session ∈ udp.sessions[id]?,
      ∀ payload ∈ session.queue.slots.head?, payload ≠ [] → session.opened = true
  | _ => True

instance (udp : UdpSessions Addr) :
    (event : UdpSessionsEvent Addr) → Decidable (udp.TakesOpen event)
  | .session id .takePayload => inferInstanceAs (Decidable (∀ session ∈ udp.sessions[id]?,
      ∀ payload ∈ session.queue.slots.head?, payload ≠ [] → session.opened = true))
  | .session _ .opens | .session _ (.message _) | .session _ .enqueueMessage
  | .session _ .sent | .session _ .takeMessage | .session _ .wrote | .session _ .ends
  | .datagram _ _ | .handed | .sendFails => inferInstanceAs (Decidable True)

/-- A session sends before its channel is open exactly when it takes a payload too soon. -/
theorem sendsOpen_step_iff (hopen : udp.SendsOpen) {next : UdpSessions Addr}
    {event : UdpSessionsEvent Addr} (hstep : Step udp event next) :
    next.SendsOpen ↔ udp.TakesOpen event := by
  cases hstep with
  | queued => exact iff_of_true hopen trivial
  | sendFails => exact iff_of_true hopen trivial
  | opened addr payload =>
      refine iff_of_true ?_ trivial
      intro id session hsession
      rcases List.mem_append.mp (List.mem_of_getElem? hsession) with hmem | hmem
      · obtain ⟨index, hindex⟩ := List.getElem?_of_mem hmem
        exact hopen index session hindex
      · rw [List.mem_singleton.mp hmem]
        intro payload hpoint
        cases hpoint
  | handed addr id payload session changed _ hsession haccept =>
      refine iff_of_true (hopen.setSession hsession ?_) trivial
      obtain ⟨_, _, hpoint, _, hopened⟩ := UdpSession.accept_eq_some haccept
      intro payload hsending
      rw [hopened]
      exact hopen id session hsession payload (hpoint ▸ hsending)
  | session id event session changed hsession hchange =>
      have hbefore := hopen id session hsession
      cases hchange with
      | takePayload payload queue hpoint hpayload htake =>
          obtain ⟨hslots, _⟩ := Mailbox.take_eq_some htake
          constructor
          · intro hnext found hfound _ _ _
            obtain rfl := Option.some.inj (hsession.symm.trans hfound)
            have hopened := hnext id _ (getElem?_set_self_of_some hsession) payload rfl
            exact hopened
          · intro htakes
            apply hopen.setSession hsession
            intro other _
            exact htakes session hsession payload (by simp [hslots]) hpayload
      | takeEmpty queue _ htake =>
          obtain ⟨hslots, _⟩ := Mailbox.take_eq_some htake
          refine iff_of_true (hopen.setSession hsession hbefore) ?_
          intro found hfound payload hpayload hne
          obtain rfl := Option.some.inj (hsession.symm.trans hfound)
          simp only [hslots, List.head?_cons, Option.mem_some_iff] at hpayload
          exact absurd hpayload.symm hne
      | opens => exact iff_of_true (hopen.setSession hsession fun _ _ => rfl) trivial
      | message | enqueueMessage =>
          exact iff_of_true (hopen.setSession hsession hbefore) trivial
      | sent | takeMessage | wrote | ends =>
          refine iff_of_true (hopen.setSession hsession ?_) trivial
          intro payload hpoint
          cases hpoint

end UdpSessions

/-- A TCP connection sends behind the open event only. The UDP sessions do so throughout
a run if and only if every payload that is not empty is taken from its queue after the
channel has opened. -/
theorem sends_on_open_channel_iff {tcp : ClientTcp} (htcp : clientTcpSystem.Reachable tcp)
    {Addr : Type} [DecidableEq Addr] {events : List (UdpSessionsEvent Addr)}
    {final : UdpSessions Addr} (hudp : (udpSessionsSystem Addr).run .start events = some final) :
    tcp.SendsOpen ∧
    ((udpSessionsSystem Addr).Throughout UdpSessions.SendsOpen .start events ↔
      (udpSessionsSystem Addr).Guarded UdpSessions.TakesOpen .start events) := by
  refine ⟨ClientTcp.sendsOpen_of_reachable htcp, ?_⟩
  apply TransitionSystem.throughout_iff_guarded UdpSessions.SendsOpen (fun _ => id) ?_ ?_ ?_ hudp
  · intro udp event next hopen htakes hstep
    exact (UdpSessions.sendsOpen_step_iff hopen (.of_step hstep)).mpr htakes
  · intro udp event next hopen htakes hstep hnext
    exact htakes ((UdpSessions.sendsOpen_step_iff hopen (.of_step hstep)).mp hnext)
  · intro id session hsession
    simp [UdpSessions.start] at hsession

/-- A chunk on an open TCP connection, and a datagram whose channel opens in time. -/
theorem sends_on_open_channel_in_time :
    ∃ tcp udp, clientTcpSystem.run .start [.opens, .establish, .read [1]] = some tcp ∧
      (udpSessionsSystem Bool).run .start
        [.datagram true [1], .session 0 .opens, .session 0 .takePayload] = some udp ∧
      tcp.phase = .sending [1] 0 ∧ tcp.SendsOpen ∧
      udp.sessions.map (·.point) = [.sending [1]] ∧ udp.SendsOpen := by
  obtain ⟨tcp, htcp, hphase⟩ := clientTcpSystem.exists_run_of_any .start
    [.opens, .establish, .read [1]] (fun tcp => tcp.phase = .sending [1] 0) (by decide +kernel)
  obtain ⟨udp, hudp, hpoint⟩ := (udpSessionsSystem Bool).exists_run_of_any .start
    [.datagram true [1], .session 0 .opens, .session 0 .takePayload]
    (fun udp => udp.sessions.map (·.point) = [.sending [1]]) (by decide +kernel)
  obtain ⟨hsends, hiff⟩ := sends_on_open_channel_iff (.of_run rfl htcp) hudp
  refine ⟨tcp, udp, htcp, hudp, of_decide_eq_true hphase, hsends, of_decide_eq_true hpoint, ?_⟩
  apply (hiff.mpr _).final hudp
  apply TransitionSystem.guarded_of_check
  decide +kernel

/-- The payload that started a session is sent before the channel has opened. -/
theorem sends_before_open :
    ∃ udp, (udpSessionsSystem Bool).run .start
        [.datagram true [1], .session 0 .takePayload] = some udp ∧ ¬ udp.SendsOpen := by
  obtain ⟨udp, hudp, htest⟩ := (udpSessionsSystem Bool).exists_run_of_any .start
    [.datagram true [1], .session 0 .takePayload]
    (fun udp => (udp.sessions[0]?).any fun session =>
      session.point = .sending [1] ∧ session.opened = false) (by decide +kernel)
  obtain ⟨session, hsession, hlate⟩ := (Option.any_eq_true _ _).mp htest
  obtain ⟨hpoint, hclosed⟩ := of_decide_eq_true hlate
  refine ⟨udp, hudp, fun hopen => ?_⟩
  exact absurd (hclosed.symm.trans (hopen 0 session hsession [1] hpoint)) Bool.false_ne_true

end MangleWebRTC.Tunnel
