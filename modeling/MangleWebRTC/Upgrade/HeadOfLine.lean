import MangleWebRTC.Upgrade.Lifecycle
import MangleWebRTC.Upgrade.RunLoop

/-! # Clients in front of a client

The loop has one `accept` at a time. Without TLS it leaves all waiting for a client
to that client's task. Under TLS it waits for the handshake itself, and a client gets
its task exactly when the loop gets past every client before it.
-/

namespace MangleWebRTC.Upgrade

open Machine

/-- Steps of the server and of one client. -/
def RunEvent.OfServerOr {env : ServerEnvironment} (id : Nat) : RunEvent env → Prop
  | connect | acceptFails _ | close => False
  | send other _ | disconnect other _ => other = id
  | accept | handshakeDone | handshakeFails | onErrDone | task _ _ => True

namespace RunLoop

variable {env : ServerEnvironment}

/-- Steps of the server and of the client lead to the spawn of the client's task. -/
def CanSpawn (config : RunConfig env) (id : Nat) (loop : RunLoop env) : Prop :=
  ∃ next, (runSystem config).ReachableFrom (fun _ event => event.OfServerOr id) loop next ∧
    id ∈ next.tasks.map Prod.fst

/-- The loop goes on, and the client is connected and has sent all of its handshake. -/
def Waits (config : RunConfig env) (id : Nat) (loop : RunLoop env) : Prop :=
  loop.phase ≠ .closed ∧ (id ∈ loop.backlog ∨ loop.phase = .handshaking id) ∧
    ∃ client, loop.clients[id]? = some client ∧
      ∀ acceptor ∈ config.acceptor, acceptor client.sent = .done

/-- The loop gets past the client: there is no TLS, or the handshake is complete, or it
fails and `on_err` returns. -/
def Passable (config : RunConfig env) (loop : RunLoop env) (id : Nat) : Prop :=
  ∀ acceptor ∈ config.acceptor, ∃ client, loop.clients[id]? = some client ∧
    (acceptor client.sent = .done ∨ ∃ error ∈ client.failure acceptor,
      config.onErr (.acceptError (config.acceptError (.ioError error))) = .returns)

/-- What keeps the loop from a client: its panic, a callback that does not return, or a
client that the loop does not get past. -/
inductive Obstructed (config : RunConfig env) (id : Nat) (loop : RunLoop env) : Prop
  | unwound (hphase : loop.phase = .unwound)
  | reporting (error : ConnectionTask.ServerError env) (hphase : loop.phase = .reporting error)
      (hstays : config.onErr error ≠ .returns)
  | inHand (other : Nat) (hphase : loop.phase = .handshaking other) (hother : other ≠ id)
      (hstuck : ¬ Passable config loop other)
  | ahead (ahead rest : List Nat) (other : Nat) (hbacklog : loop.backlog = ahead ++ id :: rest)
      (hmem : other ∈ ahead) (hstuck : ¬ Passable config loop other)

variable {config : RunConfig env} {loop : RunLoop env} {id : Nat}

theorem passable_congr {next : RunLoop env} {other : Nat}
    (hclient : next.clients[other]? = loop.clients[other]?) :
    Passable config next other ↔ Passable config loop other := by
  simp only [Passable, hclient]

/-- The other clients do not act. -/
theorem clients_of_step {next : RunLoop env} {event : RunEvent env}
    (hstep : Step config loop event next) (hevent : event.OfServerOr id) {other : Nat}
    (hother : other ≠ id) : next.clients[other]? = loop.clients[other]? := by
  cases hstep with
  | connect | acceptFails | close => cases hevent
  | send sender bytes client hclient =>
      obtain rfl : sender = id := hevent
      exact (getElem?_set_of_some hclient other).trans (if_neg hother)
  | disconnect sender error client hclient =>
      obtain rfl : sender = id := hevent
      exact (getElem?_set_of_some hclient other).trans (if_neg hother)
  | spawns | handshakes | handshakeDone | handshakeFails | onErrReturns | onErrPanics | task =>
      rfl

/-- A queued client has no other place. -/
theorem Orderly.of_queued (horderly : loop.Orderly) (hqueued : id ∈ loop.backlog) :
    id ∉ loop.tasks.map Prod.fst ∧ loop.phase ≠ .handshaking id := by
  obtain ⟨_, _, hdisjoint⟩ := List.nodup_append.mp horderly.nodup
  refine ⟨fun hmem => hdisjoint id (List.mem_append_left _ hmem) id hqueued rfl, fun hphase => ?_⟩
  exact hdisjoint id (List.mem_append_right _ (by simp [hphase])) id hqueued rfl

theorem Orderly.ne_of_ahead (horderly : loop.Orderly) {ahead rest : List Nat} {other : Nat}
    (hbacklog : loop.backlog = ahead ++ id :: rest) (hmem : other ∈ ahead) : other ≠ id := by
  obtain ⟨_, hnodup, _⟩ := List.nodup_append.mp horderly.nodup
  rw [hbacklog] at hnodup
  exact (List.nodup_append.mp hnodup).2.2 other hmem id List.mem_cons_self

/-- A step that leaves the loop and its queue alone removes no obstruction. -/
theorem Obstructed.congr {next : RunLoop env} (hobstructed : Obstructed config id loop)
    (horderly : loop.Orderly) (hphase : next.phase = loop.phase)
    (hbacklog : next.backlog = loop.backlog)
    (hclients : ∀ other, other ≠ id → next.clients[other]? = loop.clients[other]?) :
    Obstructed config id next := by
  cases hobstructed with
  | unwound hbefore => exact .unwound (hphase.trans hbefore)
  | reporting error hbefore hstays => exact .reporting error (hphase.trans hbefore) hstays
  | inHand other hbefore hother hstuck =>
      refine .inHand other (hphase.trans hbefore) hother ?_
      rwa [passable_congr (hclients other hother)]
  | ahead ahead rest other hbefore hmem hstuck =>
      refine .ahead ahead rest other (hbacklog.trans hbefore) hmem ?_
      rwa [passable_congr (hclients other (horderly.ne_of_ahead hbefore hmem))]

/-- An obstructed client stays so, and in the queue, as long as only the server and the
client itself act. -/
theorem Obstructed.step {next : RunLoop env} {event : RunEvent env}
    (hobstructed : Obstructed config id loop) (horderly : loop.Orderly)
    (hqueued : id ∈ loop.backlog) (hevent : event.OfServerOr id)
    (hstep : Step config loop event next) : Obstructed config id next ∧ id ∈ next.backlog := by
  have hclients := fun other (hother : other ≠ id) => clients_of_step hstep hevent hother
  cases hstep with
  | connect | acceptFails | close => cases hevent
  | send | disconnect | task => exact ⟨hobstructed.congr horderly rfl rfl hclients, hqueued⟩
  | spawns first rest hphase hbacklog hplain =>
      have hpasses : ∀ other, Passable config loop other := fun other acceptor hacceptor => by
        rw [hplain] at hacceptor
        cases hacceptor
      cases hobstructed with
      | unwound hother | reporting _ hother | inHand _ hother => cases hphase.symm.trans hother
      | ahead _ _ other _ _ hstuck => exact absurd (hpasses other) hstuck
  | handshakes first rest hphase hbacklog =>
      cases hobstructed with
      | unwound hother | reporting _ hother | inHand _ hother => cases hphase.symm.trans hother
      | ahead ahead behind other hbefore hmem hstuck =>
          have hother := horderly.ne_of_ahead hbefore hmem
          cases ahead with
          | nil => cases hmem
          | cons head ahead =>
              obtain ⟨rfl, hrest⟩ := List.cons.inj (hbacklog.symm.trans hbefore)
              have hwaits : id ∈ rest := hrest ▸ List.mem_append_right _ List.mem_cons_self
              rcases List.mem_cons.mp hmem with rfl | hmem
              · exact ⟨.inHand other rfl hother hstuck, hwaits⟩
              · exact ⟨.ahead ahead behind other hrest hmem hstuck, hwaits⟩
  | handshakeDone current acceptor client hphase hacceptor hclient hdone =>
      refine ⟨?_, hqueued⟩
      cases hobstructed with
      | unwound hother | reporting _ hother => cases hphase.symm.trans hother
      | inHand other hother _ hstuck =>
          obtain rfl := LoopPhase.handshaking.inj (hphase.symm.trans hother)
          refine absurd (fun found hfound => ?_) hstuck
          obtain rfl := Option.some.inj (hacceptor.symm.trans hfound)
          exact ⟨client, hclient, .inl hdone⟩
      | ahead ahead rest other hbefore hmem hstuck =>
          exact .ahead ahead rest other hbefore hmem hstuck
  | handshakeFails current acceptor client error hphase hacceptor hclient hfailure =>
      refine ⟨?_, hqueued⟩
      cases hobstructed with
      | unwound hother | reporting _ hother => cases hphase.symm.trans hother
      | inHand other hother _ hstuck =>
          obtain rfl := LoopPhase.handshaking.inj (hphase.symm.trans hother)
          refine .reporting _ rfl fun hreturns => hstuck fun found hfound => ?_
          obtain rfl := Option.some.inj (hacceptor.symm.trans hfound)
          exact ⟨client, hclient, .inr ⟨error, hfailure, hreturns⟩⟩
      | ahead ahead rest other hbefore hmem hstuck =>
          exact .ahead ahead rest other hbefore hmem hstuck
  | onErrReturns error hphase hreturns =>
      refine ⟨?_, hqueued⟩
      cases hobstructed with
      | unwound hother | inHand _ hother => cases hphase.symm.trans hother
      | reporting other hother hstays =>
          obtain rfl := LoopPhase.reporting.inj (hphase.symm.trans hother)
          exact absurd hreturns hstays
      | ahead ahead rest other hbefore hmem hstuck =>
          exact .ahead ahead rest other hbefore hmem hstuck
  | onErrPanics => exact ⟨.unwound rfl, hqueued⟩

theorem Obstructed.not_canSpawn (hobstructed : Obstructed config id loop)
    (horderly : loop.Orderly) (hqueued : id ∈ loop.backlog) : ¬ CanSpawn config id loop := by
  rintro ⟨next, hreach, hspawned⟩
  obtain ⟨hnext, _, hstill⟩ : next.Orderly ∧ Obstructed config id next ∧ id ∈ next.backlog := by
    apply hreach.invariant (fun state : RunLoop env =>
      state.Orderly ∧ Obstructed config id state ∧ id ∈ state.backlog)
      ⟨horderly, hobstructed, hqueued⟩
    rintro state event next ⟨horderly, hobstructed, hqueued⟩ hevent hstep
    exact ⟨horderly.step (.of_step hstep),
      hobstructed.step horderly hqueued hevent (.of_step hstep)⟩
  exact (hnext.of_queued hstill).1 hspawned

theorem reaches_step {start next : RunLoop env} {event : RunEvent env}
    (hreach : (runSystem config).ReachableFrom (fun _ event => event.OfServerOr id) start loop)
    (hstep : loop.step config event = some next) (hevent : event.OfServerOr id) :
    (runSystem config).ReachableFrom (fun _ event => event.OfServerOr id) start next :=
  .tail hreach hevent hstep

theorem CanSpawn.of_reaches {next : RunLoop env} (hcan : CanSpawn config id next)
    (hreach : (runSystem config).ReachableFrom (fun _ event => event.OfServerOr id) loop next) :
    CanSpawn config id loop := by
  obtain ⟨final, hfinal, hspawned⟩ := hcan
  exact ⟨final, hreach.trans hfinal, hspawned⟩

theorem canSpawn_of_done {acceptor : List UInt8 → Handshake} {client : RemoteClient}
    (hphase : loop.phase = .handshaking id) (hacceptor : config.acceptor = some acceptor)
    (hclient : loop.clients[id]? = some client) (hdone : acceptor client.sent = .done) :
    CanSpawn config id loop := by
  have hstep : loop.step config .handshakeDone = some (loop.spawn id) := by
    simp [step, hphase, hacceptor, hclient, hdone]
  refine ⟨_, reaches_step .refl hstep trivial, ?_⟩
  simp [spawn]

/-- The loop gets past a client in the handshake and is back in `accept`. -/
theorem exists_passed {other : Nat} (hphase : loop.phase = .handshaking other)
    (htls : config.acceptor ≠ none) (hpasses : Passable config loop other) :
    ∃ next, (runSystem config).ReachableFrom (fun _ event => event.OfServerOr id) loop next ∧
      next.phase = .accepting ∧ next.backlog = loop.backlog ∧ next.clients = loop.clients := by
  obtain ⟨acceptor, hacceptor⟩ := Option.ne_none_iff_exists'.mp htls
  obtain ⟨client, hclient, hdone | ⟨error, hfailure, hreturns⟩⟩ := hpasses acceptor hacceptor
  · have hstep : loop.step config .handshakeDone = some (loop.spawn other) := by
      simp [step, hphase, hacceptor, hclient, hdone]
    exact ⟨_, reaches_step .refl hstep trivial, rfl, rfl, rfl⟩
  · let failed : RunLoop env := { loop with
      phase := .reporting (.acceptError (config.acceptError (.ioError error))) }
    have hfails : loop.step config .handshakeFails = some failed := by
      simp [step, hphase, hacceptor, hclient, Option.mem_def.mp hfailure, failed]
    have hback : failed.step config .onErrDone = some { failed with phase := .accepting } := by
      simp [step, failed, hreturns]
    exact ⟨_, reaches_step (reaches_step .refl hfails trivial) hback trivial, rfl, rfl, rfl⟩

/-- The loop in `accept` takes the clients before this one out of the queue, one by one. -/
theorem canSpawn_of_accepting {ahead rest : List Nat} {client : RemoteClient}
    (hphase : loop.phase = .accepting) (hbacklog : loop.backlog = ahead ++ id :: rest)
    (hahead : ∀ other ∈ ahead, Passable config loop other)
    (hclient : loop.clients[id]? = some client)
    (hdone : ∀ acceptor ∈ config.acceptor, acceptor client.sent = .done) :
    CanSpawn config id loop := by
  induction ahead generalizing loop with
  | nil =>
      cases hacceptor : config.acceptor with
      | none =>
          have hstep : loop.step config .accept =
              some ({ loop with backlog := rest }.spawn id) := by
            simp [step, hphase, hbacklog, hacceptor]
          refine ⟨_, reaches_step .refl hstep trivial, ?_⟩
          simp [spawn]
      | some acceptor =>
          let taken : RunLoop env := { loop with backlog := rest, phase := .handshaking id }
          have hstep : loop.step config .accept = some taken := by
            simp [step, hphase, hbacklog, hacceptor, taken]
          have htaken : CanSpawn config id taken :=
            canSpawn_of_done rfl hacceptor hclient (hdone acceptor hacceptor)
          exact htaken.of_reaches (reaches_step .refl hstep trivial)
  | cons first ahead ih =>
      have hfirst := hahead first List.mem_cons_self
      have hlater : ∀ other ∈ ahead, Passable config loop other := fun other hmem =>
        hahead other (List.mem_cons_of_mem first hmem)
      by_cases hplain : config.acceptor = none
      · let taken : RunLoop env := { loop with backlog := ahead ++ id :: rest }.spawn first
        have hstep : loop.step config .accept = some taken := by
          simp [step, hphase, hbacklog, hplain, taken]
        have htaken : CanSpawn config id taken := ih rfl rfl hlater hclient
        exact htaken.of_reaches (reaches_step .refl hstep trivial)
      · let taken : RunLoop env :=
          { loop with backlog := ahead ++ id :: rest, phase := .handshaking first }
        have hstep : loop.step config .accept = some taken := by
          obtain ⟨acceptor, hacceptor⟩ := Option.ne_none_iff_exists'.mp hplain
          simp [step, hphase, hbacklog, hacceptor, taken]
        obtain ⟨next, hreach, haccepting, hqueue, hclients⟩ :=
          @exists_passed env config taken id first rfl hplain hfirst
        have hnext : CanSpawn config id next := by
          apply ih haccepting hqueue _ (hclients ▸ hclient)
          intro other hmem
          exact (passable_congr (congrArg (·[other]?) hclients)).mpr (hlater other hmem)
        exact hnext.of_reaches ((reaches_step .refl hstep trivial).trans hreach)

/-- What every reachable state of the loop offers to a continuation. -/
structure Ready (config : RunConfig env) (loop : RunLoop env) : Prop where
  orderly : loop.Orderly
  tls : ∀ id, loop.phase = .handshaking id → config.acceptor ≠ none

theorem Ready.step {next : RunLoop env} {event : RunEvent env} (hready : loop.Ready config)
    (hstep : Step config loop event next) : next.Ready config := by
  refine ⟨hready.orderly.step hstep, fun other hphase => ?_⟩
  cases hstep with
  | connect | send | disconnect | task => exact hready.tls other hphase
  | handshakes _ _ _ _ htls => exact htls
  | _ => cases hphase

theorem ready_of_reachable (hreach : (runSystem config).Reachable loop) : loop.Ready config := by
  apply hreach.invariant (Ready config)
  · rintro start rfl
    exact ⟨⟨List.nodup_nil, by simp [order, start]⟩, fun id hphase => by cases hphase⟩
  · intro state event next hready _ hstep
    exact hready.step (.of_step hstep)

/-- Nothing obstructs the client in the handshake. -/
theorem Orderly.not_obstructed (horderly : loop.Orderly) (hphase : loop.phase = .handshaking id) :
    ¬ Obstructed config id loop := by
  intro hobstructed
  cases hobstructed with
  | unwound hother | reporting _ hother => cases hphase.symm.trans hother
  | inHand other hother hne =>
      exact hne (LoopPhase.handshaking.inj (hother.symm.trans hphase))
  | ahead ahead rest other hbacklog =>
      refine (horderly.of_queued ?_).2 hphase
      rw [hbacklog]
      exact List.mem_append_right _ List.mem_cons_self

/-- A queued client that nothing obstructs: the loop finishes what it is at, and then gets
past the clients before this one. -/
theorem canSpawn_of_queued (hready : loop.Ready config) (hopen : loop.phase ≠ .closed)
    (hqueued : id ∈ loop.backlog) {client : RemoteClient}
    (hclient : loop.clients[id]? = some client)
    (hdone : ∀ acceptor ∈ config.acceptor, acceptor client.sent = .done)
    (hfree : ¬ Obstructed config id loop) : CanSpawn config id loop := by
  obtain ⟨ahead, rest, hbacklog⟩ := List.append_of_mem hqueued
  have hahead : ∀ other ∈ ahead, Passable config loop other := by
    intro other hmem
    by_contra hstuck
    exact hfree (.ahead ahead rest other hbacklog hmem hstuck)
  cases hphase : loop.phase with
  | accepting => exact canSpawn_of_accepting hphase hbacklog hahead hclient hdone
  | handshaking other =>
      have hother : other ≠ id := by
        rintro rfl
        exact (hready.orderly.of_queued hqueued).2 hphase
      have hpasses : Passable config loop other := by
        by_contra hstuck
        exact hfree (.inHand other hphase hother hstuck)
      obtain ⟨next, hreach, haccepting, hqueue, hclients⟩ :=
        @exists_passed env config loop id other hphase (hready.tls other hphase) hpasses
      have hnext : CanSpawn config id next := by
        apply canSpawn_of_accepting haccepting (hqueue.trans hbacklog) _ (hclients ▸ hclient) hdone
        intro first hmem
        exact (passable_congr (congrArg (·[first]?) hclients)).mpr (hahead first hmem)
      exact hnext.of_reaches hreach
  | reporting error =>
      have hreturns : config.onErr error = .returns := by
        by_contra hstays
        exact hfree (.reporting error hphase hstays)
      have hstep : loop.step config .onErrDone = some { loop with phase := .accepting } := by
        simp [step, hphase, hreturns]
      have hnext : CanSpawn config id { loop with phase := .accepting } :=
        canSpawn_of_accepting rfl hbacklog hahead hclient hdone
      exact hnext.of_reaches (reaches_step .refl hstep trivial)
  | closed => exact absurd hphase hopen
  | unwound => exact absurd (.unwound hphase) hfree

/-- A client that waits gets its task exactly when nothing obstructs it. -/
theorem canSpawn_iff_unobstructed (hready : loop.Ready config) (hwaits : Waits config id loop) :
    CanSpawn config id loop ↔ ¬ Obstructed config id loop := by
  obtain ⟨hopen, hqueued | hphase, client, hclient, hdone⟩ := hwaits
  · constructor
    · intro hcan hobstructed
      exact hobstructed.not_canSpawn hready.orderly hqueued hcan
    · exact canSpawn_of_queued hready hopen hqueued hclient hdone
  · refine iff_of_true ?_ (hready.orderly.not_obstructed hphase)
    obtain ⟨acceptor, hacceptor⟩ := Option.ne_none_iff_exists'.mp (hready.tls id hphase)
    exact canSpawn_of_done hphase hacceptor hclient (hdone acceptor hacceptor)

end RunLoop

open RunLoop in
/-- In every state of a run in which a client waits, steps of the server and of this client
lead to the spawn of its task, if and only if in each of these states the loop has not
panicked, is in no callback that does not return, and gets past the client in the handshake
and those queued before. Without TLS only the callbacks can be in the way. -/
theorem spawns_iff_unobstructed {env : ServerEnvironment} (config : RunConfig env) (id : Nat)
    (events : List (RunEvent env)) :
    (runSystem config).Throughout (fun loop => Waits config id loop → CanSpawn config id loop)
        .start events ↔
      (runSystem config).Throughout
        (fun loop => Waits config id loop → ¬ Obstructed config id loop) .start events := by
  apply TransitionSystem.throughout_congr
  intro loop hreach
  have hready : loop.Ready config := ready_of_reachable ⟨.start, rfl, hreach⟩
  exact forall_congr' fun hwaits => canSpawn_iff_unobstructed hready hwaits

/-- A client hello of one byte, the type of a handshake record, is all of the handshake. -/
def helloAcceptor : List UInt8 → Handshake
  | [] => .wantsMore
  | first :: _ => if first = 22 then .done else .failed (.os 0)

/-- A server with TLS whose `on_err` returns. -/
def tlsConfig : RunConfig byteServer where
  acceptor := some helloAcceptor
  acceptError _ := ()
  acceptFails _ _ _ := false
  onErr _ := .returns
  closes := true
  clientId _ := "peer"

/-- The first client connects and sends nothing; the second one has sent its handshake. -/
def stalledHandshake : List (RunEvent byteServer) := [.connect, .connect, .send 1 [22], .accept]

open RunLoop in
/-- A client that stalls in its handshake blocks the one behind it. -/
theorem stalled_handshake_blocks :
    ∃ loop, (runSystem tlsConfig).run .start stalledHandshake = some loop ∧
      Waits tlsConfig 1 loop ∧ ¬ CanSpawn tlsConfig 1 loop := by
  let stalled : RunLoop byteServer := ⟨[⟨[], none⟩, ⟨[22], none⟩], [1], .handshaking 0, []⟩
  have hrun : (runSystem tlsConfig).run .start stalledHandshake = some stalled := rfl
  have hready := ready_of_reachable (.of_run rfl hrun)
  have hopen : stalled.phase ≠ .closed := by
    intro hclosed
    cases hclosed
  refine ⟨stalled, hrun, ⟨hopen, .inl List.mem_cons_self, ⟨[22], none⟩, rfl, ?_⟩, ?_⟩
  · intro acceptor hacceptor
    obtain rfl := Option.some.inj hacceptor
    rfl
  · apply Obstructed.not_canSpawn _ hready.orderly List.mem_cons_self
    refine .inHand 0 rfl (by decide) fun hpasses => ?_
    obtain ⟨client, hclient, hdone | ⟨error, hfailure, _⟩⟩ := hpasses helloAcceptor rfl
    · obtain rfl := Option.some.inj hclient
      cases hdone
    · obtain rfl := Option.some.inj hclient
      cases hfailure

end MangleWebRTC.Upgrade
