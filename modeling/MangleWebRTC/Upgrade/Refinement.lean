import MangleWebRTC.Upgrade.SessionRuns
import MangleWebRTC.Upgrade.Unordered

/-! # A stream is a transport that keeps the order

A session over two byte streams, seen as a session over two pools of messages: the frames
of a link that are sent and not yet received are in flight. The steps of the byte level
are steps of the message level at which the oldest message arrives, or change nothing
there.
-/

namespace MangleWebRTC.Upgrade

open Machine

variable {env : Environment}

/-- The messages of a link. -/
def Link.pool {Item : Type} (link : Link env Item) : Pool (Frame env.Sdp Item) where
  inFlight := link.undelivered
  sent := link.sent
  received := link.delivered
  balanced := by rw [link.delivered_append_undelivered]

namespace Link

variable {Item : Type} {link next : Link env Item}

theorem pool_congr (hsent : next.sent = link.sent) (hreceived : next.received = link.received) :
    next.pool = link.pool := by
  ext1 <;> simp only [pool, undelivered, delivered, hsent, hreceived]

theorem pool_of_delivered (hsent : next.sent = link.sent)
    (hdelivered : next.delivered = link.delivered) : next.pool = link.pool := by
  have hframes := link.delivered_append_undelivered
  rw [← hsent, ← next.delivered_append_undelivered, hdelivered] at hframes
  ext1
  · exact (List.append_cancel_left hframes).symm
  · exact hsent
  · exact hdelivered

theorem pool_send {message : Option (Frame env.Sdp Item)}
    (hcount : link.received.length ≤ link.sent.length)
    (hsent : next.sent = link.sent ++ message.toList)
    (hreceived : next.received = link.received) :
    next.pool = link.pool.postOption message := by
  ext1
  · rw [Pool.inFlight_postOption]
    simp only [pool, undelivered, hsent, hreceived, List.drop_append_of_le_length hcount]
  · rw [Pool.sent_postOption]
    exact hsent
  · rw [Pool.received_postOption]
    simp only [pool, delivered, hsent, hreceived, List.take_append_of_le_length hcount]

/-- The delivered frame is the oldest message in flight. -/
theorem pool_deliver {frame : Frame env.Sdp Item} (hsent : next.sent = link.sent)
    (hdelivered : next.delivered = link.delivered ++ [frame]) :
    link.pool.deliver 0 = some (frame, next.pool) := by
  have hframes := link.delivered_append_undelivered
  rw [← hsent, ← next.delivered_append_undelivered, hdelivered, List.append_assoc] at hframes
  have holdest : link.pool.inFlight = frame :: next.undelivered :=
    List.append_cancel_left hframes
  have hhead : link.pool.inFlight[0]? = some frame := by
    rw [holdest]
    rfl
  obtain ⟨⟨found, pool⟩, hdeliver⟩ := Pool.exists_deliver hhead
  obtain ⟨hfound, _, hinFlight, hlog, hreceived⟩ := Pool.deliver_eq_some hdeliver
  obtain rfl := Option.some.inj (hhead.symm.trans hfound)
  rw [hdeliver]
  congr 2
  ext1
  · rw [hinFlight, holdest]
    rfl
  · exact hlog.trans hsent.symm
  · exact hreceived.trans hdelivered.symm

end Link

namespace Session

/-- A session at the level of messages. -/
def unordered (session : Session env) : UnorderedSession env :=
  ⟨session.client, session.server, session.c2s.pool, session.s2c.pool⟩

/-- A step of the message level in turn, or none. -/
def Refines (session next : Session env) : Prop :=
  next.unordered = session.unordered ∨ ∃ event, session.unordered.InTurn event ∧
    session.unordered.step event = some next.unordered

/-- Behind the marker of the server nothing is on the way to a client that has not sent
its own. -/
theorem Ordered.client_drained {session : Session env} (hinv : session.Ordered)
    {doneSending : Bool} {channel : Mailbox (Option env.Candidate) 3}
    {ice : Option env.Candidate}
    (hphase : session.client.phase = .iceLoop ⟨doneSending, true, .select⟩)
    (htake : session.client.peer.channel.take = some (ice, channel)) :
    session.s2c.undelivered = [] := by
  have hc2s := hinv.c2s
  have hs2c := hinv.s2c
  rw [hphase] at hc2s hs2c
  obtain rfl := doneSending_of_take hc2s.sentStage hinv.clientKeeps htake
  exact undelivered_eq_nil_of_receiving hc2s hs2c (session.server.phase.inStage_rank _).1
    (session.server.phase.outStage_rank _).2

theorem Ordered.server_drained {session : Session env} (hinv : session.Ordered)
    {doneSending : Bool} {channel : Mailbox (Option env.Candidate) 3}
    {ice : Option env.Candidate}
    (hphase : session.server.phase = .iceLoop ⟨doneSending, true, .select⟩)
    (htake : session.server.peer.channel.take = some (ice, channel)) :
    session.c2s.undelivered = [] := by
  have hc2s := hinv.c2s
  have hs2c := hinv.s2c
  rw [hphase] at hc2s hs2c
  obtain rfl := doneSending_of_take hs2c.sentStage hinv.serverKeeps htake
  exact undelivered_eq_nil_of_receiving hs2c hc2s (session.client.phase.inStage_rank _).1
    (session.client.phase.outStage_rank _).2

theorem Ordered.client_inTurn {session : Session env} (hinv : session.Ordered)
    {action : ClientAction env} {client : Client env}
    {message : Option (Frame env.Sdp env.Candidate)}
    (hact : session.client.act action = some (client, message)) :
    session.unordered.InTurn (.client action) := by
  cases action with
  | takeIce =>
      intro hdone _ _ _
      obtain ⟨doneSending, doneReceiving, ice, channel, hphase, htake⟩ :=
        Client.takeIce_eq_some hact
      have hreceived : session.client.phase.doneReceivingIce = true := hdone
      rw [hphase] at hreceived
      obtain rfl : doneReceiving = true := hreceived
      exact hinv.client_drained hphase htake
  | _ => trivial

theorem Ordered.server_inTurn {session : Session env} (hinv : session.Ordered)
    {action : ServerAction env} {server : Server env}
    {message : Option (Frame env.Sdp env.CandidateInit)}
    (hact : session.server.act action = some (server, message)) :
    session.unordered.InTurn (.server action) := by
  cases action with
  | takeIce =>
      intro hdone _ _ _
      obtain ⟨doneSending, doneReceiving, ice, channel, hphase, htake⟩ :=
        Server.takeIce_eq_some hact
      have hreceived : session.server.phase.doneReceivingIce = true := hdone
      rw [hphase] at hreceived
      obtain rfl : doneReceiving = true := hreceived
      exact hinv.server_drained hphase htake
  | _ => trivial

theorem Ordered.clientAct_refines {session next : Session env} (hinv : session.Ordered)
    {action : ClientAction env} (hact : session.clientAct action = some next) :
    session.Refines next := by
  obtain ⟨message, hprogram, hserver, hc2sSent, hc2sReceived, hs2cSent, hs2cReceived⟩ :=
    clientAct_program hact
  refine .inr ⟨.client action, hinv.client_inTurn hprogram, ?_⟩
  have hc2s := Link.pool_send hinv.c2s.count hc2sSent hc2sReceived
  have hs2c := Link.pool_congr hs2cSent hs2cReceived
  simp only [UnorderedSession.step, unordered, hprogram, hserver, hc2s, hs2c, Option.map_some]

theorem Ordered.serverAct_refines {session next : Session env} (hinv : session.Ordered)
    {action : ServerAction env} (hact : session.serverAct action = some next) :
    session.Refines next := by
  obtain ⟨message, hprogram, hclient, hs2cSent, hs2cReceived, hc2sSent, hc2sReceived⟩ :=
    serverAct_program hact
  refine .inr ⟨.server action, hinv.server_inTurn hprogram, ?_⟩
  have hs2c := Link.pool_send hinv.s2c.count hs2cSent hs2cReceived
  have hc2s := Link.pool_congr hc2sSent hc2sReceived
  simp only [UnorderedSession.step, unordered, hprogram, hclient, hc2s, hs2c, Option.map_some]

/-- A completed call takes the oldest message; before that nothing has arrived. -/
theorem Ordered.clientRecv_refines {session next : Session env} (hinv : session.Ordered)
    {action : RecvAction} (hrecv : session.clientRecv action = some next) :
    session.Refines next := by
  obtain ⟨ty, s2c, result, hexpects, hlink, hnext⟩ := clientRecv_eq_some hrecv
  have hcall := hinv.clientCall
  rw [hexpects] at hcall
  obtain ⟨hsent, heffect⟩ := hinv.s2c.recv hcall
    (fun frame hframe => (hinv.client_expects hexpects frame hframe).1) hlink
  rcases heffect with ⟨rfl, _, hdelivered⟩ | ⟨frame, _, rfl, _, rfl, _, _, hdelivered⟩
  · rcases hnext with ⟨_, rfl⟩ | ⟨received, phase, hresult, _⟩
    · exact .inl (congrArg (UnorderedSession.mk session.client session.server session.c2s.pool)
        (Link.pool_of_delivered hsent hdelivered))
    · cases hresult
  · rcases hnext with ⟨hresult, _⟩ | ⟨received, phase, hresult, hreceive, rfl⟩
    · cases hresult
    · obtain rfl := Option.some.inj hresult
      have hdeliver := Link.pool_deliver hsent hdelivered
      have hturn : session.unordered.InTurn (.clientRecv 0) := by
        intro _ _ overtaken hmem
        cases hmem
      refine .inr ⟨.clientRecv 0, hturn, ?_⟩
      simp only [UnorderedSession.step, UnorderedSession.clientRecv, unordered, hexpects,
        hdeliver, decodeAt_self, hreceive, Option.bind_eq_bind, Option.bind_some, Option.pure_def]

theorem Ordered.serverRecv_refines {session next : Session env} (hinv : session.Ordered)
    {action : RecvAction} (hrecv : session.serverRecv action = some next) :
    session.Refines next := by
  obtain ⟨ty, c2s, result, hexpects, hlink, hnext⟩ := serverRecv_eq_some hrecv
  have hcall := hinv.serverCall
  rw [hexpects] at hcall
  obtain ⟨hsent, heffect⟩ := hinv.c2s.recv hcall
    (fun frame hframe => (hinv.server_expects hexpects frame hframe).1) hlink
  rcases heffect with ⟨rfl, _, hdelivered⟩ | ⟨frame, _, rfl, _, rfl, _, _, hdelivered⟩
  · rcases hnext with ⟨_, rfl⟩ | ⟨received, server, hresult, _⟩
    · exact .inl (congrArg (UnorderedSession.mk session.client session.server · session.s2c.pool)
        (Link.pool_of_delivered hsent hdelivered))
    · cases hresult
  · rcases hnext with ⟨hresult, _⟩ | ⟨received, server, hresult, hreceive, rfl⟩
    · cases hresult
    · obtain rfl := Option.some.inj hresult
      have hdeliver := Link.pool_deliver hsent hdelivered
      have hturn : session.unordered.InTurn (.serverRecv 0) := by
        intro _ _ overtaken hmem
        cases hmem
      refine .inr ⟨.serverRecv 0, hturn, ?_⟩
      simp only [UnorderedSession.step, UnorderedSession.serverRecv, unordered, hexpects,
        hdeliver, decodeAt_self, hreceive, Option.bind_eq_bind, Option.bind_some, Option.pure_def]

theorem Ordered.refines {session next : Session env} {event : SessionEvent env}
    (hinv : session.Ordered) (hstep : session.step event = some next) :
    session.Refines next := by
  cases event with
  | client action => exact hinv.clientAct_refines hstep
  | server action => exact hinv.serverAct_refines hstep
  | clientRecv action => exact hinv.clientRecv_refines hstep
  | serverRecv action => exact hinv.serverRecv_refines hstep
  | clientWrite count =>
      obtain ⟨c2s, hwrite, rfl⟩ := Option.map_eq_some_iff.mp hstep
      obtain rfl := Link.write_eq_some hwrite
      exact .inl rfl
  | serverWrite count =>
      obtain ⟨s2c, hwrite, rfl⟩ := Option.map_eq_some_iff.mp hstep
      obtain rfl := Link.write_eq_some hwrite
      exact .inl rfl
  | clientEmit ice =>
      obtain ⟨client, hemit, rfl⟩ := Option.map_eq_some_iff.mp hstep
      exact .inr ⟨.clientEmit ice, trivial, by simp [UnorderedSession.step, unordered, hemit]⟩
  | serverEmit ice =>
      obtain ⟨server, hemit, rfl⟩ := Option.map_eq_some_iff.mp hstep
      exact .inr ⟨.serverEmit ice, trivial, by simp [UnorderedSession.step, unordered, hemit]⟩
  | clientEnqueue =>
      obtain ⟨client, henqueue, rfl⟩ := Option.map_eq_some_iff.mp hstep
      exact .inr ⟨.clientEnqueue, trivial, by simp [UnorderedSession.step, unordered, henqueue]⟩
  | serverEnqueue =>
      obtain ⟨server, henqueue, rfl⟩ := Option.map_eq_some_iff.mp hstep
      exact .inr ⟨.serverEnqueue, trivial, by simp [UnorderedSession.step, unordered, henqueue]⟩

/-- Over a stream every message arrives in turn. -/
theorem unordered_of_reachable {session : Session env}
    (hreach : (sessionSystem env).Reachable session) :
    (unorderedSystem env).ReachableIf UnorderedSession.InTurn session.unordered := by
  apply hreach.map unordered Ordered
  · rintro start rfl
    exact ⟨ordered_initial, rfl⟩
  · intro state event next hinv _ hstep
    exact ⟨hinv.step hstep, hinv.refines hstep⟩

/-- A session over two streams is tolerant of every order there is. -/
theorem tolerant_of_reachable {session : Session env}
    (hreach : (sessionSystem env).Reachable session) : session.unordered.Tolerant :=
  UnorderedSession.bridged_of_reachable (unordered_of_reachable hreach) |>.tolerant

end Session

end MangleWebRTC.Upgrade
