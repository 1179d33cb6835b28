import MangleWebRTC.Machine.RoundProtocol
import Mathlib.Data.List.Perm.Basic

/-! # Reliable transports without an order

Every message that was sent arrives once, and any message in flight can be the next one
to arrive. Traffic in rounds survives such a transport as long as messages overtake only
items: a closing message that has overtaken items of its round leaves them behind as
stragglers.
-/

namespace MangleWebRTC.Machine

universe uMessage

/-- Messages in flight, oldest first, between a sender and a receiver. What was
received and what is in flight is what was sent, in some order. -/
@[ext] structure Pool (Message : Type uMessage) where
  inFlight : List Message
  sent : List Message
  received : List Message
  balanced : (received ++ inFlight).Perm sent

namespace Pool

variable {Message : Type uMessage}

/-- Nothing has been sent. -/
def empty : Pool Message := ⟨[], [], [], .refl []⟩

/-- A sender hands a message over; the transport has it from here on. -/
def post (pool : Pool Message) (message : Message) : Pool Message where
  inFlight := pool.inFlight ++ [message]
  sent := pool.sent ++ [message]
  received := pool.received
  balanced := by
    rw [← List.append_assoc]
    exact pool.balanced.append_right [message]

/-- A step may send a message. -/
def postOption (pool : Pool Message) : Option Message → Pool Message
  | none => pool
  | some message => pool.post message

@[simp] theorem sent_postOption (pool : Pool Message) (message : Option Message) :
    (pool.postOption message).sent = pool.sent ++ message.toList := by
  cases message with
  | none => exact (List.append_nil _).symm
  | some message => rfl

@[simp] theorem inFlight_postOption (pool : Pool Message) (message : Option Message) :
    (pool.postOption message).inFlight = pool.inFlight ++ message.toList := by
  cases message with
  | none => exact (List.append_nil _).symm
  | some message => rfl

@[simp] theorem received_postOption (pool : Pool Message) (message : Option Message) :
    (pool.postOption message).received = pool.received := by
  cases message <;> rfl

theorem perm_deliver {inFlight received sent : List Message} {index : Nat} {message : Message}
    (hbalanced : (received ++ inFlight).Perm sent) (hmessage : inFlight[index]? = some message) :
    (received ++ [message] ++ inFlight.eraseIdx index).Perm sent := by
  obtain ⟨hindex, rfl⟩ := List.getElem?_eq_some_iff.mp hmessage
  rw [List.append_assoc, List.singleton_append]
  exact ((List.getElem_cons_eraseIdx_perm hindex).append_left received).trans hbalanced

/-- The message at an index arrives, be it the oldest one or not. -/
def deliver (pool : Pool Message) (index : Nat) : Option (Message × Pool Message) :=
  match hmessage : pool.inFlight[index]? with
  | none => none
  | some message => some (message,
      ⟨pool.inFlight.eraseIdx index, pool.sent, pool.received ++ [message],
        perm_deliver pool.balanced hmessage⟩)

theorem deliver_eq_some {pool next : Pool Message} {index : Nat} {message : Message}
    (hdeliver : pool.deliver index = some (message, next)) :
    pool.inFlight[index]? = some message ∧
      pool.inFlight =
        pool.inFlight.take index ++ message :: pool.inFlight.drop (index + 1) ∧
      next.inFlight = pool.inFlight.take index ++ pool.inFlight.drop (index + 1) ∧
      next.sent = pool.sent ∧ next.received = pool.received ++ [message] := by
  unfold deliver at hdeliver
  split at hdeliver
  · cases hdeliver
  next found hfound =>
    obtain ⟨rfl, rfl⟩ := Prod.mk.inj (Option.some.inj hdeliver)
    obtain ⟨hindex, rfl⟩ := List.getElem?_eq_some_iff.mp hfound
    refine ⟨hfound, ?_, List.eraseIdx_eq_take_drop_succ _ _, rfl, rfl⟩
    rw [← List.drop_eq_getElem_cons hindex, List.take_append_drop]

theorem exists_deliver {pool : Pool Message} {index : Nat} {message : Message}
    (hmessage : pool.inFlight[index]? = some message) :
    ∃ result, pool.deliver index = some result := by
  unfold deliver
  split
  next hnone => cases hnone.symm.trans hmessage
  next found _ => exact ⟨_, rfl⟩

end Pool

namespace Stage

variable {Message : Type uMessage} {part : Message → RoundPart} {round : Message → Nat}

/-- Items do not leave the round they are in. -/
theorem follow_items {stage final : Stage} {messages : List Message}
    (hitems : ∀ message ∈ messages, part message = .item)
    (hfollow : follow part round stage messages = some final) :
    final = stage ∧ ∀ message ∈ messages, stage = within (round message) := by
  induction messages with
  | nil => exact ⟨(Option.some.inj hfollow).symm, by simp⟩
  | cons message rest ih =>
      obtain ⟨next, hnext, hrest⟩ := (follow_cons_eq_some part round).mp hfollow
      have hitem := hitems message List.mem_cons_self
      rcases advance_eq_some.mp hnext with ⟨hpart, _⟩ | ⟨_, hstage, hsame⟩ | ⟨hpart, _⟩
      · cases hitem.symm.trans hpart
      · obtain rfl : next = stage := hsame.trans hstage.symm
        obtain ⟨hfinal, hmembers⟩ :=
          ih (fun later hlater => hitems later (List.mem_cons_of_mem _ hlater)) hrest
        exact ⟨hfinal, List.forall_mem_cons.mpr ⟨hstage, hmembers⟩⟩
      · cases hitem.symm.trans hpart

end Stage

/-- How the messages in flight lie between a receiver at `inn` and a sender at `out`: they
lead from the one to the other, or they are the items that the closing message of their
round has overtaken. Then the receiver's own traffic `back` is still within the round. -/
inductive Bridges {Message : Type uMessage} (part : Message → RoundPart)
    (round : Message → Nat) (inn out back : Stage) (inFlight : List Message) : Prop
  | path (hfollow : Stage.follow part round inn inFlight = some out) :
      Bridges part round inn out back inFlight
  | stragglers (current : Nat) (hinn : inn = .before (current + 1))
      (hout : out = .before (current + 1)) (hback : back = .within current)
      (hitems : ∀ message ∈ inFlight, part message = .item ∧ round message = current) :
      Bridges part round inn out back inFlight

namespace Bridges

variable {Message : Type uMessage} {part : Message → RoundPart} {round : Message → Nat}
variable {inn out back : Stage} {inFlight : List Message}

theorem rank_le (hbridges : Bridges part round inn out back inFlight) : inn.rank ≤ out.rank := by
  cases hbridges with
  | path hfollow => exact Stage.rank_le_of_follow hfollow
  | stragglers current hinn hout _ _ =>
      exact Nat.le_of_eq (congrArg Stage.rank (hinn.trans hout.symm))

/-- Behind the start of a round there are only messages of it and of later rounds. -/
theorem le_round {current : Nat} (hbridges : Bridges part round inn out back inFlight)
    (hinn : (Stage.before current).rank ≤ inn.rank)
    (hback : (Stage.before current).rank ≤ back.rank) :
    ∀ message ∈ inFlight, current ≤ round message := by
  cases hbridges with
  | path hfollow => exact Stage.le_round_of_follow hfollow hinn
  | stragglers earlier _ _ hwithin hitems =>
      intro message hmem
      rw [(hitems message hmem).2]
      rw [hwithin, Stage.rank_before, Stage.rank_within] at hback
      omega

/-- The receiver's own traffic goes on within its round. -/
theorem move_back {other : Stage} (hbridges : Bridges part round inn out back inFlight)
    (hother : ∀ current, back = .within current → other = .within current) :
    Bridges part round inn out other inFlight := by
  cases hbridges with
  | path hfollow => exact .path hfollow
  | stragglers current hinn hout hback hitems =>
      exact .stragglers current hinn hout (hother current hback) hitems

theorem post {message : Message} {next : Stage}
    (hbridges : Bridges part round inn out back inFlight)
    (hadvance : out.advance (part message) (round message) = some next)
    (hback : ∀ current, out = .before (current + 1) → back ≠ .within current) :
    Bridges part round inn next back (inFlight ++ [message]) := by
  cases hbridges with
  | path hfollow => exact .path (Stage.follow_concat part round hfollow hadvance)
  | stragglers current _ hout hwithin _ => exact absurd hwithin (hback current hout)

/-- What arrives is the next message of the receiver's stage, or a straggler. -/
theorem deliver {earlier later : List Message} {message : Message}
    (hbridges : Bridges part round inn out back (earlier ++ message :: later))
    (hovertakes : ∀ overtaken ∈ earlier, part overtaken = .item ∧ part message ≠ .opening)
    (hcloses : earlier ≠ [] → part message = .closing →
      ∀ current, inn = .within current →
        back = .within current ∧ out.rank ≤ (Stage.before (current + 1)).rank) :
    (∃ next, inn.advance (part message) (round message) = some next ∧
      Bridges part round next out back (earlier ++ later)) ∨
    (inn = .before (round message + 1) ∧ back = .within (round message) ∧
      part message = .item ∧ Bridges part round inn out back (earlier ++ later)) := by
  cases hbridges with
  | path hfollow =>
      rw [Stage.follow_append] at hfollow
      obtain ⟨middle, hearlier, hrest⟩ := Option.bind_eq_some_iff.mp hfollow
      obtain ⟨rfl, hwithin⟩ :=
        Stage.follow_items (fun overtaken hmem => (hovertakes overtaken hmem).1) hearlier
      obtain ⟨next, hadvance, hlater⟩ := (Stage.follow_cons_eq_some part round).mp hrest
      refine .inl ⟨next, hadvance, ?_⟩
      by_cases hnil : earlier = []
      · subst hnil
        exact .path hlater
      obtain ⟨overtaken, hmem⟩ := List.exists_mem_of_ne_nil earlier hnil
      have hstage := hwithin overtaken hmem
      rcases Stage.advance_eq_some.mp hadvance with ⟨hpart, _⟩ | ⟨_, hstay, rfl⟩ |
        ⟨hpart, hstay, rfl⟩
      · exact absurd hpart (hovertakes overtaken hmem).2
      · rw [← hstay] at hlater ⊢
        refine .path ?_
        rw [Stage.follow_append, hearlier]
        exact hlater
      · -- The closing message leaves the items before it behind, and nothing follows it.
        obtain ⟨hback, hrank⟩ := hcloses hnil hpart _ hstay
        obtain rfl := Stage.eq_nil_of_follow_before hlater hrank
        refine .stragglers (round message) rfl (Option.some.inj hlater).symm hback ?_
        intro item hitem
        rw [List.append_nil] at hitem
        refine ⟨(hovertakes item hitem).1, ?_⟩
        exact Stage.within.inj ((hwithin item hitem).symm.trans hstay)
  | stragglers current hinn hout hback hitems =>
      obtain ⟨hitem, rfl⟩ := hitems message (List.mem_append_right _ List.mem_cons_self)
      refine .inr ⟨hinn, hback, hitem, .stragglers _ hinn hout hback ?_⟩
      intro other hmem
      apply hitems
      rcases List.mem_append.mp hmem with hmem | hmem
      · exact List.mem_append_left _ hmem
      · exact List.mem_append_right _ (List.mem_cons_of_mem _ hmem)

end Bridges

end MangleWebRTC.Machine
