import Mathlib.Data.List.Basic
import Mathlib.Order.Basic

/-! # One-way traffic in rounds

Messages of one direction of a connection: in every round an opening message,
any number of items and a closing message. The stage after a message sequence
says what may come next. A first-in first-out queue between two ends carries a
path from the receiver's stage to the sender's stage, so comparing the two
stages tells what can be in the queue.
-/

namespace MangleWebRTC.Machine

universe uMessage

/-- The part a message plays in its round. -/
inductive RoundPart where
  | opening
  | item
  | closing
  deriving DecidableEq, Repr

/-- Before the opening message of a round, or after it and before the closing one. -/
inductive Stage where
  | before (round : Nat)
  | within (round : Nat)
  deriving DecidableEq, Repr

namespace Stage

/-- Stages in the order in which traffic passes them. -/
def rank : Stage → Nat
  | before round => 2 * round
  | within round => 2 * round + 1

@[simp] theorem rank_before (round : Nat) : (before round).rank = 2 * round := rfl

@[simp] theorem rank_within (round : Nat) : (within round).rank = 2 * round + 1 := rfl

/-- The stage behind a message, if the message may come at this stage. -/
def advance (stage : Stage) (part : RoundPart) (round : Nat) : Option Stage :=
  match stage, part with
  | before current, .opening => if round = current then some (within current) else none
  | within current, .item => if round = current then some (within current) else none
  | within current, .closing => if round = current then some (before (current + 1)) else none
  | _, _ => none

/-- What one message tells about the stages around it. -/
theorem advance_eq_some {stage next : Stage} {part : RoundPart} {round : Nat} :
    stage.advance part round = some next ↔
      (part = .opening ∧ stage = before round ∧ next = within round) ∨
      (part = .item ∧ stage = within round ∧ next = within round) ∨
      (part = .closing ∧ stage = within round ∧ next = before (round + 1)) := by
  cases stage <;> cases part <;> simp [advance] <;> grind

theorem rank_le_of_advance {stage next : Stage} {part : RoundPart} {round : Nat}
    (hnext : stage.advance part round = some next) : stage.rank ≤ next.rank := by
  rcases advance_eq_some.mp hnext with ⟨_, rfl, rfl⟩ | ⟨_, rfl, rfl⟩ | ⟨_, rfl, rfl⟩ <;>
    simp only [rank] <;> omega

variable {Message : Type uMessage} (part : Message → RoundPart) (round : Message → Nat)

/-- The stage after a sequence of messages. -/
def follow : Stage → List Message → Option Stage
  | stage, [] => some stage
  | stage, message :: rest =>
      (stage.advance (part message) (round message)).bind fun next => follow next rest

theorem follow_cons_eq_some {stage final : Stage} {message : Message} {rest : List Message} :
    follow part round stage (message :: rest) = some final ↔
      ∃ next, stage.advance (part message) (round message) = some next ∧
        follow part round next rest = some final := by
  simp [follow, Option.bind_eq_some_iff]

theorem follow_append {stage : Stage} (first second : List Message) :
    follow part round stage (first ++ second) =
      (follow part round stage first).bind fun middle => follow part round middle second := by
  induction first generalizing stage with
  | nil => rfl
  | cons message rest ih =>
      simp only [List.cons_append, follow]
      cases stage.advance (part message) (round message) with
      | none => rfl
      | some next => exact ih

theorem follow_concat {stage middle next : Stage} {messages : List Message} {message : Message}
    (hfollow : follow part round stage messages = some middle)
    (hnext : middle.advance (part message) (round message) = some next) :
    follow part round stage (messages ++ [message]) = some next := by
  rw [follow_append, hfollow]
  simp [follow, hnext]

variable {part round}

theorem rank_le_of_follow {stage final : Stage} {messages : List Message}
    (hfollow : follow part round stage messages = some final) : stage.rank ≤ final.rank := by
  induction messages generalizing stage with
  | nil => exact (Option.some.inj hfollow) ▸ Nat.le_refl _
  | cons message rest ih =>
      obtain ⟨next, hnext, hrest⟩ := (follow_cons_eq_some part round).mp hfollow
      exact Nat.le_trans (rank_le_of_advance hnext) (ih hrest)

/-- Between rounds every message moves on, so equal stages have nothing between. -/
theorem eq_nil_of_follow_before {current : Nat} {final : Stage} {messages : List Message}
    (hfollow : follow part round (before current) messages = some final)
    (hrank : final.rank ≤ (before current).rank) : messages = [] := by
  cases messages with
  | nil => rfl
  | cons message rest =>
      obtain ⟨next, hnext, hrest⟩ := (follow_cons_eq_some part round).mp hfollow
      have hle := rank_le_of_follow hrest
      rcases advance_eq_some.mp hnext with ⟨_, hstage, rfl⟩ | ⟨_, hstage, _⟩ | ⟨_, hstage, _⟩
      · simp only [before.injEq] at hstage
        subst hstage
        simp only [rank] at hle hrank
        omega
      · cases hstage
      · cases hstage

/-- Messages behind the start of a round belong to it or to later ones. -/
theorem le_round_of_follow {stage final : Stage} {messages : List Message} {current : Nat}
    (hfollow : follow part round stage messages = some final)
    (hstage : (before current).rank ≤ stage.rank) :
    ∀ message ∈ messages, current ≤ round message := by
  induction messages generalizing stage with
  | nil => simp
  | cons message rest ih =>
      obtain ⟨next, hnext, hrest⟩ := (follow_cons_eq_some part round).mp hfollow
      intro later hlater
      rcases List.mem_cons.mp hlater with rfl | hlater
      · rcases advance_eq_some.mp hnext with ⟨_, rfl, _⟩ | ⟨_, rfl, _⟩ | ⟨_, rfl, _⟩ <;>
          simp only [rank] at hstage <;> omega
      · exact ih hrest (Nat.le_trans hstage (rank_le_of_advance hnext)) later hlater

/-- Passing the end of a round takes its closing message. -/
theorem exists_closing_of_follow {stage final : Stage} {messages : List Message} {current : Nat}
    (hfollow : follow part round stage messages = some final)
    (hstage : stage.rank ≤ (within current).rank)
    (hfinal : (before (current + 1)).rank ≤ final.rank) :
    ∃ message ∈ messages, part message = .closing ∧ round message = current := by
  induction messages generalizing stage with
  | nil =>
      obtain rfl := Option.some.inj hfollow
      simp only [rank] at hstage hfinal
      omega
  | cons message rest ih =>
      obtain ⟨next, hnext, hrest⟩ := (follow_cons_eq_some part round).mp hfollow
      by_cases hlater : next.rank ≤ (within current).rank
      · obtain ⟨closing, hmem, hclosing⟩ := ih hrest hlater
        exact ⟨closing, List.mem_cons_of_mem _ hmem, hclosing⟩
      · refine ⟨message, List.mem_cons_self, ?_⟩
        rcases advance_eq_some.mp hnext with ⟨_, rfl, rfl⟩ | ⟨_, rfl, rfl⟩ | ⟨hpart, rfl, rfl⟩ <;>
          simp only [rank] at hstage hlater
        · omega
        · omega
        · exact ⟨hpart, by omega⟩

/-- A closing message ends its round for good. -/
theorem rank_le_of_closing_mem {stage final : Stage} {messages : List Message} {message : Message}
    (hfollow : follow part round stage messages = some final) (hmem : message ∈ messages)
    (hclosing : part message = .closing) : (before (round message + 1)).rank ≤ final.rank := by
  induction messages generalizing stage with
  | nil => cases hmem
  | cons first rest ih =>
      obtain ⟨next, hnext, hrest⟩ := (follow_cons_eq_some part round).mp hfollow
      rcases List.mem_cons.mp hmem with rfl | hmem
      · have hle := rank_le_of_follow hrest
        rcases advance_eq_some.mp hnext with ⟨hpart, _⟩ | ⟨hpart, _⟩ | ⟨_, _, rfl⟩
        · cases hclosing.symm.trans hpart
        · cases hclosing.symm.trans hpart
        · exact hle
      · exact ih hrest hmem

end Stage

end MangleWebRTC.Machine
