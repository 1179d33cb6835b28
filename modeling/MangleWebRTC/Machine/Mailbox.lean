import Mathlib.Data.List.Basic

/-! # Bounded queues whose senders wait

A sender offers an item and waits until a slot is free; items enter the queue in
the order they were offered and leave it in the same order. The bound on the
slots is part of the queue.
-/

namespace MangleWebRTC.Machine

universe uItem

/-- A queue of at most `capacity` items and the items whose senders still wait. -/
structure Mailbox (Item : Type uItem) (capacity : Nat) where
  slots : List Item
  waiting : List Item
  bounded : slots.length ≤ capacity

namespace Mailbox

variable {Item : Type uItem} {capacity : Nat}

/-- No sender has come yet. -/
def empty : Mailbox Item capacity := ⟨[], [], Nat.zero_le _⟩

/-- Everything offered and not yet taken, oldest first. -/
def contents (mailbox : Mailbox Item capacity) : List Item := mailbox.slots ++ mailbox.waiting

/-- A sender starts to send an item. -/
def offer (mailbox : Mailbox Item capacity) (item : Item) : Mailbox Item capacity :=
  { mailbox with waiting := mailbox.waiting ++ [item] }

/-- The longest waiting sender gets a free slot. -/
def enqueue (mailbox : Mailbox Item capacity) : Option (Mailbox Item capacity) :=
  match mailbox.waiting with
  | [] => none
  | item :: rest =>
      if hroom : mailbox.slots.length < capacity then
        some ⟨mailbox.slots ++ [item], rest, by simpa using Nat.succ_le_of_lt hroom⟩
      else none

/-- The receiver takes the oldest queued item. -/
def take (mailbox : Mailbox Item capacity) : Option (Item × Mailbox Item capacity) :=
  match hslots : mailbox.slots with
  | [] => none
  | item :: rest =>
      some (item, ⟨rest, mailbox.waiting, by
        have hbound := mailbox.bounded
        simp only [hslots, List.length_cons] at hbound
        omega⟩)

@[simp] theorem contents_offer (mailbox : Mailbox Item capacity) (item : Item) :
    (mailbox.offer item).contents = mailbox.contents ++ [item] := by
  simp [contents, offer]

theorem enqueue_eq_some {mailbox next : Mailbox Item capacity}
    (henqueue : mailbox.enqueue = some next) :
    ∃ item, mailbox.waiting = item :: next.waiting ∧ next.slots = mailbox.slots ++ [item] ∧
      mailbox.slots.length < capacity := by
  unfold enqueue at henqueue
  split at henqueue
  · cases henqueue
  next item rest hwaiting =>
    split at henqueue
    next hroom =>
      obtain rfl := Option.some.inj henqueue
      exact ⟨item, hwaiting, rfl, hroom⟩
    · cases henqueue

/-- Entering the queue loses nothing and keeps the order. -/
theorem contents_enqueue {mailbox next : Mailbox Item capacity}
    (henqueue : mailbox.enqueue = some next) : next.contents = mailbox.contents := by
  obtain ⟨item, hwaiting, hslots, _⟩ := enqueue_eq_some henqueue
  simp [contents, hwaiting, hslots]

theorem take_eq_some {mailbox next : Mailbox Item capacity} {item : Item}
    (htake : mailbox.take = some (item, next)) :
    mailbox.slots = item :: next.slots ∧ next.waiting = mailbox.waiting := by
  unfold take at htake
  split at htake
  · cases htake
  next first rest hslots =>
    obtain ⟨rfl, rfl⟩ := Prod.mk.inj (Option.some.inj htake)
    exact ⟨hslots, rfl⟩

/-- The receiver gets the oldest item that was offered. -/
theorem contents_take {mailbox next : Mailbox Item capacity} {item : Item}
    (htake : mailbox.take = some (item, next)) : mailbox.contents = item :: next.contents := by
  obtain ⟨hslots, hwaiting⟩ := take_eq_some htake
  simp [contents, hslots, hwaiting]

theorem exists_take {mailbox : Mailbox Item capacity} (hslots : mailbox.slots ≠ []) :
    ∃ item next, mailbox.take = some (item, next) := by
  unfold take
  split
  next hempty => exact absurd hempty hslots
  next item rest _ => exact ⟨item, _, rfl⟩

theorem exists_enqueue {mailbox : Mailbox Item capacity} (hwaiting : mailbox.waiting ≠ [])
    (hroom : mailbox.slots.length < capacity) : ∃ next, mailbox.enqueue = some next := by
  unfold enqueue
  split
  next hempty => exact absurd hempty hwaiting
  next item rest _ => exact ⟨_, dif_pos hroom⟩

theorem enqueue_eq_none {mailbox : Mailbox Item capacity} (hwaiting : mailbox.waiting = []) :
    mailbox.enqueue = none := by
  apply Option.eq_none_iff_forall_ne_some.mpr
  intro next henqueue
  obtain ⟨item, hsome, _⟩ := enqueue_eq_some henqueue
  exact List.cons_ne_nil _ _ (hsome.symm.trans hwaiting)

theorem take_eq_none {mailbox : Mailbox Item capacity} (hcontents : mailbox.contents = []) :
    mailbox.take = none := by
  apply Option.eq_none_iff_forall_ne_some.mpr
  rintro ⟨item, next⟩ htake
  exact List.cons_ne_nil _ _ ((contents_take htake).symm.trans hcontents)

/-- A queue with something in it is not stuck: an item can be taken, or a
waiting one can enter. -/
theorem take_or_enqueue {mailbox : Mailbox Item capacity} (hcapacity : 0 < capacity)
    (hcontents : mailbox.contents ≠ []) :
    (∃ item next, mailbox.take = some (item, next)) ∨ ∃ next, mailbox.enqueue = some next := by
  by_cases hslots : mailbox.slots = []
  · apply Or.inr
    apply exists_enqueue
    · intro hwaiting
      exact hcontents (by simp [contents, hslots, hwaiting])
    · simpa [hslots] using hcapacity
  · exact Or.inl (exists_take hslots)

end Mailbox

end MangleWebRTC.Machine
