import Mathlib.Data.List.Basic
import Mathlib.Order.Nat

/-! # Writing through a partial writer

A writer accepts some beginning of what it is offered. The usual loop offers the
rest of a buffer until a counter reaches the buffer's length; it ends, and the
accepted pieces make up the buffer. A loop that offers the wrong slice does not.
-/

namespace MangleWebRTC.Machine

universe uItem

/-- How many items each call accepts: at least one of a non-empty offer. -/
structure Writer (Item : Type uItem) where
  accepts : Nat → List Item → Nat
  accepts_nil : ∀ call, accepts call [] = 0
  accepts_pos : ∀ call items, items ≠ [] → 0 < accepts call items
  accepts_le : ∀ call items, accepts call items ≤ items.length

/-- The number of calls made so far, the loop's counter, and all accepted items. -/
structure WriteState (Item : Type uItem) where
  calls : Nat
  sent : Nat
  accepted : List Item

variable {Item : Type uItem}

/-- The writer that always accepts all it is offered. -/
def Writer.whole : Writer Item where
  accepts _ items := items.length
  accepts_nil _ := rfl
  accepts_pos _ _ := List.length_pos_iff.mpr
  accepts_le _ _ := le_rfl

/-- `while sent < total { sent += write(slice(sent)) }`, for at most `fuel` rounds. -/
def writeLoop (writer : Writer Item) (slice : Nat → List Item) (total : Nat) :
    Nat → WriteState Item → Option (WriteState Item)
  | 0, state => if state.sent < total then none else some state
  | fuel + 1, state =>
      if state.sent < total then
        let offered := slice state.sent
        let count := writer.accepts state.calls offered
        writeLoop writer slice total fuel
          ⟨state.calls + 1, state.sent + count, state.accepted ++ offered.take count⟩
      else some state

variable (writer : Writer Item)

theorem writeLoop_done (slice : Nat → List Item) {total : Nat} {state : WriteState Item}
    (hdone : total ≤ state.sent) (fuel : Nat) :
    writeLoop writer slice total fuel state = some state := by
  cases fuel <;> exact if_neg (Nat.not_lt.mpr hdone)

/-- Offering the rest of the buffer writes the whole buffer. -/
theorem writeLoop_rest (items : List Item) (fuel : Nat) (state : WriteState Item)
    (hsent : state.sent ≤ items.length) (hfuel : items.length - state.sent ≤ fuel) :
    ∃ calls, writeLoop writer (fun sent => items.drop sent) items.length fuel state =
      some ⟨calls, items.length, state.accepted ++ items.drop state.sent⟩ := by
  induction fuel generalizing state with
  | zero =>
      have hall : state.sent = items.length := by omega
      refine ⟨state.calls, ?_⟩
      rw [writeLoop_done _ _ hall.ge, hall, List.drop_length, List.append_nil]
      rw [← hall]
  | succ fuel ih =>
      by_cases hmore : state.sent < items.length
      · -- The offer is not empty, so the counter moves.
        have hoffer : items.drop state.sent ≠ [] := by
          simpa [List.drop_eq_nil_iff] using hmore
        have hpos := writer.accepts_pos state.calls _ hoffer
        have hle := writer.accepts_le state.calls (items.drop state.sent)
        rw [List.length_drop] at hle
        generalize hcount : writer.accepts state.calls (items.drop state.sent) = count at hpos hle
        obtain ⟨calls, hloop⟩ := ih ⟨state.calls + 1, state.sent + count,
          state.accepted ++ (items.drop state.sent).take count⟩ (by simp only; omega)
          (by simp only; omega)
        refine ⟨calls, ?_⟩
        simp only [writeLoop, if_pos hmore, hcount]
        rw [hloop, List.append_assoc, ← List.drop_drop, List.take_append_drop]
      · have hall : state.sent = items.length := by omega
        refine ⟨state.calls, ?_⟩
        rw [writeLoop_done _ _ hall.ge, hall, List.drop_length, List.append_nil]
        rw [← hall]

/-- Offering nothing makes no progress, whatever the writer does. -/
theorem writeLoop_stuck {slice : Nat → List Item} (hslice : ∀ sent, slice sent = [])
    {total : Nat} (fuel : Nat) (state : WriteState Item) (hmore : state.sent < total) :
    writeLoop writer slice total fuel state = none := by
  induction fuel generalizing state with
  | zero => exact if_pos hmore
  | succ fuel ih =>
      simp only [writeLoop, if_pos hmore, hslice, writer.accepts_nil]
      exact ih _ hmore

end MangleWebRTC.Machine
