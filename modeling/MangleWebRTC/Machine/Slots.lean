import Mathlib.Data.List.Basic
import Mathlib.Order.Nat

/-! # Replacing one element of a list

Objects that are created one after another and then change one at a time are the
elements of a list, and a change replaces the element at one index. What is read off
all elements of a kind changes by what the one element contributes.
-/

namespace MangleWebRTC.Machine

universe uItem uResult

variable {Item : Type uItem} {Result : Type uResult} {items : List Item} {index : Nat}
variable {item next : Item}

theorem getElem?_set_of_some (hitem : items[index]? = some item) (other : Nat) :
    (items.set index next)[other]? = if other = index then some next else items[other]? := by
  obtain ⟨hlength, _⟩ := List.getElem?_eq_some_iff.mp hitem
  by_cases hother : other = index
  · subst hother
    simp [hlength]
  · simp [hother, Ne.symm hother]

theorem getElem?_set_self_of_some (hitem : items[index]? = some item) :
    (items.set index next)[index]? = some next :=
  (getElem?_set_of_some hitem index).trans (if_pos rfl)

/-- An element of the changed list is the new one, or was there before. -/
theorem eq_or_getElem?_of_set (hitem : items[index]? = some item) {other : Nat} {found : Item}
    (hfound : (items.set index next)[other]? = some found) :
    other = index ∧ found = next ∨ other ≠ index ∧ items[other]? = some found := by
  rcases ite_eq_iff.mp ((getElem?_set_of_some hitem other).symm.trans hfound) with
    ⟨hother, heq⟩ | ⟨hother, hbefore⟩
  · exact .inl ⟨hother, (Option.some.inj heq).symm⟩
  · exact .inr ⟨hother, hbefore⟩

/-- A change that keeps what is read off the element. -/
theorem map_set_of_eq {read : Item → Result} (hitem : items[index]? = some item)
    (hread : read next = read item) : (items.set index next).map read = items.map read := by
  ext1 other
  rw [List.getElem?_map, List.getElem?_map, getElem?_set_of_some hitem]
  split
  next hother => rw [hother, hitem, Option.map_some, Option.map_some, hread]
  · rfl

variable {kind : Item → Bool} {content : Item → List Result}

/-- A change that keeps the kind of an element, and its content where the kind is the
wanted one, keeps the contents of the kind. -/
theorem flatMap_filter_set (hitem : items[index]? = some item) (hkind : kind next = kind item)
    (hcontent : kind item = true → content next = content item) :
    ((items.set index next).filter kind).flatMap content =
      (items.filter kind).flatMap content := by
  induction items generalizing index with
  | nil => simp at hitem
  | cons first rest ih =>
      cases index with
      | zero =>
          obtain rfl : first = item := by simpa using hitem
          cases hfirst : kind first with
          | false => simp [hkind, hfirst]
          | true => simp [hkind, hfirst, hcontent hfirst]
      | succ index =>
          have hrest := ih (by simpa using hitem)
          cases hfirst : kind first <;> simp [hfirst, hrest]

/-- Content added to the last element of a kind is added to the contents of the kind. -/
theorem flatMap_filter_set_last (hitem : items[index]? = some item)
    (hlast : ∀ other found, items[other]? = some found → kind found = true → other ≤ index)
    (hkind : kind item = true) (hnext : kind next = true) {added : List Result}
    (hcontent : content next = content item ++ added) :
    ((items.set index next).filter kind).flatMap content =
      (items.filter kind).flatMap content ++ added := by
  induction items generalizing index with
  | nil => simp at hitem
  | cons first rest ih =>
      cases index with
      | zero =>
          obtain rfl : first = item := by simpa using hitem
          have hrest : rest.filter kind = [] := by
            rw [List.filter_eq_nil_iff]
            intro found hmem hfound
            obtain ⟨other, hother⟩ := List.getElem?_of_mem hmem
            have hle := hlast (other + 1) found (by simpa using hother) hfound
            omega
          simp [hkind, hnext, hrest, hcontent]
      | succ index =>
          have hrest := ih (by simpa using hitem) fun other found hother hfound =>
            Nat.le_of_succ_le_succ (hlast (other + 1) found (by simpa using hother) hfound)
          cases hfirst : kind first <;> simp [hfirst, hrest]

end MangleWebRTC.Machine
