import Mathlib.Data.List.Basic
import Mathlib.Logic.Function.Basic

/-! # Tables filled entry by entry

A table that is filled by inserting the entries of a list one after another, each
under its own key. A later entry takes the place of an earlier one, so the table
knows the last entry of every key and no other.
-/

namespace MangleWebRTC.Machine

universe uKey uEntry

variable {Key : Type uKey} {Entry : Type uEntry} [DecidableEq Key]

/-- Insert all entries of a list, in its order. -/
def insertAll (key : Entry → Key) (entries : List Entry) (table : Key → Option Entry) :
    Key → Option Entry :=
  entries.foldl (fun filled entry => Function.update filled (key entry) (some entry)) table

/-- The last entry of a list with a key. -/
def lastWithKey (key : Entry → Key) (entries : List Entry) (wanted : Key) : Option Entry :=
  (entries.filter fun entry => key entry = wanted).getLast?

variable {key : Entry → Key}

theorem lastWithKey_cons (entry : Entry) (rest : List Entry) (wanted : Key) :
    lastWithKey key (entry :: rest) wanted =
      (lastWithKey key rest wanted).or (if key entry = wanted then some entry else none) := by
  by_cases hkey : key entry = wanted
  · simp only [lastWithKey, List.filter_cons, decide_eq_true hkey, if_true, if_pos hkey,
      List.getLast?_cons]
    cases (rest.filter fun other => decide (key other = wanted)).getLast? <;> rfl
  · simp [lastWithKey, hkey]

theorem insertAll_apply (entries : List Entry) (table : Key → Option Entry) (wanted : Key) :
    insertAll key entries table wanted =
      (lastWithKey key entries wanted).or (table wanted) := by
  induction entries generalizing table with
  | nil => rfl
  | cons entry rest ih =>
      rw [insertAll, List.foldl_cons, ← insertAll, ih, lastWithKey_cons, Option.or_assoc]
      by_cases hkey : key entry = wanted
      · subst hkey
        rw [Function.update_self, if_pos rfl, Option.some_or]
      · rw [Function.update_of_ne (Ne.symm hkey), if_neg hkey, Option.none_or]

/-- A table that starts empty holds the last entry of every key. -/
theorem insertAll_empty (entries : List Entry) (wanted : Key) :
    insertAll key entries (fun _ => none) wanted = lastWithKey key entries wanted := by
  rw [insertAll_apply, Option.or_none]

theorem lastWithKey_eq_some {entries : List Entry} {wanted : Key} {entry : Entry}
    (hlast : lastWithKey key entries wanted = some entry) :
    entry ∈ entries ∧ key entry = wanted := by
  have hmem := List.mem_of_getLast? hlast
  rwa [List.mem_filter, decide_eq_true_eq] at hmem

theorem lastWithKey_eq_none_iff {entries : List Entry} {wanted : Key} :
    lastWithKey key entries wanted = none ↔ ∀ entry ∈ entries, key entry ≠ wanted := by
  simp [lastWithKey]

theorem exists_lastWithKey {entries : List Entry} {entry : Entry} (hmem : entry ∈ entries) :
    ∃ last, lastWithKey key entries (key entry) = some last := by
  rw [← Option.ne_none_iff_exists', Ne, lastWithKey_eq_none_iff]
  exact fun hall => hall entry hmem rfl

end MangleWebRTC.Machine
