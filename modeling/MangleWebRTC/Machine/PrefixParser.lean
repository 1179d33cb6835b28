import Mathlib.Data.List.Basic
import Mathlib.Tactic.Cases

/-! # Parsing a stream that arrives in pieces

A parser that takes one item off the front of its input is stable when more
input behind a complete item changes nothing. Such a parser can be run on a
growing buffer: the cut of the stream into chunks does not matter.
-/

namespace MangleWebRTC.Machine

universe uSymbol uItem uChunk

/-- A parser of one leading item whose answer is not revised by later input. -/
structure PrefixParser (Symbol : Type uSymbol) (Item : Type uItem) where
  parse : List Symbol → Option (Item × List Symbol)
  stable : ∀ {input : List Symbol} {item : Item} {rest : List Symbol} (more : List Symbol),
    parse input = some (item, rest) → parse (input ++ more) = some (item, rest ++ more)

namespace PrefixParser

variable {Symbol : Type uSymbol} {Item : Type uItem} {Chunk : Type uChunk}
variable (parser : PrefixParser Symbol Item) (content : Chunk → List Symbol)

/-- Take chunks into the buffer until it starts with an item. Returns the item,
the buffer behind it and the chunks not taken; `none` when the chunks run out. -/
def pull : List Symbol → List Chunk → Option (Item × List Symbol × List Chunk)
  | buffer, [] => (parser.parse buffer).map fun (item, rest) => (item, rest, [])
  | buffer, chunk :: chunks =>
      match parser.parse buffer with
      | some (item, rest) => some (item, rest, chunk :: chunks)
      | none => pull (buffer ++ content chunk) chunks

theorem pull_of_parse {buffer rest : List Symbol} {item : Item}
    (hparse : parser.parse buffer = some (item, rest)) (chunks : List Chunk) :
    parser.pull content buffer chunks = some (item, rest, chunks) := by
  cases chunks <;> simp [pull, hparse]

/-- Pulling chunk by chunk is parsing the concatenation. -/
theorem parse_flatMap (buffer : List Symbol) (chunks : List Chunk) :
    parser.parse (buffer ++ chunks.flatMap content) =
      (parser.pull content buffer chunks).map
        fun (item, rest, left) => (item, rest ++ left.flatMap content) := by
  induction chunks generalizing buffer with
  | nil => cases hparse : parser.parse buffer <;> simp [pull, hparse]
  | cons chunk chunks ih =>
      cases hparse : parser.parse buffer with
      | some found => simp [pull, hparse, parser.stable _ hparse]
      | none =>
          have hrest := ih (buffer ++ content chunk)
          simpa [pull, hparse, List.append_assoc] using hrest

/-- A word that is one item and nothing else has no item in a shorter prefix. -/
theorem parse_eq_none_of_cut {word cut : List Symbol} {item : Item}
    (hword : parser.parse word = some (item, [])) (hcut : cut <+: word)
    (hshort : cut.length < word.length) : parser.parse cut = none := by
  obtain ⟨tail, rfl⟩ := hcut
  cases hparse : parser.parse cut with
  | none => rfl
  | some found =>
      have hwhole := parser.stable tail hparse
      rw [hword] at hwhole
      have htail : found.2 ++ tail = [] :=
        (congrArg Prod.snd (Option.some.inj hwhole)).symm
      obtain ⟨_, rfl⟩ := List.append_eq_nil_iff.mp htail
      simp at hshort

end PrefixParser

end MangleWebRTC.Machine
