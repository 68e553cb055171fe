/-
# Where the nodes of a tree stand

A walk lists the nodes of a tree in depth-first pre-order (`map_snd_walk`), each with the
location at which it is found (`locate?_of_mem_walk`). The locations ascend as words do
(`ascending_walk`): a node stands in front of the nodes below it, whose locations begin with
its own, and these in front of its later siblings, whose last index is greater. So of two
nodes the one with the smaller location comes first in the tree.

The text of a location can be read back (`Location.ofText?_toText`): up to each closing bracket
it names one index.
-/

import Pagewright.Component.Basic
import Pagewright.Text.Search
import Mathlib

namespace Pagewright
namespace Component

/-! ## The walk -/

mutual

/-- A walk visits the nodes of the tree in pre-order. -/
theorem map_snd_walkFrom (location : Location) : ∀ c : Component,
    (walkFrom location c).map Prod.snd = c.descendants
  | ⟨id, type, name, props, style, children⟩ => by
    rw [walkFrom, descendants, List.map_cons, map_snd_walkChildren location 0 children]

/-- A walk visits the nodes below in pre-order. -/
theorem map_snd_walkChildren (location : Location) (index : Nat) : ∀ cs : List Component,
    (walkChildren location index cs).map Prod.snd = descendantsOfAll cs
  | [] => rfl
  | c :: cs => by
    rw [walkChildren, descendantsOfAll, List.map_append,
      map_snd_walkFrom (location ++ [index]) c, map_snd_walkChildren location (index + 1) cs]

end

/-- **The nodes of the walk** are the nodes of the tree, in pre-order. -/
theorem map_snd_walk (c : Component) : c.walk.map Prod.snd = c.descendants :=
  map_snd_walkFrom [] c

mutual

/-- What is walked from a location stands at it or below it. -/
theorem exists_of_mem_walkFrom {location found : Location} {d : Component} : ∀ c : Component,
    (found, d) ∈ walkFrom location c →
      ∃ rest, found = location ++ rest ∧ c.locate? rest = some d
  | ⟨id, type, name, props, style, children⟩, h => by
    rw [walkFrom, List.mem_cons] at h
    rcases h with h | h
    · obtain ⟨rfl, rfl⟩ := Prod.mk.inj h
      exact ⟨[], (List.append_nil _).symm, rfl⟩
    · obtain ⟨k, rest, hfound, hlocate⟩ := exists_of_mem_walkChildren 0 children h
      rw [Nat.zero_add] at hfound
      exact ⟨k :: rest, hfound, hlocate⟩

/-- What is visited below is found under the index of a child. -/
theorem exists_of_mem_walkChildren {location found : Location} {d : Component} (index : Nat) :
    ∀ cs : List Component, (found, d) ∈ walkChildren location index cs →
      ∃ k rest, found = location ++ (index + k) :: rest ∧
        (cs[k]?).bind (·.locate? rest) = some d
  | [], h => absurd h List.not_mem_nil
  | c :: cs, h => by
    rw [walkChildren, List.mem_append] at h
    rcases h with h | h
    · obtain ⟨rest, hfound, hlocate⟩ := exists_of_mem_walkFrom c h
      rw [List.append_assoc] at hfound
      exact ⟨0, rest, hfound, hlocate⟩
    · obtain ⟨k, rest, hfound, hlocate⟩ := exists_of_mem_walkChildren (index + 1) cs h
      refine ⟨k + 1, rest, ?_, hlocate⟩
      rw [hfound, Nat.add_assoc, Nat.add_comm 1]

end

/-- **A node is found at its location.** -/
theorem locate?_of_mem_walk {c d : Component} {location : Location} (h : (location, d) ∈ c.walk) :
    c.locate? location = some d := by
  obtain ⟨rest, rfl, hlocate⟩ := exists_of_mem_walkFrom c h
  exact hlocate

mutual

/-- A walk goes from location to location in ascending order. -/
theorem ascending_walkFrom (location : Location) : ∀ c : Component,
    (walkFrom location c).Pairwise (fun a b => a.1 < b.1)
  | ⟨id, type, name, props, style, children⟩ => by
    rw [walkFrom, List.pairwise_cons]
    refine ⟨?_, ascending_walkChildren location 0 children⟩
    rintro ⟨found, d⟩ h
    obtain ⟨k, rest, rfl, -⟩ := exists_of_mem_walkChildren 0 children h
    -- A location is smaller than one that it begins.
    have hlt : location ++ [] < location ++ (0 + k) :: rest := List.append_left_lt List.Lex.nil
    rwa [List.append_nil] at hlt

/-- So does a walk of what is below. -/
theorem ascending_walkChildren (location : Location) (index : Nat) : ∀ cs : List Component,
    (walkChildren location index cs).Pairwise (fun a b => a.1 < b.1)
  | [] => .nil
  | c :: cs => by
    rw [walkChildren, List.pairwise_append]
    refine ⟨ascending_walkFrom (location ++ [index]) c,
      ascending_walkChildren location (index + 1) cs, ?_⟩
    rintro ⟨found, d⟩ h ⟨found', d'⟩ h'
    -- The two part at the index: it is `index` below this child and greater below the others.
    obtain ⟨rest, rfl, -⟩ := exists_of_mem_walkFrom c h
    obtain ⟨k, rest', rfl, -⟩ := exists_of_mem_walkChildren (index + 1) cs h'
    rw [List.append_assoc]
    exact List.append_left_lt (List.Lex.rel (by omega))

end

/-- **The locations ascend** in the order of the tree. -/
theorem ascending_walk (c : Component) : c.walk.Pairwise (fun a b => a.1 < b.1) :=
  ascending_walkFrom [] c

/-! ## The text of a location -/

namespace Location

/-- What the text of a location has for an index, up to the closing bracket. -/
def piece (index : Nat) : String := ".children[" ++ toString index

/-- The index that a piece of a text is for. -/
def readPiece (chars : List Char) : Option Nat := do
  let digits ← ".children[".toList.isPrefixOf? chars
  (String.ofList digits).toNat?

/-- The location that a text names. -/
def ofText? (text : String) : Option Location := do
  let pieces := Text.splitWhere (· == ']') (← "components".toList.isPrefixOf? text.toList)
  if pieces.getLast? = some [] then pieces.dropLast.mapM readPiece else none

/-- An index is read back from its piece of the text. -/
theorem readPiece_piece (index : Nat) : readPiece (piece index).toList = some index := by
  have hprefix : ".children[".toList.isPrefixOf? (piece index).toList =
      some (toString index).toList :=
    List.isPrefixOf?_eq_some_iff_append_eq.2 (String.toList_append ..).symm
  rw [readPiece, hprefix, Option.bind_eq_bind, Option.bind_some, String.ofList_toList]
  exact Nat.toNat?_repr index

/-- A location is read back from the pieces of its text. -/
theorem mapM_readPiece (location : Location) :
    (location.map fun i => (piece i).toList).mapM readPiece = some location := by
  induction location with
  | nil => rfl
  | cons i rest ih =>
    rw [List.map_cons, List.mapM_cons, readPiece_piece, ih]
    rfl

/-- The text of a location is that of the root and a piece for each index. -/
theorem toList_toText (location : Location) :
    location.toText.toList =
      "components".toList ++ location.flatMap fun i => (piece i).toList ++ [']'] := by
  have hfold : ∀ s : String,
      (location.foldl (fun s i => s ++ ".children[" ++ toString i ++ "]") s).toList =
        s.toList ++ location.flatMap fun i => (piece i).toList ++ [']'] := by
    induction location with
    | nil => simp
    | cons i rest ih =>
      intro s
      have hclose : "]".toList = [']'] := rfl
      rw [List.foldl_cons, ih, List.flatMap_cons, piece]
      simp only [String.toList_append, hclose, List.append_assoc]
  exact hfold "components"

/-- No piece of a location has a closing bracket. -/
theorem not_mem_piece (index : Nat) : ']' ∉ (piece index).toList := by
  intro h
  rw [piece, String.toList_append, List.mem_append] at h
  rcases h with h | h
  · exact absurd h (by decide)
  · rw [Nat.toString_eq_ofList_toDigits, String.toList_ofList] at h
    exact absurd (Nat.isDigit_of_mem_toDigits (by decide) (by decide) h) (by decide)

/-- The pieces between the closing brackets: one for each index, and nothing behind the last. -/
theorem splitWhere_pieces (location : Location) :
    Text.splitWhere (· == ']') (location.flatMap fun i => (piece i).toList ++ [']']) =
      (location.map fun i => (piece i).toList) ++ [[]] := by
  induction location with
  | nil => rfl
  | cons i rest ih =>
    rw [List.flatMap_cons, List.append_assoc, List.singleton_append, Text.splitWhere_append rfl,
      Text.splitWhere_of_not_mem (not_mem_piece i), ih, List.map_cons, List.singleton_append,
      List.cons_append]

/-- **The text of a location is read back.** -/
theorem ofText?_toText (location : Location) : ofText? location.toText = some location := by
  have hprefix : "components".toList.isPrefixOf? location.toText.toList =
      some (location.flatMap fun i => (piece i).toList ++ [']']) :=
    List.isPrefixOf?_eq_some_iff_append_eq.2 (toList_toText location).symm
  rw [ofText?, hprefix, Option.bind_eq_bind, Option.bind_some]
  simp only [splitWhere_pieces]
  rw [if_pos List.getLast?_concat, List.dropLast_concat, mapM_readPiece]

end Location
end Component
end Pagewright
