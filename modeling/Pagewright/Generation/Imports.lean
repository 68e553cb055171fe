/-
# Collected imports

The modules that generated code refers to, in the order in which they were first
seen, each with the set of names that it uses of them. A set of names is the list
of its members in ascending order, so that sets with equal members are equal.
-/

import Pagewright.Dict
import Pagewright.Text.Search

namespace Pagewright

/-- A set of names: its members in strictly ascending order of code points. -/
structure Names where
  items : List String
  ascending : items.Pairwise (· < ·)
deriving DecidableEq

namespace Names

/-- The set without members. -/
def empty : Names := ⟨[], .nil⟩

instance : EmptyCollection Names := ⟨empty⟩

instance : Inhabited Names := ⟨empty⟩

/-- Whether there is no member. -/
def isEmpty (s : Names) : Bool := s.items.isEmpty

/-- Whether a name is a member. -/
def contains (s : Names) (name : String) : Bool := s.items.contains name

/-- Places a name in an ascending list that may hold it already. -/
def place (name : String) : List String → List String
  | [] => [name]
  | a :: rest =>
    if name = a then a :: rest
    else if name < a then name :: a :: rest
    else a :: place name rest

/-- Placing a name adds the name and nothing else. -/
theorem mem_place {x name : String} {l : List String} :
    x ∈ place name l ↔ x = name ∨ x ∈ l := by
  induction l with
  | nil => simp [place]
  | cons a rest ih =>
    unfold place
    split
    · next h => subst h; simp
    · split
      · simp
      · simp only [List.mem_cons, ih]
        constructor
        · rintro (h | h | h) <;> simp [h]
        · rintro (h | h | h) <;> simp [h]

theorem lt_of_ne_of_not_lt {a b : String} (hne : a ≠ b) (h : ¬ a < b) : b < a :=
  String.not_le.1 fun hle => hne (String.le_antisymm hle (String.not_lt.1 h))

/-- Names stay in ascending order when one is placed among them. -/
theorem ascending_place {name : String} {l : List String} (h : l.Pairwise (· < ·)) :
    (place name l).Pairwise (· < ·) := by
  induction l with
  | nil => simp [place]
  | cons a rest ih =>
    obtain ⟨h1, h2⟩ := List.pairwise_cons.1 h
    unfold place
    split
    · exact h
    · next hne =>
      split
      · next hlt =>
        refine List.pairwise_cons.2 ⟨?_, h⟩
        intro x hx
        rcases List.mem_cons.1 hx with rfl | hx
        · exact hlt
        · exact String.lt_trans hlt (h1 x hx)
      · next hge =>
        refine List.pairwise_cons.2 ⟨?_, ih h2⟩
        intro x hx
        rcases mem_place.1 hx with rfl | hx
        · exact lt_of_ne_of_not_lt hne hge
        · exact h1 x hx

/-- The set with one more member. -/
def insert (s : Names) (name : String) : Names :=
  ⟨place name s.items, ascending_place s.ascending⟩

theorem mem_items_insert {s : Names} {name x : String} :
    x ∈ (s.insert name).items ↔ x = name ∨ x ∈ s.items := mem_place

end Names

/-- The modules that code imports, each with the names it uses of them. -/
structure Imports where
  modules : Dict String Names
deriving DecidableEq

namespace Imports

/-- No imports. -/
def empty : Imports := ⟨∅⟩

instance : EmptyCollection Imports := ⟨empty⟩

instance : Inhabited Imports := ⟨empty⟩

/-- Adds a name of a module. -/
def add (i : Imports) (module name : String) : Imports :=
  ⟨i.modules.alter module ∅ (·.insert name)⟩

/-- Adds a module without a name. -/
def addModule (i : Imports) (module : String) : Imports :=
  ⟨i.modules.alter module ∅ fun names => names⟩

/-- The names of a module. -/
def names? (i : Imports) (module : String) : Option Names := i.modules.get? module

/-- Whether a name of a module is imported. -/
def hasName (i : Imports) (module name : String) : Bool :=
  (i.names? module).any (·.contains name)

/-- The modules and their names, in the order in which the modules were added. -/
def entries (i : Imports) : List (String × Names) := i.modules.entries

/-- The modules and their names, in the order of the module paths. -/
def sorted (i : Imports) : List (String × Names) :=
  i.entries.mergeSort fun a b => decide (a.1 ≤ b.1)

/-- The number of modules. -/
def size (i : Imports) : Nat := i.modules.size

/-- Whether there is no module. -/
def isEmpty (i : Imports) : Bool := i.modules.isEmpty

end Imports
end Pagewright
