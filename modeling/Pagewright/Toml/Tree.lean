/-
# Building TOML documents

A document is a list of pairs, then sections: a header and its pairs. The tree of
a document tells tables apart by how they came about, which decides what may still
be added to them:

| table | made by | a header may give it pairs | a dotted key may reach into it |
| --- | --- | --- | --- |
| implied | a header of a table below it | once | on the way to a dotted one |
| dotted | a dotted key | no | yes |
| written | its own header | no | no |

A header goes through every table on its path, and through the last table of an
array of tables. Nothing is added to a value, and no key is given twice.

The value of a tree has the keys of every table in ascending order.
-/

import Pagewright.Json.Basic

namespace Pagewright
namespace Toml

/-- How a table came about. -/
inductive Origin where
  | implied
  | dotted
  | written
deriving DecidableEq

/-- A part of a document: a value, a table or an array of tables. -/
inductive Tree where
  | value (v : Json)
  | table (origin : Origin) (entries : List (String × Tree))
  | tables (items : List (List (String × Tree)))

/-- The entries of a table. -/
abbrev Entries := List (String × Tree)

/-- A pair of a key, which may be dotted, and a value. -/
structure Pair where
  path : List String
  value : Json

/-- A section: whether its table is an item of an array, its path, and its pairs. -/
structure Section where
  isItem : Bool
  path : List String
  pairs : List Pair

/-- An object with its fields in ascending order of keys. -/
def sortedObject (fields : List (String × Json)) : Json :=
  .object (fields.mergeSort fun a b => decide (a.1 ≤ b.1))

mutual

/-- The value of a part. -/
def Tree.toJson : Tree → Json
  | .value v => v
  | .table _ entries => sortedObject (fieldsOf entries)
  | .tables items => .array (objectsOf items)

/-- The fields that entries stand for. -/
def fieldsOf : List (String × Tree) → List (String × Json)
  | [] => []
  | (k, t) :: rest => (k, t.toJson) :: fieldsOf rest

/-- The objects that tables stand for. -/
def objectsOf : List (List (String × Tree)) → List Json
  | [] => []
  | entries :: rest => sortedObject (fieldsOf entries) :: objectsOf rest

end

namespace Entries

/-- Adds an entry under a new key. -/
def put (entries : Entries) (key : String) (t : Tree) : Option Entries :=
  match entries.lookup key with
  | some _ => none
  | none => some (entries ++ [(key, t)])

/-- The tables that the rest of a dotted key makes. -/
def chain (v : Json) : String → List String → Entries
  | key, [] => [(key, Tree.value v)]
  | key, next :: rest => [(key, Tree.table Origin.dotted (chain v next rest))]

/-- Adds a value below the table under `key`, at the end of a dotted key. -/
def putBelow (v : Json) (entries : Entries) (key : String) : List String → Option Entries
  | [] => none
  | next :: rest =>
    match entries.lookup key with
    | none => some (entries ++ [(key, Tree.table Origin.dotted (chain v next rest))])
    | some (.value _) => none
    | some (.table origin below) =>
      if origin = .written then none
      else
        let added :=
          match rest with
          | [] => if origin = Origin.dotted then put below next (.value v) else none
          | _ :: _ => putBelow v below next rest
        added.map fun below => Dict.upsert key (.table origin below) entries
    | some (.tables items) =>
      match rest with
      | [] => none
      | _ :: _ => do
        let below ← putBelow v (items.getLast?.getD []) next rest
        some (Dict.upsert key (.tables (items.dropLast ++ [below])) entries)

/-- Adds a pair. -/
def addPair (entries : Entries) (pair : Pair) : Option Entries :=
  match pair.path with
  | [] => none
  | [key] => entries.put key (.value pair.value)
  | key :: rest => entries.putBelow pair.value key rest

/-- Adds pairs one after the other. -/
def addPairs (entries : Entries) (pairs : List Pair) : Option Entries :=
  pairs.foldlM addPair entries

/-- Opens the table of a section, of which the entries under its key may be known,
and adds the pairs. -/
def openTable (isItem : Bool) (pairs : List Pair) (known : Option Tree) : Option Tree :=
  match isItem, known with
  | false, none => (addPairs [] pairs).map (.table .written)
  | false, some (.table .implied entries) => (addPairs entries pairs).map (.table .written)
  | true, none => (addPairs [] pairs).map fun item => .tables [item]
  | true, some (.tables items) => (addPairs [] pairs).map fun item => .tables (items ++ [item])
  | _, _ => none

/-- Adds a section to a table, `path` leading from there. -/
def addAt (isItem : Bool) (pairs : List Pair) (entries : Entries) : List String → Option Entries
  | [] => none
  | [key] =>
    (openTable isItem pairs (entries.lookup key)).map fun t => Dict.upsert key t entries
  | key :: next :: rest =>
    match entries.lookup key with
    | none =>
      (addAt isItem pairs [] (next :: rest)).map fun below =>
        entries ++ [(key, Tree.table Origin.implied below)]
    | some (.table origin below) =>
      (addAt isItem pairs below (next :: rest)).map fun below =>
        Dict.upsert key (.table origin below) entries
    | some (.tables items) =>
      (addAt isItem pairs (items.getLast?.getD []) (next :: rest)).map fun below =>
        Dict.upsert key (.tables (items.dropLast ++ [below])) entries
    | some (.value _) => none

/-- Adds a section. -/
def addSection (entries : Entries) (s : Section) : Option Entries :=
  addAt s.isItem s.pairs entries s.path

end Entries

/-- The value of pairs and the sections after them. -/
def build? (pairs : List Pair) (sections : List Section) : Option Json := do
  let entries ← Entries.addPairs [] pairs
  let entries ← sections.foldlM Entries.addSection entries
  pure (sortedObject (fieldsOf entries))

end Toml
end Pagewright
