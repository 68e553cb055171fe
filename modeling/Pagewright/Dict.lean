/-
# Insertion-ordered dictionaries

A dictionary is a list of entries whose keys are pairwise distinct. An
insertion under a present key replaces the value where it stands, one under a
new key goes to the end, so the order of the entries is the order in which the
keys were first seen:

| operation | keys afterwards |
| --- | --- |
| `d.insert k v`, `k` present | the keys of `d` |
| `d.insert k v`, `k` absent | the keys of `d`, then `k` |
| `d.erase k` | the keys of `d` without `k` |
| `Dict.ofList l` | the keys of `l` by first occurrence |

Equality of dictionaries is equality of the entry lists, order included.
-/

namespace Pagewright

/-- Entries with pairwise distinct keys, in order of first insertion. -/
structure Dict (κ : Type u) (α : Type v) where
  entries : List (κ × α)
  nodup : (entries.map Prod.fst).Nodup

namespace Dict

variable {κ : Type u} {α : Type v} {β : Type w}

theorem ext_entries {d e : Dict κ α} (h : d.entries = e.entries) : d = e := by
  cases d; cases e; cases h; rfl

instance [DecidableEq κ] [DecidableEq α] : DecidableEq (Dict κ α) := fun d e =>
  if h : d.entries = e.entries then isTrue (ext_entries h)
  else isFalse fun he => h (he ▸ rfl)

/-- The dictionary without entries. -/
def empty : Dict κ α := ⟨[], List.nodup_nil⟩

instance : EmptyCollection (Dict κ α) := ⟨empty⟩

instance : Inhabited (Dict κ α) := ⟨empty⟩

/-- The keys, in order. -/
def keys (d : Dict κ α) : List κ := d.entries.map Prod.fst

/-- The values, in order. -/
def values (d : Dict κ α) : List α := d.entries.map Prod.snd

/-- The number of entries. -/
def size (d : Dict κ α) : Nat := d.entries.length

/-- Whether there is no entry. -/
def isEmpty (d : Dict κ α) : Bool := d.entries.isEmpty

/-- No key stands in a dictionary twice. -/
theorem nodup_keys (d : Dict κ α) : d.keys.Nodup := d.nodup

@[simp] theorem keys_empty : (empty : Dict κ α).keys = [] := rfl

@[simp] theorem entries_empty : (empty : Dict κ α).entries = [] := rfl

/-- Keys stay distinct when entries are left out. -/
theorem nodup_filter {l : List (κ × α)} (p : κ × α → Bool) (h : (l.map Prod.fst).Nodup) :
    ((l.filter p).map Prod.fst).Nodup :=
  h.sublist (List.filter_sublist.map Prod.fst)

section Lookup

variable [DecidableEq κ]

/-- The value under a key. -/
def get? (d : Dict κ α) (k : κ) : Option α := d.entries.lookup k

/-- Whether a key is present. -/
def contains (d : Dict κ α) (k : κ) : Bool := (d.get? k).isSome

/-- A list of entries has a value for exactly the keys in it. -/
theorem lookup_isSome_iff {l : List (κ × α)} {k : κ} :
    (l.lookup k).isSome ↔ k ∈ l.map Prod.fst := by
  induction l with
  | nil => simp
  | cons p l ih =>
    obtain ⟨a, b⟩ := p
    by_cases h : k = a
    · subst h; simp
    · have hb : (k == a) = false := by simpa using h
      simp [List.lookup_cons, hb, ih, h]

@[simp] theorem contains_iff {d : Dict κ α} {k : κ} : d.contains k ↔ k ∈ d.keys :=
  lookup_isSome_iff

/-- A dictionary has no value for exactly the keys that are not in it. -/
theorem get?_eq_none_iff {d : Dict κ α} {k : κ} : d.get? k = none ↔ k ∉ d.keys := by
  rw [← contains_iff, contains]
  cases d.get? k <;> simp

/-- With distinct keys, the value of a key is the one in its entry. -/
theorem lookup_eq_some_iff_mem {l : List (κ × α)} {k : κ} {v : α}
    (h : (l.map Prod.fst).Nodup) : l.lookup k = some v ↔ (k, v) ∈ l := by
  induction l with
  | nil => simp
  | cons e l ih =>
    obtain ⟨a, b⟩ := e
    rw [List.map_cons, List.nodup_cons] at h
    by_cases hk : k = a
    · subst hk
      have hv : (k, v) ∉ l := fun hm => h.1 (List.mem_map.2 ⟨_, hm, rfl⟩)
      simp [hv, eq_comm]
    · have hb : (k == a) = false := by simpa using hk
      simp [List.lookup_cons, hb, ih h.2, hk]

/-- **A lookup finds the entries:** keys are distinct, so an entry is found under its key. -/
theorem get?_eq_some_iff {d : Dict κ α} {k : κ} {v : α} :
    d.get? k = some v ↔ (k, v) ∈ d.entries :=
  lookup_eq_some_iff_mem d.nodup

@[simp] theorem get?_empty (k : κ) : (∅ : Dict κ α).get? k = none := rfl

/-- Replaces the value under `k` where it stands, or appends an entry. -/
def upsert (k : κ) (v : α) : List (κ × α) → List (κ × α)
  | [] => [(k, v)]
  | (a, b) :: rest => if a = k then (k, v) :: rest else (a, b) :: upsert k v rest

/-- A key keeps its place among the entries, and a new one comes last. -/
theorem keys_upsert (k : κ) (v : α) (l : List (κ × α)) :
    (upsert k v l).map Prod.fst =
      if k ∈ l.map Prod.fst then l.map Prod.fst else l.map Prod.fst ++ [k] := by
  induction l with
  | nil => rfl
  | cons p l ih =>
    obtain ⟨a, b⟩ := p
    by_cases h : a = k
    · subst h; simp [upsert]
    · have h' : k ≠ a := fun e => h e.symm
      simp only [upsert, h, if_false, List.map_cons, ih, List.mem_cons, h', false_or]
      split <;> simp

/-- Keys stay distinct when an entry is set. -/
theorem nodup_upsert {k : κ} {v : α} {l : List (κ × α)} (h : (l.map Prod.fst).Nodup) :
    ((upsert k v l).map Prod.fst).Nodup := by
  rw [keys_upsert]
  split
  · exact h
  · next hk =>
    rw [List.nodup_append]
    refine ⟨h, by simp, ?_⟩
    intro a ha b hb
    simp only [List.mem_singleton] at hb
    subst hb
    exact fun e => hk (e ▸ ha)

/-- Setting an entry changes the value of its key only. -/
theorem lookup_upsert (k k' : κ) (v : α) (l : List (κ × α)) :
    (upsert k v l).lookup k' = if k' = k then some v else l.lookup k' := by
  induction l with
  | nil =>
    by_cases h : k' = k
    · subst h; simp [upsert]
    · have hb : (k' == k) = false := by simpa using h
      simp [upsert, List.lookup_cons, hb, h]
  | cons p l ih =>
    obtain ⟨a, b⟩ := p
    by_cases h : a = k
    · subst h
      by_cases h' : k' = a
      · subst h'; simp [upsert]
      · have hb : (k' == a) = false := by simpa using h'
        simp [upsert, List.lookup_cons, hb, h']
    · by_cases h' : k' = a
      · subst h'; simp [upsert, h]
      · have hb : (k' == a) = false := by simpa using h'
        simp [upsert, List.lookup_cons, h, hb, ih]

/-- Sets the value under a key, keeping its place when the key is present. -/
def insert (d : Dict κ α) (k : κ) (v : α) : Dict κ α :=
  ⟨upsert k v d.entries, nodup_upsert d.nodup⟩

/-- **The keys after an insertion:** a key keeps its place, and a new one comes last. -/
theorem keys_insert (d : Dict κ α) (k : κ) (v : α) :
    (d.insert k v).keys = if k ∈ d.keys then d.keys else d.keys ++ [k] :=
  keys_upsert k v d.entries

/-- **The values after an insertion:** only that of the key has changed. -/
theorem get?_insert (d : Dict κ α) (k k' : κ) (v : α) :
    (d.insert k v).get? k' = if k' = k then some v else d.get? k' :=
  lookup_upsert k k' v d.entries

/-- A key has the value that is inserted. -/
@[simp] theorem get?_insert_self (d : Dict κ α) (k : κ) (v : α) :
    (d.insert k v).get? k = some v := by
  simp [get?_insert]

/-- The keys after an insertion are those before and the key. -/
theorem mem_keys_insert {d : Dict κ α} {k k' : κ} {v : α} :
    k' ∈ (d.insert k v).keys ↔ k' = k ∨ k' ∈ d.keys := by
  rw [← contains_iff, ← contains_iff, contains, contains, get?_insert]
  by_cases h : k' = k <;> simp [h]

/-- An entry with a new key comes last. -/
theorem upsert_of_not_mem {k : κ} {v : α} {l : List (κ × α)} (h : k ∉ l.map Prod.fst) :
    upsert k v l = l ++ [(k, v)] := by
  induction l with
  | nil => rfl
  | cons e l ih =>
    rw [List.map_cons, List.mem_cons, not_or] at h
    rw [upsert, if_neg (Ne.symm h.1), ih h.2, List.cons_append]

/-- An insertion with a new key appends the entry. -/
theorem entries_insert_of_not_mem {d : Dict κ α} {k : κ} {v : α} (h : k ∉ d.keys) :
    (d.insert k v).entries = d.entries ++ [(k, v)] :=
  upsert_of_not_mem h

/-- Keeps the entries that satisfy a test, in order. -/
def filter (p : κ × α → Bool) (d : Dict κ α) : Dict κ α :=
  ⟨d.entries.filter p, nodup_filter p d.nodup⟩

/-- Removes the entry under a key; the others keep their order. -/
def erase (d : Dict κ α) (k : κ) : Dict κ α := d.filter (·.1 ≠ k)

/-- A filtered dictionary has the values whose entries pass. -/
theorem get?_filter (p : κ × α → Bool) (d : Dict κ α) (k : κ) :
    (d.filter p).get? k = (d.get? k).filter fun v => p (k, v) := by
  ext v
  rw [get?_eq_some_iff, filter, List.mem_filter, Option.filter_eq_some_iff, get?_eq_some_iff]

/-- Erasing a key leaves the values of the others. -/
theorem get?_erase_of_ne {d : Dict κ α} {k k' : κ} (h : k' ≠ k) :
    (d.erase k).get? k' = d.get? k' := by
  rw [erase, get?_filter]
  cases d.get? k' with
  | none => rfl
  | some v => simp [h]

/-- An erased key has no value. -/
@[simp] theorem get?_erase_self (d : Dict κ α) (k : κ) : (d.erase k).get? k = none := by
  rw [erase, get?_filter]
  cases d.get? k with
  | none => rfl
  | some v => simp

/-- Inserts entries one after the other: a repeated key keeps its first place
and takes the last value. -/
def insertAll (d : Dict κ α) (l : List (κ × α)) : Dict κ α :=
  l.foldl (fun d e => d.insert e.1 e.2) d

/-- **The last entry counts:** of the inserted entries under a key the last one is found,
and what was there before only if there is none. -/
theorem get?_insertAll (d : Dict κ α) (l : List (κ × α)) (k : κ) :
    (d.insertAll l).get? k = (l.reverse.lookup k).or (d.get? k) := by
  induction l generalizing d with
  | nil => rfl
  | cons e l ih =>
    obtain ⟨a, b⟩ := e
    rw [insertAll, List.foldl_cons, ← insertAll, ih, get?_insert, List.reverse_cons,
      List.lookup_append, Option.or_assoc]
    congr 1
    by_cases h : k = a
    · subst h; simp
    · have hb : (k == a) = false := by simpa using h
      simp [List.lookup_cons, h, hb]

/-- The entries of another dictionary take precedence when they are inserted. -/
theorem get?_insertAll_entries (d e : Dict κ α) (k : κ) :
    (d.insertAll e.entries).get? k = (e.get? k).or (d.get? k) := by
  have h : e.entries.reverse.lookup k = e.get? k := by
    have hr : (e.entries.reverse.map Prod.fst).Nodup := by
      rw [List.map_reverse]
      exact (List.reverse_perm _).nodup_iff.2 e.nodup
    ext v
    rw [lookup_eq_some_iff_mem hr, List.mem_reverse, get?_eq_some_iff]
  rw [get?_insertAll, h]

/-- **Nothing is replaced** when the keys of the inserted entries are distinct and new: the
entries stand behind the others, in their order. -/
theorem entries_insertAll_of_nodup {d : Dict κ α} {l : List (κ × α)}
    (h : (d.keys ++ l.map Prod.fst).Nodup) : (d.insertAll l).entries = d.entries ++ l := by
  induction l generalizing d with
  | nil => exact (List.append_nil _).symm
  | cons e l ih =>
    obtain ⟨k, v⟩ := e
    have hk : k ∉ d.keys := fun hk =>
      (List.nodup_append.1 h).2.2 k hk k (List.mem_cons_self ..) rfl
    have he := entries_insert_of_not_mem (v := v) hk
    have hkeys : (d.insert k v).keys = d.keys ++ [k] := by
      rw [keys_insert, if_neg hk]
    have ht : ((d.insert k v).keys ++ l.map Prod.fst).Nodup := by
      rwa [hkeys, List.append_assoc]
    change ((d.insert k v).insertAll l).entries = _
    rw [ih ht, he, List.append_assoc, List.singleton_append]

/-- The dictionary of a list of entries. -/
def ofList (l : List (κ × α)) : Dict κ α := insertAll empty l

/-- The keys after several insertions are those before and those that are inserted. -/
theorem mem_keys_insertAll {d : Dict κ α} {l : List (κ × α)} {k : κ} :
    k ∈ (d.insertAll l).keys ↔ k ∈ l.map Prod.fst ∨ k ∈ d.keys := by
  induction l generalizing d with
  | nil => simp [insertAll]
  | cons e l ih =>
    rw [insertAll, List.foldl_cons, ← insertAll, ih, mem_keys_insert, List.map_cons, List.mem_cons,
      or_left_comm, or_assoc]

/-- A dictionary made of a list has the keys of the list. -/
theorem mem_keys_ofList {l : List (κ × α)} {k : κ} : k ∈ (ofList l).keys ↔ k ∈ l.map Prod.fst := by
  rw [ofList, mem_keys_insertAll, keys_empty, or_iff_left List.not_mem_nil]

/-- The entries of a list with distinct keys are the entries of its dictionary. -/
theorem entries_ofList_of_nodup {l : List (κ × α)} (h : (l.map Prod.fst).Nodup) :
    (ofList l).entries = l :=
  entries_insertAll_of_nodup (d := empty) h

/-- A member that is added to a list without repetitions goes to the end, unless it is there. -/
theorem eraseDups_concat (l : List κ) (a : κ) :
    (l ++ [a]).eraseDups = if a ∈ l.eraseDups then l.eraseDups else l.eraseDups ++ [a] := by
  simp only [List.eraseDups_append, List.mem_eraseDups]
  split
  · next h => simp [List.removeAll, h]
  · next h => simp [List.removeAll, h, List.eraseDups_cons]

/-- Where the keys are what was inserted so far, by first occurrence, they stay so. -/
theorem keys_insert_eraseDups {d : Dict κ α} {seen : List κ} (h : d.keys = seen.eraseDups)
    (k : κ) (v : α) : (d.insert k v).keys = (seen ++ [k]).eraseDups := by
  rw [keys_insert, h, eraseDups_concat]

/-- **The keys after several insertions** come in the order in which they are first seen. -/
theorem keys_insertAll {d : Dict κ α} {seen : List κ} (h : d.keys = seen.eraseDups)
    (l : List (κ × α)) : (d.insertAll l).keys = (seen ++ l.map Prod.fst).eraseDups := by
  induction l generalizing d seen with
  | nil => rwa [List.map_nil, List.append_nil]
  | cons e l ih =>
    rw [insertAll, List.foldl_cons, ← insertAll, ih (keys_insert_eraseDups h e.1 e.2),
      List.append_assoc, List.singleton_append, List.map_cons]

/-- **The keys of a list,** by first occurrence. -/
theorem keys_ofList (l : List (κ × α)) : (ofList l).keys = (l.map Prod.fst).eraseDups := by
  have hempty : (empty : Dict κ α).keys = ([] : List κ).eraseDups := rfl
  exact keys_insertAll hempty l

/-- No key of a dictionary is there twice. -/
@[simp] theorem eraseDups_keys (d : Dict κ α) : d.keys.eraseDups = d.keys := by
  rw [keys, ← keys_ofList, keys, entries_ofList_of_nodup d.nodup]

/-- A dictionary made of a list has the last value of each key. -/
theorem get?_ofList (l : List (κ × α)) (k : κ) : (ofList l).get? k = l.reverse.lookup k := by
  rw [ofList, get?_insertAll, show (empty : Dict κ α).get? k = none from rfl, Option.or_none]

/-- Changes the value under a key, starting from `init` when it is absent. -/
def alter (d : Dict κ α) (k : κ) (start : α) (f : α → α) : Dict κ α :=
  d.insert k (f ((d.get? k).getD start))

end Lookup

/-- Applies a function to every value; keys and order stay. -/
def map (f : α → β) (d : Dict κ α) : Dict κ β :=
  ⟨d.entries.map fun e => (e.1, f e.2), by
    have h : (d.entries.map fun e => (e.1, f e.2)).map Prod.fst = d.entries.map Prod.fst := by
      simp [List.map_map, Function.comp_def]
    rw [h]; exact d.nodup⟩

/-- A map of the values leaves the keys. -/
@[simp] theorem keys_map (f : α → β) (d : Dict κ α) : (d.map f).keys = d.keys := by
  simp [keys, map, List.map_map, Function.comp_def]

end Dict
end Pagewright
