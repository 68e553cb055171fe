/-
# Places in a document

All places in what is read of a text are in the text (`Node.IsIn`):

| part | places |
| --- | --- |
| a string or a key | its failures, for a reader that takes it and for one that skips it |
| a numeral | its failure when it is out of range |
| a node | where it starts and stops, or what was taken when it broke |

Values, items and fields are read one inside the other, and each stays in the text if the others do
(`staysIn_read`), so every place in the document of a text is in the text (`isIn_ofString`). A
reader of nodes that fails within the text wherever the places of a node are in it, as the one of
values does (`Node.IsIn.failsWithin_toJson`), then fails within the text on a document
(`Document.failsWithin_value`).
-/

import Pagewright.Proofs.Json.Cursors

namespace Pagewright
namespace Json

variable {α : Type} {n : Nat} {c : Cursor}

/-! ## Nodes -/

/-- A part of a document that covers bytes of a text of `n` bytes. -/
structure Extent.IsIn (n : Nat) (e : Extent) : Prop where
  start : e.start < n
  stop : e.stop ≤ n

/-- A key of which all places are in a text of `n` bytes. -/
structure Key.IsIn (n : Nat) (k : Key) : Prop extends Quoted.IsIn n k.toQuoted where
  reach : k.reach ≤ n

/-- A node of which all places are in a text of `n` bytes. -/
inductive Node.IsIn (n : Nat) : Node → Prop where
  | null {place : Extent} (hplace : place.IsIn n) : IsIn n (.null place)
  | bool {place : Extent} {b : Bool} (hplace : place.IsIn n) : IsIn n (.bool place b)
  | number {place : Extent} {x : Except Nat Number} (hplace : place.IsIn n)
    (hx : FailsWithin n x) : IsIn n (.number place x)
  | string {place : Extent} {s : Quoted} (hplace : place.IsIn n) (hs : s.IsIn n) :
    IsIn n (.string place s)
  | array {start : Nat} {items : List Node} (hstart : start < n)
    (hitems : ∀ x ∈ items, IsIn n x) : IsIn n (.array start items)
  | object {start : Nat} {fields : List (Key × Node)} (hstart : start < n)
    (hkeys : ∀ f ∈ fields, f.1.IsIn n) (hvalues : ∀ f ∈ fields, IsIn n f.2) :
    IsIn n (.object start fields)
  | broken {start taken : Nat} (htaken : taken ≤ n) : IsIn n (.broken start taken)

/-- Items of an array that are in a text of `n` bytes. -/
abbrev ItemsIn (n : Nat) (items : List Node) : Prop := ∀ x ∈ items, x.IsIn n

/-- Fields of an object that are in a text of `n` bytes. -/
abbrev FieldsIn (n : Nat) (fields : List (Key × Node)) : Prop :=
  ∀ f ∈ fields, f.1.IsIn n ∧ f.2.IsIn n

/-! ## Reading -/

/-- Where a part should be, something else is. -/
theorem Cursor.IsIn.isIn_broken (h : c.IsIn n) : c.broken.IsIn n := .broken h.reject_le

/-- A broken key has its places in the text. -/
theorem Cursor.IsIn.isIn_brokenKey (h : c.IsIn n) : c.brokenKey.IsIn n where
  text := h.reject_le
  skipped := h.reject_le
  reach := Nat.zero_le n

/-- A part that is read whole or not at all has its places in the text. -/
theorem Parsed.Holds.leaf {start : Nat} {node : Extent → α → Node} {P : α → Prop}
    {x : Except Nat (α × Cursor)} (hx : Gives n (fun r => P r.1 ∧ r.2.IsIn n) x)
    (hnode : ∀ a after, P a → Cursor.IsIn n after → (node ⟨start, after.offset⟩ a).IsIn n) :
    Parsed.Holds n (Node.IsIn n) (Parsed.leaf start node x) := by
  cases x with
  | ok r => exact .followed (hnode r.1 r.2 hx.1 hx.2) hx.2
  | error taken => exact .alone (.broken hx)

/-- **One part after another:** what is read behind the first is in the text as well. -/
theorem Parsed.Holds.andThen {P : α → Prop} {more : Cursor → Parsed (List α)} {x : Parsed α}
    (hx : Parsed.Holds n P x)
    (hmore : StaysIn n (fun xs => ∀ a ∈ xs, P a) more) :
    Parsed.Holds n (fun xs => ∀ a ∈ xs, P a) (Parsed.andThen more x) := by
  rcases x with ⟨a, _ | after⟩
  · exact .alone (List.forall_mem_singleton.2 hx.part)
  · have hrest := hmore after (hx.after after rfl)
    exact ⟨List.forall_mem_cons.2 ⟨hx.part, hrest.part⟩, hrest.after⟩

/-- The next part starts in the text. -/
theorem Cursor.IsIn.next? {first : Bool} (h : c.IsIn n) :
    ∀ next ∈ c.next? first, Cursor.IsIn n next := by
  intro next hnext
  unfold Cursor.next? at hnext
  split at hnext
  · exact Option.some.inj hnext ▸ h
  · next rest hrest => exact Option.some.inj hnext ▸ (h.tail hrest rfl).skipBlank
  · cases hnext

/-- A literal has its places in the text. -/
theorem holds_readLiteral {start : Nat} {letters rest : List Char} {node : Extent → Node}
    (hstart : start < n) (h : Cursor.IsIn n ⟨start + 1, rest⟩)
    (hletters : letters.all fun x => x.utf8Size == 1)
    (hnode : ∀ place : Extent, place.IsIn n → (node place).IsIn n) :
    Parsed.Holds n (Node.IsIn n) (readLiteral start letters rest node) := by
  have hsize : ∀ x ∈ letters, x.utf8Size = 1 := fun x hx =>
    beq_iff_eq.1 (List.all_eq_true.1 hletters x hx)
  have hword : Gives n (fun (r : Unit × Cursor) => True ∧ r.2.IsIn n)
      ((readWord letters ⟨start + 1, rest⟩).map fun after => ((), after)) :=
    (gives_readWord letters h hsize).map fun _ hafter => ⟨trivial, hafter⟩
  exact .leaf (P := fun _ => True) hword fun _ after _ hafter => hnode _ ⟨hstart, hafter.offset_le⟩

/-- **A key** stays in the text. -/
theorem staysIn_readKey : StaysIn n (Key.IsIn n) readKey := by
  intro c h
  unfold readKey
  split
  · next rest hrest =>
    have hquoted := staysIn_readQuoted _ (h.tail hrest rfl)
    split
    · next text hread =>
      rw [hread] at hquoted
      exact .alone ⟨hquoted.part, Nat.zero_le n⟩
    · next text after hread =>
      rw [hread] at hquoted
      have hafter := (hquoted.after after rfl).skipBlank
      dsimp only
      split
      · next rest hbrace =>
        exact .followed ⟨hquoted.part, (hafter.tail hbrace rfl).offset_le⟩ hafter
      · exact .followed ⟨hquoted.part, hafter.offset_le⟩ hafter
  · exact .alone h.isIn_brokenKey

/-- **A field** stays in the text if its value does. -/
theorem staysIn_readField {value : Cursor → Parsed Node} (hvalue : StaysIn n (Node.IsIn n) value) :
    StaysIn n (fun f => f.1.IsIn n ∧ f.2.IsIn n) (readField value) := by
  intro c h
  have hkey := staysIn_readKey c h
  unfold readField
  split
  · next key hread =>
    rw [hread] at hkey
    exact .alone ⟨hkey.part, h.isIn_broken⟩
  · next key after hread =>
    rw [hread] at hkey
    have hafter := hkey.after after rfl
    split
    · next rest hrest =>
      have hnode := hvalue _ (hafter.tail hrest rfl)
      exact ⟨⟨hkey.part, hnode.part⟩, hnode.after⟩
    · exact .alone ⟨hkey.part, hafter.isIn_broken⟩

/-- **The items of an array** stay in the text if values do. -/
theorem staysIn_readItems_succ {fuel : Nat} {first : Bool}
    (hnode : StaysIn n (Node.IsIn n) (readNode fuel))
    (hitems : StaysIn n (ItemsIn n) (readItems fuel false)) :
    StaysIn n (ItemsIn n) (readItems (fuel + 1) first) := by
  intro c h
  have hblank := h.skipBlank
  rw [readItems]
  split
  · next rest hrest =>
    exact .followed (List.forall_mem_nil _) (hblank.tail hrest rfl)
  · split
    · next item hitem => exact (hnode item (hblank.next? item hitem)).andThen hitems
    · exact .alone (List.forall_mem_singleton.2 hblank.isIn_broken)

/-- **The fields of an object** stay in the text if values do. -/
theorem staysIn_readFields_succ {fuel : Nat} {first : Bool}
    (hnode : StaysIn n (Node.IsIn n) (readNode fuel))
    (hfields : StaysIn n (FieldsIn n) (readFields fuel false)) :
    StaysIn n (FieldsIn n) (readFields (fuel + 1) first) := by
  intro c h
  have hblank := h.skipBlank
  rw [readFields]
  split
  · next rest hrest =>
    exact .followed (List.forall_mem_nil _) (hblank.tail hrest rfl)
  · split
    · next field hfield =>
      exact (staysIn_readField hnode field (hblank.next? field hfield)).andThen hfields
    · exact .alone (List.forall_mem_singleton.2 ⟨hblank.isIn_brokenKey, hblank.isIn_broken⟩)

/-- **A value** stays in the text if the items and fields in it do. -/
theorem staysIn_readNode_succ {fuel : Nat} (hitems : StaysIn n (ItemsIn n) (readItems fuel true))
    (hfields : StaysIn n (FieldsIn n) (readFields fuel true)) :
    StaysIn n (Node.IsIn n) (readNode (fuel + 1)) := by
  intro c h
  have hblank := h.skipBlank
  have hstart {x : Char} {rest : List Char} (hrest : c.skipBlank.rest = x :: rest) :
      c.skipBlank.offset < n := hblank.offset_lt (hrest ▸ List.cons_ne_nil x rest)
  have hnumber {start : Nat} (hlt : start < n) (x : Except Nat Number) (after : Cursor)
      (hx : FailsWithin n x) (hafter : after.IsIn n) :
      (Node.number ⟨start, after.offset⟩ x).IsIn n := .number ⟨hlt, hafter.offset_le⟩ hx
  rw [readNode]
  split
  · next rest hrest =>
    exact holds_readLiteral (hstart hrest) (hblank.tail hrest rfl) (by decide) fun _ => .null
  · next rest hrest =>
    exact holds_readLiteral (hstart hrest) (hblank.tail hrest rfl) (by decide) fun _ => .bool
  · next rest hrest =>
    exact holds_readLiteral (hstart hrest) (hblank.tail hrest rfl) (by decide) fun _ => .bool
  · next rest hrest =>
    have hquoted := staysIn_readQuoted _ (hblank.tail hrest rfl)
    rcases hread : readQuoted ⟨c.skipBlank.offset + 1, rest⟩ with ⟨text, _ | after⟩
    · rw [hread] at hquoted
      exact .alone (.string ⟨hstart hrest, (hstart hrest).le⟩ hquoted.part)
    · rw [hread] at hquoted
      have hafter := hquoted.after after rfl
      exact ⟨.string ⟨hstart hrest, hafter.offset_le⟩ hquoted.part, hquoted.after⟩
  · next rest hrest =>
    have hread := hitems _ (hblank.tail hrest rfl)
    exact ⟨.array (hstart hrest) hread.part, hread.after⟩
  · next rest hrest =>
    have hread := hfields _ (hblank.tail hrest rfl)
    exact ⟨.object (hstart hrest) (fun f hf => (hread.part f hf).1) fun f hf => (hread.part f hf).2,
      hread.after⟩
  · next rest hrest =>
    exact .leaf (gives_readNumeral true (hblank.tail hrest rfl)) (hnumber (hstart hrest))
  · next hrest =>
    split
    · exact .leaf (gives_readNumeral false hblank) (hnumber (hstart hrest))
    · exact .alone hblank.isIn_broken
  · exact .alone hblank.isIn_broken

/-- **Reading stays in the text,** whatever the number of steps. -/
theorem staysIn_read (fuel : Nat) :
    StaysIn n (Node.IsIn n) (readNode fuel) ∧
      (∀ first, StaysIn n (ItemsIn n) (readItems fuel first)) ∧
      ∀ first, StaysIn n (FieldsIn n) (readFields fuel first) := by
  induction fuel with
  | zero =>
    refine ⟨fun c h => ?_, fun first c h => ?_, fun first c h => ?_⟩
    · rw [readNode]
      exact .alone h.isIn_broken
    · rw [readItems]
      exact .alone (List.forall_mem_singleton.2 h.isIn_broken)
    · rw [readFields]
      exact .alone (List.forall_mem_singleton.2 ⟨h.isIn_brokenKey, h.isIn_broken⟩)
  | succ fuel ih =>
    obtain ⟨hnode, hitems, hfields⟩ := ih
    exact ⟨staysIn_readNode_succ (hitems true) (hfields true),
      fun _ => staysIn_readItems_succ hnode (hitems false),
      fun _ => staysIn_readFields_succ hnode (hfields false)⟩

/-! ## Documents -/

/-- **The document of a text** has all its places in the text. -/
theorem isIn_ofString (s : String) :
    (Document.ofString s).root.IsIn s.utf8ByteSize ∧
      FailsWithin s.utf8ByteSize (Document.ofString s).ended := by
  have hstart := isIn_cursorOfString s
  have hroot := (staysIn_read (2 * (Cursor.ofString s).rest.length + 2)).1 _ hstart
  unfold Document.ofString
  dsimp only
  split
  · next root hread =>
    rw [hread] at hroot
    exact ⟨hroot.part, trivial⟩
  · next root after hread =>
    rw [hread] at hroot
    have hafter := (hroot.after after rfl).skipBlank
    refine ⟨hroot.part, ?_⟩
    dsimp only
    split
    · exact trivial
    · exact hafter.reject_le

/-- **A reader of documents** fails within the text if it does so on every node in it. -/
theorem Document.failsWithin_value {read : Node → Except Nat α} (s : String)
    (hread : ∀ x : Node, x.IsIn s.utf8ByteSize → FailsWithin s.utf8ByteSize (read x)) :
    FailsWithin s.utf8ByteSize ((Document.ofString s).value read) := by
  obtain ⟨hroot, hended⟩ := isIn_ofString s
  exact (hread _ hroot).bind fun _ => hended.bind fun _ => trivial

/-! ## Values -/

namespace Node

/-- Items fail within the text if each of them does. -/
theorem failsWithin_itemsToJson {room : Nat} {items : List Node}
    (h : ∀ x ∈ items, FailsWithin n (x.toJson room)) : FailsWithin n (itemsToJson room items) := by
  induction items with
  | nil => exact trivial
  | cons x items ih =>
    obtain ⟨hx, hitems⟩ := List.forall_mem_cons.1 h
    exact hx.bind fun _ => (ih hitems).bind fun _ => trivial

/-- Fields fail within the text if their keys and values do. -/
theorem failsWithin_fieldsToJson {room : Nat} {fields : List (Key × Node)}
    (hkeys : ∀ f ∈ fields, f.1.IsIn n) (h : ∀ f ∈ fields, FailsWithin n (f.2.toJson room)) :
    FailsWithin n (fieldsToJson room fields) := by
  induction fields with
  | nil => exact trivial
  | cons f fields ih =>
    obtain ⟨hkey, hkeys⟩ := List.forall_mem_cons.1 hkeys
    obtain ⟨hx, hfields⟩ := List.forall_mem_cons.1 h
    exact hkey.text.bind fun _ => hx.bind fun _ => (ih hkeys hfields).bind fun _ => trivial

/-- **A value** is read within the text. -/
theorem IsIn.failsWithin_toJson {x : Node} (h : x.IsIn n) (room : Nat) :
    FailsWithin n (x.toJson room) := by
  induction h generalizing room with
  | null => exact trivial
  | bool => exact trivial
  | number _ hx => exact hx.map _
  | string _ hs => exact hs.text.map _
  | array hstart _ ih =>
    rw [toJson]
    split
    · exact hstart
    · exact (failsWithin_itemsToJson fun x hx => ih x hx (room - 1)).map _
  | object hstart hkeys _ ih =>
    rw [toJson]
    split
    · exact hstart
    · exact (failsWithin_fieldsToJson hkeys fun f hf => ih f hf (room - 1)).map _
  | broken htaken => exact htaken

/-- Skipping items fails within the text if skipping each does. -/
theorem failsWithin_skipItems {items : List Node} (h : ∀ x ∈ items, FailsWithin n x.skip) :
    FailsWithin n (skipItems items) := by
  induction items with
  | nil => exact trivial
  | cons x items ih =>
    obtain ⟨hx, hitems⟩ := List.forall_mem_cons.1 h
    exact hx.bind fun _ => ih hitems

/-- Skipping fields fails within the text if skipping their keys and values does. -/
theorem failsWithin_skipFields {fields : List (Key × Node)} (hkeys : ∀ f ∈ fields, f.1.IsIn n)
    (h : ∀ f ∈ fields, FailsWithin n f.2.skip) : FailsWithin n (skipFields fields) := by
  induction fields with
  | nil => exact trivial
  | cons f fields ih =>
    obtain ⟨hkey, hkeys⟩ := List.forall_mem_cons.1 hkeys
    obtain ⟨hx, hfields⟩ := List.forall_mem_cons.1 h
    exact hkey.skipped.bind fun _ => hx.bind fun _ => ih hkeys hfields

/-- **What is skipped** is passed over within the text. -/
theorem IsIn.failsWithin_skip {x : Node} (h : x.IsIn n) : FailsWithin n x.skip := by
  induction h with
  | null => exact trivial
  | bool => exact trivial
  | number => exact trivial
  | string _ hs => exact hs.skipped
  | array _ _ ih => exact failsWithin_skipItems ih
  | object _ hkeys _ ih => exact failsWithin_skipFields hkeys ih
  | broken htaken => exact htaken

end Node

end Json
end Pagewright
