/-
# The indented layout read back

The indented layout puts blanks between the parts of a value, which the reader skips. What stands
behind a value is left to it:

| part | is read up to |
| --- | --- |
| a value | its last character (`readNode_indented`) |
| the items of an array | the closing bracket (`readItems_indented`) |
| the fields of an object | the closing bracket (`readFields_indented`) |

The three are proved together, by the structure of the value; each step of the reader is a lemma of
its own, so that they only put the steps together. A value whose objects have distinct keys, in
which no number stands and which is not too deep for the reader is then read back from its text
(`parse_pretty`).
-/

import Pagewright.Proofs.Json.Strings
import Pagewright.Proofs.Json.Values

namespace Pagewright
namespace Json

/-! ## Values without numbers -/

mutual

/-- Whether no number stands in a value. -/
def NumberFree : Json → Prop
  | .number _ => False
  | .array items => NumberFreeItems items
  | .object fields => NumberFreeFields fields
  | _ => True

/-- Whether no number stands in the items of a list. -/
def NumberFreeItems : List Json → Prop
  | [] => True
  | x :: xs => NumberFree x ∧ NumberFreeItems xs

/-- Whether no number stands in the values of a list of fields. -/
def NumberFreeFields : List (String × Json) → Prop
  | [] => True
  | (_, v) :: rest => NumberFree v ∧ NumberFreeFields rest

end

/-- No number stands in a list of fields exactly if none stands in a value. -/
theorem numberFreeFields_iff {fields : List (String × Json)} :
    NumberFreeFields fields ↔ ∀ e ∈ fields, e.2.NumberFree := by
  induction fields with
  | nil => simp [NumberFreeFields]
  | cons x xs ih => rw [NumberFreeFields, ih, List.forall_mem_cons]

/-! ## What is read and what is left -/

/-- A reader has read a part with a property, and `rest` is left. -/
def Parsed.Leaves {α : Type} (P : α → Prop) (rest : List Char) (x : Parsed α) : Prop :=
  P x.1 ∧ ∃ after, x.2 = some after ∧ after.rest = rest

/-- A node is read as a value wherever there is room for its brackets. -/
def Node.StandsFor (v : Json) (x : Node) : Prop := ∀ room, v.depth ≤ room → x.toJson room = .ok v

/-- Nodes are read as the items of an array wherever there is room for their brackets. -/
def Node.StandForItems (items : List Json) (xs : List Node) : Prop :=
  ∀ room, depthOfItems items ≤ room → Node.itemsToJson room xs = .ok items

/-- Nodes are read as the fields of an object wherever there is room for their brackets. -/
def Node.StandForFields (fields : List (String × Json)) (xs : List (Key × Node)) : Prop :=
  ∀ room, depthOfFields fields ≤ room → Node.fieldsToJson room xs = .ok fields

/-- **One part and the others** are read if each is read where the one before it leaves off. -/
theorem Parsed.Leaves.andThen {α : Type} {P : α → Prop} {Q R : List α → Prop}
    {rest rest' : List Char} {x : Parsed α} {more : Cursor → Parsed (List α)}
    (hx : x.Leaves P rest)
    (hmore : ∀ after : Cursor, after.rest = rest → (more after).Leaves Q rest')
    (hcons : ∀ a as, P a → Q as → R (a :: as)) : (Parsed.andThen more x).Leaves R rest' := by
  obtain ⟨a, next⟩ := x
  obtain ⟨ha, after, rfl, hafter⟩ := hx
  obtain ⟨has, after', hsome, hrest⟩ := hmore after hafter
  exact ⟨hcons a _ ha has, after', hsome, hrest⟩

/-- An array takes one bracket of the room. -/
theorem standsFor_array {items : List Json} {xs : List Node} (h : Node.StandForItems items xs)
    (start : Nat) : Node.StandsFor (.array items) (.array start xs) := by
  intro room hroom
  obtain ⟨r, rfl⟩ := Nat.exists_eq_add_of_le' (Nat.le_trans (Nat.le_add_left 1 _) hroom)
  rw [depth] at hroom
  rw [Node.toJson, if_neg (Nat.succ_ne_zero r), Nat.add_sub_cancel,
    h r (Nat.le_of_succ_le_succ hroom)]
  rfl

/-- An object takes one bracket of the room, and keeps fields whose keys are distinct. -/
theorem standsFor_object {fields : List (String × Json)} {xs : List (Key × Node)}
    (hkeys : (fields.map Prod.fst).Nodup) (h : Node.StandForFields fields xs) (start : Nat) :
    Node.StandsFor (.object fields) (.object start xs) := by
  intro room hroom
  obtain ⟨r, rfl⟩ := Nat.exists_eq_add_of_le' (Nat.le_trans (Nat.le_add_left 1 _) hroom)
  rw [depth] at hroom
  rw [Node.toJson, if_neg (Nat.succ_ne_zero r), Nat.add_sub_cancel,
    h r (Nat.le_of_succ_le_succ hroom)]
  exact congrArg (fun fs => Except.ok (Json.object fs)) (Dict.entries_ofList_of_nodup hkeys)

/-- An item and the others stand for the items together. -/
theorem standForItems_cons {x : Json} {xs : List Json} {node : Node} {nodes : List Node}
    (hx : Node.StandsFor x node) (hxs : Node.StandForItems xs nodes) :
    Node.StandForItems (x :: xs) (node :: nodes) := by
  intro room hroom
  rw [depthOfItems, Nat.max_le] at hroom
  rw [Node.itemsToJson, hx room hroom.1, hxs room hroom.2]
  rfl

/-- A field and the others stand for the fields together. -/
theorem standForFields_cons {k : String} {v : Json} {fields : List (String × Json)}
    {f : Key × Node} {fs : List (Key × Node)} (hk : f.1.text = .ok k)
    (hv : Node.StandsFor v f.2) (hfields : Node.StandForFields fields fs) :
    Node.StandForFields ((k, v) :: fields) (f :: fs) := by
  obtain ⟨key, node⟩ := f
  intro room hroom
  rw [depthOfFields, Nat.max_le] at hroom
  rw [Node.fieldsToJson, hk, hv room hroom.1, hfields room hroom.2]
  rfl

/-! ## The layout -/

/-- The blanks between two parts: spaces and line feeds. -/
def IsGap (b : List Char) : Prop := ∀ x ∈ b, x = ' ' ∨ x = '\n'

theorem isGap_nil : IsGap [] := List.forall_mem_nil _

theorem isGap_space : IsGap [' '] := List.forall_mem_singleton.2 (.inl rfl)

/-- The members between brackets behind the opening one, or behind a member. -/
def membersText (b e : List Char) (closing : Char) : Bool → List String → List Char
  | _, [] => e ++ [closing]
  | first, m :: ms =>
    (if first then b else ',' :: b) ++ (m.toList ++ membersText b e closing false ms)

/-- Members that are joined are the first one and the text behind it. -/
theorem membersText_false_eq (b e : List Char) (closing : Char) (m : String) (ms : List String) :
    (Text.join (String.ofList (',' :: b)) (m :: ms)).toList ++ (e ++ [closing]) =
      m.toList ++ membersText b e closing false ms := by
  induction ms generalizing m with
  | nil => rfl
  | cons m' ms ih =>
    rw [Text.join_cons_cons, String.toList_append, String.toList_append, List.append_assoc,
      List.append_assoc, ih, membersText, String.toList_ofList]
    rfl

/-- The blanks that begin a line. -/
def indent (depth : Nat) : List Char := (lineStart depth).toList

/-- A line begins with its line feed and spaces. -/
theorem isGap_indent (depth : Nat) : IsGap (indent depth) := by
  intro x h
  simp only [indent, lineStart, String.toList_append, String.toList_ofList, List.mem_append] at h
  rcases h with h | h
  · exact .inr (List.mem_singleton.1 h)
  · exact .inl (List.eq_of_mem_replicate h)

/-- **Brackets with their members:** the blanks of a line before the closing one, or none. -/
theorem exists_toList_bracketed {opening closing : String} {o c : Char}
    (ho : opening.toList = [o]) (hc : closing.toList = [c]) (depth : Nat) (members : List String) :
    ∃ e, IsGap e ∧ (bracketed opening closing depth members).toList =
      o :: membersText (indent (depth + 1)) e c true members := by
  cases members with
  | nil =>
    refine ⟨[], isGap_nil, ?_⟩
    rw [bracketed, List.isEmpty_nil, if_pos rfl, String.toList_append, ho, hc]
    rfl
  | cons m ms =>
    refine ⟨indent depth, isGap_indent depth, ?_⟩
    have hsep : "," ++ lineStart (depth + 1) = String.ofList (',' :: indent (depth + 1)) := by
      rw [← String.toList_inj]
      simp [indent]
    rw [bracketed, if_neg (by simp), hsep, membersText, if_pos rfl, ← membersText_false_eq]
    simp [indent, ho, hc]

/-- The text of an array: its bracket and its items. -/
theorem exists_toList_indented_array (depth : Nat) (items : List Json) :
    ∃ e, IsGap e ∧ (indented depth (.array items)).toList =
      '[' :: membersText (indent (depth + 1)) e ']' true (indentedItems (depth + 1) items) := by
  rw [indented]
  exact exists_toList_bracketed rfl rfl depth _

/-- The text of an object: its bracket and its fields. -/
theorem exists_toList_indented_object (depth : Nat) (fields : List (String × Json)) :
    ∃ e, IsGap e ∧ (indented depth (.object fields)).toList =
      '\x7b' :: membersText (indent (depth + 1)) e '\x7d' true
        (indentedFields (depth + 1) fields) := by
  rw [indented]
  exact exists_toList_bracketed rfl rfl depth _

/-- Between brackets stands at least the closing one. -/
theorem length_membersText_pos (b e : List Char) (closing : Char) (first : Bool)
    (members : List String) : 0 < (membersText b e closing first members).length := by
  induction members generalizing first with
  | nil => simp [membersText]
  | cons m ms ih =>
    rw [membersText, List.length_append, List.length_append]
    have hrest := ih false
    omega

/-- The characters with which a value begins that is no number. -/
def openers : List Char := ['n', 't', 'f', '"', '[', '\x7b']

/-- A value that is no number begins with one of these characters. -/
theorem exists_head?_indented {v : Json} (h : v.NumberFree) (depth : Nat) (more : List Char) :
    ∃ x ∈ openers, ((indented depth v).toList ++ more).head? = some x := by
  cases v with
  | null => exact ⟨'n', by decide, by rw [indented]; rfl⟩
  | bool b =>
    cases b with
    | true => exact ⟨'t', by decide, by rw [indented]; rfl⟩
    | false => exact ⟨'f', by decide, by rw [indented]; rfl⟩
  | number n => exact absurd h id
  | string s => exact ⟨'"', by decide, by rw [indented, quote, String.toList_ofList]; rfl⟩
  | array items =>
    obtain ⟨e, -, htext⟩ := exists_toList_indented_array depth items
    exact ⟨'[', by decide, by rw [htext]; rfl⟩
  | object fields =>
    obtain ⟨e, -, htext⟩ := exists_toList_indented_object depth fields
    exact ⟨'\x7b', by decide, by rw [htext]; rfl⟩

/-- A value that is no number has a text. -/
theorem length_indented_pos {v : Json} (h : v.NumberFree) (depth : Nat) :
    0 < (indented depth v).toList.length := by
  obtain ⟨x, -, hhead⟩ := exists_head?_indented h depth []
  rw [List.append_nil] at hhead
  exact List.length_pos_of_mem (List.mem_of_mem_head? hhead)

/-! ## Steps of the reader -/

/-- A word is read up to its last letter. -/
theorem readWord_append (word : List Char) (offset : Nat) (rest : List Char) :
    ∃ after, readWord word ⟨offset, word ++ rest⟩ = .ok after ∧ after.rest = rest := by
  induction word generalizing offset with
  | nil => exact ⟨⟨offset, rest⟩, by rw [readWord]; rfl, rfl⟩
  | cons w ws ih =>
    obtain ⟨after, hread, hrest⟩ := ih (offset + 1)
    refine ⟨after, ?_, hrest⟩
    rw [readWord.eq_def]
    simpa using hread

/-- A literal is read up to its last letter. -/
theorem leaves_readLiteral {v : Json} {node : Extent → Node}
    (hv : ∀ place, (node place).StandsFor v) (start : Nat) (letters rest : List Char) :
    (readLiteral start letters (letters ++ rest) node).Leaves (Node.StandsFor v) rest := by
  obtain ⟨after, hread, hrest⟩ := readWord_append letters (start + 1) rest
  rw [readLiteral, hread]
  exact ⟨hv _, after, rfl, hrest⟩

/-- A string is read up to its closing quote. -/
theorem readNode_string {c : Cursor} {s : String} {rest : List Char}
    (h : c.skipBlank.rest = (quote s).toList ++ rest) (fuel : Nat) :
    (readNode (fuel + 1) c).Leaves (Node.StandsFor (.string s)) rest := by
  obtain ⟨after, hread, hrest⟩ := exists_readQuoted_quote s (c.skipBlank.offset + 1) rest
  have hstart : c.skipBlank.rest = '"' :: (s.toList.flatMap escape ++ '"' :: rest) := by
    rw [h, quote, String.toList_ofList, List.append_assoc]
    rfl
  have hnode : readNode (fuel + 1) c =
      (.string ⟨c.skipBlank.offset, after.offset⟩ (.ofString s), some after) := by
    rw [readNode.eq_def]
    simp only [hstart, hread]
    rfl
  rw [hnode]
  exact ⟨fun _ _ => rfl, after, rfl, hrest⟩

/-- **Blanks are skipped** up to what is none. -/
theorem skipBlank_rest {c : Cursor} {b rest : List Char} (h : c.rest = b ++ rest)
    (hb : IsGap b) (hrest : ∀ x ∈ rest.head?, x ∉ [' ', '\n', '\t', '\r']) :
    c.skipBlank.rest = rest := by
  rw [Cursor.skipBlank, h]
  refine (Text.takeWhile_append_stop (fun x hx => ?_) fun x hx => ?_).2
  · rcases hb x hx with rfl | rfl <;> rfl
  · simpa [and_assoc] using hrest x hx

/-- The blanks are none of the characters with which a value begins. -/
theorem not_blank_of_mem_openers {x : Char} (h : x ∈ openers) : x ∉ [' ', '\n', '\t', '\r'] := by
  simp only [openers, List.mem_cons, List.not_mem_nil, or_false] at h
  rcases h with rfl | rfl | rfl | rfl | rfl | rfl <;> decide

/-- **The blanks before a value** are skipped, and nothing of the value. -/
theorem skipBlank_opener {c : Cursor} {b t : List Char} (h : c.rest = b ++ t)
    (hb : IsGap b) (ht : ∃ x ∈ openers, t.head? = some x) :
    c.skipBlank.rest = t := by
  obtain ⟨x, hx, hhead⟩ := ht
  refine skipBlank_rest h hb fun y hy => ?_
  rw [hhead] at hy
  cases hy
  exact not_blank_of_mem_openers hx

/-- **The next member** begins behind the blanks, and behind a comma if it is not the first. -/
theorem exists_next? {first : Bool} {c : Cursor} {b t : List Char}
    (h : c.rest = (if first then b else ',' :: b) ++ t)
    (hb : IsGap b) (ht : ∃ x ∈ openers, t.head? = some x) :
    (∃ x ∈ ',' :: openers, c.skipBlank.rest.head? = some x) ∧
      ∃ next, c.skipBlank.next? first = some next ∧ next.rest = t := by
  cases first with
  | true =>
    have hrest := skipBlank_opener h hb ht
    obtain ⟨x, hx, hhead⟩ := ht
    exact ⟨⟨x, List.mem_cons_of_mem _ hx, by rw [hrest, hhead]⟩, c.skipBlank, rfl, hrest⟩
  | false =>
    have hrest : c.skipBlank.rest = ',' :: (b ++ t) :=
      skipBlank_rest (b := []) h isGap_nil (by rintro _ ⟨⟩; decide)
    refine ⟨⟨',', List.mem_cons_self, by rw [hrest]; rfl⟩,
      (⟨c.skipBlank.offset + 1, b ++ t⟩ : Cursor).skipBlank, ?_, skipBlank_opener rfl hb ht⟩
    rw [Cursor.next?.eq_def]
    simp only [hrest]

/-- Where a member or a comma comes, no bracket is closed. -/
theorem rest_ne_closing {c : Cursor} {closing : Char}
    (hopen : ∃ x ∈ ',' :: openers, c.skipBlank.rest.head? = some x)
    (hclosing : closing ∉ ',' :: openers) (rest : List Char) :
    c.skipBlank.rest ≠ closing :: rest := by
  obtain ⟨x, hx, hhead⟩ := hopen
  intro hrest
  rw [hrest] at hhead
  cases hhead
  exact hclosing hx

/-- **Behind the last item** the bracket is closed. -/
theorem readItems_close {c : Cursor} {rest : List Char} (h : c.skipBlank.rest = ']' :: rest)
    (fuel : Nat) (first : Bool) :
    readItems (fuel + 1) first c = ([], some ⟨c.skipBlank.offset + 1, rest⟩) := by
  rw [readItems.eq_def]
  simp only [h]

/-- **An item is read** before the bracket is closed, and then the others. -/
theorem readItems_item {c next : Cursor} {first : Bool}
    (hopen : ∃ x ∈ ',' :: openers, c.skipBlank.rest.head? = some x)
    (hnext : c.skipBlank.next? first = some next) (fuel : Nat) :
    readItems (fuel + 1) first c = (readNode fuel next).andThen fun after =>
      readItems fuel false after := by
  rw [readItems.eq_def]
  dsimp only
  split
  · next hrest => exact absurd hrest (rest_ne_closing hopen (by decide) _)
  · rw [hnext]

/-- **Behind the last field** the bracket is closed. -/
theorem readFields_close {c : Cursor} {rest : List Char} (h : c.skipBlank.rest = '\x7d' :: rest)
    (fuel : Nat) (first : Bool) :
    readFields (fuel + 1) first c = ([], some ⟨c.skipBlank.offset + 1, rest⟩) := by
  rw [readFields.eq_def]
  simp only [h]

/-- **A field is read** before the bracket is closed, and then the others. -/
theorem readFields_field {c next : Cursor} {first : Bool}
    (hopen : ∃ x ∈ ',' :: openers, c.skipBlank.rest.head? = some x)
    (hnext : c.skipBlank.next? first = some next) (fuel : Nat) :
    readFields (fuel + 1) first c = (readField (fun value => readNode fuel value) next).andThen
      fun after => readFields fuel false after := by
  rw [readFields.eq_def]
  dsimp only
  split
  · next hrest => exact absurd hrest (rest_ne_closing hopen (by decide) _)
  · rw [hnext]

/-- **One field** is read as its key and, behind the colon, its value. -/
theorem readField_quote {c : Cursor} {k : String} {l rest : List Char} {P : Node → Prop}
    {value : Cursor → Parsed Node} (h : c.rest = (quote k).toList ++ ':' :: l)
    (hvalue : ∀ c : Cursor, c.rest = l → (value c).Leaves P rest) :
    (readField value c).Leaves (fun f => f.1.text = .ok k ∧ P f.2) rest := by
  obtain ⟨after, hread, hrest⟩ := exists_readQuoted_quote k (c.offset + 1) (':' :: l)
  have hstart : c.rest = '"' :: (k.toList.flatMap escape ++ '"' :: ':' :: l) := by
    rw [h, quote, String.toList_ofList, List.append_assoc]
    rfl
  have hcolon : after.skipBlank.rest = ':' :: l :=
    skipBlank_rest (b := []) hrest isGap_nil (by rintro _ ⟨⟩; decide)
  have hkey : readKey c = (⟨.ofString k, after.skipBlank.offset⟩, some after.skipBlank) := by
    rw [readKey]
    simp only [hstart, hread, hcolon]
    rfl
  have hnode := hvalue ⟨after.skipBlank.offset + 1, l⟩ rfl
  rw [readField]
  simp only [hkey, hcolon]
  exact ⟨⟨rfl, hnode.1⟩, hnode.2⟩

/-- **An array is read** as its items, behind the opening bracket. -/
theorem readNode_array {c : Cursor} {l rest : List Char} {items : List Json} {fuel : Nat}
    (h : c.skipBlank.rest = '[' :: l) (hitems : ∀ c : Cursor, c.rest = l →
      (readItems fuel true c).Leaves (Node.StandForItems items) rest) :
    (readNode (fuel + 1) c).Leaves (Node.StandsFor (.array items)) rest := by
  have hread := hitems ⟨c.skipBlank.offset + 1, l⟩ rfl
  rw [readNode.eq_def]
  simp only [h]
  exact ⟨standsFor_array hread.1 _, hread.2⟩

/-- **An object is read** as its fields, behind the opening bracket. -/
theorem readNode_object {c : Cursor} {l rest : List Char} {fields : List (String × Json)}
    {fuel : Nat} (hkeys : (fields.map Prod.fst).Nodup) (h : c.skipBlank.rest = '\x7b' :: l)
    (hfields : ∀ c : Cursor, c.rest = l →
      (readFields fuel true c).Leaves (Node.StandForFields fields) rest) :
    (readNode (fuel + 1) c).Leaves (Node.StandsFor (.object fields)) rest := by
  have hread := hfields ⟨c.skipBlank.offset + 1, l⟩ rfl
  rw [readNode.eq_def]
  simp only [h]
  exact ⟨standsFor_object hkeys hread.1 _, hread.2⟩

/-! ## Values -/

-- The induction is on the value, over all fuel: twice the length of the text is enough, since
-- every call of the reader takes one and a value costs a call for itself and one for its list.
mutual

/-- **A value in the indented layout is read back,** with what stands behind it left. -/
theorem readNode_indented : ∀ v : Json, v.NumberFree → v.Distinct →
    ∀ (depth : Nat) {fuel : Nat} {c : Cursor} {rest : List Char},
      c.skipBlank.rest = (indented depth v).toList ++ rest →
      2 * (indented depth v).toList.length ≤ fuel + 1 →
      (readNode (fuel + 1) c).Leaves (Node.StandsFor v) rest
  | .null => by
    intro _ _ depth fuel c rest h _
    have hstart : c.skipBlank.rest = 'n' :: (['u', 'l', 'l'] ++ rest) := by
      rw [h, indented]
      rfl
    rw [readNode.eq_def]
    simp only [hstart]
    exact leaves_readLiteral (fun _ _ _ => rfl) ..
  | .bool true => by
    intro _ _ depth fuel c rest h _
    have hstart : c.skipBlank.rest = 't' :: (['r', 'u', 'e'] ++ rest) := by
      rw [h, indented]
      rfl
    rw [readNode.eq_def]
    simp only [hstart]
    exact leaves_readLiteral (fun _ _ _ => rfl) ..
  | .bool false => by
    intro _ _ depth fuel c rest h _
    have hstart : c.skipBlank.rest = 'f' :: (['a', 'l', 's', 'e'] ++ rest) := by
      rw [h, indented]
      rfl
    rw [readNode.eq_def]
    simp only [hstart]
    exact leaves_readLiteral (fun _ _ _ => rfl) ..
  | .number _ => fun hn => absurd hn id
  | .string s => by
    intro _ _ depth fuel c rest h _
    rw [indented] at h
    exact readNode_string h fuel
  | .array items => by
    intro hn hd depth fuel c rest h hfuel
    obtain ⟨e, he, htext⟩ := exists_toList_indented_array depth items
    rw [htext, List.cons_append] at h
    rw [htext, List.length_cons] at hfuel
    exact readNode_array h fun c hc =>
      readItems_indented items hn hd (depth + 1) (isGap_indent _) he hc (by omega)
  | .object fields => by
    intro hn hd depth fuel c rest h hfuel
    obtain ⟨e, he, htext⟩ := exists_toList_indented_object depth fields
    rw [htext, List.cons_append] at h
    rw [htext, List.length_cons] at hfuel
    exact readNode_object hd.1 h fun c hc =>
      readFields_indented fields hn hd.2 (depth + 1) (isGap_indent _) he hc (by omega)

/-- **Items in the indented layout are read back,** up to and with the closing bracket. -/
theorem readItems_indented : ∀ items : List Json, NumberFreeItems items → DistinctItems items →
    ∀ (depth : Nat) {fuel : Nat} {b e : List Char} {first : Bool} {c : Cursor} {rest : List Char},
      IsGap b → IsGap e →
      c.rest = membersText b e ']' first (indentedItems depth items) ++ rest →
      2 * (membersText b e ']' first (indentedItems depth items)).length ≤ fuel →
      (readItems fuel first c).Leaves (Node.StandForItems items) rest
  | [] => by
    intro _ _ depth fuel b e first c rest _ he h hfuel
    rw [indentedItems, membersText, List.append_assoc] at h
    rw [indentedItems, membersText, List.length_append, List.length_singleton] at hfuel
    obtain ⟨f, rfl⟩ := Nat.exists_eq_succ_of_ne_zero (n := fuel) (by omega)
    rw [readItems_close (skipBlank_rest h he (by rintro _ ⟨⟩; decide))]
    exact ⟨fun _ _ => rfl, _, rfl, rfl⟩
  | x :: xs => by
    intro hn hd depth fuel b e first c rest hb he h hfuel
    rw [indentedItems, membersText, List.append_assoc, List.append_assoc] at h
    rw [indentedItems, membersText, List.length_append, List.length_append] at hfuel
    have hopen := exists_head?_indented hn.1 depth
      (membersText b e ']' false (indentedItems depth xs) ++ rest)
    -- The text of the item and the text behind it are not empty: they pay for the two calls
    -- that this step makes, so that enough fuel is left for either of them.
    have hmore := length_membersText_pos b e ']' false (indentedItems depth xs)
    have hitem := length_indented_pos hn.1 depth
    obtain ⟨f, rfl⟩ := Nat.exists_eq_add_of_le' (n := fuel) (m := 2) (by omega)
    obtain ⟨hfirst, next, hnext, hrest⟩ := exists_next? h hb hopen
    rw [readItems_item hfirst hnext]
    exact Parsed.Leaves.andThen
      (readNode_indented x hn.1 hd.1 depth (skipBlank_opener (b := []) hrest isGap_nil hopen)
        (by omega))
      (fun after hafter => readItems_indented xs hn.2 hd.2 depth hb he hafter (by omega))
      fun _ _ => standForItems_cons

/-- **Fields in the indented layout are read back,** up to and with the closing bracket. -/
theorem readFields_indented : ∀ fields : List (String × Json), NumberFreeFields fields →
    DistinctFields fields →
    ∀ (depth : Nat) {fuel : Nat} {b e : List Char} {first : Bool} {c : Cursor} {rest : List Char},
      IsGap b → IsGap e →
      c.rest = membersText b e '\x7d' first (indentedFields depth fields) ++ rest →
      2 * (membersText b e '\x7d' first (indentedFields depth fields)).length ≤ fuel →
      (readFields fuel first c).Leaves (Node.StandForFields fields) rest
  | [] => by
    intro _ _ depth fuel b e first c rest _ he h hfuel
    rw [indentedFields, membersText, List.append_assoc] at h
    rw [indentedFields, membersText, List.length_append, List.length_singleton] at hfuel
    obtain ⟨f, rfl⟩ := Nat.exists_eq_succ_of_ne_zero (n := fuel) (by omega)
    rw [readFields_close (skipBlank_rest h he (by rintro _ ⟨⟩; decide))]
    exact ⟨fun _ _ => rfl, _, rfl, rfl⟩
  | (k, v) :: fields => by
    intro hn hd depth fuel b e first c rest hb he h hfuel
    rw [indentedFields, membersText, List.append_assoc, List.append_assoc, String.toList_append,
      String.toList_append, List.append_assoc, List.append_assoc] at h
    rw [indentedFields, membersText, List.length_append, List.length_append, String.toList_append,
      List.length_append] at hfuel
    have hopen := exists_head?_indented hn.1 depth
      (membersText b e '\x7d' false (indentedFields depth fields) ++ rest)
    have hmore := length_membersText_pos b e '\x7d' false (indentedFields depth fields)
    have hvalue := length_indented_pos hn.1 depth
    obtain ⟨f, rfl⟩ := Nat.exists_eq_add_of_le' (n := fuel) (m := 2) (by omega)
    obtain ⟨hfirst, next, hnext, hrest⟩ := exists_next? h hb (by
      rw [quote, String.toList_ofList]
      exact ⟨'"', by decide, rfl⟩)
    rw [readFields_field hfirst hnext]
    refine Parsed.Leaves.andThen (readField_quote hrest fun c hc => ?_)
      (fun after hafter => readFields_indented fields hn.2 hd.2 depth hb he hafter (by omega))
      fun _ _ h => standForFields_cons h.1 h.2
    exact readNode_indented v hn.1 hd.1 depth
      (skipBlank_opener (b := [' ']) hc isGap_space hopen) (by omega)

end

/-! ## Documents -/

/-- **A printed value is read back,** also from a text file, which ends with a line feed. -/
theorem parse_pretty {v : Json} (hn : v.NumberFree) (hd : v.Distinct)
    (hdepth : v.depth ≤ maxDepth) : parse (v.pretty ++ "\n") = .ok v := by
  have hstart : (Cursor.ofString (v.pretty ++ "\n")).rest = v.pretty.toList ++ ['\n'] :=
    String.toList_append
  have hskip : (Cursor.ofString (v.pretty ++ "\n")).skipBlank.rest = v.pretty.toList ++ ['\n'] :=
    skipBlank_opener (b := []) hstart isGap_nil (exists_head?_indented hn 0 ['\n'])
  have hfuel : 2 * v.pretty.toList.length ≤ 2 * (v.pretty.toList ++ ['\n']).length + 1 + 1 := by
    rw [List.length_append]
    omega
  obtain ⟨hvalue, after, hread, hrest⟩ := readNode_indented v hn hd 0 hskip hfuel
  have hended : after.skipBlank.rest = [] := by
    rw [Cursor.skipBlank, hrest]
    rfl
  rw [parse, Document.ofString]
  simp only [hstart]
  rw [show readNode _ _ = (_, some after) from Prod.ext rfl hread]
  simp only [hended]
  rw [Document.value, hvalue maxDepth hdepth]
  rfl

end Json
end Pagewright
