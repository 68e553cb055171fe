/-
# Faults within a text

A fault of a component or page is noticed at a node: the node is of another kind than the one asked
for, or one too many in an array, its key was given before, or it nests too deep. All of these
places are in the text if those of the node are. So a text that is no page is refused after at most
as many bytes as it has (`Page.failsWithin_parse`).
-/

import Pagewright.Component.Codec
import Pagewright.Proofs.Json.Places

namespace Pagewright

open Json (FailsWithin Key Node)

variable {α : Type} {n : Nat} {x : Node}

namespace Json

/-- A reader behind a check. -/
theorem FailsWithin.unless {p : Prop} [Decidable p] {cause : Nat} {f : PUnit → Except Nat α}
    (hcause : cause ≤ n) (hf : FailsWithin n (f ⟨⟩)) :
    FailsWithin n
      (if p then (do let r ← (throw cause : Except Nat PUnit); f r) else f ⟨⟩) := by
  split
  · exact hcause
  · exact hf

namespace Node

/-- **A node of another kind** is refused within the text. -/
theorem IsIn.mismatch_le (h : x.IsIn n) : x.mismatch ≤ n := by
  cases h with
  | null hplace => exact hplace.stop
  | bool hplace => exact hplace.stop
  | @number _ m hplace hm =>
    cases m with
    | ok => exact hplace.stop
    | error taken => exact hm
  | @string _ s hplace hs =>
    have htext := hs.text
    cases hcase : s.text with
    | ok =>
      simp only [mismatch, hcase]
      exact hplace.stop
    | error taken =>
      simp only [mismatch, hcase]
      exact htext.le_of_eq_error hcase
  | array hstart => exact hstart.le
  | object hstart => exact hstart.le
  | broken htaken => exact htaken

/-- **A node too many** is refused within the text. -/
theorem IsIn.surplus_le (h : x.IsIn n) : x.surplus ≤ n := by
  cases h with
  | null hplace | bool hplace | number hplace | string hplace => exact hplace.start
  | array hstart | object hstart => exact hstart
  | broken htaken => exact Nat.le_trans (Nat.min_le_right ..) htaken

/-- Reading a text fails within the document. -/
theorem IsIn.failsWithin_text (h : x.IsIn n) : FailsWithin n x.text := by
  unfold text
  split
  · cases h with
    | string _ hs => exact hs.text
  · exact h.mismatch_le

/-- An optional value fails within the text if the value does. -/
theorem failsWithin_optional {read : Node → Except Nat α} (hread : FailsWithin n (read x)) :
    FailsWithin n (x.optional read) := by
  unfold optional
  split
  · exact trivial
  · exact hread.map _

/-- Entries fail within the text if their keys and values do. -/
theorem failsWithin_entries {read : Node → Except Nat α} {fields : List (Key × Node)}
    (hkeys : ∀ f ∈ fields, f.1.IsIn n) (hread : ∀ f ∈ fields, FailsWithin n (read f.2)) :
    FailsWithin n (entries read fields) := by
  induction fields with
  | nil => exact trivial
  | cons f fields ih =>
    obtain ⟨hkey, hkeys⟩ := List.forall_mem_cons.1 hkeys
    obtain ⟨hx, hfields⟩ := List.forall_mem_cons.1 hread
    exact hkey.text.bind fun _ => hx.bind fun _ => (ih hkeys hfields).bind fun _ => trivial

/-- **A dictionary** fails within the text if its values do. -/
theorem IsIn.failsWithin_dict (h : x.IsIn n) {read : Nat → Node → Except Nat α}
    (hread : ∀ room, ∀ y : Node, y.IsIn n → FailsWithin n (read room y)) (room : Nat) :
    FailsWithin n (x.dict room read) := by
  unfold dict
  split
  · cases h with
    | object hstart hkeys hvalues =>
      split
      · exact hstart
      · exact (failsWithin_entries hkeys fun f hf => hread _ f.2 (hvalues f hf)).map _
  · exact h.mismatch_le

end Node
end Json

/-- A prop value fails within the text. -/
theorem PropValue.failsWithin_ofNode (h : x.IsIn n) (room : Nat) :
    FailsWithin n (PropValue.ofNode room x) :=
  (h.failsWithin_toJson room).bind fun _ => trivial

namespace Component

/-- Readers of a component and of a list of components fail within the text on a node. -/
def ReadsWithin (n : Nat) (x : Node) : Prop :=
  ∀ room, FailsWithin n (ofNode room x) ∧ FailsWithin n (listOfNode room x)

/-- Props fail within the text. -/
theorem failsWithin_props (h : x.IsIn n) (room : Nat) :
    FailsWithin n (x.dict room PropValue.ofNode) :=
  h.failsWithin_dict (fun room _ hy => PropValue.failsWithin_ofNode hy room) room

/-- A style map fails within the text. -/
theorem failsWithin_style (h : x.IsIn n) (room : Nat) : FailsWithin n (x.dict room Node.toJson) :=
  h.failsWithin_dict (fun room _ hy => hy.failsWithin_toJson room) room

/-- Children fail within the text if each of them does. -/
theorem failsWithin_listOfItems {items : List Node} (h : ∀ x ∈ items, ReadsWithin n x)
    (room : Nat) : FailsWithin n (listOfItems room items) := by
  induction items with
  | nil => exact trivial
  | cons x items ih =>
    obtain ⟨hx, hitems⟩ := List.forall_mem_cons.1 h
    exact (hx room).1.bind fun _ => (ih hitems).bind fun _ => trivial

/-- **The fields of a component,** one after the other. -/
theorem failsWithin_ofFields {fields : List (Key × Node)}
    (hkeys : ∀ f ∈ fields, f.1.IsIn n) (hvalues : ∀ f ∈ fields, f.2.IsIn n)
    (h : ∀ f ∈ fields, ReadsWithin n f.2) (room : Nat) (d : Draft) :
    FailsWithin n (ofFields room d fields) := by
  induction fields generalizing d with
  | nil => exact trivial
  | cons f fields ih =>
    obtain ⟨hkey, hkeys⟩ := List.forall_mem_cons.1 hkeys
    obtain ⟨hvalue, hvalues⟩ := List.forall_mem_cons.1 hvalues
    obtain ⟨hread, hfields⟩ := List.forall_mem_cons.1 h
    have hrest := fun d => ih hkeys hvalues hfields d
    rw [ofFields]
    refine hkey.text.bind fun key => ?_
    split
    · exact .unless hkey.reach (hvalue.failsWithin_text.bind fun _ => hrest _)
    · exact .unless hkey.reach (hvalue.failsWithin_text.bind fun _ => hrest _)
    · exact .unless hkey.reach (hvalue.failsWithin_text.bind fun _ => hrest _)
    · exact .unless hkey.reach ((failsWithin_props hvalue room).bind fun _ => hrest _)
    · exact .unless hkey.reach ((failsWithin_style hvalue room).bind fun _ => hrest _)
    · exact .unless hkey.reach ((hread room).2.bind fun _ => hrest _)
    · exact hvalue.failsWithin_skip.bind fun _ => hrest d

/-- A component in array form fails within the text if its parts do. -/
theorem failsWithin_ofItems {items : List Node} (hitems : ∀ x ∈ items, x.IsIn n)
    (h : ∀ x ∈ items, ReadsWithin n x) (room : Nat) (d : Draft) (index : Nat) :
    FailsWithin n (ofItems room d index items) := by
  induction items generalizing d index with
  | nil => exact trivial
  | cons x items ih =>
    obtain ⟨hx, hitems⟩ := List.forall_mem_cons.1 hitems
    obtain ⟨hread, h⟩ := List.forall_mem_cons.1 h
    have hrest := ih hitems h
    rw [ofItems.eq_def]
    dsimp only
    split
    · exact hx.failsWithin_text.bind fun _ => hrest _ _
    · exact hx.failsWithin_text.bind fun _ => hrest _ _
    · exact hx.failsWithin_text.bind fun _ => hrest _ _
    · exact (failsWithin_props hx room).bind fun _ => hrest _ _
    · exact (failsWithin_style hx room).bind fun _ => hrest _ _
    · exact (hread room).2.bind fun _ => hrest _ _
    · exact hx.surplus_le

/-- **Components and lists of components** are read within the text. -/
theorem readsWithin_of_isIn (h : x.IsIn n) : ReadsWithin n x := by
  have hx := h.mismatch_le
  induction h with
  | null | bool | number | string | broken => exact fun room => ⟨hx, hx⟩
  | array hstart hitems ih =>
    have hread := fun y hy => ih y hy (hitems y hy).mismatch_le
    intro room
    rw [ofNode, listOfNode]
    constructor
    · split
      · exact hstart
      · exact failsWithin_ofItems hitems hread _ _ _
    · split
      · exact hstart
      · exact failsWithin_listOfItems hread _
  | object hstart hkeys hvalues ih =>
    have hread := fun y hy => ih y hy (hvalues y hy).mismatch_le
    intro room
    rw [ofNode]
    refine ⟨?_, hx⟩
    split
    · exact hstart
    · exact failsWithin_ofFields hkeys hvalues hread _ _

/-- **A component** is read within the text. -/
theorem failsWithin_ofNode (h : x.IsIn n) (room : Nat) : FailsWithin n (ofNode room x) :=
  (readsWithin_of_isIn h room).1

end Component

namespace Page

/-- A page in object form fails within the text. -/
theorem failsWithin_ofFields {fields : List (Key × Node)}
    (hkeys : ∀ f ∈ fields, f.1.IsIn n) (hvalues : ∀ f ∈ fields, f.2.IsIn n)
    (room : Nat) (d : Draft) : FailsWithin n (ofFields room d fields) := by
  induction fields generalizing d with
  | nil => exact trivial
  | cons f fields ih =>
    obtain ⟨hkey, hkeys⟩ := List.forall_mem_cons.1 hkeys
    obtain ⟨hvalue, hvalues⟩ := List.forall_mem_cons.1 hvalues
    have hrest := ih hkeys hvalues
    have htitle := Node.failsWithin_optional hvalue.failsWithin_text
    have hcomponent := Node.failsWithin_optional (Component.failsWithin_ofNode hvalue room)
    rw [ofFields]
    refine hkey.text.bind fun key => ?_
    split
    · exact .unless hkey.reach (hvalue.failsWithin_text.bind fun _ => hrest _)
    · exact .unless hkey.reach (htitle.bind fun _ => hrest _)
    · exact .unless hkey.reach (hcomponent.bind fun _ => hrest _)
    · exact hvalue.failsWithin_skip.bind fun _ => hrest d

/-- A page in array form fails within the text. -/
theorem failsWithin_ofItems {items : List Node} (hitems : ∀ x ∈ items, x.IsIn n) (room : Nat)
    (d : Draft) (index : Nat) : FailsWithin n (ofItems room d index items) := by
  induction items generalizing d index with
  | nil => exact trivial
  | cons x items ih =>
    obtain ⟨hx, hitems⟩ := List.forall_mem_cons.1 hitems
    have hrest := ih hitems
    have htitle := Node.failsWithin_optional hx.failsWithin_text
    have hcomponent := Node.failsWithin_optional (Component.failsWithin_ofNode hx room)
    rw [ofItems.eq_def]
    dsimp only
    split
    · exact hx.failsWithin_text.bind fun _ => hrest _ _
    · exact htitle.bind fun _ => hrest _ _
    · exact hcomponent.bind fun _ => hrest _ _
    · exact hx.surplus_le

/-- **A page** is read within the text. -/
theorem failsWithin_ofNode (h : x.IsIn n) (room : Nat) : FailsWithin n (ofNode room x) := by
  unfold ofNode
  split
  · cases h with
    | object hstart hkeys hvalues =>
      split
      · exact hstart
      · exact failsWithin_ofFields hkeys hvalues _ _
  · cases h with
    | array hstart hitems =>
      split
      · exact hstart
      · exact failsWithin_ofItems hitems _ _ _
  · exact h.mismatch_le

/-- **A text that is no page** is refused within the text. -/
theorem failsWithin_parse (text : String) : FailsWithin text.utf8ByteSize (parse text) :=
  Json.Document.failsWithin_value text fun _ h => failsWithin_ofNode h _

end Page
end Pagewright
