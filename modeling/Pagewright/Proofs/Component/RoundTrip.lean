/-
# Components and pages in their JSON form

A component that has been read is *stable*: its prop values are written as values that are
read as them, so none of its literals looks like code, and the objects in its style values
have distinct keys. This is what reading establishes (`stable_ofNode`), whatever the record
looks like: object and array differ in how they name their fields, but each field that is
given adds the same to what has been read so far (`Draft.Reads`).

A stable component is written as a value that is read as this component
(`ofNode_toJson`). So what has been read survives a second round, with its props, styles and
children in their order (`ofJson_toJson_of_ofJson`).
-/

import Pagewright.Proofs.Component.PropValues

namespace Pagewright

open Json (Key Node DistinctItems DistinctFields)

namespace PropValue

/-- A prop value that is written as a value that is read as it. -/
def Stable (x : PropValue) : Prop := x.toJson.Distinct ∧ reading x.toJson = x

/-- **What is read is stable:** of a value that is read as itself nothing else is read the
second time. -/
theorem stable_reading {v : Json} (h : v.Distinct) : (reading v).Stable := by
  cases hread : reading v with
  | expression code =>
    refine ⟨?_, reading_eq_expression_iff.2 (.inl rfl)⟩
    simp [toJson, Json.Distinct, Json.DistinctFields]
  | literal w =>
    obtain ⟨rfl, -⟩ := reading_eq_literal_iff.1 hread
    exact ⟨h, hread⟩

/-- A stable prop value is read back as it is, wherever there is room for it. -/
theorem Stable.ofNode_eq_ok {x : PropValue} (h : x.Stable) {room : Nat}
    (hroom : x.toJson.depth ≤ room) : ofNode room (.ofJson x.toJson) = .ok x :=
  (ofNode_ofJson_eq_ok_iff h.1).2 ⟨hroom, h.2⟩

end PropValue

namespace Component

/-! ## Stable components -/

mutual

/-- A component whose prop values are stable and whose style values have distinct keys, and
all below it. -/
def Stable : Component → Prop
  | ⟨_, _, _, props, style, children⟩ =>
    (∀ e ∈ props.entries, e.2.Stable) ∧ (∀ e ∈ style.entries, e.2.Distinct) ∧
      StableAll children

/-- Stable components. -/
def StableAll : List Component → Prop
  | [] => True
  | c :: cs => Stable c ∧ StableAll cs

end

/-- A draft whose fields are stable as far as they are given. -/
structure Draft.Stable (d : Draft) : Prop where
  props : ∀ props, d.props = some props → ∀ e ∈ props.entries, e.2.Stable
  style : ∀ style, d.style = some style → ∀ e ∈ style.entries, e.2.Distinct
  children : ∀ children, d.children = some children → StableAll children

theorem Draft.Stable.empty : ({} : Draft).Stable :=
  ⟨by simp, by simp, by simp⟩

/-- A missing field is empty, so a draft can be completed at any time. -/
theorem Draft.Stable.complete {d : Draft} (h : d.Stable) : d.complete.Stable := by
  refine ⟨?_, ?_, ?_⟩
  · cases hprops : d.props with
    | none => intro e he; cases he
    | some props => exact h.props props hprops
  · cases hstyle : d.style with
    | none => intro e he; cases he
    | some style => exact h.style style hstyle
  · cases hchildren : d.children with
    | none => trivial
    | some children => exact h.children children hchildren

/-! ## Reading a field -/

/-- What a draft gains from the value of a field, in an object or in an array. -/
inductive Draft.Reads (room : Nat) (v : Json) (d : Draft) : Draft → Prop where
  | id (s : String) : Reads room v d { d with id := some s }
  | type (s : String) : Reads room v d { d with type := some s }
  | name (s : String) : Reads room v d { d with name := some s }
  | props (props : Dict String PropValue)
      (h : (Node.ofJson v).dict room PropValue.ofNode = .ok props) :
      Reads room v d { d with props := some props }
  | style (style : Dict String Json) (h : (Node.ofJson v).dict room Node.toJson = .ok style) :
      Reads room v d { d with style := some style }
  | children (children : List Component) (h : listOfNode room (.ofJson v) = .ok children) :
      Reads room v d { d with children := some children }
  | skipped : Reads room v d d

/-- **A field of an object** adds to the draft, or is skipped. -/
theorem exists_reads_of_ofFields {room : Nat} {d : Draft} {k : String} {v : Json}
    {rest : List (String × Json)} {c : Component}
    (h : ofFields room d (Node.fieldsOfJson ((k, v) :: rest)) = .ok c) :
    ∃ d', d.Reads room v d' ∧ ofFields room d' (Node.fieldsOfJson rest) = .ok c := by
  rw [Node.fieldsOfJson, ofFields] at h
  obtain ⟨key, -, h⟩ := bind_eq_ok.1 h
  split at h
  · obtain ⟨-, h⟩ := unless_eq_ok.1 h
    obtain ⟨s, -, h⟩ := bind_eq_ok.1 h
    exact ⟨_, .id s, h⟩
  · obtain ⟨-, h⟩ := unless_eq_ok.1 h
    obtain ⟨s, -, h⟩ := bind_eq_ok.1 h
    exact ⟨_, .type s, h⟩
  · obtain ⟨-, h⟩ := unless_eq_ok.1 h
    obtain ⟨s, -, h⟩ := bind_eq_ok.1 h
    exact ⟨_, .name s, h⟩
  · obtain ⟨-, h⟩ := unless_eq_ok.1 h
    obtain ⟨props, hprops, h⟩ := bind_eq_ok.1 h
    exact ⟨_, .props props hprops, h⟩
  · obtain ⟨-, h⟩ := unless_eq_ok.1 h
    obtain ⟨style, hstyle, h⟩ := bind_eq_ok.1 h
    exact ⟨_, .style style hstyle, h⟩
  · obtain ⟨-, h⟩ := unless_eq_ok.1 h
    obtain ⟨children, hchildren, h⟩ := bind_eq_ok.1 h
    exact ⟨_, .children children hchildren, h⟩
  · obtain ⟨-, -, h⟩ := bind_eq_ok.1 h
    exact ⟨_, .skipped, h⟩

/-- **An item of an array** adds to the draft; none may stand behind the last field. -/
theorem exists_reads_of_ofItems {room index : Nat} {d : Draft} {v : Json} {rest : List Json}
    {c : Component} (h : ofItems room d index (Node.itemsOfJson (v :: rest)) = .ok c) :
    ∃ d', d.Reads room v d' ∧ ofItems room d' (index + 1) (Node.itemsOfJson rest) = .ok c := by
  rw [Node.itemsOfJson, ofItems.eq_def] at h
  dsimp only at h
  split at h
  · obtain ⟨s, -, h⟩ := bind_eq_ok.1 h
    exact ⟨_, .id s, h⟩
  · obtain ⟨s, -, h⟩ := bind_eq_ok.1 h
    exact ⟨_, .type s, h⟩
  · obtain ⟨s, -, h⟩ := bind_eq_ok.1 h
    exact ⟨_, .name s, h⟩
  · obtain ⟨props, hprops, h⟩ := bind_eq_ok.1 h
    exact ⟨_, .props props hprops, h⟩
  · obtain ⟨style, hstyle, h⟩ := bind_eq_ok.1 h
    exact ⟨_, .style style hstyle, h⟩
  · obtain ⟨children, hchildren, h⟩ := bind_eq_ok.1 h
    exact ⟨_, .children children hchildren, h⟩
  · cases h

/-- **A field keeps a draft stable** when the lists of components that its value is read as
are stable. -/
theorem Draft.Reads.stable {room : Nat} {v : Json} {d d' : Draft} (hreads : d.Reads room v d')
    (h : v.Distinct) (hlist : ∀ cs, listOfNode room (.ofJson v) = .ok cs → StableAll cs)
    (hd : d.Stable) : d'.Stable := by
  cases hreads with
  | id s | type s | name s => exact ⟨hd.props, hd.style, hd.children⟩
  | props props hprops =>
    refine ⟨?_, hd.style, hd.children⟩
    rintro _ ⟨⟩
    refine Node.forall_of_dict_eq_ok h hprops fun w x room hw hx => ?_
    obtain ⟨-, rfl⟩ := (PropValue.ofNode_ofJson_eq_ok_iff hw).1 hx
    exact PropValue.stable_reading hw
  | style style hstyle =>
    refine ⟨hd.props, ?_, hd.children⟩
    rintro _ ⟨⟩
    refine Node.forall_of_dict_eq_ok h hstyle fun w x room hw hx => ?_
    obtain ⟨-, rfl⟩ := (Node.toJson_ofJson_eq_ok_iff w hw).1 hx
    exact hw
  | children children hchildren =>
    refine ⟨hd.props, hd.style, ?_⟩
    rintro _ ⟨⟩
    exact hlist children hchildren
  | skipped => exact hd

/-! ## What is read is stable -/

mutual

/-- **What is read is stable,** whatever the form of the record, the fields that are missing and
those that are unknown. -/
theorem stable_ofNode : ∀ (v : Json), v.Distinct → ∀ {room : Nat} {c : Component},
    ofNode room (.ofJson v) = .ok c → c.Stable
  | .object fields, h, room, c, hc => by
    rw [Node.ofJson, ofNode] at hc
    split at hc
    · cases hc
    · exact stable_ofFields fields h.2 .empty hc
  | .array items, h, room, c, hc => by
    rw [Node.ofJson, ofNode] at hc
    split at hc
    · cases hc
    · exact stable_ofItems items h .empty hc
  | .null, _, _, _, hc | .bool _, _, _, _, hc | .number _, _, _, _, hc
  | .string _, _, _, _, hc => by cases hc

/-- Components that are read of a list are stable. -/
theorem stable_listOfNode : ∀ (v : Json), v.Distinct → ∀ {room : Nat} {cs : List Component},
    listOfNode room (.ofJson v) = .ok cs → StableAll cs
  | .array items, h, room, cs, hcs => by
    rw [Node.ofJson, listOfNode] at hcs
    split at hcs
    · cases hcs
    · exact stable_listOfItems items h hcs
  | .null, _, _, _, hc | .bool _, _, _, _, hc | .number _, _, _, _, hc
  | .string _, _, _, _, hc | .object _, _, _, _, hc => by cases hc

/-- Components that are read of items are stable. -/
theorem stable_listOfItems : ∀ (items : List Json), DistinctItems items →
    ∀ {room : Nat} {cs : List Component},
      listOfItems room (Node.itemsOfJson items) = .ok cs → StableAll cs
  | [], _, room, cs, hcs => by
    cases hcs
    trivial
  | v :: items, h, room, cs, hcs => by
    rw [Node.itemsOfJson, listOfItems] at hcs
    obtain ⟨c, hc, hcs⟩ := bind_eq_ok.1 hcs
    obtain ⟨rest, hrest, hcs⟩ := bind_eq_ok.1 hcs
    cases hcs
    exact ⟨stable_ofNode v h.1 hc, stable_listOfItems items h.2 hrest⟩

/-- A component that is read of fields is stable if it was so far. -/
theorem stable_ofFields : ∀ (fields : List (String × Json)), DistinctFields fields →
    ∀ {room : Nat} {d : Draft} {c : Component}, d.Stable →
      ofFields room d (Node.fieldsOfJson fields) = .ok c → c.Stable
  | [], _, room, d, c, hd, hc => by
    cases hc
    exact hd.complete
  | (k, v) :: rest, h, room, d, c, hd, hc => by
    obtain ⟨d', hreads, hc⟩ := exists_reads_of_ofFields hc
    have hd' := hreads.stable h.1 (fun cs hcs => stable_listOfNode v h.1 hcs) hd
    exact stable_ofFields rest h.2 hd' hc

/-- A component that is read of items in array form is stable if it was so far. -/
theorem stable_ofItems : ∀ (items : List Json), DistinctItems items →
    ∀ {room index : Nat} {d : Draft} {c : Component}, d.Stable →
      ofItems room d index (Node.itemsOfJson items) = .ok c → c.Stable
  | [], _, room, index, d, c, hd, hc => by
    rw [Node.itemsOfJson, ofItems] at hc
    cases hc
    exact hd.complete
  | v :: rest, h, room, index, d, c, hd, hc => by
    obtain ⟨d', hreads, hc⟩ := exists_reads_of_ofItems hc
    have hd' := hreads.stable h.1 (fun cs hcs => stable_listOfNode v h.1 hcs) hd
    exact stable_ofItems rest h.2 hd' hc

end

/-! ## A stable component is read back -/

/-- Stable props are read back as they are. -/
theorem dict_props_eq_ok {props : Dict String PropValue} (h : ∀ e ∈ props.entries, e.2.Stable)
    {room : Nat} (hroom : (Json.ofDict (props.map PropValue.toJson)).depth ≤ room) :
    (Node.ofJson (.ofDict (props.map PropValue.toJson))).dict room PropValue.ofNode =
      .ok props :=
  Node.dict_ofDict_eq_ok (fun e he => (h e he).1) (fun e he _ hroom => (h e he).ofNode_eq_ok hroom)
    hroom

/-- A style map whose values have distinct keys is read back as it is. -/
theorem dict_style_eq_ok {style : Dict String Json} (h : ∀ e ∈ style.entries, e.2.Distinct)
    {room : Nat} (hroom : (Json.ofDict style).depth ≤ room) :
    (Node.ofJson (.ofDict style)).dict room Node.toJson = .ok style := by
  have hid : style.map (fun v => v) = style := Dict.ext_entries (List.map_id' _)
  have hread : (Node.ofJson (.ofDict (style.map fun v => v))).dict room Node.toJson =
      .ok style :=
    Node.dict_ofDict_eq_ok h
      (fun e he _ hroom => (Node.toJson_ofJson_eq_ok_iff e.2 (h e he)).2 ⟨hroom, rfl⟩)
      (hid.symm ▸ hroom)
  rwa [hid] at hread

/-- The fields of a component are read in the order in which they are written. -/
theorem ofNode_object {room : Nat} (id type name : String) (props style children : Json) :
    ofNode (room + 1) (.ofJson (.object [("id", .string id), ("type", .string type),
      ("name", .string name), ("props", props), ("style", style), ("children", children)])) =
    (do
      let props ← (Node.ofJson props).dict room PropValue.ofNode
      let style ← (Node.ofJson style).dict room Node.toJson
      let children ← listOfNode room (.ofJson children)
      pure ⟨id, type, name, props, style, children⟩) := rfl

mutual

/-- **A stable component is read back** from its JSON form, in any room that holds the
form. -/
theorem ofNode_toJson : ∀ (c : Component), c.Stable → ∀ {room : Nat}, c.toJson.depth ≤ room →
    ofNode room (.ofJson c.toJson) = .ok c
  | ⟨id, type, name, props, style, children⟩, h, room, hroom => by
    obtain ⟨hprops, hstyle, hchildren⟩ := h
    simp only [toJson, Json.depth, Json.depthOfFields] at hroom
    obtain ⟨room, rfl⟩ : ∃ r, room = r + 1 := ⟨room - 1, by omega⟩
    have hp : (Node.ofJson (.ofDict (props.map PropValue.toJson))).dict room PropValue.ofNode =
        .ok props := dict_props_eq_ok hprops (by omega)
    have hs : (Node.ofJson (.ofDict style)).dict room Node.toJson = .ok style :=
      dict_style_eq_ok hstyle (by omega)
    have hc : listOfNode room (.ofJson (.array (toJsonAll children))) = .ok children := by
      rw [Node.ofJson, listOfNode, if_neg (by omega)]
      exact listOfItems_toJsonAll children hchildren (by omega)
    rw [toJson, ofNode_object, hp, hs, hc]
    rfl

/-- Stable components are read back as they are. -/
theorem listOfItems_toJsonAll : ∀ (cs : List Component), StableAll cs → ∀ {room : Nat},
    Json.depthOfItems (toJsonAll cs) ≤ room →
      listOfItems room (Node.itemsOfJson (toJsonAll cs)) = .ok cs
  | [], _, room, _ => rfl
  | c :: cs, h, room, hroom => by
    rw [toJsonAll, Json.depthOfItems] at hroom
    have hc : ofNode room (.ofJson c.toJson) = .ok c := ofNode_toJson c h.1 (by omega)
    have hcs : listOfItems room (Node.itemsOfJson (toJsonAll cs)) = .ok cs :=
      listOfItems_toJsonAll cs h.2 (by omega)
    rw [toJsonAll, Node.itemsOfJson, listOfItems, hc, hcs]
    rfl

end

mutual

/-- The JSON form of a stable component has distinct keys throughout. -/
theorem distinct_toJson : ∀ (c : Component), c.Stable → c.toJson.Distinct
  | ⟨id, type, name, props, style, children⟩, h => by
    obtain ⟨hprops, hstyle, hchildren⟩ := h
    have hp : (Json.ofDict (props.map PropValue.toJson)).Distinct :=
      Json.distinct_ofDict_iff.2 (List.forall_mem_map.2 fun e he => (hprops e he).1)
    have hs : (Json.ofDict style).Distinct := Json.distinct_ofDict_iff.2 hstyle
    have hc := distinctItems_toJsonAll children hchildren
    exact ⟨by simp, trivial, trivial, trivial, hp, hs, hc, trivial⟩

/-- Stable components are written with distinct keys. -/
theorem distinctItems_toJsonAll : ∀ (cs : List Component), StableAll cs →
    DistinctItems (toJsonAll cs)
  | [], _ => trivial
  | c :: cs, h => ⟨distinct_toJson c h.1, distinctItems_toJsonAll cs h.2⟩

end

/-- **A stable component is read back as it is.** -/
theorem ofJson_toJson {c : Component} (h : c.Stable) : ofJson c.toJson = .ok c :=
  ofNode_toJson c h (Nat.le_refl _)

/-- No component is written as null. -/
theorem toJson_ne_null (c : Component) : c.toJson ≠ .null := by
  cases c
  rw [toJson]
  exact Json.noConfusion

end Component

namespace Page

/-! ## Pages -/

/-- A page whose tree, if it has one, is stable. -/
def Stable (p : Page) : Prop := ∀ c, p.components = some c → c.Stable

/-- What a draft gains from the value of a field, in an object or in an array. -/
inductive Draft.Reads (room : Nat) (v : Json) (d : Draft) : Draft → Prop where
  | name (s : String) : Reads room v d { d with name := some s }
  | title (title : Option String) : Reads room v d { d with title := some title }
  | components (components : Option Component)
      (h : (Node.ofJson v).optional (Component.ofNode room) = .ok components) :
      Reads room v d { d with components := some components }
  | skipped : Reads room v d d

/-- Reading the fields of a page is reading the first one and then the others. -/
theorem exists_reads_of_ofFields {room : Nat} {d : Draft} {k : String} {v : Json}
    {rest : List (String × Json)} {p : Page}
    (h : ofFields room d (Node.fieldsOfJson ((k, v) :: rest)) = .ok p) :
    ∃ d', d.Reads room v d' ∧ ofFields room d' (Node.fieldsOfJson rest) = .ok p := by
  rw [Node.fieldsOfJson, ofFields] at h
  obtain ⟨key, -, h⟩ := bind_eq_ok.1 h
  split at h
  · obtain ⟨-, h⟩ := unless_eq_ok.1 h
    obtain ⟨s, -, h⟩ := bind_eq_ok.1 h
    exact ⟨_, .name s, h⟩
  · obtain ⟨-, h⟩ := unless_eq_ok.1 h
    obtain ⟨title, -, h⟩ := bind_eq_ok.1 h
    exact ⟨_, .title title, h⟩
  · obtain ⟨-, h⟩ := unless_eq_ok.1 h
    obtain ⟨components, hcomponents, h⟩ := bind_eq_ok.1 h
    exact ⟨_, .components components hcomponents, h⟩
  · obtain ⟨-, -, h⟩ := bind_eq_ok.1 h
    exact ⟨_, .skipped, h⟩

/-- Reading a page in array form is reading the first item and then the others. -/
theorem exists_reads_of_ofItems {room index : Nat} {d : Draft} {v : Json} {rest : List Json}
    {p : Page} (h : ofItems room d index (Node.itemsOfJson (v :: rest)) = .ok p) :
    ∃ d', d.Reads room v d' ∧ ofItems room d' (index + 1) (Node.itemsOfJson rest) = .ok p := by
  rw [Node.itemsOfJson, ofItems.eq_def] at h
  dsimp only at h
  split at h
  · obtain ⟨s, -, h⟩ := bind_eq_ok.1 h
    exact ⟨_, .name s, h⟩
  · obtain ⟨title, -, h⟩ := bind_eq_ok.1 h
    exact ⟨_, .title title, h⟩
  · obtain ⟨components, hcomponents, h⟩ := bind_eq_ok.1 h
    exact ⟨_, .components components hcomponents, h⟩
  · cases h

/-- A draft whose tree is stable if it is given. -/
def Draft.Stable (d : Draft) : Prop := ∀ c, d.components = some (some c) → c.Stable

/-- A page made of a stable draft is stable. -/
theorem Draft.Stable.complete {d : Draft} (h : d.Stable) : d.complete.Stable := by
  intro c hc
  refine h c ?_
  cases hcomponents : d.components with
  | none => simp [Draft.complete, hcomponents] at hc
  | some components => simpa [Draft.complete, hcomponents] using hc

/-- A draft stays stable when it gains a field. -/
theorem Draft.Reads.stable {room : Nat} {v : Json} {d d' : Draft} (hreads : d.Reads room v d')
    (h : v.Distinct) (hd : d.Stable) : d'.Stable := by
  cases hreads with
  | name s | title title => exact hd
  | components components hcomponents =>
    rintro c ⟨⟩
    obtain ⟨-, hc⟩ := Node.optional_ofJson_eq_some_iff.1 hcomponents
    exact Component.stable_ofNode v h hc
  | skipped => exact hd

/-- A page that is read of fields is stable if it was so far. -/
theorem stable_ofFields {fields : List (String × Json)} (h : DistinctFields fields) {room : Nat}
    {d : Draft} {p : Page} (hd : d.Stable)
    (hp : ofFields room d (Node.fieldsOfJson fields) = .ok p) : p.Stable := by
  induction fields generalizing d with
  | nil =>
    cases hp
    exact hd.complete
  | cons field rest ih =>
    obtain ⟨d', hreads, hp⟩ := exists_reads_of_ofFields hp
    exact ih h.2 (hreads.stable h.1 hd) hp

/-- A page that is read of items in array form is stable if it was so far. -/
theorem stable_ofItems {items : List Json} (h : DistinctItems items) {room index : Nat}
    {d : Draft} {p : Page} (hd : d.Stable)
    (hp : ofItems room d index (Node.itemsOfJson items) = .ok p) : p.Stable := by
  induction items generalizing d index with
  | nil =>
    rw [Node.itemsOfJson, ofItems] at hp
    cases hp
    exact hd.complete
  | cons v rest ih =>
    obtain ⟨d', hreads, hp⟩ := exists_reads_of_ofItems hp
    exact ih h.2 (hreads.stable h.1 hd) hp

/-- **The tree of a page that is read is stable.** -/
theorem stable_ofNode {v : Json} (h : v.Distinct) {room : Nat} {p : Page}
    (hp : ofNode room (.ofJson v) = .ok p) : p.Stable := by
  have hempty : ({} : Draft).Stable := by rintro c ⟨⟩
  cases v with
  | object fields =>
    rw [Node.ofJson, ofNode] at hp
    split at hp
    · cases hp
    · exact stable_ofFields h.2 hempty hp
  | array items =>
    rw [Node.ofJson, ofNode] at hp
    split at hp
    · cases hp
    · exact stable_ofItems h hempty hp
  | _ => cases hp

/-- A stable page is written with distinct keys. -/
theorem distinct_toJson {p : Page} (h : p.Stable) : p.toJson.Distinct := by
  obtain ⟨name, title, components⟩ := p
  cases components with
  | none => cases title <;> simp [toJson, Json.Distinct, DistinctFields]
  | some c =>
    have hc := Component.distinct_toJson c (h c rfl)
    cases title <;> simp [toJson, Json.Distinct, DistinctFields, hc]

/-- The fields of a page are read in the order in which they are written. -/
theorem ofNode_toJson_some {room : Nat} (name : String) (title : Option String) (c : Component) :
    ofNode (room + 1) (.ofJson (toJson ⟨name, title, some c⟩)) =
      (do
        let components ← (Node.ofJson c.toJson).optional (Component.ofNode room)
        pure ⟨name, title, components⟩) := by
  cases title <;> rfl

/-- **A page with a stable tree is read back** from its JSON form; an absent title or tree is
none again. -/
theorem ofJson_toJson {p : Page} (h : p.Stable) : ofJson p.toJson = .ok p := by
  obtain ⟨name, title, components⟩ := p
  cases components with
  | none => cases title <;> rfl
  | some c =>
    have hdepth : c.toJson.depth + 1 ≤ (toJson ⟨name, title, some c⟩).depth := by
      cases title <;> simp [toJson, Json.depth, Json.depthOfFields]
    obtain ⟨room, hroom⟩ : ∃ room, (toJson ⟨name, title, some c⟩).depth = room + 1 :=
      ⟨_, (Nat.sub_add_cancel (by omega)).symm⟩
    have hc : Component.ofNode room (.ofJson c.toJson) = .ok c :=
      Component.ofNode_toJson c (h c rfl) (by omega)
    rw [ofJson, hroom, ofNode_toJson_some,
      Node.optional_ofJson_of_ne _ (Component.toJson_ne_null c), hc]
    rfl

/-- **What has been read is written as a value that is read as it again:** a page, and a
component, whatever the form of the records it was read from, the fields missing in them and
those that are unknown. Props, styles and children keep their order, since it is part of what
they are. -/
theorem ofJson_toJson_of_ofJson {v : Json} (h : v.Distinct) :
    (∀ p : Page, ofJson v = .ok p → p.toJson.Distinct ∧ ofJson p.toJson = .ok p) ∧
    (∀ c : Component, Component.ofJson v = .ok c →
      c.toJson.Distinct ∧ Component.ofJson c.toJson = .ok c) := by
  constructor
  · intro p hp
    have hstable := stable_ofNode h hp
    exact ⟨distinct_toJson hstable, ofJson_toJson hstable⟩
  · intro c hc
    have hstable := Component.stable_ofNode v h hc
    exact ⟨Component.distinct_toJson c hstable, Component.ofJson_toJson hstable⟩

/-- A component in object form with an unknown field and fields that are missing. One of its
props is code, one only looks like code, and its child is in array form. -/
def mixedTree : Json :=
  .object [
    ("children", .array [.array [.string "a", .string "Box"]]),
    ("note", .array []),
    ("props", .object [
      ("onTap", .array [.string "go()"]),
      ("label", .object [("$expr", .string "t"), ("other", .null)])])]

/-- The component that `mixedTree` stands for. -/
def mixedRoot : Component :=
  { id := "", type := "", name := "",
    props := Dict.ofList [("onTap", .expression "go()"),
      ("label", .literal (.object [("$expr", .string "t"), ("other", .null)]))],
    style := ∅,
    children := [.leaf "a" "Box"] }

/-- The hypotheses of `ofJson_toJson_of_ofJson` are satisfiable, by a page in array form and by
its tree. -/
theorem ofJson_toJson_mixedRoot :
    (Json.array [.string "Home", .null, mixedTree]).Distinct ∧ mixedTree.Distinct ∧
      ofJson (.array [.string "Home", .null, mixedTree]) = .ok ⟨"Home", none, some mixedRoot⟩ ∧
      ofJson (toJson ⟨"Home", none, some mixedRoot⟩) = .ok ⟨"Home", none, some mixedRoot⟩ ∧
      Component.ofJson mixedTree = .ok mixedRoot ∧
      Component.ofJson mixedRoot.toJson = .ok mixedRoot := by
  have htree : mixedTree.Distinct := by
    simp [mixedTree, Json.Distinct, DistinctItems, DistinctFields]
  have hpage : (Json.array [.string "Home", .null, mixedTree]).Distinct :=
    ⟨trivial, trivial, htree, trivial⟩
  exact ⟨hpage, htree, rfl, ((ofJson_toJson_of_ofJson hpage).1 _ rfl).2, rfl,
    ((ofJson_toJson_of_ofJson htree).2 _ rfl).2⟩

end Page
end Pagewright
