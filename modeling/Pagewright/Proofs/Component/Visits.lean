/-
# What a visitor of a page sees

A check of the nodes of a page is given every node with the text of its location
(`Page.visits`). It sees the nodes that a stack yields, in the same order, each once: a location
leads to a node exactly if the walk lists that node with it (`mem_walk_iff`), and no two
locations have the same text (`Location.toText_injective`). So the nodes are as many as the
locations that lead to one (`nodeCount_eq_ncard`), and whoever reads a location and follows its
indices from the root finds the node that it was given with (`Page.visits_follow`).
-/

import Pagewright.Proofs.Component.Locations
import Pagewright.Proofs.Component.Traversal

namespace Pagewright
namespace Component

/-- The children are walked in order, each at its index. -/
theorem walkChildren_eq (location : Location) (index : ℕ) (cs : List Component) :
    walkChildren location index cs =
      (cs.zipIdx index).flatMap fun e => walkFrom (location ++ [e.2]) e.1 := by
  induction cs generalizing index with
  | nil => rfl
  | cons c cs ih => rw [walkChildren, ih, List.zipIdx_cons, List.flatMap_cons]

/-- A walk visits a node, and then what is below each child under the index of the child. -/
theorem walkFrom_eq (location : Location) (c : Component) :
    walkFrom location c =
      (location, c) :: c.children.zipIdx.flatMap fun e => walkFrom (location ++ [e.2]) e.1 := by
  rw [← walkChildren_eq]
  cases c
  rfl

/-- **What a location leads to is walked.** -/
theorem mem_walkFrom_of_locate? {d : Component} {rest : Location} {c : Component}
    (location : Location) (h : c.locate? rest = some d) :
    (location ++ rest, d) ∈ walkFrom location c := by
  induction rest generalizing c location with
  | nil =>
    obtain rfl := Option.some.inj h
    rw [walkFrom_eq, List.append_nil]
    exact List.mem_cons_self
  | cons i rest ih =>
    obtain ⟨child, hchild, hlocate⟩ := Option.bind_eq_some_iff.1 h
    have hwalk := ih (location ++ [i]) hlocate
    rw [List.append_assoc, List.singleton_append] at hwalk
    rw [walkFrom_eq]
    refine List.mem_cons_of_mem _ (List.mem_flatMap.2 ⟨(child, i), ?_, hwalk⟩)
    exact List.mem_zipIdx_iff_getElem?.2 hchild

/-- **The walk lists the nodes by their locations:** every location that leads to a node, with that
node, and no others. -/
theorem mem_walk_iff {c d : Component} {location : Location} :
    (location, d) ∈ c.walk ↔ c.locate? location = some d :=
  ⟨locate?_of_mem_walk, mem_walkFrom_of_locate? []⟩

/-- No location is visited twice. -/
theorem nodup_map_fst_walk (c : Component) : (c.walk.map Prod.fst).Nodup :=
  List.pairwise_map.2 (c.ascending_walk.imp ne_of_lt)

/-- **The number of nodes** is the number of locations that lead to one. -/
theorem nodeCount_eq_ncard (c : Component) :
    c.nodeCount = {location | (c.locate? location).isSome}.ncard := by
  have hset : {location | (c.locate? location).isSome} =
      ((c.walk.map Prod.fst).toFinset : Set Location) := by
    ext location
    simp [Option.isSome_iff_exists, ← mem_walk_iff]
  rw [hset, Set.ncard_coe_finset, List.toFinset_card_of_nodup c.nodup_map_fst_walk,
    List.length_map, nodeCount, ← map_snd_walk, List.length_map]

/-- A location is told by its text. -/
theorem Location.toText_injective : Function.Injective Location.toText := fun a b h =>
  Option.some.inj ((Location.ofText?_toText a).symm.trans (h ▸ Location.ofText?_toText b))

end Component

namespace Page

open Component (Location mem_walk_iff)

/-- The nodes of the page as a stack yields them; none without a tree. -/
def preorder (p : Page) : List Component :=
  match p.components with
  | some root => root.preorder
  | none => []

/-- What a visitor is given, in order: the text of a location and the node. -/
def visits (p : Page) : List (String × Component) := p.walk.map fun e => (e.1.toText, e.2)

/-- The node that a location leads to from the root. -/
def locate? (p : Page) (location : Location) : Option Component :=
  p.components.bind (·.locate? location)

/-- The node found by reading a location and following it from the root. -/
def follow? (p : Page) (text : String) : Option Component :=
  (Location.ofText? text).bind p.locate?

/-- **A walk of a page** visits what its locations lead to. -/
theorem mem_walk_iff_locate? {p : Page} {location : Location} {c : Component} :
    (location, c) ∈ p.walk ↔ p.locate? location = some c := by
  rw [walk, locate?]
  cases p.components with
  | none => simp
  | some root => exact mem_walk_iff

/-- A walk of a page visits its nodes in pre-order. -/
theorem map_snd_walk (p : Page) : p.walk.map Prod.snd = p.preorder := by
  rw [walk, preorder]
  cases p.components with
  | none => rfl
  | some root => exact root.map_snd_walk.trans root.preorder_eq_descendants.symm

/-- A walk of a page visits no location twice. -/
theorem nodup_map_fst_walk (p : Page) : (p.walk.map Prod.fst).Nodup := by
  rw [walk]
  cases p.components with
  | none => exact List.nodup_nil
  | some root => exact root.nodup_map_fst_walk

/-- **The visits of a page** are to the nodes that a stack yields, in its order, which is
depth-first pre-order. The locations are pairwise distinct, each leads from the root to the node
that it is given with, and every location that leads to a node is visited. The count of the nodes
of a tree is the number of locations that lead to one. -/
theorem visits_follow (p : Page) :
    p.visits.map Prod.snd = p.preorder ∧
      (∀ c : Component, c.preorder = c :: c.children.flatMap Component.preorder) ∧
      (p.visits.map Prod.fst).Nodup ∧
      p.visits.map (fun e => p.follow? e.1) = p.preorder.map some ∧
      (∀ location c, (location.toText, c) ∈ p.visits ↔ p.locate? location = some c) ∧
      ∀ c : Component, c.nodeCount = c.preorder.length ∧
        c.nodeCount = {location | (c.locate? location).isSome}.ncard := by
  have hnodes : p.visits.map Prod.snd = p.preorder := by
    rw [visits, List.map_map, ← map_snd_walk]
    rfl
  refine ⟨hnodes, Component.preorder_eq, ?_, ?_, ?_, ?_⟩
  · have htexts := p.nodup_map_fst_walk.map Location.toText_injective
    rw [List.map_map] at htexts
    rw [visits, List.map_map]
    exact htexts
  · rw [← hnodes, visits, List.map_map, List.map_map, List.map_map]
    refine List.map_congr_left ?_
    rintro ⟨location, c⟩ h
    change (Location.ofText? location.toText).bind p.locate? = some c
    rw [Location.ofText?_toText]
    exact mem_walk_iff_locate?.1 h
  · intro location c
    rw [← mem_walk_iff_locate?, visits, List.mem_map]
    constructor
    · rintro ⟨⟨found, d⟩, h, he⟩
      obtain ⟨htext, rfl⟩ := Prod.mk.inj he
      rwa [← Location.toText_injective htext]
    · exact fun h => ⟨(location, c), h, rfl⟩
  · exact fun c =>
      ⟨congrArg List.length c.preorder_eq_descendants.symm, c.nodeCount_eq_ncard⟩

end Page
end Pagewright
