import Substrate.Proofs.Shape.Positions
import Substrate.Proofs.Tree.Coherence

/-!
# Substrate.Proofs.Tree.Framing

What two trees have in common that differ in one place. Around the place their nodes are the same,
but for one link: the node above the place leads down to what hangs there (`HasShape.get?_around`),
or else the root does (`HasShape.rootKey_around`). A piece that hangs in both has the same nodes in
both, but for the parent of its top (`get?_of_hangs_apart`). So what an edit leaves alone can be
read off the shapes before and after it.
-/

namespace Substrate

variable {S : Type → Type} [SlotMap S] {α : Type}

/-- The node under `j` once `c` hangs in the place. -/
def Place.relink (place : Place) (c : Option Key) (j : Key) (node : Node α) : Node α :=
  match place with
  | .root => node
  | .child parent side => if j = parent then node.setChild side c else node

/-- Only the parent above a place is relinked. -/
theorem Place.relink_of_ne {place : Place} {j : Key} (other : place.parent? ≠ some j)
    (c : Option Key) : place.relink c j = (id : Node α → Node α) := by
  funext node
  cases place with
  | root => rfl
  | child parent side => exact if_neg fun same => other (congrArg some same.symm)

/-- The node with its links down to `k` leading to `c` instead. -/
def Node.redirect (node : Node α) (k : Key) (c : Option Key) : Node α :=
  { node with
    left := if node.left = some k then c else node.left
    right := if node.right = some k then c else node.right }

section Pieces

variable {nodes nodes' : Arena S (Node α)} {parent parent' hole hole' : Option Key}
  {s : Shape (Key × α)} {C : Context (Key × α)} {j : Key}

/-! ## Pieces of two arenas -/

/-- A piece that hangs from one parent in two arenas has the same nodes in both. -/
theorem get?_eq_of_hangs (hangs : Hangs nodes parent s) (hangs' : Hangs nodes' parent s)
    (mem : j ∈ s.keys) : nodes'.get? j = nodes.get? j := by
  induction s generalizing parent with
  | nil => simp at mem
  | node x l r ihl ihr =>
    obtain ⟨top, left, right⟩ := hangs
    obtain ⟨top', left', right'⟩ := hangs'
    rw [Shape.keys_node, List.mem_cons, List.mem_append] at mem
    rcases mem with rfl | inL | inR
    · exact top'.trans top.symm
    · exact ihl left left' inL
    · exact ihr right right' inR

/-- A piece that hangs in two arenas has the same nodes in both, but for the parent of its top. -/
theorem get?_of_hangs_apart (nodup : s.keys.Nodup) (hangs : Hangs nodes parent s)
    (hangs' : Hangs nodes' parent' s) (mem : j ∈ s.keys) :
    nodes'.get? j = (nodes.get? j).map fun node =>
      if s.topKey = some j then { node with parent := parent' } else node := by
  cases s with
  | nil => simp at mem
  | node x l r =>
    obtain ⟨top, left, right⟩ := hangs
    obtain ⟨top', left', right'⟩ := hangs'
    rw [Shape.keys_node, List.nodup_cons] at nodup
    rw [Shape.keys_node, List.mem_cons] at mem
    rcases mem with rfl | below
    · rw [top, top', Shape.topKey_node]
      simp
    · have notTop : (Shape.node x l r).topKey ≠ some j := by
        rintro ⟨rfl⟩
        exact nodup.1 below
      simp only [if_neg notTop, Option.map_id']
      rcases List.mem_append.1 below with inL | inR
      · exact get?_eq_of_hangs left left' inL
      · exact get?_eq_of_hangs right right' inR

namespace Context

/-- Around a place with the same in it, two arenas have the same nodes. -/
theorem get?_eq_of_stands (stands : Stands nodes hole C) (stands' : Stands nodes' hole C)
    (mem : j ∈ keys C) : nodes'.get? j = nodes.get? j := by
  induction C generalizing hole with
  | nil => simp at mem
  | cons f C ih =>
    obtain ⟨here, sibling, outer⟩ := stands
    obtain ⟨here', sibling', outer'⟩ := stands'
    rw [keys_cons, List.mem_cons, List.mem_append] at mem
    rcases mem with rfl | inS | inC
    · exact here'.trans here.symm
    · exact get?_eq_of_hangs sibling sibling' inS
    · exact ih outer outer' inC

/-- Around a place, two arenas have the same nodes, but for the link to what is in the place. -/
theorem get?_of_stands (nodup : (keys C).Nodup) (stands : Stands nodes hole C)
    (stands' : Stands nodes' hole' C) (mem : j ∈ keys C) :
    nodes'.get? j = (nodes.get? j).map (C.place.relink hole' j) := by
  cases C with
  | nil => simp at mem
  | cons f C =>
    obtain ⟨here, sibling, outer⟩ := stands
    obtain ⟨here', sibling', outer'⟩ := stands'
    rw [keys_cons, List.nodup_cons] at nodup
    rw [keys_cons, List.mem_cons] at mem
    rcases mem with rfl | around
    · rw [here, here']
      simp [place, Place.relink]
    · have other : (place (f :: C)).parent? ≠ some j := by
        rintro ⟨rfl⟩
        exact nodup.1 around
      rw [Place.relink_of_ne other, Option.map_id_apply]
      rcases List.mem_append.1 around with inS | inC
      · exact get?_eq_of_hangs sibling sibling' inS
      · exact get?_eq_of_stands outer outer' inC

end Context

end Pieces

namespace LinkedTree

/-! ## Trees that differ in one place -/

variable {t t' : LinkedTree S α} {C : Context (Key × α)} {u w : Shape (Key × α)} {j k : Key}
  {node : Node α}

/-- Outside of the place, a node differs by the link to what stands there. -/
theorem HasShape.get?_around (h : t.HasShape (C.plug u)) (h' : t'.HasShape (C.plug w))
    (mem : j ∈ C.keys) :
    t'.nodes.get? j = (t.nodes.get? j).map (C.place.relink w.topKey j) :=
  Context.get?_of_stands (Context.nodup_keys_plug.1 h.nodup).2.1 (Context.hangs_plug.1 h.hangs).1
    (Context.hangs_plug.1 h'.hangs).1 mem

/-- What stands in a place has the node above the place as its parent. -/
theorem HasShape.parent_eq_above (h : t.HasShape (C.plug u)) (top : u.topKey = some k)
    (found : t.nodes.get? k = some node) : node.parent = C.above := by
  obtain ⟨node', found', parent⟩ := get?_of_hangs_top h.hangs_piece top
  rw [found] at found'
  cases found'
  exact parent

/-- A link down to what stands in a place comes from the node above the place. -/
theorem HasShape.above_of_child (h : t.HasShape (C.plug u)) (top : u.topKey = some k)
    (found : t.nodes.get? j = some node) (side : Side) (link : node.child side = some k) :
    C.above = some j := by
  obtain ⟨below, found', parent⟩ := h.get?_child found link
  exact (h.parent_eq_above top found').symm.trans parent

/-- To change the link to what stands in a place is to change the links to its name. -/
theorem HasShape.relink_eq_redirect (h : t.HasShape (C.plug u)) (top : u.topKey = some k)
    (found : t.nodes.get? j = some node) (c : Option Key) :
    C.place.relink c j node = node.redirect k c := by
  by_cases above : C.above = some j
  · cases C with
    | nil => cases above
    | cons f C =>
      obtain rfl : f.label.1 = j := Option.some.inj above
      rw [(Context.hangs_plug.1 h.hangs).1.1, top] at found
      cases found
      have outside := h.apart k (Shape.topKey_mem top)
      rw [Context.keys_cons, List.mem_cons, List.mem_append, not_or, not_or] at outside
      have sibling : f.sibling.topKey ≠ some k := fun same => outside.2.1 (Shape.topKey_mem same)
      rw [Context.place, Place.relink, if_pos rfl, Frame.setChild_node]
      unfold Frame.node Node.redirect
      cases f.side <;> simp [sibling]
  · have notL : node.left ≠ some k := fun link =>
      above (h.above_of_child top found .left link)
    have notR : node.right ≠ some k := fun link =>
      above (h.above_of_child top found .right link)
    rw [Place.relink_of_ne (by rwa [Context.parent?_place])]
    simp [Node.redirect, notL, notR]

/-- The root is as it was, unless it was in the place. -/
theorem HasShape.rootKey_around (h : t.HasShape (C.plug u)) (h' : t'.HasShape (C.plug w))
    (top : u.topKey = some k) :
    t'.rootKey = if t.rootKey = some k then w.topKey else t.rootKey := by
  cases C with
  | nil =>
    rw [if_pos (h.root.trans top)]
    exact h'.root
  | cons f C =>
    have notRoot : t.rootKey ≠ some k := by
      intro root
      obtain ⟨node, found, parent⟩ := get?_of_hangs_top h.hangs (h.root.symm.trans root)
      exact nomatch (h.parent_eq_above top found).symm.trans parent
    rw [if_neg notRoot, h.root, h'.root, Context.topKey_plug, Context.topKey_plug]
    rfl

/-- A piece that hangs in two trees has the same nodes in both, but for the parent of its top. -/
theorem HasShape.get?_piece {D : Context (Key × α)} (h : t.HasShape (C.plug u))
    (h' : t'.HasShape (D.plug u)) (mem : j ∈ u.keys) :
    t'.nodes.get? j = (t.nodes.get? j).map fun node =>
      if u.topKey = some j then { node with parent := D.above } else node :=
  get?_of_hangs_apart (Context.nodup_keys_plug.1 h.nodup).1 h.hangs_piece h'.hangs_piece mem

/-- The record of a node with something on one side and nothing on the other. -/
theorem HasShape.get?_hang {x : Key × α} {side : Side}
    (h : t.HasShape (C.plug (.hang x side u .nil))) :
    t.nodes.get? x.1 = some (Node.setChild ⟨C.above, none, none, x.2⟩ side u.topKey) := by
  have hung := h.hangs_piece
  have here := ((Context.hangs_hang (f := ⟨side, x, .nil⟩)).1 hung).1
  rw [here]
  cases side <;> rfl

/-! ## Edits in a place -/

omit [SlotMap S] in
/-- A tree that keeps its number keeps its handles. -/
theorem handle_congr (same : t'.id = t.id) (key : Option Key) : t'.handle key = t.handle key := by
  rw [handle, handle, same]

/-- An edit at a node changes what stands in the place of the node. -/
theorem HasShape.edited_plug (h : t.HasShape (C.plug u)) (top : u.topKey = some k)
    {o : Outcome (LinkedTree S α) (Except TreeError Handle) α}
    {f : Shape (Key × α) → Shape (Key × α)} {answer : Option Key}
    (edited : t.Edited o ((C.plug u).editAt k f) answer) : t.Edited o (C.plug (f u)) answer := by
  have outside := h.apart k (Shape.topKey_mem top)
  rwa [Context.editAt_plug _ outside, Shape.editAt_of_topKey _ top] at edited

end LinkedTree

end Substrate
