import Substrate.Proofs.Shape.Named

/-!
# Substrate.Proofs.Tree.Hanging

How the nodes of an arena spell out shapes. A node's links are redundant: the arena keeps a parent
link and two child links, and a shape fixes all three. `Hangs` says it of a whole shape, and
`Context.Stands` of what surrounds a place. Neither looks beyond its own names, so an edit
elsewhere leaves both alone (`hangs_congr`, `Context.stands_congr`).

Edits take pieces apart and put them together. All of them rewire links through
`LinkedTree.setPlace`, and `stands_setPlace` and `hangs_setPlace` say what that does: the context
stands around the new piece, and the piece hangs in the context.
-/

namespace Substrate

variable {S : Type → Type} [SlotMap S] {α : Type}

/-! ## Hanging shapes -/

/-- The nodes of a shape are in the arena under their names, with the links and payloads that the
shape gives them; the top node names `parent` as its parent. -/
def Hangs (nodes : Arena S (Node α)) (parent : Option Key) : Shape (Key × α) → Prop
  | .nil => True
  | .node x l r =>
    nodes.get? x.1 = some ⟨parent, l.topKey, r.topKey, x.2⟩ ∧
      Hangs nodes (some x.1) l ∧ Hangs nodes (some x.1) r

@[simp] theorem hangs_nil (nodes : Arena S (Node α)) (parent : Option Key) :
    Hangs nodes parent .nil := trivial

/-- A node hangs if its links name its parent and the tops of its subtrees, which hang below it. -/
theorem hangs_node {nodes : Arena S (Node α)} {parent : Option Key} {x : Key × α}
    {l r : Shape (Key × α)} :
    Hangs nodes parent (.node x l r) ↔
      nodes.get? x.1 = some ⟨parent, l.topKey, r.topKey, x.2⟩ ∧
        Hangs nodes (some x.1) l ∧ Hangs nodes (some x.1) r := Iff.rfl

/-- Only the nodes of the shape matter. -/
theorem hangs_congr {nodes nodes' : Arena S (Node α)} {parent : Option Key} {s : Shape (Key × α)}
    (same : ∀ k ∈ s.keys, nodes'.get? k = nodes.get? k) :
    Hangs nodes' parent s ↔ Hangs nodes parent s := by
  induction s generalizing parent with
  | nil => rfl
  | node x l r ihl ihr =>
    simp only [Shape.keys_node, List.mem_cons, List.mem_append] at same
    rw [hangs_node, hangs_node, same x.1 (.inl rfl), ihl fun k h => same k (.inr (.inl h)),
      ihr fun k h => same k (.inr (.inr h))]

theorem get?_of_hangs {nodes : Arena S (Node α)} {parent : Option Key} {s : Shape (Key × α)}
    (hangs : Hangs nodes parent s) {k : Key} (mem : k ∈ s.keys) :
    ∃ node, nodes.get? k = some node := by
  induction s generalizing parent with
  | nil => simp at mem
  | node x l r ihl ihr =>
    obtain ⟨top, left, right⟩ := hangs
    rw [Shape.keys_node, List.mem_cons, List.mem_append] at mem
    rcases mem with rfl | inL | inR
    · exact ⟨_, top⟩
    · exact ihl left inL
    · exact ihr right inR

/-- A change of what the top node names as its parent carries a hanging shape along. -/
theorem hangs_reparent {nodes nodes' : Arena S (Node α)} {before after : Option Key}
    {s : Shape (Key × α)} (nodup : s.keys.Nodup) (hangs : Hangs nodes before s)
    (top : ∀ k, s.topKey = some k →
      nodes'.get? k = (nodes.get? k).map fun node => { node with parent := after })
    (rest : ∀ k ∈ s.keys, s.topKey ≠ some k → nodes'.get? k = nodes.get? k) :
    Hangs nodes' after s := by
  cases s with
  | nil => trivial
  | node x l r =>
    obtain ⟨at?, left, right⟩ := hangs
    rw [Shape.keys_node, List.nodup_cons, List.mem_append, not_or] at nodup
    have below : ∀ k, k ∈ l.keys ∨ k ∈ r.keys → nodes'.get? k = nodes.get? k := by
      intro k mem
      refine rest k (by simpa using Or.inr mem) ?_
      rintro ⟨rfl⟩
      exact mem.elim nodup.1.1 nodup.1.2
    refine ⟨?_, (hangs_congr fun k h => below k (.inl h)).2 left,
      (hangs_congr fun k h => below k (.inr h)).2 right⟩
    rw [top x.1 rfl, at?]
    rfl

/-! ## Standing contexts -/

namespace Frame

/-- The node above a place, given its parent and what hangs in the place. -/
def node (f : Frame (Key × α)) (parent hole : Option Key) : Node α :=
  match f.side with
  | .left => ⟨parent, hole, f.sibling.topKey, f.label.2⟩
  | .right => ⟨parent, f.sibling.topKey, hole, f.label.2⟩

@[simp] theorem setChild_node (f : Frame (Key × α)) (parent hole hole' : Option Key) :
    (f.node parent hole).setChild f.side hole' = f.node parent hole' := by
  unfold node
  cases f.side <;> rfl

@[simp] theorem parent_node (f : Frame (Key × α)) (parent hole : Option Key) :
    (f.node parent hole).parent = parent := by
  unfold node
  cases f.side <;> rfl

end Frame

namespace Context

/-- Where a piece in a context hangs. -/
def place : Context (Key × α) → Place
  | [] => .root
  | f :: _ => .child f.label.1 f.side

/-- The nodes around a place are in the arena as the context gives them, and the one above the
place names `hole` on the side of the place. -/
def Stands (nodes : Arena S (Node α)) (hole : Option Key) : Context (Key × α) → Prop
  | [] => True
  | f :: C =>
    nodes.get? f.label.1 = some (f.node (above C) hole) ∧
      Hangs nodes (some f.label.1) f.sibling ∧ Stands nodes (some f.label.1) C

/-- A frame stands if its node names what is above and what fills the hole. -/
theorem stands_cons {nodes : Arena S (Node α)} {hole : Option Key} {f : Frame (Key × α)}
    {C : Context (Key × α)} :
    Stands nodes hole (f :: C) ↔
      nodes.get? f.label.1 = some (f.node (above C) hole) ∧
        Hangs nodes (some f.label.1) f.sibling ∧ Stands nodes (some f.label.1) C := Iff.rfl

/-- Only the nodes around the place matter. -/
theorem stands_congr {nodes nodes' : Arena S (Node α)} {hole : Option Key}
    {C : Context (Key × α)} (same : ∀ k ∈ keys C, nodes'.get? k = nodes.get? k) :
    Stands nodes' hole C ↔ Stands nodes hole C := by
  induction C generalizing hole with
  | nil => rfl
  | cons f C ih =>
    simp only [keys_cons, List.mem_cons, List.mem_append] at same
    rw [stands_cons, stands_cons, same _ (.inl rfl),
      hangs_congr fun k h => same k (.inr (.inl h)), ih fun k h => same k (.inr (.inr h))]

/-- What hangs below a frame hangs in the hole beside its sibling. -/
theorem hangs_hang {nodes : Arena S (Node α)} {parent : Option Key} {f : Frame (Key × α)}
    {s : Shape (Key × α)} :
    Hangs nodes parent (.hang f.label f.side s f.sibling) ↔
      nodes.get? f.label.1 = some (f.node parent s.topKey) ∧
        Hangs nodes (some f.label.1) f.sibling ∧ Hangs nodes (some f.label.1) s := by
  unfold Shape.hang Frame.node
  cases f.side <;> simp only [hangs_node, and_comm]

/-- A filled context hangs when the context stands and the filling hangs in it. -/
theorem hangs_plug {nodes : Arena S (Node α)} {C : Context (Key × α)} {s : Shape (Key × α)} :
    Hangs nodes none (plug C s) ↔ Stands nodes s.topKey C ∧ Hangs nodes (above C) s := by
  induction C generalizing s with
  | nil => simp [plug, Stands]
  | cons f C ih =>
    rw [plug, ih, stands_cons, hangs_hang, Shape.topKey_hang, above_cons]
    constructor
    · rintro ⟨outer, here, sibling, filling⟩
      exact ⟨⟨here, sibling, outer⟩, filling⟩
    · rintro ⟨⟨here, sibling, outer⟩, filling⟩
      exact ⟨outer, here, sibling, filling⟩

/-- The name of the root, given what hangs in the place. -/
def top : Context (Key × α) → Option Key → Option Key
  | [], hole => hole
  | f :: C, _ => top C (some f.label.1)

/-- The top of a plugged context is the outermost frame's, if there is one. -/
theorem topKey_plug (C : Context (Key × α)) (s : Shape (Key × α)) :
    (plug C s).topKey = top C s.topKey := by
  induction C generalizing s with
  | nil => rfl
  | cons f C ih => rw [plug, ih, Shape.topKey_hang, top]

end Context

/-! ## Rewiring -/

def Place.parent? : Place → Option Key
  | .root => none
  | .child parent _ => some parent

namespace LinkedTree

/-- Hanging a piece into a place changes the link from the place and the link back to it. -/
theorem get?_setPlace (t : LinkedTree S α) (place : Place) (c : Option Key) (j : Key) :
    (t.setPlace place c).nodes.get? j =
      (t.nodes.get? j).map fun node =>
        let linked := match place with
          | .root => node
          | .child p side => if j = p then node.setChild side c else node
        if c = some j then { linked with parent := place.parent? } else linked := by
  cases place with
  | child p side => exact get?_setChild t p side c j
  | root =>
    cases c with
    | none => simp [setPlace]
    | some k =>
      rw [setPlace, get?_setParent]
      by_cases same : j = k
      · simp [same, Place.parent?]
      · simp [same, Ne.symm same]

/-- Relinking a place touches the parent above and the top that hangs there, no other node. -/
theorem get?_setPlace_of_ne {t : LinkedTree S α} (place : Place) {c : Option Key} {j : Key}
    (notAbove : place.parent? ≠ some j) (notHung : c ≠ some j) :
    (t.setPlace place c).nodes.get? j = t.nodes.get? j := by
  rw [get?_setPlace]
  cases place with
  | root => simp [notHung]
  | child p side =>
    have other : j ≠ p := fun same => notAbove (congrArg some same.symm)
    simp [notHung, other]

@[simp] theorem issued_setPlace (t : LinkedTree S α) (place : Place) (c : Option Key) (k : Key) :
    (t.setPlace place c).nodes.Issued k ↔ t.nodes.Issued k := by
  cases place <;> cases c <;> simp [setPlace, setChild, setParent]

end LinkedTree

namespace Context

@[simp] theorem parent?_place (C : Context (Key × α)) : (place C).parent? = above C := by
  cases C <;> rfl

variable {t : LinkedTree S α} {C : Context (Key × α)} {s : Shape (Key × α)}

/-- A node that stands in a context hangs where the context says. -/
theorem placeOf_eq_place {k : Key} {node : Node α} (stands : Stands t.nodes (some k) C)
    (parent : node.parent = above C) (outside : k ∉ keys C) : t.placeOf k node = place C := by
  cases C with
  | nil => rw [LinkedTree.placeOf, parent]; rfl
  | cons f C =>
    rw [keys_cons, List.mem_cons, List.mem_append, not_or, not_or] at outside
    have notSibling : f.sibling.topKey ≠ some k := fun top => outside.2.1 (Shape.topKey_mem top)
    rw [LinkedTree.placeOf, parent]
    simp only [above_cons, stands.1, Option.bind_some, place]
    unfold Frame.node
    cases f.side <;> simp [notSibling]

/-- A context stands around whatever is hung into its place. -/
theorem stands_setPlace {hole c : Option Key} (stands : Stands t.nodes hole C)
    (nodup : (keys C).Nodup) (apart : ∀ k, c = some k → k ∉ keys C) :
    Stands (t.setPlace (place C) c).nodes c C := by
  cases C with
  | nil => trivial
  | cons f C =>
    obtain ⟨here, sibling, outer⟩ := stands
    rw [keys_cons, List.nodup_cons] at nodup
    rw [keys_cons] at apart
    have kept : ∀ k ∈ f.sibling.keys ++ keys C,
        (t.setPlace (place (f :: C)) c).nodes.get? k = t.nodes.get? k := by
      intro k mem
      refine LinkedTree.get?_setPlace_of_ne _ ?_ fun hung =>
        apart k hung (List.mem_cons_of_mem _ mem)
      rintro ⟨rfl⟩
      exact nodup.1 mem
    refine ⟨?_, (hangs_congr fun k h => kept k (List.mem_append_left _ h)).2 sibling,
      (stands_congr fun k h => kept k (List.mem_append_right _ h)).2 outer⟩
    have notHung : c ≠ some f.label.1 := fun hung => apart _ hung List.mem_cons_self
    simp [LinkedTree.get?_setPlace, here, place, notHung]

/-- A piece that is hung into a place names the node above the place as its parent. -/
theorem hangs_setPlace {parent : Option Key} (hangs : Hangs t.nodes parent s)
    (nodup : s.keys.Nodup) (apart : ∀ k ∈ s.keys, k ∉ keys C) :
    Hangs (t.setPlace (place C) s.topKey).nodes (above C) s := by
  have notAbove : ∀ k ∈ s.keys, (place C).parent? ≠ some k := by
    intro k mem h
    rw [parent?_place] at h
    exact apart k mem (above_mem h)
  refine hangs_reparent nodup hangs (fun k top => ?_) fun k mem below =>
    LinkedTree.get?_setPlace_of_ne _ (notAbove k mem) below
  have other := notAbove k (Shape.topKey_mem top)
  rw [LinkedTree.get?_setPlace]
  cases h : place C with
  | root => simp [top, ← parent?_place, h, Place.parent?]
  | child p side =>
    have ne : k ≠ p := by
      rintro rfl
      exact other (by rw [h]; rfl)
    simp [top, ne, ← parent?_place, h]

/-- Relinking a place sets the root if no frame is above. -/
theorem rootKey_setPlace {hole : Option Key} (root : t.rootKey = top C hole) (c : Option Key) :
    (t.setPlace (place C) c).rootKey = top C c := by
  cases C with
  | nil => cases c <;> rfl
  | cons f C => cases c <;> exact root

/-- A piece of any origin, hung into a standing context, makes a whole. -/
theorem hangs_plug_setPlace {hole parent : Option Key} (stands : Stands t.nodes hole C)
    (hangs : Hangs t.nodes parent s) (nodup : (plug C s).keys.Nodup) :
    Hangs (t.setPlace (place C) s.topKey).nodes none (plug C s) := by
  rw [nodup_keys_plug] at nodup
  obtain ⟨nodupS, nodupC, apart⟩ := nodup
  exact hangs_plug.2 ⟨stands_setPlace stands nodupC fun k top => apart k (Shape.topKey_mem top),
    hangs_setPlace hangs nodupS apart⟩

end Context

end Substrate
