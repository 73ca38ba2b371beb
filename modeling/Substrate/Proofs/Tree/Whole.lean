import Substrate.Proofs.Tree.Hanging

/-!
# Substrate.Proofs.Tree.Whole

A tree *has a shape* when its nodes are those of the shape, linked as in the shape, and no others.
A shape of this kind fixes the contents of the tree, and the number of its nodes (`HasShape.size`).
-/

namespace Substrate

variable {S : Type → Type} [SlotMap S] {α : Type}

/-- A piece without repetition has at most as many nodes as the arena. -/
theorem size_le_of_hangs {nodes : Arena S (Node α)} {parent : Option Key} {s : Shape (Key × α)}
    (hangs : Hangs nodes parent s) (nodup : s.keys.Nodup) : s.size ≤ nodes.size := by
  rw [← s.length_keys]
  exact Arena.length_le_size nodup fun k mem => get?_of_hangs hangs mem

/-! ## Whole trees -/

namespace LinkedTree

/-- What hangs from the root is `s`. -/
structure Bears (t : LinkedTree S α) (s : Shape (Key × α)) : Prop where
  root : t.rootKey = s.topKey
  hangs : Hangs t.nodes none s
  nodup : s.keys.Nodup

/-- The tree consists of the nodes of `s`, linked as in `s`. -/
structure HasShape (t : LinkedTree S α) (s : Shape (Key × α)) : Prop extends Bears t s where
  covers : ∀ k node, t.nodes.get? k = some node → k ∈ s.keys

/-- A new tree has the empty shape. -/
theorem hasShape_empty (id : TreeId) : (empty α id : LinkedTree S α).HasShape .nil where
  root := rfl
  hangs := trivial
  nodup := List.nodup_nil
  covers := fun k node found => by simp [empty] at found

theorem hasShape_clear (t : LinkedTree S α) : t.clear.state.HasShape .nil where
  root := rfl
  hangs := trivial
  nodup := List.nodup_nil
  covers := fun k node found => by simp [clear] at found

namespace HasShape

variable {t : LinkedTree S α} {s : Shape (Key × α)}

/-- The names in the shape are the keys that have a node. -/
theorem mem_iff (h : t.HasShape s) (k : Key) : k ∈ s.keys ↔ ∃ node, t.nodes.get? k = some node :=
  ⟨get?_of_hangs h.hangs, fun ⟨node, found⟩ => h.covers k node found⟩

/-- The number of nodes of a tree is that of its shape. -/
theorem size (h : t.HasShape s) : t.size = s.size := by
  rw [← s.length_keys]
  exact Arena.size_eq_length h.nodup h.mem_iff

theorem root_eq (h : t.HasShape s) : t.root = t.handle s.topKey := congrArg t.handle h.root

/-- The names in the shape were issued. -/
theorem issued (h : t.HasShape s) {k : Key} (mem : k ∈ s.keys) : t.nodes.Issued k := by
  obtain ⟨node, found⟩ := (h.mem_iff k).1 mem
  exact Arena.issued_of_get? found

/-- The next node has a name that no node has. -/
theorem nextKey_not_mem (h : t.HasShape s) : t.nodes.nextKey ∉ s.keys := fun mem =>
  t.nodes.not_issued_nextKey (h.issued mem)

end HasShape

/-! ## Pieces of a tree -/

/-- What hangs from the root, down to a place, is `C`; the node above the place names `hole`. -/
structure Opens (t : LinkedTree S α) (C : Context (Key × α)) (hole : Option Key) : Prop where
  root : t.rootKey = C.top hole
  stands : C.Stands t.nodes hole

variable {t t' : LinkedTree S α} {C : Context (Key × α)} {s : Shape (Key × α)}

/-- A tree bears a plugged context if its place is open and the piece hangs there. -/
theorem bears_plug_iff :
    t.Bears (C.plug s) ↔
      t.Opens C s.topKey ∧ Hangs t.nodes C.above s ∧ (C.plug s).keys.Nodup := by
  constructor
  · rintro ⟨root, hangs, nodup⟩
    obtain ⟨stands, filling⟩ := Context.hangs_plug.1 hangs
    exact ⟨⟨root.trans (C.topKey_plug s), stands⟩, filling, nodup⟩
  · rintro ⟨⟨root, stands⟩, filling, nodup⟩
    exact ⟨root.trans (C.topKey_plug s).symm, Context.hangs_plug.2 ⟨stands, filling⟩, nodup⟩

/-- What stands in a place hangs from the node above it. -/
theorem HasShape.hangs_piece (h : t.HasShape (C.plug s)) : Hangs t.nodes C.above s :=
  (Context.hangs_plug.1 h.hangs).2

/-- What stands in a place does not occur around it. -/
theorem HasShape.apart (h : t.HasShape (C.plug s)) : ∀ k ∈ s.keys, k ∉ C.keys :=
  (Context.nodup_keys_plug.1 h.nodup).2.2

/-- Only the root and the nodes of the shape matter. -/
theorem Bears.congr (h : t.Bears s) (root : t'.rootKey = t.rootKey)
    (same : ∀ k ∈ s.keys, t'.nodes.get? k = t.nodes.get? k) : t'.Bears s :=
  ⟨root.trans h.root, (hangs_congr same).2 h.hangs, h.nodup⟩

theorem Opens.congr {hole : Option Key} (h : t.Opens C hole) (root : t'.rootKey = t.rootKey)
    (same : ∀ k ∈ C.keys, t'.nodes.get? k = t.nodes.get? k) : t'.Opens C hole :=
  ⟨root.trans h.root, (Context.stands_congr same).2 h.stands⟩

/-- A piece of any origin, hung into an open place, completes the tree. -/
theorem Opens.bears_setPlace {hole parent : Option Key} (h : t.Opens C hole)
    (hangs : Hangs t.nodes parent s) (nodup : (C.plug s).keys.Nodup) :
    (t.setPlace C.place s.topKey).Bears (C.plug s) where
  root := (Context.rootKey_setPlace h.root _).trans (C.topKey_plug s).symm
  hangs := Context.hangs_plug_setPlace h.stands hangs nodup
  nodup := nodup

/-- A node of a tree with what surrounds it and what hangs below it. -/
structure Located (t : LinkedTree S α) (s : Shape (Key × α)) (k : Key) (node : Node α)
    (C : Context (Key × α)) (l r : Shape (Key × α)) : Prop where
  shape : s = C.plug (.node (k, node.data) l r)
  opens : t.Opens C (some k)
  hangs : Hangs t.nodes C.above (.node (k, node.data) l r)
  node_eq : node = ⟨C.above, l.topKey, r.topKey, node.data⟩
  outside : k ∉ C.keys

/-- A node of the shape has a place in it. -/
theorem Bears.exists_located (h : t.Bears s) {k : Key} {node : Node α} (mem : k ∈ s.keys)
    (found : t.nodes.get? k = some node) : ∃ C l r, t.Located s k node C l r := by
  obtain ⟨C, v, l, r, rfl⟩ := Context.exists_plug mem
  obtain ⟨opens, hangs, nodup⟩ := bears_plug_iff.1 h
  have same : node = ⟨C.above, l.topKey, r.topKey, v⟩ := by
    rw [hangs.1] at found
    exact (Option.some.inj found).symm
  subst same
  refine ⟨C, l, r, rfl, opens, hangs, rfl, ?_⟩
  exact (Context.nodup_keys_plug.1 nodup).2.2 k (by simp)

namespace Located

variable {k : Key} {node : Node α} {l r : Shape (Key × α)}

theorem placeOf (at? : t.Located s k node C l r) : t.placeOf k node = C.place :=
  Context.placeOf_eq_place at?.opens.stands (by rw [at?.node_eq]) at?.outside

theorem child (at? : t.Located s k node C l r) (side : Side) :
    node.child side = ((Shape.node (k, node.data) l r).child side).topKey := by
  cases side
  · exact congrArg Node.left at?.node_eq
  · exact congrArg Node.right at?.node_eq

/-- An edit at the node changes what hangs there and nothing around it. -/
theorem editAt (at? : t.Located s k node C l r) (f : Shape (Key × α) → Shape (Key × α)) :
    s.editAt k f = C.plug (f (.node (k, node.data) l r)) := by
  rw [at?.shape, Context.editAt_plug f at?.outside, Shape.editAt, if_pos rfl]

/-- The subtree at a node is what hangs there. -/
theorem sub? (at? : t.Located s k node C l r) : s.sub? k = some (.node (k, node.data) l r) := by
  rw [at?.shape]
  exact Context.sub?_plug at?.outside

/-- What an edit makes of the subtree at the node is in the shape afterwards. -/
theorem mem_keys_editAt (at? : t.Located s k node C l r) {f : Shape (Key × α) → Shape (Key × α)}
    {j : Key} (mem : j ∈ (f (.node (k, node.data) l r)).keys) : j ∈ (s.editAt k f).keys := by
  rw [at?.editAt, Context.mem_keys_plug]
  exact .inl mem

end Located

end LinkedTree

end Substrate
