import Substrate.Proofs.Registers
import Substrate.Proofs.Tree.Splicing
import Substrate.Proofs.Tree.Walking

/-!
# Substrate.Proofs.Tree.Coherence

The links of a tree agree with each other in every state that edits can lead to. `Coherent` is what
agreement means; a tree that has a shape is coherent (`HasShape.coherent`), and commands, accepted
or refused, at handles of any kind, leave every tree of a forest with some shape
(`Forest.wellLinked_step`, `Forest.wellLinked_run`). The main result is `Forest.coherent_of_run`.
-/

namespace Substrate

variable {S : Type → Type} [SlotMap S] {α : Type}

namespace LinkedTree

/-! ## Coherent trees -/

/-- The links up, the links down, the root and the arena describe one and the same tree. -/
structure Coherent (t : LinkedTree S α) : Prop where
  /-- No node without a root, and no root without a node. -/
  empty_iff : t.size = 0 ↔ t.rootKey = none
  /-- The root is a node without a parent. -/
  root : ∀ k, t.rootKey = some k → ∃ node, t.nodes.get? k = some node ∧ node.parent = none
  /-- A child is a node that names its parent. -/
  child : ∀ k node side c, t.nodes.get? k = some node → node.child side = some c →
    ∃ below, t.nodes.get? c = some below ∧ below.parent = some k
  /-- No node is on both sides of another. -/
  distinct : ∀ k node c, t.nodes.get? k = some node → node.left = some c → node.right ≠ some c
  /-- A node other than the root names a node as its parent, and is its child on one side. -/
  parent : ∀ k node, t.nodes.get? k = some node → t.rootKey ≠ some k →
    ∃ p above side, node.parent = some p ∧ t.nodes.get? p = some above ∧
      above.child side = some k ∧ above.child side.opposite ≠ some k
  /-- The way up from a node ends at the root, in fewer steps than there are nodes. -/
  climb : ∀ k node, t.nodes.get? k = some node →
    ∃ n < t.size, t.walk (t.handle (some k)) (List.replicate n .up) = .ok t.root
  /-- Some way down from the root ends at the node. -/
  descend : ∀ k node, t.nodes.get? k = some node →
    ∃ sides : List Side, t.walk t.root (sides.map .down) = .ok (t.handle (some k))
  /-- The walk over what hangs from the root meets the nodes of the arena. -/
  met : ∀ k node, (k, node) ∈ t.preorder ↔ t.nodes.get? k = some node
  /-- It meets none of them twice. -/
  nodup : (t.preorder.map Prod.fst).Nodup
  /-- The size is the number of nodes that hang from the root. -/
  size_eq : t.size = t.preorder.length

variable {t : LinkedTree S α} {s : Shape (Key × α)} {k : Key} {node : Node α}

/-- Every node in the arena has a place in the shape. -/
theorem HasShape.exists_located_of_get? (h : t.HasShape s) (found : t.nodes.get? k = some node) :
    ∃ C l r, t.Located s k node C l r :=
  h.toBears.exists_located (h.covers k node found) found

theorem HasShape.empty_iff (h : t.HasShape s) : t.size = 0 ↔ t.rootKey = none := by
  rw [h.size, h.root]
  cases s with
  | nil => simp [Shape.size]
  | node x l r => simp [Shape.size]

/-- A child link leads to a node that names its parent. -/
theorem HasShape.get?_child (h : t.HasShape s) {side : Side} {c : Key}
    (found : t.nodes.get? k = some node) (link : node.child side = some c) :
    ∃ below, t.nodes.get? c = some below ∧ below.parent = some k := by
  obtain ⟨C, l, r, at?⟩ := h.exists_located_of_get? found
  rw [at?.child side] at link
  obtain ⟨-, left, right⟩ := at?.hangs
  cases side
  · exact get?_of_hangs_top left link
  · exact get?_of_hangs_top right link

/-- No node is both children of another one. -/
theorem HasShape.right_ne (h : t.HasShape s) {c : Key} (found : t.nodes.get? k = some node)
    (left : node.left = some c) : node.right ≠ some c := by
  intro right
  obtain ⟨C, l, r, at?⟩ := h.exists_located_of_get? found
  have topL : l.topKey = some c := (at?.child .left).symm.trans left
  have topR : r.topKey = some c := (at?.child .right).symm.trans right
  have nodup : (C.plug (.node (k, node.data) l r)).keys.Nodup := at?.shape ▸ h.nodup
  have below := (Context.nodup_keys_plug.1 nodup).1
  rw [Shape.keys_node, List.nodup_cons, List.nodup_append] at below
  exact below.2.2.2 c (Shape.topKey_mem topL) c (Shape.topKey_mem topR) rfl

/-- Every node but the root hangs on exactly one side of its parent. -/
theorem HasShape.exists_parent (h : t.HasShape s) (found : t.nodes.get? k = some node)
    (notRoot : t.rootKey ≠ some k) :
    ∃ p above side, node.parent = some p ∧ t.nodes.get? p = some above ∧
      above.child side = some k ∧ above.child side.opposite ≠ some k := by
  obtain ⟨C, l, r, at?⟩ := h.exists_located_of_get? found
  cases C with
  | nil => exact absurd at?.opens.root notRoot
  | cons f C =>
    have outside := at?.outside
    rw [Context.keys_cons, List.mem_cons, List.mem_append, not_or, not_or] at outside
    have parent : node.parent = some f.label.1 := congrArg Node.parent at?.node_eq
    refine ⟨f.label.1, _, f.side, parent, at?.opens.stands.1, f.child_node _ _, ?_⟩
    rw [f.child_opposite_node]
    exact fun top => outside.2.1 (Shape.topKey_mem top)

/-- A tree that has a shape is coherent. -/
theorem HasShape.coherent (h : t.HasShape s) : t.Coherent where
  empty_iff := h.empty_iff
  root := fun k root => get?_of_hangs_top h.hangs (h.root.symm.trans root)
  child := fun k node side c => h.get?_child
  distinct := fun k node c => h.right_ne
  parent := fun k node => h.exists_parent
  climb := by
    intro k node found
    obtain ⟨C, l, r, at?⟩ := h.exists_located_of_get? found
    have whole : t.Bears (C.plug (.node (k, node.data) l r)) := at?.shape ▸ h.toBears
    have top : (Shape.node (k, node.data) l r).topKey = some k := rfl
    refine ⟨C.length, ?_, whole.walk_up top⟩
    rw [h.size, at?.shape]
    exact Context.length_lt_size_plug top
  descend := by
    intro k node found
    obtain ⟨C, l, r, at?⟩ := h.exists_located_of_get? found
    have whole : t.Bears (C.plug (.node (k, node.data) l r)) := at?.shape ▸ h.toBears
    exact ⟨C.sides, whole.walk_down rfl⟩
  met := by
    intro k node
    rw [h.preorder_eq, mem_entries]
    exact ⟨fun mem => mem.2, fun found => ⟨h.covers k node found, found⟩⟩
  nodup := by
    rw [h.preorder_eq, keys_entries fun k mem => (h.mem_iff k).1 mem]
    exact h.nodup
  size_eq := by
    have keys := congrArg List.length (keys_entries fun k mem => (h.mem_iff k).1 mem)
    rw [List.length_map, s.length_keys] at keys
    rw [h.preorder_eq, h.size, keys]

/-! ## Edits keep trees whole -/

/-- The nodes and links of the tree make up some shape. -/
def WellLinked (t : LinkedTree S α) : Prop := ∃ s, t.HasShape s

/-- What a well-linked tree satisfies, link by link. -/
theorem WellLinked.coherent (h : t.WellLinked) : t.Coherent := by
  obtain ⟨s, shape⟩ := h
  exact shape.coherent

theorem wellLinked_empty (id : TreeId) : (empty α id : LinkedTree S α).WellLinked :=
  ⟨_, hasShape_empty id⟩

theorem wellLinked_clear (t : LinkedTree S α) : t.clear.state.WellLinked := ⟨_, hasShape_clear t⟩

namespace WellLinked

variable {other : LinkedTree S α}

theorem assign (h : other.WellLinked) (t : LinkedTree S α) : (t.assign other).state.WellLinked := by
  obtain ⟨d, shape⟩ := h
  obtain ⟨c, -, -, assigned, -⟩ := exists_hasShape_assign shape t
  exact ⟨c, assigned⟩

theorem clone (h : t.WellLinked) (id : TreeId) : (t.clone id).WellLinked := h.assign _

theorem subtree (h : t.WellLinked) {hd : Handle} {id : TreeId} {tree : LinkedTree S α}
    (copied : t.subtree hd id = .ok tree) : tree.WellLinked := by
  obtain ⟨s, shape⟩ := h
  rcases t.resolve_cases hd with ⟨e, refused⟩ | ⟨k, node, accepted⟩
  · rw [LinkedTree.subtree, refused] at copied
    cases copied
  · obtain ⟨tree', u, c, copied', -, -, shape', -⟩ := shape.exists_hasShape_subtree accepted id
    rw [copied] at copied'
    cases copied'
    exact ⟨c, shape'⟩

theorem insert (h : t.WellLinked) (splice : Splice) (hd : Handle) (v : α) :
    (t.insert splice hd v).state.WellLinked := by
  obtain ⟨s, shape⟩ := h
  rcases shape.insert_cases splice hd v with ⟨e, refused, -⟩ | ⟨k, node, -, edited⟩ |
    ⟨keep, -, -, -, edited⟩
  · rw [refused]
    exact ⟨s, shape⟩
  · exact ⟨_, edited.shape⟩
  · exact ⟨_, edited.shape⟩

/-- A chain of insertions keeps the tree well linked, wherever it breaks off. -/
theorem insertChain (h : t.WellLinked) (hd : Handle) (chain : List (Link α)) :
    (t.insertChain hd chain).state.WellLinked := by
  induction chain generalizing t hd with
  | nil => exact h
  | cons link rest ih =>
    have first : (t.insertLink hd link).state.WellLinked := by
      rw [(insertLink_eq t hd link).2]
      exact h.insert link.splice hd link.payload
    rw [LinkedTree.insertChain]
    split
    · exact first
    · exact ih first _

/-- Merging a well-linked tree in keeps the tree well linked, whatever the handle. -/
theorem merge (h : t.WellLinked) (hd : Handle) (ho : other.WellLinked) :
    (t.merge hd other).state.WellLinked := by
  obtain ⟨s, shape⟩ := h
  obtain ⟨d, shapeO⟩ := ho
  rcases t.resolve_cases hd with ⟨e, refused⟩ | ⟨k, node, accepted⟩
  · rw [LinkedTree.merge, refused]
    exact ⟨s, shape⟩
  · obtain ⟨c, -, -, edited⟩ := shape.edited_merge accepted shapeO
    exact ⟨_, edited.shape⟩

theorem erase (h : t.WellLinked) (hd : Handle) : (t.erase hd).state.WellLinked := by
  obtain ⟨s, shape⟩ := h
  rcases t.resolve_cases hd with ⟨e, refused⟩ | ⟨k, node, accepted⟩
  · rw [LinkedTree.erase, refused]
    exact ⟨s, shape⟩
  · exact ⟨_, (shape.edited_erase accepted).shape⟩

theorem eraseChild (h : t.WellLinked) (side : Side) (hd : Handle) :
    (t.eraseChild side hd).state.WellLinked := by
  obtain ⟨s, shape⟩ := h
  rcases t.resolve_cases hd with ⟨e, refused⟩ | ⟨k, node, accepted⟩
  · rw [LinkedTree.eraseChild, refused]
    exact ⟨s, shape⟩
  · exact ⟨_, (shape.edited_eraseChild accepted side).shape⟩

theorem reserve (h : t.WellLinked) (side : Side) (hd : Handle) :
    (t.reserve side hd).state.WellLinked := by
  obtain ⟨s, shape⟩ := h
  rcases t.resolve_cases hd with ⟨e, refused⟩ | ⟨k, node, accepted⟩
  · rw [LinkedTree.reserve, refused]
    exact ⟨s, shape⟩
  · exact ⟨_, (shape.edited_reserve accepted side).shape⟩

theorem setData (h : t.WellLinked) (hd : Handle) (v : α) :
    (t.setData hd v).state.WellLinked := by
  obtain ⟨s, shape⟩ := h
  rcases t.resolve_cases hd with ⟨e, refused⟩ | ⟨k, node, accepted⟩
  · rw [LinkedTree.setData, refused]
    exact ⟨s, shape⟩
  · exact ⟨_, (shape.hasShape_setData accepted v).1⟩

end WellLinked

end LinkedTree

/-! ## Runs of commands -/

namespace Forest

/-- The forest after some commands, whether they were accepted or not. -/
def run (f : Forest S α) (edits : List (Edit Handle α)) : Forest S α :=
  edits.foldl (fun f e => (f.step e).state) f

theorem run_append (f : Forest S α) (past future : List (Edit Handle α)) :
    f.run (past ++ future) = (f.run past).run future :=
  List.foldl_append

def WellLinked (f : Forest S α) : Prop :=
  ∀ (t : Nat) (tree : LinkedTree S α), f.trees[t]? = some tree → tree.WellLinked

variable {f : Forest S α}

/-- Putting a well-linked tree into a register keeps the forest well linked. -/
theorem wellLinked_insert (h : f.WellLinked) {t : Nat} {tree : LinkedTree S α}
    (whole : tree.WellLinked) (nextId : TreeId) :
    WellLinked { trees := f.trees.insert t tree, nextId } := by
  intro u tree' held
  rw [Registers.getElem?_insert] at held
  split at held
  · exact Option.some.inj held ▸ whole
  · exact h u tree' held

omit [SlotMap S] in
/-- An operation on the tree in a register leaves the others alone. -/
theorem trees_onTree {ρ : Type} {t : Nat} {tree : LinkedTree S α} (held : f.trees[t]? = some tree)
    (ofReply : ρ → Reply) (operation : LinkedTree S α → Outcome (LinkedTree S α) ρ α) (u : Nat) :
    (f.onTree t ofReply operation).state.trees[u]? =
      if u = t then some (operation tree).state else f.trees[u]? := by
  rw [onTree, held]
  exact Registers.getElem?_insert _ _ _ _

/-- An operation that keeps a tree well linked does so in a register. -/
theorem wellLinked_onTree {ρ : Type} (h : f.WellLinked) (t : Nat) (ofReply : ρ → Reply)
    {operation : LinkedTree S α → Outcome (LinkedTree S α) ρ α}
    (keeps : ∀ tree, tree.WellLinked → (operation tree).state.WellLinked) :
    (f.onTree t ofReply operation).state.WellLinked := by
  rw [onTree]
  split
  · exact h
  · next tree held => exact wellLinked_insert h (keeps tree (h t tree held)) _

theorem wellLinked_onTrees {ρ : Type} (h : f.WellLinked) (t u : Nat) (ofReply : ρ → Reply)
    {operation : LinkedTree S α → LinkedTree S α → Outcome (LinkedTree S α) ρ α}
    (keeps : ∀ tree other, tree.WellLinked → other.WellLinked →
      (operation tree other).state.WellLinked) :
    (f.onTrees t u ofReply operation).state.WellLinked := by
  rw [onTrees]
  split
  · exact h
  · next other held =>
      exact wellLinked_onTree h t ofReply fun tree whole => keeps tree other whole (h u other held)

/-- A command, accepted or refused, leaves every tree well linked. -/
theorem wellLinked_step (h : f.WellLinked) (e : Edit Handle α) : (f.step e).state.WellLinked := by
  cases e with
  | create t => exact wellLinked_insert h (LinkedTree.wellLinked_empty _) _
  | discard t =>
    intro u tree held
    rw [step, Registers.getElem?_erase] at held
    split at held
    · cases held
    · exact h u tree held
  | clone t u =>
    rw [step]
    split
    · exact h
    · next other held => exact wellLinked_insert h ((h u other held).clone _) _
  | subtree t u hd =>
    rw [step]
    split
    · exact h
    · next other held =>
        split
        · exact h
        · next tree copied => exact wellLinked_insert h ((h u other held).subtree copied) _
  | take t u =>
    rw [step]
    split
    · exact h
    · next tree held =>
        exact wellLinked_insert (wellLinked_insert h (h t tree held) _)
          (LinkedTree.wellLinked_empty _) _
  | swap t u =>
    rw [step]
    split
    · next tree other heldT heldU =>
        exact wellLinked_insert (wellLinked_insert h (h u other heldU) f.nextId) (h t tree heldT) _
    · exact h
  | assign t u => exact wellLinked_onTrees h t u _ fun tree _ _ whole => whole.assign tree
  | merge t hd u => exact wellLinked_onTrees h t u _ fun _ _ whole wholeO => whole.merge hd wholeO
  | clear t => exact wellLinked_onTree h t _ fun tree _ => LinkedTree.wellLinked_clear tree
  | insert t splice hd v => exact wellLinked_onTree h t _ fun _ whole => whole.insert splice hd v
  | emplace t splice hd v =>
    refine wellLinked_onTree h t _ fun tree whole => ?_
    rw [LinkedTree.emplaceWatched_eq]
    exact whole.insert splice hd v
  | insertChain t hd chain =>
    exact wellLinked_onTree h t _ fun _ whole => whole.insertChain hd chain
  | erase t hd => exact wellLinked_onTree h t _ fun _ whole => whole.erase hd
  | eraseChild t side hd => exact wellLinked_onTree h t _ fun _ whole => whole.eraseChild side hd
  | reserve t side hd => exact wellLinked_onTree h t _ fun _ whole => whole.reserve side hd
  | setData t hd v => exact wellLinked_onTree h t _ fun _ whole => whole.setData hd v

/-- What one command preserves, a run preserves. -/
theorem wellLinked_run (h : f.WellLinked) (edits : List (Edit Handle α)) :
    (f.run edits).WellLinked := by
  induction edits generalizing f with
  | nil => exact h
  | cons e edits ih => exact ih (wellLinked_step h e)

theorem wellLinked_init : WellLinked ({} : Forest S α) := by
  intro t tree held
  simp at held

/-- Whatever commands are run, in any order and with any handles, every tree stays coherent. -/
theorem coherent_of_run (edits : List (Edit Handle α)) {t : Nat} {tree : LinkedTree S α}
    (held : (run {} edits).trees[t]? = some tree) : tree.Coherent :=
  (wellLinked_run wellLinked_init edits t tree held).coherent

/-- Two nodes, and a refused insertion at a handle whose node never was. -/
theorem coherent_of_refused_insertion :
    let grown : LinkedTree Cells Nat :=
      { nodes := ⟨⟨#[some ⟨none, some 1, none, 7⟩, some ⟨some 0, none, none, 8⟩]⟩⟩
        rootKey := some 0, id := 1 }
    (run ({} : Forest Cells Nat) [.create 0, .insert 0 (.above .left) .null 7,
      .insert 0 (.below .left .left) ⟨some 0, 1⟩ 8,
      .insert 0 (.above .left) ⟨some 5, 1⟩ 9]).trees[0]? = some grown ∧ grown.Coherent := by
  have held : (run ({} : Forest Cells Nat) [.create 0, .insert 0 (.above .left) .null 7,
      .insert 0 (.below .left .left) ⟨some 0, 1⟩ 8,
      .insert 0 (.above .left) ⟨some 5, 1⟩ 9]).trees[0]? =
        some ⟨⟨⟨#[some ⟨none, some 1, none, 7⟩, some ⟨some 0, none, none, 8⟩]⟩⟩, some 0, 1⟩ := rfl
  exact ⟨held, coherent_of_run _ held⟩

end Forest

end Substrate
