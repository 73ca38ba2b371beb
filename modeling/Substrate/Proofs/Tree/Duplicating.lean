import Substrate.Proofs.Tree.Copying
import Substrate.Proofs.Tree.Linked
import Substrate.Proofs.Tree.Stock

/-!
# Substrate.Proofs.Tree.Duplicating

Copies from a coherent tree into any other, by a loop that counts no steps. `Expands` is that loop:
it takes the first pending pair of a node and its copy, copies the children of the node, puts them
in front, and ends when nothing is pending. It says which payloads are cloned on the way, and can go
on only where each node that is looked up is there.

The loop expands the right child of a node before the left one, each with all below it, so it copies
what is below a node as the recursion `LinkedTree.copyBelow` does before it goes on with what else
is pending (`expands_append`). Its steps are not bounded beforehand, and there is no other way for
it to end (`Expands.unique`).

The main result is `duplicates_of_coherent`.
-/

namespace Substrate

variable {S : Type → Type} [SlotMap S] {α : Type}

namespace Shape

/-- The names below the top in the order in which the loop copies them. -/
def copyOrder : Shape (Key × α) → List Key
  | .nil => []
  | .node _ l r => l.topKey.toList ++ r.topKey.toList ++ (r.copyOrder ++ l.copyOrder)

/-- With the top, these are all names of the shape. -/
theorem copyOrder_perm (s : Shape (Key × α)) : (s.topKey.toList ++ s.copyOrder).Perm s.keys := by
  induction s with
  | nil => exact List.Perm.refl _
  | node x l r ihl ihr =>
    have parts : (l.topKey.toList ++ r.topKey.toList ++ (r.copyOrder ++ l.copyOrder)).Perm
        (l.topKey.toList ++ l.copyOrder ++ (r.topKey.toList ++ r.copyOrder)) := by
      rw [List.append_assoc, List.append_assoc, ← List.append_assoc r.topKey.toList]
      exact List.perm_append_comm.append_left _
    rw [keys_node]
    exact (parts.trans (ihl.append ihr)).cons x.1

end Shape

namespace LinkedTree

/-! ## The loop -/

/-- From `t` and the pending pairs, the loop ends in `t'`. On the way the payloads of the nodes in
`cloned` are cloned, in that order. -/
inductive Expands (source : Arena S (Node α)) :
    LinkedTree S α → List (Key × Key) → List Key → LinkedTree S α → Prop
  | done (t : LinkedTree S α) : Expands source t [] [] t
  | step {t t' : LinkedTree S α} {key copy : Key} {rest : List (Key × Key)} {node : Node α}
      {cloned : List Key} (found : source.get? key = some node)
      (children : ∀ side c, node.child side = some c → ∃ child, source.get? c = some child)
      (there : ∃ node, t.nodes.get? copy = some node)
      (later : Expands source
        (copyChild source (copyChild source t rest copy .left node.left).1
          (copyChild source t rest copy .left node.left).2 copy .right node.right).1
        (copyChild source (copyChild source t rest copy .left node.left).1
          (copyChild source t rest copy .left node.left).2 copy .right node.right).2 cloned t') :
      Expands source t ((key, copy) :: rest) (node.left.toList ++ node.right.toList ++ cloned) t'

/-- The loop ends in one way at most. -/
theorem Expands.unique {source : Arena S (Node α)} {t t₁ t₂ : LinkedTree S α}
    {pending : List (Key × Key)} {cloned₁ cloned₂ : List Key}
    (first : Expands source t pending cloned₁ t₁) (second : Expands source t pending cloned₂ t₂) :
    cloned₁ = cloned₂ ∧ t₁ = t₂ := by
  induction first generalizing cloned₂ t₂ with
  | done t =>
    cases second
    exact ⟨rfl, rfl⟩
  | step found _ _ _ ih =>
    cases second with
    | step found' _ _ later =>
      rw [found] at found'
      cases found'
      obtain ⟨rfl, rfl⟩ := ih later
      exact ⟨rfl, rfl⟩

/-! ## Nodes stay -/

/-- Copying to one side of a node removes none. -/
theorem exists_get?_bud {t : LinkedTree S α} (copy : Key) (side : Side) (s : Shape (Key × α))
    {k : Key} (there : ∃ node, t.nodes.get? k = some node) :
    ∃ node, (t.bud copy side s).nodes.get? k = some node := by
  obtain ⟨node, found⟩ := there
  cases s with
  | nil => exact ⟨node, found⟩
  | node x l r =>
    have old := Arena.ne_nextKey (Arena.issued_of_get? found)
    rw [bud, get?_setChild, nodes_addNode, Arena.get?_insert, if_neg old, found]
    exact ⟨_, rfl⟩

/-- Copying what is below a node removes none. -/
theorem exists_get?_copyBelow {t : LinkedTree S α} (copy : Key) (s : Shape (Key × α)) {k : Key}
    (there : ∃ node, t.nodes.get? k = some node) :
    ∃ node, (t.copyBelow copy s).nodes.get? k = some node := by
  induction s generalizing t copy with
  | nil => exact there
  | node x l r ihl ihr =>
    rw [copyBelow]
    exact ihl _ (ihr _ (exists_get?_bud copy .right r (exists_get?_bud copy .left l there)))

/-- The copy of a child is there once it was made. -/
theorem exists_get?_bud_nextKey {t : LinkedTree S α} (copy : Key) (side : Side)
    {s : Shape (Key × α)} {k : Key} (top : s.topKey = some k) :
    ∃ node, (t.bud copy side s).nodes.get? t.nodes.nextKey = some node := by
  cases s with
  | nil => cases top
  | node x l r =>
    rw [bud, get?_setChild, nodes_addNode, Arena.get?_insert_nextKey]
    exact ⟨_, rfl⟩

/-! ## What the loop does -/

/-- A step of the loop copies both children of the first pending node. -/
theorem expands_step {source : Arena S (Node α)} {key : Key} {parent : Option Key} {v : α}
    {l r : Shape (Key × α)} (found : source.get? key = some ⟨parent, l.topKey, r.topKey, v⟩)
    (left : Hangs source (some key) l) (right : Hangs source (some key) r) {t t' : LinkedTree S α}
    {copy : Key} {rest : List (Key × Key)} {cloned : List Key}
    (there : ∃ node, t.nodes.get? copy = some node)
    (later : Expands source ((t.bud copy .left l).bud copy .right r)
      ((r.topKey.map (·, (t.bud copy .left l).nodes.nextKey)).toList ++
        ((l.topKey.map (·, t.nodes.nextKey)).toList ++ rest)) cloned t') :
    Expands source t ((key, copy) :: rest) (l.topKey.toList ++ r.topKey.toList ++ cloned) t' := by
  refine .step found (fun side c link => ?_) there ?_
  · cases side with
    | left => exact get?_of_hangs left (Shape.topKey_mem link)
    | right => exact get?_of_hangs right (Shape.topKey_mem link)
  · rw [copyChild_eq left, copyChild_eq right]
    exact later

/-- The loop copies what is below the first pending node before it goes on. -/
theorem expands_append {source : Arena S (Node α)} {parent : Option Key} {s : Shape (Key × α)}
    (hangs : Hangs source parent s) {t t' : LinkedTree S α} {copy : Key} {rest : List (Key × Key)}
    {cloned : List Key} (there : ∀ k, s.topKey = some k → ∃ node, t.nodes.get? copy = some node)
    (later : Expands source (t.copyBelow copy s) rest cloned t') :
    Expands source t ((s.topKey.map (·, copy)).toList ++ rest) (s.copyOrder ++ cloned) t' := by
  induction s generalizing parent t copy rest cloned with
  | nil => exact later
  | node x l r ihl ihr =>
    obtain ⟨here, left, right⟩ := hangs
    -- The copy of the left child stays until it is expanded, after all that is on the right.
    have onLeft := ihl left (fun k top => exists_get?_copyBelow _ r (exists_get?_bud copy .right r
      (exists_get?_bud_nextKey copy .left top))) later
    have onRight := ihr right (fun k top => exists_get?_bud_nextKey copy .right top) onLeft
    have order : (Shape.node x l r).copyOrder ++ cloned =
        l.topKey.toList ++ r.topKey.toList ++ (r.copyOrder ++ (l.copyOrder ++ cloned)) := by
      rw [Shape.copyOrder, List.append_assoc, List.append_assoc r.copyOrder]
    rw [order]
    exact expands_step here left right (there x.1 rfl) onRight

/-- From a pair of a node and its new copy, the loop ends where the recursion ends. -/
theorem exists_expands {source : Arena S (Node α)} {parent : Option Key} {s : Shape (Key × α)}
    (hangs : Hangs source parent s) {key : Key} (top : s.topKey = some key) (t : LinkedTree S α)
    (fresh : Node α) :
    ∃ cloned, (key :: cloned).Perm s.keys ∧ Expands source (t.addNode fresh)
      [(key, t.nodes.nextKey)] cloned ((t.addNode fresh).copyBelow t.nodes.nextKey s) := by
  have added : ∃ node, (t.addNode fresh).nodes.get? t.nodes.nextKey = some node :=
    ⟨fresh, Arena.get?_insert_nextKey ..⟩
  have loop := expands_append hangs (fun _ _ => added) (.done _)
  have order := s.copyOrder_perm
  rw [List.append_nil, List.append_nil, top] at loop
  rw [top] at order
  exact ⟨s.copyOrder, order, loop⟩

/-! ## Copies from coherent trees -/

/-- From `t` to `t'` the subtree at the node `key` of `source` was copied. The piece that hangs
there is `s`, and its copy below `parent` is `c`. -/
structure Duplicates (source : Arena S (Node α)) (parent : Option Key) (key : Key) (node : Node α)
    (t t' : LinkedTree S α) (s c : Shape (Key × α)) : Prop extends Copied t t' parent s c where
  /-- What is copied hangs at the node, and has no node twice. -/
  original : Hangs source node.parent s
  top : s.topKey = some key
  distinct : s.keys.Nodup
  /-- The loop ends, in `t'`. -/
  ends : ∃ cloned, Expands source (t.addNode ⟨parent, none, none, node.data⟩)
    [(key, t.nodes.nextKey)] cloned t'
  /-- However it ends, it ends in `t'`, and the payload of each node was cloned once. -/
  once : ∀ cloned t'', Expands source (t.addNode ⟨parent, none, none, node.data⟩)
    [(key, t.nodes.nextKey)] cloned t'' → t'' = t' ∧ (key :: cloned).Perm s.keys
  /-- It ends where the recursion over the piece ends. -/
  recursive : t' = (t.addNode ⟨parent, none, none, node.data⟩).copyBelow t.nodes.nextKey s
  /-- The copy of the node has the first name issued. -/
  copyTop : c.topKey = some t.nodes.nextKey
  /-- It names the given parent. -/
  copyNode : ∃ copy, t'.nodes.get? t.nodes.nextKey = some copy ∧ copy.parent = parent
  /-- One node was added for each node of the piece, with its payload. -/
  size : t'.size = t.size + s.size
  stock : t'.stock = t.stock + s.payloads.bag

/-- A piece that hangs in an arena is duplicated by copying the subtree at its top. -/
theorem duplicates_of_hangs {source : Arena S (Node α)} {key : Key} {node : Node α}
    {s : Shape (Key × α)} (hangs : Hangs source node.parent s) (nodup : s.keys.Nodup)
    (top : s.topKey = some key) (found : source.get? key = some node) (t : LinkedTree S α)
    (parent : Option Key) :
    ∃ c, Duplicates source parent key node t (t.copySubtree source parent key node) s c := by
  obtain ⟨c, copyTop, copied⟩ := exists_copied_copySubtree hangs nodup t parent top found
  have recursive : t.copySubtree source parent key node = _ :=
    copySubtree_eq hangs nodup t parent top
  have stock := stock_copySubtree hangs nodup t parent top found
  obtain ⟨cloned, order, loop⟩ := exists_expands hangs top t ⟨parent, none, none, node.data⟩
  rw [← recursive] at loop
  refine ⟨c, ⟨copied, hangs, top, nodup, ⟨cloned, loop⟩, fun cloned' t'' loop' => ?_, recursive,
    copyTop, get?_of_hangs_top copied.hangs copyTop, ?_, stock⟩⟩
  · obtain ⟨rfl, rfl⟩ := loop.unique loop'
    exact ⟨rfl, order⟩
  · rw [size_eq_card_stock, stock, Multiset.card_add, ← size_eq_card_stock, Shape.bag_payloads,
      Multiset.card_map, Shape.bag, Multiset.coe_card, Shape.length_preorder]

/-- The subtree at any node of a coherent tree is copied below any parent into any tree. -/
theorem duplicates_of_coherent {source : LinkedTree S α} (h : source.Coherent) {key : Key}
    {node : Node α} (found : source.nodes.get? key = some node) (t : LinkedTree S α)
    (parent : Option Key) :
    ∃ s c, Duplicates source.nodes parent key node t
      (t.copySubtree source.nodes parent key node) s c := by
  obtain ⟨whole, shape⟩ := h.wellLinked
  obtain ⟨C, l, r, at?⟩ := shape.exists_located_of_get? found
  have above : node.parent = C.above := congrArg Node.parent at?.node_eq
  have hangs : Hangs source.nodes node.parent (.node (key, node.data) l r) := above ▸ at?.hangs
  have nodup := (Context.nodup_keys_plug.1 (at?.shape ▸ shape.nodup)).1
  exact ⟨_, duplicates_of_hangs hangs nodup rfl found t parent⟩

/-- The left child of a root, with its two children, is copied below another node. -/
theorem duplicates_of_left_child :
    let node : Node Nat := ⟨some 0, some 3, some 4, 8⟩
    let source : LinkedTree Cells Nat :=
      ⟨⟨⟨#[some ⟨none, some 2, some 1, 7⟩, some ⟨some 0, none, none, 9⟩, some node,
        some ⟨some 2, none, none, 4⟩, some ⟨some 2, none, none, 5⟩]⟩⟩, some 0, 1⟩
    let t : LinkedTree Cells Nat := ⟨⟨⟨#[none, some ⟨none, none, none, 1⟩]⟩⟩, some 1, 2⟩
    source.Coherent ∧ source.nodes.get? 2 = some node ∧
      t.copySubtree source.nodes (some 1) 2 node =
        ⟨⟨⟨#[none, some ⟨none, none, none, 1⟩, some ⟨some 1, some 3, some 4, 8⟩,
          some ⟨some 2, none, none, 4⟩, some ⟨some 2, none, none, 5⟩]⟩⟩, some 1, 2⟩ ∧
      ∃ s c, Duplicates source.nodes (some 1) 2 node t
        (t.copySubtree source.nodes (some 1) 2 node) s c := by
  intro node source t
  let edits : List (Forest.Edit Handle Nat) := [.create 0, .insert 0 (.above .left) .null 7,
    .insert 0 (.below .right .left) ⟨some 0, 1⟩ 9, .insert 0 (.below .left .left) ⟨some 0, 1⟩ 8,
    .insert 0 (.below .left .left) ⟨some 2, 1⟩ 4, .insert 0 (.below .right .left) ⟨some 2, 1⟩ 5]
  have held : (Forest.run {} edits).trees[0]? = some source := rfl
  have coherent := (Forest.wellLinked_run Forest.wellLinked_init edits 0 source held).coherent
  have found : source.nodes.get? 2 = some node := rfl
  exact ⟨coherent, found, rfl, duplicates_of_coherent coherent found t (some 1)⟩

end LinkedTree

end Substrate
