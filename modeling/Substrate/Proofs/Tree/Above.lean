import Substrate.Proofs.Tree.Framing
import Substrate.Proofs.Tree.Refusal

/-!
# Substrate.Proofs.Tree.Above

Splicing in above a node. The new node takes the place of a subtree, at the root or on either side
of a parent, and keeps the subtree on the side it is told to. Four links tell of this: the one that
led to the node leads to the new one, the new one leads to the node, and both name their parents.
`SplicedAbove` says that these change and nothing else does, and where the new node is met in
pre-order.

The main result is `splicesAbove_of_run`, for all states that commands lead to.
-/

namespace Substrate

variable {S : Type → Type} [SlotMap S] {α : Type}

namespace LinkedTree

/-- The outcome `o` of splicing in a node of payload `v` above the node `k`, which the new node
keeps on side `keep`. -/
structure SplicedAbove (t : LinkedTree S α)
    (o : Outcome (LinkedTree S α) (Except TreeError Handle) α) (k : Key) (node : Node α)
    (keep : Side) (v : α) : Prop where
  reply : o.reply = .ok t.nextHandle
  destroyed : o.destroyed = []
  id : o.state.id = t.id
  /-- The tree is some context around a subtree at the node. -/
  exists_plug : ∃ (C : Context (Key × α)) (u : Shape (Key × α)),
    t.HasShape (C.plug u) ∧ u.topKey = some k
  /-- Whatever context and subtree these are, the subtree hangs below the new node then, and that
  stands in the context. -/
  shape : ∀ (C : Context (Key × α)) (u : Shape (Key × α)), t.HasShape (C.plug u) →
    u.topKey = some k → o.state.HasShape (C.plug (.hang (t.nodes.nextKey, v) keep u .nil))
  fresh : t.nodes.get? t.nodes.nextKey = none
  /-- The answer denotes the new node, which has the parent that the old one had. -/
  new : o.state.resolve t.nextHandle =
    .ok (t.nodes.nextKey, Node.setChild ⟨node.parent, none, none, v⟩ keep (some k))
  /-- The old node names the new one as its parent. -/
  demoted : o.state.nodes.get? k = some { node with parent := some t.nodes.nextKey }
  /-- No other old node changes, but for a link that led to the old one. -/
  others : ∀ j other, j ≠ k → t.nodes.get? j = some other →
    o.state.nodes.get? j = some (other.redirect k (some t.nodes.nextKey))
  rootKey : o.state.rootKey = if t.rootKey = some k then some t.nodes.nextKey else t.rootKey
  isRoot : o.state.isRoot t.nextHandle = t.isRoot (t.handle (some k))
  /-- The new node is met just before the old one. -/
  listing : ∃ ahead behind, t.listing = ahead ++ (k, node.data) :: behind ∧
    o.state.listing = ahead ++ (t.nodes.nextKey, v) :: (k, node.data) :: behind

/-- What comes of splicing in above the node of a handle, and of splicing in above no node in an
empty tree. -/
structure SplicesAbove (t : LinkedTree S α) (h : Handle) (keep : Side) (v : α) : Prop where
  accepted : ∀ k node, t.resolve h = .ok (k, node) →
    t.SplicedAbove (t.insert (.above keep) h v) k node keep v
  /-- The first node of a tree is its root. -/
  first : t.MakesFirst h (.above keep) →
    t.Edited (t.insert (.above keep) h v) (.node (t.nodes.nextKey, v) .nil .nil)
      (some t.nodes.nextKey) ∧
    (t.insert (.above keep) h v).state.isRoot t.nextHandle = .ok true
  /-- A constructor of any kind runs, and what it makes is inserted. -/
  emplace : (∃ k node, t.resolve h = .ok (k, node)) ∨ t.MakesFirst h (.above keep) →
    ∀ (m : Type → Type) [Monad m] (make : m α),
      t.emplace (.above keep) h make = do return t.insert (.above keep) h (← make)

variable {t : LinkedTree S α} {s : Shape (Key × α)} {h : Handle} {k : Key} {node : Node α}

/-- A node is the root exactly if the tree names its key as the root. -/
theorem isRoot_eq_of_get? (found : t.nodes.get? k = some node) :
    t.isRoot (t.handle (some k)) = .ok (t.rootKey == some k) := by
  rw [isRoot, resolve_handle found]
  rfl

/-- The next key is not the root's, since it was never issued. -/
theorem HasShape.rootKey_ne_nextKey (shape : t.HasShape s) :
    t.rootKey ≠ some t.nodes.nextKey := by
  intro root
  exact shape.nextKey_not_mem (Shape.topKey_mem (shape.root.symm.trans root))

/-- The tree before and after a node was spliced in above the top of a subtree. -/
theorem HasShape.get?_of_hung {t' : LinkedTree S α} {C : Context (Key × α)} {u : Shape (Key × α)}
    {x : Key × α} {keep : Side} (whole : t.HasShape (C.plug u)) (top : u.topKey = some k)
    (whole' : t'.HasShape (C.plug (.hang x keep u .nil))) {j : Key}
    (found : t.nodes.get? j = some node) :
    t'.nodes.get? j = some
      (if j = k then { node with parent := some x.1 } else node.redirect k (some x.1)) := by
  have below : t'.HasShape (Context.plug (⟨keep, x, .nil⟩ :: C) u) := whole'
  have redirect := whole.relink_eq_redirect top found (some x.1)
  rcases Context.mem_keys_plug.1 (whole.covers j node found) with inU | inC
  · rw [whole.get?_piece below inU, found, top, Option.map_some]
    by_cases same : j = k
    · simp [same]
    · -- Below the old node, nothing leads to it.
      have apart : C.place.parent? ≠ some j := by
        rw [Context.parent?_place]
        intro above
        exact whole.apart j inU (Context.above_mem above)
      rw [Place.relink_of_ne apart] at redirect
      simp [same, Ne.symm same, ← redirect]
  · have other : j ≠ k := by
      rintro rfl
      exact whole.apart j (Shape.topKey_mem top) inC
    rw [whole.get?_around whole' inC, found, Option.map_some, if_neg other, Shape.topKey_hang,
      redirect]

/-- A splice above a node that the tree accepts does all that `SplicedAbove` says. -/
theorem HasShape.splicedAbove (shape : t.HasShape s) (accepted : t.resolve h = .ok (k, node))
    (keep : Side) (v : α) : t.SplicedAbove (t.insert (.above keep) h v) k node keep v := by
  have spliced : ∀ (C : Context (Key × α)) (u : Shape (Key × α)), t.HasShape (C.plug u) →
      u.topKey = some k → t.Edited (t.insert (.above keep) h v)
        (C.plug (.hang (t.nodes.nextKey, v) keep u .nil)) (some t.nodes.nextKey) :=
    fun C u whole top => whole.edited_plug top (whole.edited_insert accepted (.above keep) v)
  have destroyed : (t.insert (.above keep) h v).destroyed = [] := by
    rw [insert, site_above_of_resolve accepted]
    rfl
  generalize t.insert (.above keep) h v = o at spliced destroyed
  obtain ⟨rfl, found⟩ := resolve_eq_ok_iff.1 accepted
  obtain ⟨C, l, r, at?⟩ := shape.exists_located accepted
  have whole : t.HasShape (C.plug (.node (k, node.data) l r)) := at?.shape ▸ shape
  have top : (Shape.node (k, node.data) l r).topKey = some k := rfl
  obtain ⟨whole', reply, -, id⟩ := spliced C _ whole top
  have fresh : t.nodes.get? t.nodes.nextKey = none := Arena.get?_nextKey _
  have new := whole'.get?_hang
  rw [top, ← whole.parent_eq_above top found] at new
  have next : t.nextHandle = o.state.handle (some t.nodes.nextKey) := (handle_congr id _).symm
  have root := whole.rootKey_around whole' top
  rw [Shape.topKey_hang] at root
  refine ⟨reply, destroyed, id, ⟨C, _, whole, top⟩, fun C u whole top =>
    (spliced C u whole top).shape, fresh, ?_, ?_, fun j other ne found' => ?_, root, ?_, ?_⟩
  · rw [next]
    exact resolve_handle new
  · rw [whole.get?_of_hung top whole' found, if_pos rfl]
  · rw [whole.get?_of_hung top whole' found', if_neg ne]
  · rw [next, isRoot_eq_of_get? new, isRoot_eq_of_get? found, root]
    split
    · next is => simp [is]
    · next other =>
      rw [beq_eq_false_iff_ne.2 shape.rootKey_ne_nextKey, beq_eq_false_iff_ne.2 other]
  · refine ⟨C.ahead, l.preorder ++ r.preorder ++ C.behind, ?_, ?_⟩
    · rw [whole.listing, Context.preorder_plug]
      simp [Shape.preorder]
    · rw [whole'.listing, Context.preorder_plug, Shape.preorder_hang_nil]
      simp [Shape.preorder]

/-- What a splice above comes to, at a node, at no node, and in an empty tree. -/
theorem HasShape.splicesAbove (shape : t.HasShape s) (h : Handle) (keep : Side) (v : α) :
    t.SplicesAbove h keep v where
  accepted := fun k node accepted => shape.splicedAbove accepted keep v
  first := by
    rintro ⟨empty, unusable⟩
    obtain rfl : s = .nil := by
      refine Shape.eq_nil_of_topKey ?_
      rw [← shape.root]
      exact Option.isNone_iff_eq_none.1 empty
    have edited := shape.edited_insert_first unusable keep v
    have next : t.nextHandle = (t.insert (.above keep) h v).state.handle (some t.nodes.nextKey) :=
      (handle_congr edited.id _).symm
    refine ⟨edited, ?_⟩
    rw [next, isRoot_eq_of_get? edited.shape.hangs.1, edited.shape.root]
    simp
  emplace := by
    intro placed m _ make
    obtain ⟨site, found⟩ := exists_site placed
    exact emplace_of_site found make

end LinkedTree

namespace Forest

/-- In every state that commands lead to, splicing in above a node puts the new node between the
node and what it hung from. -/
theorem splicesAbove_of_run (edits : List (Edit Handle α)) {r : Nat} {t : LinkedTree S α}
    (held : (run {} edits).trees[r]? = some t) (h : Handle) (keep : Side) (v : α) :
    t.SplicesAbove h keep v := by
  obtain ⟨s, shape⟩ := wellLinked_run wellLinked_init edits r t held
  exact shape.splicesAbove h keep v

/-- Above the right one of two children. -/
theorem splicesAbove_of_right_child :
    let edits : List (Edit Handle Nat) := [.create 0, .insert 0 (.above .left) .null 7,
      .insert 0 (.below .left .left) ⟨some 0, 1⟩ 8, .insert 0 (.below .right .left) ⟨some 0, 1⟩ 9]
    let t : LinkedTree Cells Nat :=
      ⟨⟨⟨#[some ⟨none, some 1, some 2, 7⟩, some ⟨some 0, none, none, 8⟩,
        some ⟨some 0, none, none, 9⟩]⟩⟩, some 0, 1⟩
    (run {} edits).trees[0]? = some t ∧ t.resolve ⟨some 2, 1⟩ = .ok (2, ⟨some 0, none, none, 9⟩) ∧
      (t.insert (.above .left) ⟨some 2, 1⟩ 5).state.nodes =
        ⟨⟨#[some ⟨none, some 1, some 3, 7⟩, some ⟨some 0, none, none, 8⟩,
          some ⟨some 3, none, none, 9⟩, some ⟨some 0, some 2, none, 5⟩]⟩⟩ ∧
      t.SplicesAbove ⟨some 2, 1⟩ .left 5 := by
  intro edits t
  have held : (run {} edits).trees[0]? = some t := rfl
  exact ⟨held, rfl, rfl, splicesAbove_of_run edits held _ _ _⟩

end Forest

end Substrate
