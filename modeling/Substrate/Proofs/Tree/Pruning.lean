import Substrate.Proofs.Tree.Replacing

/-!
# Substrate.Proofs.Tree.Pruning

The edits that take nodes out. Erasing leaves nothing in the place of a node, whether that is the
root or a link of another node (`Erased`), and erasing a child does so one step further down
(`ErasedChild`). Reserving a side leaves what hangs on that side of the node in the place of the
node (`Promoted`). What else the node had with it is gone, and nothing else is: these are
replacements of one piece by another, and the payloads that come to their end are those of the nodes
whose handles turn stale.

The main results are `promoted_of_run` and `erases_of_run`, for all states that commands lead to.
-/

namespace Substrate

variable {S : Type → Type} [SlotMap S] {α : Type}

namespace LinkedTree

/-- The outcome `o` of reserving a side of the node `k`, with `kept` on that side and `other` on the
other one: in the place of all this stands `kept`. -/
structure Promoted (t : LinkedTree S α) (o : Outcome (LinkedTree S α) (Except TreeError Handle) α)
    (k : Key) (node : Node α) (side : Side) (kept other : Shape (Key × α)) : Prop extends
    t.Replaced o.state k node (.hang (k, node.data) side kept other) kept where
  hosts_kept : t.Hosts (t.handle (node.child side)) kept
  hosts_other : t.Hosts (t.handle (node.child side.opposite)) other
  /-- The answer is the handle of the promoted child, or of no node. -/
  reply : o.reply = .ok (t.handle (node.child side))
  /-- What is kept stays as it is, but for the parent of the promoted child. -/
  stays : ∀ h j below, t.resolve h = .ok (j, below) → j ∈ kept.keys →
    o.state.resolve h = .ok (j,
      if node.child side = some j then { below with parent := node.parent } else below)
  /-- Gone are the node and what is on the other side. -/
  lost_iff : ∀ h j below, t.resolve h = .ok (j, below) →
    (o.state.resolve h = .error .staleNode ↔ j = k ∨ j ∈ other.keys)
  destroyed : (o.destroyed : Multiset α) = node.data ::ₘ other.payloads.bag
  shrunk : o.state.size + (1 + other.size) = t.size

/-- The outcome `o` of erasing at the node `k`, where `u` hung. -/
structure Erased (t : LinkedTree S α) (o : Outcome (LinkedTree S α) (Except TreeError Handle) α)
    (k : Key) (node : Node α) (u : Shape (Key × α)) : Prop extends
    t.Replaced o.state k node u .nil where
  /-- The answer is the handle of the former parent, or of no node. -/
  reply : o.reply = .ok (t.handle node.parent)
  /-- The former parent stays, without its link to the node. -/
  parent : ∀ p, node.parent = some p → ∃ above, t.resolve (t.handle (some p)) = .ok (p, above) ∧
    o.state.resolve (t.handle (some p)) = .ok (p, above.redirect k none)
  /-- Erasing at the root leaves nothing. -/
  emptied : t.rootKey = some k → o.state.isEmpty = true ∧ o.state.size = 0
  destroyed : (o.destroyed : Multiset α) = u.payloads.bag

/-- The outcome `o` of erasing what hangs on a side of the node `k`, the piece `u`. -/
structure ErasedChild (t : LinkedTree S α)
    (o : Outcome (LinkedTree S α) (Except TreeError Handle) α) (h : Handle) (k : Key)
    (node : Node α) (side : Side) (u : Shape (Key × α)) : Prop where
  hosts : t.Hosts (t.handle (node.child side)) u
  reply : o.reply = .ok h
  /-- Nothing stands in the place of the child, if there was one. -/
  replaced : ∀ c, node.child side = some c →
    ∃ below, below.parent = some k ∧ t.Replaced o.state c below u .nil
  /-- Nothing happens if there was none. -/
  absent : node.child side = none → o = .keeping (.ok h) t
  /-- The node stays, without a link on that side. -/
  host : o.state.resolve h = .ok (k, node.setChild side none)
  destroyed : (o.destroyed : Multiset α) = u.payloads.bag
  /-- To do it again does nothing. -/
  again : o.state.eraseChild side h = .keeping (.ok h) o.state

/-- What comes of erasing at a handle, and on a side of its node. -/
structure Erases (t : LinkedTree S α) (h : Handle) (k : Key) (node : Node α) : Prop where
  here : ∃ u, t.Erased (t.erase h) k node u
  child : ∀ side, ∃ u, t.ErasedChild (t.eraseChild side h) h k node side u

variable {t : LinkedTree S α} {s : Shape (Key × α)} {h : Handle} {k : Key} {node : Node α}

/-! ## Promoting a child -/

/-- Reserving a child of a node that the tree accepts does all that `Promoted` says. -/
theorem HasShape.exists_promoted (shape : t.HasShape s) (accepted : t.resolve h = .ok (k, node))
    (side : Side) : ∃ kept other, t.Promoted (t.reserve side h) k node side kept other := by
  obtain ⟨C, kept, other, around, around', link, link', -⟩ := shape.exists_sides accepted side
  have whole : t.HasShape (C.plug (.hang (k, node.data) side kept other)) := around
  have top : (Shape.hang (k, node.data) side kept other).topKey = some k :=
    Shape.topKey_hang _ _ _ _
  have edited := whole.edited_plug top (whole.edited_reserve accepted side)
  rw [Shape.child_hang] at edited
  have ended := (shape.removes_reserve side h).destroyed
  rw [turnoverAt_of_resolve accepted, link', around'.payloadsBelow] at ended
  generalize t.reserve side h = o at edited ended
  obtain ⟨rfl, found⟩ := resolve_eq_ok_iff.1 accepted
  have parent := whole.parent_eq_above top found
  have replaced := whole.replaced edited.shape top found edited.id
  refine ⟨kept, other, ?_⟩
  constructor
  case toReplaced => exact replaced
  case hosts_kept => exact link ▸ around.hosts_plug
  case hosts_other => exact link' ▸ around'.hosts_plug
  case reply => exact edited.reply
  case stays =>
    intro h j below accepted' inK
    obtain ⟨rfl, found'⟩ := resolve_eq_ok_iff.1 accepted'
    -- The kept piece hung below the node, and hangs where the node did.
    have held := around.get?_piece edited.shape inK
    rw [found', ← link, ← parent] at held
    rw [← handle_congr edited.id]
    exact resolve_handle held
  case lost_iff =>
    intro h j below accepted'
    rw [replaced.stale_iff h j below accepted']
    exact Shape.mem_keys_hang_and_not_mem_iff (Context.nodup_keys_plug.1 whole.nodup).1
  case destroyed => exact ended
  case shrunk =>
    have size := replaced.size
    rw [Shape.size_hang] at size
    omega

/-! ## Erasing -/

/-- The node above a place is there, and not in the place. -/
theorem HasShape.exists_above {C : Context (Key × α)} {u : Shape (Key × α)} {p : Key}
    (whole : t.HasShape (C.plug u)) (above : C.above = some p) :
    (∃ node, t.nodes.get? p = some node) ∧ p ∉ u.keys := by
  have inC := Context.above_mem above
  constructor
  · exact (whole.mem_iff p).1 (Context.mem_keys_plug.2 (.inr inC))
  · exact fun inU => whole.apart p inU inC

theorem HasShape.exists_erased (shape : t.HasShape s) (accepted : t.resolve h = .ok (k, node)) :
    ∃ u, t.Erased (t.erase h) k node u := by
  have edited := shape.edited_erase accepted
  have ended := (shape.removes_erase h).destroyed
  obtain ⟨u, replaced⟩ := shape.exists_replaced accepted edited
  rw [turnoverAt_of_resolve accepted, replaced.payloadsBelow] at ended
  obtain ⟨C, whole⟩ := replaced.exists_plug
  obtain ⟨-, found⟩ := resolve_eq_ok_iff.1 accepted
  have parent := whole.parent_eq_above replaced.hosts.1 found
  refine ⟨u, ?_⟩
  constructor
  case toReplaced => exact replaced
  case reply => rw [edited.reply, shape.parentOf_eq accepted]
  case parent =>
    intro p up
    obtain ⟨⟨above, held⟩, outside⟩ := whole.exists_above (parent.symm.trans up)
    exact ⟨above, resolve_handle held, replaced.around _ p above (resolve_handle held) outside⟩
  case emptied =>
    intro root
    have none : (t.erase h).state.rootKey = none := by
      rw [replaced.rootKey, if_pos root]
      rfl
    exact ⟨by rw [LinkedTree.isEmpty, none]; rfl, edited.shape.empty_iff.2 none⟩
  case destroyed => exact ended

theorem HasShape.exists_erasedChild (shape : t.HasShape s)
    (accepted : t.resolve h = .ok (k, node)) (side : Side) :
    ∃ u, t.ErasedChild (t.eraseChild side h) h k node side u := by
  obtain ⟨C, c, other, around, -, link, -, -⟩ := shape.exists_sides accepted side
  have whole : t.HasShape (C.plug (.hang (k, node.data) side c other)) := around
  have top : (Shape.hang (k, node.data) side c other).topKey = some k := Shape.topKey_hang _ _ _ _
  have edited := whole.edited_plug top (whole.edited_eraseChild accepted side)
  rw [Shape.setChild_hang] at edited
  have around' : (t.eraseChild side h).state.HasShape
      (Context.plug (⟨side, (k, node.data), other⟩ :: C) .nil) := edited.shape
  have ended := (shape.removes_eraseChild side h).destroyed
  rw [turnoverAt_of_resolve accepted, link, around.payloadsBelow] at ended
  have absent : node.child side = none → t.eraseChild side h = .keeping (.ok h) t := by
    intro none
    rw [eraseChild, accepted]
    simp only [none]
    rw [(resolve_eq_ok_iff.1 accepted).1]
  obtain ⟨rfl, found⟩ := resolve_eq_ok_iff.1 accepted
  generalize t.eraseChild side (t.handle (some k)) = o at edited around' ended absent
  have host : o.state.resolve (t.handle (some k)) = .ok (k, node.setChild side none) := by
    have held := around.get?_around around' (j := k) (by simp)
    rw [found, Option.map_some, Context.place, Place.relink, if_pos rfl, Shape.topKey_nil] at held
    rw [← handle_congr edited.id]
    exact resolve_handle held
  refine ⟨c, ?_⟩
  constructor
  case hosts => exact link ▸ around.hosts_plug
  case reply => exact edited.reply
  case replaced =>
    intro d child
    have top := link.symm.trans child
    obtain ⟨below, found', parent⟩ := get?_of_hangs_top around.hangs_piece top
    exact ⟨below, parent, around.replaced around' top found' edited.id⟩
  case absent => exact absent
  case host => exact host
  case destroyed => exact ended
  case again =>
    rw [eraseChild, host]
    simp only [Node.child_setChild_self]
    rw [handle_congr edited.id]

/-- Both kinds of erasure, at one node. -/
theorem HasShape.erases (shape : t.HasShape s) (accepted : t.resolve h = .ok (k, node)) :
    t.Erases h k node where
  here := shape.exists_erased accepted
  child := shape.exists_erasedChild accepted

end LinkedTree

namespace Forest

variable {r : Nat} {t : LinkedTree S α} {h : Handle} {k : Key} {node : Node α}

/-- In every state that commands lead to, reserving a side of a node puts what hangs on that side
into the place of the node. -/
theorem promoted_of_run (edits : List (Edit Handle α)) (held : (run {} edits).trees[r]? = some t)
    (accepted : t.resolve h = .ok (k, node)) (side : Side) :
    ∃ kept other, t.Promoted (t.reserve side h) k node side kept other := by
  obtain ⟨s, shape⟩ := wellLinked_run wellLinked_init edits r t held
  exact shape.exists_promoted accepted side

/-- An inner node with two children goes, and its left one moves up. -/
theorem promoted_of_inner_node :
    let edits : List (Edit Handle Nat) := [.create 0, .insert 0 (.above .left) .null 7,
      .insert 0 (.below .left .left) ⟨some 0, 1⟩ 8, .insert 0 (.below .left .left) ⟨some 1, 1⟩ 9,
      .insert 0 (.below .right .left) ⟨some 1, 1⟩ 10]
    let t : LinkedTree Cells Nat :=
      ⟨⟨⟨#[some ⟨none, some 1, none, 7⟩, some ⟨some 0, some 2, some 3, 8⟩,
        some ⟨some 1, none, none, 9⟩, some ⟨some 1, none, none, 10⟩]⟩⟩, some 0, 1⟩
    (run {} edits).trees[0]? = some t ∧
      t.resolve ⟨some 1, 1⟩ = .ok (1, ⟨some 0, some 2, some 3, 8⟩) ∧
      (t.reserve .left ⟨some 1, 1⟩).reply = .ok ⟨some 2, 1⟩ ∧
      ∃ kept other, t.Promoted (t.reserve .left ⟨some 1, 1⟩) 1 ⟨some 0, some 2, some 3, 8⟩ .left
        kept other := by
  intro edits t
  have held : (run {} edits).trees[0]? = some t := rfl
  exact ⟨held, rfl, rfl, promoted_of_run edits held rfl .left⟩

/-- In every state that commands lead to, erasing takes out what hangs at a node, or on one side of
it, and nothing else. -/
theorem erases_of_run (edits : List (Edit Handle α)) (held : (run {} edits).trees[r]? = some t)
    (accepted : t.resolve h = .ok (k, node)) : t.Erases h k node := by
  obtain ⟨s, shape⟩ := wellLinked_run wellLinked_init edits r t held
  exact shape.erases accepted

/-- The only child of the root goes, and so may the root with it. -/
theorem erases_of_only_child :
    let edits : List (Edit Handle Nat) := [.create 0, .insert 0 (.above .left) .null 7,
      .insert 0 (.below .right .left) ⟨some 0, 1⟩ 8]
    let t : LinkedTree Cells Nat :=
      ⟨⟨⟨#[some ⟨none, none, some 1, 7⟩, some ⟨some 0, none, none, 8⟩]⟩⟩, some 0, 1⟩
    (run {} edits).trees[0]? = some t ∧
      t.resolve ⟨some 1, 1⟩ = .ok (1, ⟨some 0, none, none, 8⟩) ∧
      (t.erase ⟨some 1, 1⟩).reply = .ok ⟨some 0, 1⟩ ∧
      t.Erases ⟨some 1, 1⟩ 1 ⟨some 0, none, none, 8⟩ ∧
      t.Erases ⟨some 0, 1⟩ 0 ⟨none, none, some 1, 7⟩ := by
  intro edits t
  have held : (run {} edits).trees[0]? = some t := rfl
  exact ⟨held, rfl, rfl, erases_of_run edits held rfl, erases_of_run edits held rfl⟩

end Forest

end Substrate
