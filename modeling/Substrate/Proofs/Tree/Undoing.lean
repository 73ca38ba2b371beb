import Substrate.Proofs.Tree.Framing
import Substrate.Proofs.Tree.Turnover

/-!
# Substrate.Proofs.Tree.Undoing

Reserving undoes splicing in. A new node has one child at most: what it displaced, on the side it
was told to keep. To reserve that side is to put the displaced piece back and to lose the new node
alone. Both edits rewire the same place, so the tree has the shape that it had before, and a shape
fixes every link (`HasShape.sameAs`).

The main result is `undone_of_run`, for all states that commands lead to.
-/

namespace Substrate

variable {S : Type → Type} [SlotMap S] {α : Type}

/-- The side on which the new node keeps what it displaces. -/
def Splice.keep : Splice → Side
  | .above keep => keep
  | .below _ keep => keep

namespace LinkedTree

/-! ## Trees that are the same -/

/-- The tree `t'` is `t` again: the same root, and the same nodes under the same keys, with their
links and payloads. It may have issued other keys meanwhile. -/
structure SameAs (t t' : LinkedTree S α) : Prop where
  id : t'.id = t.id
  rootKey : t'.rootKey = t.rootKey
  get? : ∀ j, t'.nodes.get? j = t.nodes.get? j

variable {t t' : LinkedTree S α} {s : Shape (Key × α)}

/-- A shape fixes all nodes and links. -/
theorem HasShape.sameAs (shape : t.HasShape s) (shape' : t'.HasShape s) (id : t'.id = t.id) :
    t.SameAs t' where
  id := id
  rootKey := shape'.root.trans shape.root.symm
  get? := by
    intro j
    by_cases mem : j ∈ s.keys
    · exact get?_eq_of_hangs shape.hangs shape'.hangs mem
    · have absent {t : LinkedTree S α} (shape : t.HasShape s) : t.nodes.get? j = none := by
        cases found : t.nodes.get? j with
        | none => rfl
        | some node => exact absurd (shape.covers j node found) mem
      rw [absent shape, absent shape']

/-- Trees with the same links and payloads accept the same handles. -/
theorem SameAs.resolve (same : t.SameAs t') (h : Handle) : t'.resolve h = t.resolve h := by
  unfold LinkedTree.resolve
  simp only [same.id, same.get?]

/-- Trees with the same links and payloads have the same shapes. -/
theorem SameAs.hasShape (same : t.SameAs t') (shape : t.HasShape s) : t'.HasShape s where
  toBears := shape.toBears.congr same.rootKey fun k _ => same.get? k
  covers := fun k node found => shape.covers k node ((same.get? k).symm.trans found)

/-! ## There and back -/

/-- The node that a new node adopts, or no node: the one it is spliced in above, or the child in
whose place it goes. The first node of a tree adopts none. -/
def adopted (t : LinkedTree S α) (splice : Splice) (h : Handle) : Except TreeError Handle :=
  match splice with
  | .above _ => .ok (if t.isEmpty then t.handle none else h)
  | .below side _ => t.child side h

/-- The outcome `back` of reserving the kept side of the node `n`, just after the outcome `o` of
splicing it in at a handle. -/
structure Undone (t : LinkedTree S α) (splice : Splice) (h : Handle) (v : α)
    (o : Outcome (LinkedTree S α) (Except TreeError Handle) α) (n : Handle)
    (back : Outcome (LinkedTree S α) (Except TreeError Handle) α) : Prop extends
    t.SameAs back.state where
  shape : ∀ s, t.HasShape s → back.state.HasShape s
  resolve : ∀ h', back.state.resolve h' = t.resolve h'
  listing : back.state.listing = t.listing
  size : back.state.size = t.size
  /-- The edit succeeds, and answers the node that the new one had adopted. -/
  reply : ∃ m, t.adopted splice h = .ok m ∧ back.reply = .ok m
  /-- The new node was there, and is gone. -/
  new : ∃ node, o.state.resolve n = .ok (t.nodes.nextKey, node) ∧ node.data = v
  stale : back.state.resolve n = .error .staleNode
  kept : o.destroyed = []
  destroyed : back.destroyed = [v]

variable {C : Context (Key × α)} {u : Shape (Key × α)} {splice : Splice} {h n : Handle} {v : α}

/-- Reserving the side on which a node has something takes out the node alone, if it has nothing on
the other side. -/
theorem HasShape.edited_reserve_hung {x : Key × α} {side : Side}
    (whole : t.HasShape (C.plug (.hang x side u .nil))) :
    t.Edited (t.reserve side (t.handle (some x.1))) (C.plug u) u.topKey ∧
      (t.reserve side (t.handle (some x.1))).destroyed = [x.2] := by
  have accepted := resolve_handle whole.get?_hang
  have top : (Shape.hang x side u .nil).topKey = some x.1 := Shape.topKey_hang _ _ _ _
  constructor
  · have edited := whole.edited_plug top (whole.edited_reserve accepted side)
    rwa [Shape.child_hang, Node.child_setChild_self] at edited
  · have ended := (whole.removes_reserve side (t.handle (some x.1))).destroyed
    have bare : Node.child (α := α) ⟨C.above, none, none, x.2⟩ side.opposite = none := by
      cases side <;> rfl
    rw [turnoverAt_of_resolve accepted] at ended
    simp only [Node.child_setChild_opposite, Node.data_setChild, bare] at ended
    have nothing : t.payloadsBelow none = 0 := by
      have empty := below_of_hangs (hangs_nil t.nodes none) List.nodup_nil
      exact congrArg (Multiset.map Prod.snd) empty
    rw [nothing] at ended
    exact Multiset.coe_eq_singleton.1 ended

/-- A new node hangs where the piece hung that it adopts, and has that piece below it. -/
theorem HasShape.exists_hung (shape : t.HasShape s)
    (inserted : (t.insert splice h v).reply = .ok n) :
    ∃ (C : Context (Key × α)) (u : Shape (Key × α)), t.HasShape (C.plug u) ∧
      t.adopted splice h = .ok (t.handle u.topKey) ∧
      t.Edited (t.insert splice h v) (C.plug (.hang (t.nodes.nextKey, v) splice.keep u .nil))
        (some t.nodes.nextKey) := by
  rcases shape.insert_cases splice h v with
    ⟨e, refused, -, -⟩ | ⟨k, node, accepted, edited⟩ | ⟨keep, rfl, -, rfl, edited⟩
  · rw [refused] at inserted
    cases inserted
  · cases splice with
    | above keep =>
      obtain ⟨C, l, r, at?⟩ := shape.exists_located accepted
      have whole : t.HasShape (C.plug (.node (k, node.data) l r)) := at?.shape ▸ shape
      have inhabited : t.isEmpty = false := by
        cases root : t.rootKey with
        | some key => rw [LinkedTree.isEmpty, root]; rfl
        | none =>
          obtain rfl := Shape.eq_nil_of_topKey (shape.root.symm.trans root)
          exact absurd (shape.covers k node (resolve_eq_ok_iff.1 accepted).2) (by simp)
      rw [at?.editAt] at edited
      refine ⟨C, _, whole, ?_, edited⟩
      rw [adopted, inhabited, (resolve_eq_ok_iff.1 accepted).1]
      rfl
    | below side keep =>
      obtain ⟨C, c, other, whole, -, link, -, edit⟩ := shape.exists_sides accepted side
      refine ⟨⟨side, (k, node.data), other⟩ :: C, c, whole, ?_, ?_⟩
      · rw [adopted, child, accepted, ← link]
        rfl
      · rwa [edit, Shape.spliceTop, Shape.setChild_hang, Shape.child_hang] at edited
  · refine ⟨[], .nil, shape, ?_, ?_⟩
    · rw [adopted, LinkedTree.isEmpty, shape.root]
      rfl
    · cases keep <;> exact edited

/-- Reserving the adopted child of a new node undoes its insertion. -/
theorem HasShape.undone (shape : t.HasShape s) (inserted : (t.insert splice h v).reply = .ok n) :
    t.Undone splice h v (t.insert splice h v) n
      ((t.insert splice h v).state.reserve splice.keep n) := by
  obtain ⟨C, u, before, answer, between, reply, -, id⟩ := shape.exists_hung inserted
  have kept : (t.insert splice h v).destroyed = [] := by
    rw [insert] at reply ⊢
    cases found : t.site splice h with
    | error e => rw [found] at reply; cases reply
    | ok site => rfl
  obtain rfl : n = (t.insert splice h v).state.handle (some t.nodes.nextKey) := by
    rw [handle_congr id]
    exact Except.ok.inj (inserted.symm.trans reply)
  generalize t.insert splice h v = o at between id kept
  obtain ⟨⟨after, reply', -, id'⟩, destroyed⟩ := between.edited_reserve_hung
  have same := before.sameAs after (id'.trans id)
  have fresh : t.nodes.get? t.nodes.nextKey = none := Arena.get?_nextKey _
  constructor
  case toSameAs => exact same
  case shape => exact fun s shape => same.hasShape shape
  case resolve => exact same.resolve
  case listing => rw [after.listing, before.listing]
  case size => rw [after.size, before.size]
  case reply => exact ⟨_, answer, by rw [reply', handle_congr id]⟩
  case new =>
    refine ⟨_, resolve_handle between.get?_hang, ?_⟩
    rw [Node.data_setChild]
  case stale =>
    rw [same.resolve, handle_congr id, LinkedTree.resolve, handle]
    simp [fresh]
  case kept => exact kept
  case destroyed => exact destroyed

end LinkedTree

namespace Forest

/-- In every state that commands lead to, reserving the kept side of a node that was just spliced in
brings back the tree as it was. -/
theorem undone_of_run (edits : List (Edit Handle α)) {r : Nat} {t : LinkedTree S α}
    (held : (run {} edits).trees[r]? = some t) {splice : Splice} {h n : Handle} {v : α}
    (inserted : (t.insert splice h v).reply = .ok n) :
    t.Undone splice h v (t.insert splice h v) n
      ((t.insert splice h v).state.reserve splice.keep n) := by
  obtain ⟨s, shape⟩ := wellLinked_run wellLinked_init edits r t held
  exact shape.undone inserted

/-- A node goes between the root and its right child, and comes out again. -/
theorem undone_of_right_child :
    let edits : List (Edit Handle Nat) := [.create 0, .insert 0 (.above .left) .null 7,
      .insert 0 (.below .left .left) ⟨some 0, 1⟩ 8, .insert 0 (.below .right .left) ⟨some 0, 1⟩ 9]
    let t : LinkedTree Cells Nat :=
      ⟨⟨⟨#[some ⟨none, some 1, some 2, 7⟩, some ⟨some 0, none, none, 8⟩,
        some ⟨some 0, none, none, 9⟩]⟩⟩, some 0, 1⟩
    let o := t.insert (.below .right .left) ⟨some 0, 1⟩ 5
    (run {} edits).trees[0]? = some t ∧ o.reply = .ok ⟨some 3, 1⟩ ∧
      (o.state.reserve .left ⟨some 3, 1⟩).reply = .ok ⟨some 2, 1⟩ ∧
      t.Undone (.below .right .left) ⟨some 0, 1⟩ 5 o ⟨some 3, 1⟩
        (o.state.reserve .left ⟨some 3, 1⟩) := by
  intro edits t o
  have held : (run {} edits).trees[0]? = some t := rfl
  have inserted : o.reply = .ok ⟨some 3, 1⟩ := rfl
  have undone := undone_of_run edits held inserted
  obtain ⟨m, adopted, reply⟩ := undone.reply
  cases adopted
  exact ⟨held, inserted, reply, undone⟩

end Forest

end Substrate
