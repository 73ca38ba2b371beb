import Substrate.Proofs.Tree.Framing
import Substrate.Proofs.Tree.Fidelity
import Substrate.Session.Build

/-!
# Substrate.Proofs.Session.Assembly

The trees that a session makes, as shapes. They grow node by node: a tree that `Grows` has a known
shape, number and next key, so a node can be spliced in at any of its names and the outcome is known
again (`Grows.exists_insert`). From that, assembling cannot fail and makes a product of a difference
and a sum (`exists_assembled`), and folding cannot fail where there is an operand to replace
(`exists_folded_of_payloads`).
-/

namespace Substrate

namespace Session

/-- A product of a difference and a sum of four leaves. -/
def product (w x y z : Term) : Shape Term :=
  .node (.operator .mul)
    (.node (.operator .sub) (.node w .nil .nil) (.node x .nil .nil))
    (.node (.operator .add) (.node y .nil .nil) (.node z .nil .nil))

/-! ## Growing -/

/-- The tree number `id` has the shape `s`, and its next node gets the key `n`. -/
structure Grows (t : LinkedTree Cells Term) (id : TreeId) (n : Key) (s : Shape (Key × Term)) :
    Prop where
  shape : t.HasShape s
  id : t.id = id
  next : t.nodes.nextKey = n

variable {t : LinkedTree Cells Term} {id : TreeId} {n k : Key} {s : Shape (Key × Term)}

/-- An insertion that is accepted costs nothing and uses up one key. -/
theorem grows_of_edited {splice : Splice} {h : Handle} {v : Term} {s' : Shape (Key × Term)}
    (edited : t.Edited (t.insert splice h v) s' (some t.nodes.nextKey)) :
    t.insert splice h v =
        .keeping (.ok ⟨some t.nodes.nextKey, t.id⟩) (t.insert splice h v).state ∧
      Grows (t.insert splice h v).state t.id (t.nodes.nextKey + 1) s' := by
  obtain ⟨shape, reply, -, same⟩ := edited
  cases found : t.site splice h with
  | error e =>
    rw [LinkedTree.insert_of_site_error found] at reply
    cases reply
  | ok site =>
    have inserted : t.insert splice h v = .keeping (.ok t.nextHandle) (t.put site v) := by
      simp only [LinkedTree.insert, found]
    have issued := LinkedTree.issued_put t site v
    simp only [Cells.issued_iff] at issued
    have next : (t.put site v).nodes.nextKey = t.nodes.nextKey + 1 := by
      have before := (issued t.nodes.nextKey).2 (.inl rfl)
      have after := issued (t.nodes.nextKey + 1)
      lia
    rw [inserted] at shape same ⊢
    exact ⟨rfl, shape, same, next⟩

/-- A node can be spliced in at every name. -/
theorem Grows.exists_insert (grows : Grows t id n s) (named : s.keys.contains k = true)
    (splice : Splice) (v : Term) :
    ∃ t', t.insert splice ⟨some k, id⟩ v = .keeping (.ok ⟨some n, id⟩) t' ∧
      Grows t' id (n + 1) (s.editAt k (·.spliceTop splice (n, v))) := by
  obtain ⟨shape, rfl, rfl⟩ := grows
  obtain ⟨node, found⟩ := (shape.mem_iff k).1 (List.contains_iff_mem.1 named)
  have edited := shape.edited_insert (LinkedTree.resolve_handle found) splice v
  exact ⟨_, grows_of_edited edited⟩

/-- A new tree into which one node was put. -/
def rooted (id : TreeId) (v : Term) : LinkedTree Cells Term :=
  let new : LinkedTree Cells Term := .empty Term id
  (new.insert (.above .left) new.root v).state

/-- The first node goes where the root of an empty tree would be. -/
theorem insert_first (id : TreeId) (v : Term) :
    let new : LinkedTree Cells Term := .empty Term id
    new.insert (.above .left) new.root v = .keeping (.ok ⟨some 0, id⟩) (rooted id v) ∧
      Grows (rooted id v) id 1 (.node (0, v) .nil .nil) := by
  intro new
  have shape : new.HasShape .nil := LinkedTree.hasShape_empty id
  have unusable : new.root.key = none := rfl
  exact grows_of_edited (shape.edited_insert_first unusable .left v)

/-- Assembling four leaves makes their product of a difference and a sum. -/
theorem exists_assembled (id : TreeId) (w x y z : Term) :
    ∃ t s, assemble id [w, x, y, z] = .keeping (.ok ()) t ∧ t.HasShape s ∧
      s.payloads = product w x y z := by
  obtain ⟨mul, grows₁⟩ := insert_first id (.operator .mul)
  obtain ⟨t₂, sub, grows₂⟩ := grows₁.exists_insert (k := 0) rfl (.below .left .left)
    (.operator .sub)
  obtain ⟨t₃, add, grows₃⟩ := grows₂.exists_insert (k := 0) rfl (.below .right .right)
    (.operator .add)
  obtain ⟨t₄, first, grows₄⟩ := grows₃.exists_insert (k := 1) rfl (.below .left .left) w
  obtain ⟨t₅, second, grows₅⟩ := grows₄.exists_insert (k := 1) rfl (.below .right .right) x
  obtain ⟨t₆, third, grows₆⟩ := grows₅.exists_insert (k := 2) rfl (.below .left .left) y
  obtain ⟨t₇, fourth, grows₇⟩ := grows₆.exists_insert (k := 2) rfl (.below .right .right) z
  refine ⟨t₇, _, ?_, grows₇.shape, rfl⟩
  simp only [assemble, hangPair, mul, sub, add, first, second, third, fourth,
    Outcome.keeping_andThen]

/-- A tree of one number can always be made. -/
theorem single_eq (id : TreeId) (n : Int) : single id n = .ok (rooted id (.number n)) := by
  rw [single, (insert_first id (.number n)).1]
  rfl

/-! ## Folding -/

/-- Folding an operand of the root replaces it by the number. -/
theorem exists_folded_of_payloads {v : Term} {side : Side} {u w : Shape Term}
    (shape : t.HasShape s) (same : s.payloads = .hang v side u w) (present : u ≠ .nil)
    (id : TreeId) (n : Int) :
    ∃ t' s', fold t id side n = .ok t' ∧ t'.HasShape s' ∧
      s'.payloads = .hang v side (.node (.number n) .nil .nil) w := by
  obtain ⟨c, copied, shapeC, idC⟩ := LinkedTree.exists_hasShape_clone shape id
  obtain ⟨x, operand, other, rfl, label, inner, beside⟩ :=
    Shape.exists_hang_of_payloads (copied.trans same)
  have made := single_eq (id + 1) n
  have shapeV := (insert_first (id + 1) (.number n)).2.shape
  obtain ⟨k, top⟩ : ∃ k, operand.topKey = some k := by
    cases operand with
    | nil => exact absurd inner.symm present
    | node y l r => exact ⟨y.1, rfl⟩
  have around : (t.clone id).HasShape (Context.plug [⟨side, x, other⟩] operand) := shapeC
  obtain ⟨d, number, edited⟩ := around.edited_merge_plug top shapeV
  obtain ⟨here, -, -⟩ := Context.hangs_hang (f := ⟨side, x, other⟩) |>.1 shapeC.hangs
  have down : (t.clone id).child side (t.clone id).root = .ok ((t.clone id).handle (some k)) := by
    rw [shapeC.root_eq, Shape.topKey_hang, LinkedTree.child, LinkedTree.resolve_handle here]
    exact congrArg (fun c => Except.ok ((t.clone id).handle c)) ((Frame.child_node _ _ _).trans top)
  refine ⟨_, _, ?_, edited.shape, ?_⟩
  · rw [fold]
    simp only [down, made, edited.reply, bind, Except.bind, pure, Except.pure]
  · rw [Context.payloads_plug, number]
    simp only [Context.payloads, List.map_cons, List.map_nil, Context.plug, label, beside]
    rfl

end Session

end Substrate
