import Substrate.Proofs.Shape.Positions
import Substrate.Proofs.Tree.Coherence

/-!
# Substrate.Proofs.Tree.Positions

Subtrees and positions. Every handle that denotes no node or a node of the tree has a subtree, and
only one (`WellLinked.exists_hosts`, `Hosts.unique`). A position is told by the sides on the way
down from a handle: reading there finds what the shape has at the position (`read_of_hangs`), and a
way down that ends at a node leads through the context of that node (`exists_plug_of_walk`). Trees
with the same payloads have the same positions (`HasShape.exists_samePlace`).
-/

namespace Substrate

variable {S : Type → Type} [SlotMap S] {α : Type}

namespace Context

/-- The way down to a place is a matter of payloads, not of names. -/
theorem sides_eq_of_payloads {C D : Context (Key × α)} (same : C.payloads = D.payloads) :
    C.sides = D.sides := by
  have sides := congrArg (fun E : Context α => (E.map (·.side)).reverse) same
  simpa [payloads, Context.sides, Function.comp_def] using sides

end Context

/-! ## The subtree at a handle -/

/-- An arena spells out one shape at most for each name. -/
theorem hangs_unique {nodes : Arena S (Node α)} {parent parent' : Option Key}
    {s s' : Shape (Key × α)} (hangs : Hangs nodes parent s) (hangs' : Hangs nodes parent' s')
    (same : s.topKey = s'.topKey) : s = s' := by
  induction s generalizing parent parent' s' with
  | nil => exact (Shape.eq_nil_of_topKey same.symm).symm
  | node x l r ihl ihr =>
    cases s' with
    | nil => simp at same
    | node y l' r' =>
      obtain ⟨top, left, right⟩ := hangs
      obtain ⟨top', left', right'⟩ := hangs'
      have name : x.1 = y.1 := Option.some.inj same
      rw [← name, top] at top'
      injection top' with top'
      injection top' with _ sameL sameR data
      rw [ihl left left' sameL, ihr right right' sameR, Prod.ext name data]

namespace LinkedTree

/-- `u` is the subtree at the handle: nothing if the handle denotes no node. -/
def Hosts (t : LinkedTree S α) (h : Handle) (u : Shape (Key × α)) : Prop :=
  u.topKey = h.key ∧ ∃ parent, Hangs t.nodes parent u

/-- A handle hosts one subtree at most. -/
theorem Hosts.unique {t : LinkedTree S α} {h : Handle} {u u' : Shape (Key × α)}
    (hosts : t.Hosts h u) (hosts' : t.Hosts h u') : u = u' := by
  obtain ⟨top, _, hangs⟩ := hosts
  obtain ⟨top', _, hangs'⟩ := hosts'
  exact hangs_unique hangs hangs' (top.trans top'.symm)

/-- The root hosts the whole shape. -/
theorem HasShape.hosts_root {t : LinkedTree S α} {s : Shape (Key × α)} (h : t.HasShape s) :
    t.Hosts t.root s :=
  ⟨h.root.symm, none, h.hangs⟩

/-- The handle of the top of a piece hosts the piece. -/
theorem HasShape.hosts_plug {t : LinkedTree S α} {C : Context (Key × α)} {u : Shape (Key × α)}
    (h : t.HasShape (C.plug u)) : t.Hosts (t.handle u.topKey) u :=
  ⟨rfl, C.above, h.hangs_piece⟩

/-- The handle of a node hosts the subtree in its place. -/
theorem Located.hosts {t : LinkedTree S α} {s l r : Shape (Key × α)} {k : Key} {node : Node α}
    {C : Context (Key × α)} (at? : t.Located s k node C l r) :
    t.Hosts (t.handle (some k)) (.node (k, node.data) l r) :=
  ⟨rfl, C.above, at?.hangs⟩

/-- A handle that denotes no node or a node of the tree has a subtree, no larger than the tree. -/
theorem WellLinked.exists_hosts {t : LinkedTree S α} (whole : t.WellLinked) {h : Handle}
    (accepted : h.key = none ∨ ∃ k node, t.resolve h = .ok (k, node)) :
    ∃ u, t.Hosts h u ∧ u.size ≤ t.size := by
  rcases accepted with unusable | ⟨k, node, accepted⟩
  · exact ⟨.nil, ⟨unusable.symm, none, trivial⟩, Nat.zero_le _⟩
  · obtain ⟨s, shape⟩ := whole
    obtain ⟨C, l, r, at?⟩ := shape.exists_located accepted
    have nodup : (C.plug (.node (k, node.data) l r)).keys.Nodup := at?.shape ▸ shape.nodup
    obtain ⟨rfl, -⟩ := resolve_eq_ok_iff.1 accepted
    exact ⟨_, at?.hosts, size_le_of_hangs at?.hangs (Context.nodup_keys_plug.1 nodup).1⟩

/-! ## Ways down -/

/-- The payload at the end of a way down from a handle. -/
def read (t : LinkedTree S α) (h : Handle) (sides : List Side) : Except TreeError α := do
  t.data (← t.walk h (sides.map .down))

/-- One way down leads from the roots of two trees to these two handles. -/
def SamePlace (t : LinkedTree S α) (h : Handle) (t' : LinkedTree S α) (h' : Handle) : Prop :=
  ∃ sides : List Side, t.walk t.root (sides.map .down) = .ok h ∧
    t'.walk t'.root (sides.map .down) = .ok h'

variable {t : LinkedTree S α} {parent : Option Key} {u : Shape (Key × α)}

/-- The way down from a node that hangs in the tree starts as it does in the shape. -/
theorem walk_cons_of_hangs {x : Key × α} {l r : Shape (Key × α)}
    (hangs : Hangs t.nodes parent (.node x l r)) (side : Side) (rest : List Side) :
    t.walk (t.handle (some x.1)) ((side :: rest).map .down) =
      t.walk (t.handle ((Shape.node x l r).child side).topKey) (rest.map .down) := by
  have step : t.move (t.handle (some x.1)) (.down side) =
      .ok (t.handle ((Shape.node x l r).child side).topKey) := by
    rw [move, child, resolve_handle hangs.1]
    cases side <;> rfl
  rw [List.map_cons, walk, step]
  rfl

/-- From no node, no step down is possible. -/
theorem walk_cons_null (side : Side) (rest : List Side) :
    t.walk (t.handle none) ((side :: rest).map .down) = .error .nullNode := rfl

theorem hangs_child {x : Key × α} {l r : Shape (Key × α)}
    (hangs : Hangs t.nodes parent (.node x l r)) (side : Side) :
    Hangs t.nodes (some x.1) ((Shape.node x l r).child side) := by
  cases side
  · exact hangs.2.1
  · exact hangs.2.2

/-- Reading finds the payload that the shape has at the position, and no node where it has none. -/
theorem read_of_hangs (hangs : Hangs t.nodes parent u) (sides : List Side) :
    t.read (t.handle u.topKey) sides =
      match u.payloads.at? sides with
      | none => .error .nullNode
      | some v => .ok v := by
  induction sides generalizing u parent with
  | nil =>
    cases u with
    | nil => rfl
    | node x l r =>
      have data : t.data (t.handle (some x.1)) = .ok x.2 := by
        rw [LinkedTree.data, resolve_handle hangs.1]
        rfl
      exact data
  | cons side rest ih =>
    cases u with
    | nil =>
      rw [read, Shape.topKey_nil, walk_cons_null]
      rfl
    | node x l r =>
      have below := ih (hangs_child hangs side)
      rw [read] at below ⊢
      rw [Shape.topKey_node, walk_cons_of_hangs hangs, below, Shape.payloads, Shape.at?_cons]
      cases side <;> rfl

/-- A way down that ends at a node leads through the context of that node. -/
theorem exists_plug_of_walk (hangs : Hangs t.nodes parent u) {sides : List Side} {k : Key}
    (way : t.walk (t.handle u.topKey) (sides.map .down) = .ok (t.handle (some k))) :
    ∃ (C : Context (Key × α)) (v : α) (l r : Shape (Key × α)),
      u = C.plug (.node (k, v) l r) ∧ C.sides = sides := by
  induction sides generalizing u parent with
  | nil =>
    have top : u.topKey = some k := by
      have here : t.handle u.topKey = t.handle (some k) := Except.ok.inj way
      exact congrArg Handle.key here
    cases u with
    | nil => cases top
    | node x l r =>
      obtain rfl : x.1 = k := Option.some.inj top
      exact ⟨[], x.2, l, r, rfl, rfl⟩
  | cons side rest ih =>
    cases u with
    | nil =>
      rw [Shape.topKey_nil, walk_cons_null] at way
      cases way
    | node x l r =>
      rw [Shape.topKey_node, walk_cons_of_hangs hangs] at way
      obtain ⟨C, v, l', r', below, sides⟩ := ih (hangs_child hangs side) way
      refine ⟨C ++ [⟨side, x, (Shape.node x l r).child side.opposite⟩], v, l', r', ?_, ?_⟩
      · rw [Context.plug_append, ← below]
        exact Shape.node_eq_hang x l r side
      · rw [← sides]
        simp [Context.sides]

/-- A tree with the payloads of a context and a filling has the two, and the same way down leads to
the filling. -/
theorem HasShape.exists_plug {C : Context (Key × α)} {c : Shape (Key × α)} {k : Key}
    (h : t.HasShape c) (same : c.payloads = (C.plug u).payloads) (top : u.topKey = some k) :
    ∃ (D : Context (Key × α)) (w : Shape (Key × α)) (j : Key), c = D.plug w ∧
      D.payloads = C.payloads ∧ w.payloads = u.payloads ∧ w.topKey = some j ∧
      t.walk t.root (C.sides.map .down) = .ok (t.handle (some j)) := by
  rw [Context.payloads_plug] at same
  obtain ⟨D, w, rfl, around, filling⟩ := Context.exists_plug_of_payloads same
  obtain ⟨j, topW⟩ := Shape.exists_topKey_of_payloads filling top
  have way := h.toBears.walk_down topW
  rw [Context.sides_eq_of_payloads around] at way
  exact ⟨D, w, j, rfl, around, filling, topW, way⟩

/-- In a tree with the same payloads there is a node in the same place. -/
theorem HasShape.exists_samePlace {t' : LinkedTree S α} {s c : Shape (Key × α)} {h : Handle}
    {k : Key} {node : Node α} (shape : t.HasShape s) (shape' : t'.HasShape c)
    (same : c.payloads = s.payloads) (accepted : t.resolve h = .ok (k, node)) :
    ∃ h', t.SamePlace h t' h' := by
  obtain ⟨C, l, r, at?⟩ := shape.exists_located accepted
  obtain ⟨rfl, -⟩ := resolve_eq_ok_iff.1 accepted
  rw [at?.shape] at shape same
  obtain ⟨D, w, j, -, -, -, -, way⟩ := shape'.exists_plug same rfl
  exact ⟨_, C.sides, shape.toBears.walk_down rfl, way⟩

/-- Merging at a node replaces what is in the context of the node. -/
theorem HasShape.edited_merge_plug {other : LinkedTree S α} {C : Context (Key × α)}
    {d : Shape (Key × α)} {k : Key} (h : t.HasShape (C.plug u)) (top : u.topKey = some k)
    (ho : other.HasShape d) :
    ∃ c, c.payloads = d.payloads ∧
      t.Edited (t.merge (t.handle (some k)) other) (C.plug c) c.topKey := by
  obtain ⟨node, found, -⟩ := get?_of_hangs_top h.hangs_piece top
  obtain ⟨c, same, -, edited⟩ := h.edited_merge (resolve_handle found) ho
  have outside := h.apart k (Shape.topKey_mem top)
  rw [Context.editAt_plug _ outside, Shape.editAt_of_topKey _ top] at edited
  exact ⟨c, same, edited⟩

/-- The nodes of a tree are those of a piece and those before and after it in post-order. -/
theorem HasShape.size_plug {C : Context (Key × α)} (h : t.HasShape (C.plug u)) :
    t.size = C.payloads.before.length + u.size + C.payloads.after.length := by
  rw [h.size, ← Shape.size_payloads, Context.payloads_plug, Context.size_plug,
    Shape.size_payloads]

/-- A tree of one node has the shape of one node. -/
theorem HasShape.eq_node {s : Shape (Key × α)} {x : α} (h : t.HasShape s) (single : t.size = 1)
    (data : t.data t.root = .ok x) : ∃ k, s = .node (k, x) .nil .nil := by
  have size := h.size.symm.trans single
  cases s with
  | nil => cases size
  | node y l r =>
    rw [h.root_eq, Shape.topKey_node, LinkedTree.data, resolve_handle h.hangs.1] at data
    obtain rfl : y.2 = x := Except.ok.inj data
    simp only [Shape.size] at size
    cases l with
    | node _ _ _ => simp only [Shape.size] at size; omega
    | nil =>
      cases r with
      | node _ _ _ => simp only [Shape.size] at size; omega
      | nil => exact ⟨y.1, rfl⟩

end LinkedTree

end Substrate
