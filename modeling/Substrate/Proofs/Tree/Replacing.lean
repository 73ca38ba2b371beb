import Substrate.Proofs.Tree.Framing
import Substrate.Proofs.Tree.Positions
import Substrate.Proofs.Tree.Refusal
import Substrate.Proofs.Tree.Turnover

/-!
# Substrate.Proofs.Tree.Replacing

One piece of a tree in the place of another. An edit that takes a piece out of its place, and puts
nothing there or a piece of its own, leaves the tree around the place as it was, but for the one
link that leads into the place. `Replaced` says what that means for the handles of the tree, its
root and its pre-order. All of it follows from the shapes before and after (`HasShape.replaced`), so
an edit at a node replaces the subtree at the node (`HasShape.exists_replaced`).
-/

namespace Substrate

variable {S : Type → Type} [SlotMap S] {α : Type}

namespace LinkedTree

/-- In `t'` the piece `w` stands where the node `k` of `t` stood with all that hung at it, the piece
`u`. -/
structure Replaced (t t' : LinkedTree S α) (k : Key) (node : Node α) (u w : Shape (Key × α)) :
    Prop where
  id : t'.id = t.id
  /-- The old piece is the subtree at the node. -/
  hosts : t.Hosts (t.handle (some k)) u
  /-- The tree is some context around the old piece. -/
  exists_plug : ∃ C : Context (Key × α), t.HasShape (C.plug u)
  /-- Whatever context that is, it is around the new piece then. -/
  shape : ∀ C : Context (Key × α), t.HasShape (C.plug u) → t'.HasShape (C.plug w)
  /-- A handle of a node outside the piece denotes it still, with the same payload and the same
  links. Only the link into the place leads to the new piece. -/
  around : ∀ h j other, t.resolve h = .ok (j, other) → j ∉ u.keys →
    t'.resolve h = .ok (j, other.redirect k w.topKey)
  /-- A handle turns stale if its node is in the piece and the new one does not have it, and only
  then. -/
  stale_iff : ∀ h j other, t.resolve h = .ok (j, other) →
    (t'.resolve h = .error .staleNode ↔ j ∈ u.keys ∧ j ∉ w.keys)
  /-- The new piece has the parent of the old one. -/
  placed : ∀ c, w.topKey = some c → ∃ top, t'.resolve (t.handle (some c)) = .ok (c, top) ∧
    top.parent = node.parent
  /-- The new piece is at the root, or the tree is empty, if the old one was at the root. -/
  rootKey : t'.rootKey = if t.rootKey = some k then w.topKey else t.rootKey
  root_iff : t.rootKey = some k ↔ node.parent = none
  size : t'.size + u.size = t.size + w.size
  /-- In pre-order one block takes the place of another. -/
  listing : ∃ ahead behind, t.listing = ahead ++ u.preorder ++ behind ∧
    t'.listing = ahead ++ w.preorder ++ behind

variable {t t' : LinkedTree S α} {C : Context (Key × α)} {u w : Shape (Key × α)} {j k : Key}
  {node other : Node α} {h : Handle}

/-- A tree is one context at most around the subtree at a node, and so is what comes of another
piece there. -/
theorem HasShape.plug_eq_of_plug {D : Context (Key × α)} (whole : t.HasShape (C.plug u))
    (whole' : t.HasShape (D.plug u)) (top : u.topKey = some k) (w : Shape (Key × α)) :
    C.plug w = D.plug w := by
  have one : C.plug u = D.plug u := whole.hosts_root.unique whole'.hosts_root
  have inU := Shape.topKey_mem top
  have outsideC := whole.apart k inU
  have outsideD := whole'.apart k inU
  calc C.plug w
    _ = (C.plug u).editAt k fun _ => w := by
      rw [Context.editAt_plug _ outsideC, Shape.editAt_of_topKey _ top]
    _ = (D.plug u).editAt k fun _ => w := by rw [one]
    _ = D.plug w := by rw [Context.editAt_plug _ outsideD, Shape.editAt_of_topKey _ top]

/-- What is lost with another piece in the place is what only the old piece has. -/
theorem HasShape.get?_eq_none_iff_of_plug (whole : t.HasShape (C.plug u))
    (whole' : t'.HasShape (C.plug w)) (found : t.nodes.get? j = some other) :
    t'.nodes.get? j = none ↔ j ∈ u.keys ∧ j ∉ w.keys := by
  have there := Context.mem_keys_plug.1 (whole.covers j other found)
  have apart := whole.apart j
  have found' := whole'.mem_iff j
  rw [Context.mem_keys_plug] at found'
  rw [Option.eq_none_iff_forall_ne_some, ← not_exists, ← found']
  grind

/-- The root is the node without a parent. -/
theorem HasShape.rootKey_iff_parent (whole : t.HasShape (C.plug u)) (top : u.topKey = some k)
    (found : t.nodes.get? k = some node) : t.rootKey = some k ↔ node.parent = none := by
  constructor
  · intro root
    obtain ⟨node', found', parent⟩ := get?_of_hangs_top whole.hangs (whole.root.symm.trans root)
    rw [found] at found'
    cases found'
    exact parent
  · intro parent
    have above := (whole.parent_eq_above top found).symm.trans parent
    cases C with
    | nil => exact whole.root.trans top
    | cons f C => cases above

/-- Trees that differ in what stands in one place differ as `Replaced` says. -/
theorem HasShape.replaced (whole : t.HasShape (C.plug u)) (whole' : t'.HasShape (C.plug w))
    (top : u.topKey = some k) (found : t.nodes.get? k = some node) (id : t'.id = t.id) :
    t.Replaced t' k node u w := by
  have parent := whole.parent_eq_above top found
  constructor
  case id => exact id
  case hosts => exact top ▸ whole.hosts_plug
  case exists_plug => exact ⟨C, whole⟩
  case shape =>
    intro D around
    rwa [← whole.plug_eq_of_plug around top]
  case around =>
    intro h j other accepted outside
    obtain ⟨rfl, held⟩ := resolve_eq_ok_iff.1 accepted
    have inC : j ∈ C.keys :=
      (Context.mem_keys_plug.1 (whole.covers j other held)).resolve_left outside
    have held' := whole.get?_around whole' inC
    rw [held, Option.map_some, whole.relink_eq_redirect top held] at held'
    rw [← handle_congr id]
    exact resolve_handle held'
  case stale_iff =>
    intro h j other accepted
    obtain ⟨rfl, held⟩ := resolve_eq_ok_iff.1 accepted
    rw [← whole.get?_eq_none_iff_of_plug whole' held, resolve_eq_error_iff]
    constructor
    · intro stale
      cases stale with
      | stale usable own gone =>
        obtain rfl : j = _ := Option.some.inj usable
        exact gone
    · intro gone
      exact .stale rfl id.symm gone
  case placed =>
    intro c topW
    obtain ⟨top, held, above⟩ := get?_of_hangs_top whole'.hangs_piece topW
    rw [← handle_congr id]
    exact ⟨top, resolve_handle held, above.trans parent.symm⟩
  case rootKey => exact whole.rootKey_around whole' top
  case root_iff => exact whole.rootKey_iff_parent top found
  case size =>
    rw [whole.size_plug, whole'.size_plug]
    omega
  case listing =>
    refine ⟨C.ahead, C.behind, ?_, ?_⟩
    · rw [whole.listing, Context.preorder_plug]
    · rw [whole'.listing, Context.preorder_plug]

/-- An edit at a node replaces the subtree there by what the edit makes of it. -/
theorem HasShape.exists_replaced {s : Shape (Key × α)} (shape : t.HasShape s)
    (accepted : t.resolve h = .ok (k, node))
    {o : Outcome (LinkedTree S α) (Except TreeError Handle) α}
    {f : Shape (Key × α) → Shape (Key × α)} {answer : Option Key}
    (edited : t.Edited o (s.editAt k f) answer) : ∃ u, t.Replaced o.state k node u (f u) := by
  obtain ⟨C, l, r, at?⟩ := shape.exists_located accepted
  have whole : t.HasShape (C.plug (.node (k, node.data) l r)) := at?.shape ▸ shape
  obtain ⟨-, found⟩ := resolve_eq_ok_iff.1 accepted
  rw [at?.editAt] at edited
  exact ⟨_, whole.replaced edited.shape rfl found edited.id⟩

/-- What was replaced is what hung from the links to the node. -/
theorem Replaced.payloadsBelow (replaced : t.Replaced t' k node u w) :
    t.payloadsBelow (some k) = u.payloads.bag := by
  obtain ⟨C, whole⟩ := replaced.exists_plug
  have top : u.topKey = some k := replaced.hosts.1
  rw [← top, whole.payloadsBelow]

end LinkedTree

end Substrate
