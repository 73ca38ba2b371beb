import Substrate.Proofs.Tree.Framing
import Substrate.Proofs.Tree.Positions
import Substrate.Proofs.Tree.Refusal

/-!
# Substrate.Proofs.Tree.Below

Splicing in below a node. The new node becomes the child of the node on one side, and keeps what was
there, a subtree or nothing, on the side it is told to. Three links tell of this: the node leads to
the new one, the new one leads to the displaced child, and that names the new one as its parent.
`SplicedBelow` says that these change and nothing else does, and where the new node is met in
pre-order: the side it keeps makes no difference there.

The main result is `splicesBelow_of_run`, for all states that commands lead to.
-/

namespace Substrate

variable {S : Type → Type} [SlotMap S] {α : Type}

namespace LinkedTree

/-- The outcome `o` of splicing in a node of payload `v` below the node `k`, on side `side`. The new
node keeps what was there on side `keep`. -/
structure SplicedBelow (t : LinkedTree S α)
    (o : Outcome (LinkedTree S α) (Except TreeError Handle) α) (k : Key) (node : Node α)
    (side keep : Side) (v : α) : Prop where
  reply : o.reply = .ok t.nextHandle
  destroyed : o.destroyed = []
  id : o.state.id = t.id
  /-- The tree is some context around the node, with something or nothing on either side of it. -/
  exists_plug : ∃ (C : Context (Key × α)) (c other : Shape (Key × α)),
    t.HasShape (C.plug (.hang (k, node.data) side c other))
  /-- Whatever these are, what was on the one side hangs below the new node then, with nothing
  beside it, and the new node hangs in its place. -/
  shape : ∀ (C : Context (Key × α)) (c other : Shape (Key × α)),
    t.HasShape (C.plug (.hang (k, node.data) side c other)) →
    o.state.HasShape
      (C.plug (.hang (k, node.data) side (.hang (t.nodes.nextKey, v) keep c .nil) other))
  fresh : t.nodes.get? t.nodes.nextKey = none
  /-- The answer denotes the new node. -/
  new : o.state.resolve t.nextHandle =
    .ok (t.nodes.nextKey, Node.setChild ⟨some k, none, none, v⟩ keep (node.child side))
  /-- The old node changes in the link to the new one. -/
  host : o.state.nodes.get? k = some (node.setChild side (some t.nodes.nextKey))
  /-- The displaced child, if there is one, names the new node as its parent. -/
  displaced : ∀ c, node.child side = some c → ∃ below, t.nodes.get? c = some below ∧
    o.state.nodes.get? c = some { below with parent := some t.nodes.nextKey }
  /-- No other old node changes. -/
  others : ∀ j other, j ≠ k → node.child side ≠ some j → t.nodes.get? j = some other →
    o.state.nodes.get? j = some other
  rootKey : o.state.rootKey = t.rootKey
  /-- On the left, the new node is met just after the old one; on the right, just after all that is
  on the left of the old one. -/
  listing : ∃ ahead left behind, t.Hosts (t.handle node.left) left ∧
    t.listing = ahead ++ (k, node.data) :: (left.preorder ++ behind) ∧
    o.state.listing = ahead ++ (k, node.data) ::
      match side with
      | .left => (t.nodes.nextKey, v) :: (left.preorder ++ behind)
      | .right => left.preorder ++ (t.nodes.nextKey, v) :: behind

/-- What comes of splicing in below the node of a handle. -/
structure SplicesBelow (t : LinkedTree S α) (h : Handle) (side keep : Side) (v : α) : Prop where
  accepted : ∀ k node, t.resolve h = .ok (k, node) →
    t.SplicedBelow (t.insert (.below side keep) h v) k node side keep v
  /-- A constructor of any kind runs, and what it makes is inserted. -/
  emplace : (∃ k node, t.resolve h = .ok (k, node)) →
    ∀ (m : Type → Type) [Monad m] (make : m α),
      t.emplace (.below side keep) h make = do return t.insert (.below side keep) h (← make)

variable {t : LinkedTree S α} {s : Shape (Key × α)} {h : Handle} {k : Key} {node : Node α}

/-- The tree before and after a node was spliced in below the node above a place. -/
theorem HasShape.get?_of_hung_below {t' : LinkedTree S α} {f : Frame (Key × α)}
    {C : Context (Key × α)} {c : Shape (Key × α)} {x : Key × α} {keep : Side}
    (whole : t.HasShape (Context.plug (f :: C) c))
    (whole' : t'.HasShape (Context.plug (f :: C) (.hang x keep c .nil))) {j : Key}
    (found : t.nodes.get? j = some node) :
    t'.nodes.get? j = some
      (if j = f.label.1 then node.setChild f.side (some x.1)
      else if c.topKey = some j then { node with parent := some x.1 } else node) := by
  have apart := whole.apart
  cases Context.mem_keys_plug.1 (whole.covers j node found) with
  | inl inC =>
    have other : j ≠ f.label.1 := by
      intro same
      exact apart j inC (by simp [same])
    have below : t'.HasShape (Context.plug (⟨keep, x, .nil⟩ :: f :: C) c) := whole'
    rw [whole.get?_piece below inC, found, if_neg other]
    rfl
  | inr around =>
    have notTop : c.topKey ≠ some j := fun top => apart j (Shape.topKey_mem top) around
    rw [whole.get?_around whole' around, found, if_neg notTop, Shape.topKey_hang]
    rfl

/-- A splice below a node that the tree accepts does all that `SplicedBelow` says. -/
theorem HasShape.splicedBelow (shape : t.HasShape s) (accepted : t.resolve h = .ok (k, node))
    (side keep : Side) (v : α) :
    t.SplicedBelow (t.insert (.below side keep) h v) k node side keep v := by
  have spliced : ∀ (C : Context (Key × α)) (c other : Shape (Key × α)),
      t.HasShape (C.plug (.hang (k, node.data) side c other)) →
      t.Edited (t.insert (.below side keep) h v)
        (C.plug (.hang (k, node.data) side (.hang (t.nodes.nextKey, v) keep c .nil) other))
        (some t.nodes.nextKey) := by
    intro C c other whole
    have edited := whole.edited_plug (Shape.topKey_hang _ _ _ _)
      (whole.edited_insert accepted (.below side keep) v)
    rwa [Shape.spliceTop, Shape.setChild_hang, Shape.child_hang] at edited
  have destroyed : (t.insert (.below side keep) h v).destroyed = [] := by
    rw [insert, site_below_of_resolve accepted]
    rfl
  generalize t.insert (.below side keep) h v = o at spliced destroyed
  obtain ⟨C, c, other, whole, -, link, -, -⟩ := shape.exists_sides accepted side
  obtain ⟨D, l, r, at?⟩ := shape.exists_located accepted
  obtain ⟨rfl, found⟩ := resolve_eq_ok_iff.1 accepted
  obtain ⟨whole', reply, -, id⟩ := spliced C c other whole
  have next : t.nextHandle = o.state.handle (some t.nodes.nextKey) := (handle_congr id _).symm
  have around : t.HasShape (Context.plug (⟨side, (k, node.data), other⟩ :: C) c) := whole
  have around' : o.state.HasShape (Context.plug (⟨side, (k, node.data), other⟩ :: C)
      (.hang (t.nodes.nextKey, v) keep c .nil)) := whole'
  constructor
  case reply => exact reply
  case destroyed => exact destroyed
  case id => exact id
  case exists_plug => exact ⟨C, c, other, whole⟩
  case shape => exact fun C c other whole => (spliced C c other whole).shape
  case fresh => exact Arena.get?_nextKey _
  case new =>
    rw [next, link]
    exact resolve_handle around'.get?_hang
  case host => rw [around.get?_of_hung_below around' found, if_pos rfl]
  case displaced =>
    intro d top
    have held : c.topKey = some d := link.symm.trans top
    obtain ⟨below, found', parent⟩ := get?_of_hangs_top around.hangs_piece held
    have other : d ≠ k := by
      intro same
      refine around.apart d (Shape.topKey_mem held) ?_
      simp [same]
    refine ⟨below, found', ?_⟩
    rw [around.get?_of_hung_below around' found', if_neg other, if_pos held]
  case others =>
    intro j other ne notTop found'
    rw [around.get?_of_hung_below around' found', if_neg ne, if_neg (link ▸ notTop)]
  case rootKey =>
    rw [around.root, around'.root, Context.topKey_plug, Context.topKey_plug]
    rfl
  case listing =>
    have located : t.HasShape (D.plug (.node (k, node.data) l r)) := at?.shape ▸ shape
    refine ⟨D.ahead, l, r.preorder ++ D.behind, ⟨(at?.child .left).symm, some k, at?.hangs.2.1⟩,
      ?_, ?_⟩
    · rw [located.listing, Context.preorder_plug]
      simp [Shape.preorder]
    · cases side with
      | left =>
        have whole' : o.state.HasShape
            (D.plug (.node (k, node.data) (.hang (t.nodes.nextKey, v) keep l .nil) r)) :=
          (spliced D l r located).shape
        rw [whole'.listing, Context.preorder_plug, Shape.preorder, Shape.preorder_hang_nil]
        simp
      | right =>
        have whole' : o.state.HasShape
            (D.plug (.node (k, node.data) l (.hang (t.nodes.nextKey, v) keep r .nil))) :=
          (spliced D r l located).shape
        rw [whole'.listing, Context.preorder_plug, Shape.preorder, Shape.preorder_hang_nil]
        simp

/-- What a splice below comes to, at any handle. -/
theorem HasShape.splicesBelow (shape : t.HasShape s) (h : Handle) (side keep : Side) (v : α) :
    t.SplicesBelow h side keep v where
  accepted := fun k node accepted => shape.splicedBelow accepted side keep v
  emplace := by
    intro placed m _ make
    have allowed : (∃ k node, t.resolve h = .ok (k, node)) ∨ t.MakesFirst h (.below side keep) :=
      .inl placed
    obtain ⟨site, found⟩ := exists_site allowed
    exact emplace_of_site found make

end LinkedTree

namespace Forest

/-- In every state that commands lead to, splicing in below a node puts the new node between the
node and what hung on that side of it. -/
theorem splicesBelow_of_run (edits : List (Edit Handle α)) {r : Nat} {t : LinkedTree S α}
    (held : (run {} edits).trees[r]? = some t) (h : Handle) (side keep : Side) (v : α) :
    t.SplicesBelow h side keep v := by
  obtain ⟨s, shape⟩ := wellLinked_run wellLinked_init edits r t held
  exact shape.splicesBelow h side keep v

/-- On the right of a node with two children; the displaced child goes to the left. -/
theorem splicesBelow_of_two_children :
    let edits : List (Edit Handle Nat) := [.create 0, .insert 0 (.above .left) .null 7,
      .insert 0 (.below .left .left) ⟨some 0, 1⟩ 8, .insert 0 (.below .right .left) ⟨some 0, 1⟩ 9]
    let t : LinkedTree Cells Nat :=
      ⟨⟨⟨#[some ⟨none, some 1, some 2, 7⟩, some ⟨some 0, none, none, 8⟩,
        some ⟨some 0, none, none, 9⟩]⟩⟩, some 0, 1⟩
    (run {} edits).trees[0]? = some t ∧ t.resolve ⟨some 0, 1⟩ = .ok (0, ⟨none, some 1, some 2, 7⟩) ∧
      (t.insert (.below .right .left) ⟨some 0, 1⟩ 5).state.nodes =
        ⟨⟨#[some ⟨none, some 1, some 3, 7⟩, some ⟨some 0, none, none, 8⟩,
          some ⟨some 3, none, none, 9⟩, some ⟨some 0, some 2, none, 5⟩]⟩⟩ ∧
      t.SplicesBelow ⟨some 0, 1⟩ .right .left 5 := by
  intro edits t
  have held : (run {} edits).trees[0]? = some t := rfl
  exact ⟨held, rfl, rfl, splicesBelow_of_run edits held _ _ _ _⟩

end Forest

end Substrate
