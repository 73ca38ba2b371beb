import Substrate.Proofs.Tree.Copying
import Substrate.Proofs.Tree.Removal

/-!
# Substrate.Proofs.Tree.Editing

What each edit makes of the shape of a tree. An accepted edit at a node changes the subtree at that
node and leaves everything around it: names, payloads and links. `Edited` states it together with
the handle that the edit answers, one lemma for each edit: `edited_insert`, `edited_erase`,
`edited_eraseChild`, `edited_reserve`, `edited_merge`; `hasShape_setData` and `hasShape_assign` are
their siblings for the edits that answer no handle.
-/

namespace Substrate

variable {S : Type → Type} [SlotMap S] {α : Type}

namespace LinkedTree

/-! ## Accepted handles -/

/-- A handle is accepted exactly if it is the tree's own and its node is there. -/
theorem resolve_eq_ok_iff {t : LinkedTree S α} {h : Handle} {k : Key} {node : Node α} :
    t.resolve h = .ok (k, node) ↔ h = t.handle (some k) ∧ t.nodes.get? k = some node := by
  obtain ⟨key, tree⟩ := h
  unfold resolve handle
  cases key with
  | none => simp
  | some key =>
    by_cases own : tree = t.id
    · simp only [own, if_true, Handle.mk.injEq, Option.some.injEq, and_true]
      cases found : t.nodes.get? key with
      | none =>
        simp only [reduceCtorEq, false_iff, not_and]
        rintro rfl
        simp [found]
      | some node' =>
        simp only [Except.ok.injEq, Prod.mk.injEq]
        constructor
        · rintro ⟨rfl, rfl⟩
          exact ⟨rfl, found⟩
        · rintro ⟨rfl, found'⟩
          exact ⟨rfl, Option.some.inj (found.symm.trans found')⟩
    · simp [own]

theorem resolve_cases (t : LinkedTree S α) (h : Handle) :
    (∃ e, t.resolve h = .error e) ∨ ∃ k node, t.resolve h = .ok (k, node) := by
  rcases t.resolve h with e | ⟨k, node⟩
  · exact .inl ⟨e, rfl⟩
  · exact .inr ⟨k, node, rfl⟩

/-- An edit at a handle was accepted: the tree has the new shape, and the answer is the handle of
the key `answer`. -/
structure Edited (t : LinkedTree S α) (o : Outcome (LinkedTree S α) (Except TreeError Handle) α)
    (s' : Shape (Key × α)) (answer : Option Key) : Prop where
  shape : o.state.HasShape s'
  reply : o.reply = .ok (t.handle answer)
  issued : ∀ j, t.nodes.Issued j → o.state.nodes.Issued j
  id : o.state.id = t.id

variable {t : LinkedTree S α} {s : Shape (Key × α)} {k : Key} {node : Node α}
  {C : Context (Key × α)} {l r : Shape (Key × α)}

/-- An accepted handle has a place in the shape. -/
theorem HasShape.exists_located (h : t.HasShape s) {hd : Handle}
    (accepted : t.resolve hd = .ok (k, node)) : ∃ C l r, t.Located s k node C l r := by
  obtain ⟨-, found⟩ := resolve_eq_ok_iff.1 accepted
  exact h.toBears.exists_located (h.covers k node found) found

/-- A node with what hangs on both sides, one of them named first. -/
theorem HasShape.exists_sides (h : t.HasShape s) {hd : Handle}
    (accepted : t.resolve hd = .ok (k, node)) (side : Side) :
    ∃ (C : Context (Key × α)) (c other : Shape (Key × α)),
      t.HasShape (Context.plug (⟨side, (k, node.data), other⟩ :: C) c) ∧
      t.HasShape (Context.plug (⟨side.opposite, (k, node.data), c⟩ :: C) other) ∧
      node.child side = c.topKey ∧ node.child side.opposite = other.topKey ∧
      ∀ f, s.editAt k f = C.plug (f (.hang (k, node.data) side c other)) := by
  obtain ⟨C, l, r, at?⟩ := h.exists_located accepted
  have whole : t.HasShape (C.plug (.node (k, node.data) l r)) := at?.shape ▸ h
  refine ⟨C, _, _, ?_, ?_, at?.child side, at?.child side.opposite, fun f => ?_⟩
  · rwa [Context.plug, ← Shape.node_eq_hang]
  · cases side <;> exact whole
  · rw [at?.editAt, ← Shape.node_eq_hang]

/-- The shape tells the parent of a node as the node does. -/
theorem HasShape.parentOf_eq (h : t.HasShape s) {hd : Handle}
    (accepted : t.resolve hd = .ok (k, node)) : s.parentOf k = node.parent := by
  obtain ⟨C, l, r, at?⟩ := h.exists_located accepted
  rw [at?.node_eq, at?.shape]
  exact Context.parentOf_plug (at?.shape ▸ h.nodup)

/-! ## Pieces come off -/

/-- Relinking a place makes no node. -/
theorem exists_get?_of_setPlace (place : Place) {c : Option Key} {j : Key}
    (found : (t.setPlace place c).nodes.get? j = some node) :
    ∃ node', t.nodes.get? j = some node' := by
  rw [get?_setPlace] at found
  obtain ⟨node', found', -⟩ := Option.map_eq_some_iff.1 found
  exact ⟨node', found'⟩

/-- Rewiring at a place leaves a loose piece alone. -/
theorem hangs_setPlace_of_apart {parent c : Option Key} {u : Shape (Key × α)}
    (hangs : Hangs t.nodes parent u) (outside : ∀ j ∈ u.keys, j ∉ C.keys)
    (notHung : ∀ j ∈ u.keys, c ≠ some j) : Hangs (t.setPlace C.place c).nodes parent u := by
  refine (hangs_congr fun j mem => get?_setPlace_of_ne _ ?_ (notHung j mem)).2 hangs
  rw [Context.parent?_place]
  exact fun above => outside j mem (Context.above_mem above)

/-- A tree that consists of what hangs from the root and a loose piece loses the piece. -/
theorem Bears.hasShape_destroy (h : t.Bears s) {parent : Option Key} {u : Shape (Key × α)}
    {key : Key} (hangs : Hangs t.nodes parent u) (nodup : u.keys.Nodup)
    (top : u.topKey = some key) (apart : ∀ j ∈ s.keys, j ∉ u.keys)
    (covers : ∀ j node, t.nodes.get? j = some node → j ∈ s.keys ∨ j ∈ u.keys) :
    (t.destroy key).state.HasShape s where
  toBears := h.congr (rootKey_destroy hangs nodup top) fun j mem => by
    rw [get?_destroy hangs nodup top, if_neg (apart j mem)]
  covers := by
    intro j node found
    rw [get?_destroy hangs nodup top] at found
    split at found
    · simp at found
    · next kept => exact (covers j node found).resolve_right kept

/-- Taking a piece out of its place and removing it leaves what surrounds the place. -/
theorem HasShape.destroy_of_plug {u : Shape (Key × α)} (h : t.HasShape (C.plug u))
    (top : u.topKey = some k) :
    ((t.setPlace C.place none).destroy k).state.HasShape (C.plug .nil) ∧
      (∀ j, ((t.setPlace C.place none).destroy k).state.nodes.Issued j ↔ t.nodes.Issued j) ∧
      ((t.setPlace C.place none).destroy k).state.id = t.id := by
  obtain ⟨opens, hangs, nodup⟩ := bears_plug_iff.1 h.toBears
  obtain ⟨nodupU, nodupC, apart⟩ := Context.nodup_keys_plug.1 nodup
  have rest : (t.setPlace C.place none).Bears (C.plug .nil) :=
    opens.bears_setPlace (hangs_nil t.nodes none)
      (Context.nodup_keys_plug.2 ⟨List.nodup_nil, nodupC, by simp⟩)
  have loose := hangs_setPlace_of_apart (c := none) hangs apart (by simp)
  refine ⟨rest.hasShape_destroy loose nodupU top ?_ ?_, fun j => ?_, ?_⟩
  · intro j mem inU
    rw [Context.mem_keys_plug, Shape.keys_nil] at mem
    exact apart j inU (mem.resolve_left (by simp))
  · intro j node found
    obtain ⟨node', found'⟩ := exists_get?_of_setPlace _ found
    have mem := h.covers j node' found'
    rw [Context.mem_keys_plug] at mem ⊢
    exact mem.elim .inr fun inC => .inl (.inr inC)
  · rw [issued_destroy loose nodupU top, issued_setPlace]
  · rw [id_destroy loose nodupU top, id_setPlace]

/-- Erasing removes the subtree at the node and answers the parent. -/
theorem HasShape.edited_erase (h : t.HasShape s) {hd : Handle}
    (accepted : t.resolve hd = .ok (k, node)) :
    t.Edited (t.erase hd) (s.editAt k fun _ => .nil) (s.parentOf k) := by
  obtain ⟨C, l, r, at?⟩ := h.exists_located accepted
  have parent : s.parentOf k = C.above := by
    rw [at?.shape]
    exact Context.parentOf_plug (at?.shape ▸ h.nodup)
  rw [at?.editAt, parent, erase, accepted]
  simp only [at?.placeOf]
  cases C with
  | nil =>
    exact ⟨hasShape_clear t, rfl, by simp [Context.place, clear], rfl⟩
  | cons f C =>
    have whole : t.HasShape (Context.plug (f :: C) (.node (k, node.data) l r)) := at?.shape ▸ h
    obtain ⟨shape, issued, id⟩ := whole.destroy_of_plug (Shape.topKey_node _ l r)
    exact ⟨shape, rfl, fun j => (issued j).2, id⟩

/-- Erasing a child removes the subtree on that side and answers the node. -/
theorem HasShape.edited_eraseChild (h : t.HasShape s) {hd : Handle}
    (accepted : t.resolve hd = .ok (k, node)) (side : Side) :
    t.Edited (t.eraseChild side hd) (s.editAt k (·.setChild side .nil)) (some k) := by
  obtain ⟨C, c, other, whole, -, link, -, edit⟩ := h.exists_sides accepted side
  rw [edit, Shape.setChild_hang, eraseChild, accepted]
  simp only [link]
  cases top : c.topKey with
  | none =>
    obtain rfl := Shape.eq_nil_of_topKey top
    exact ⟨whole, rfl, fun _ old => old, rfl⟩
  | some key =>
    obtain ⟨shape, issued, id⟩ := whole.destroy_of_plug top
    exact ⟨shape, rfl, fun j => (issued j).2, id⟩

/-- The link of a node to a child is the link of a place in the context of that child. -/
theorem setChild_eq_setPlace (f : Frame (Key × α)) (c : Option Key) :
    t.setChild f.label.1 f.side c = t.setPlace (Context.place (f :: C)) c := rfl

/-- Taking one child of a node into the place of the node and removing the node with what is left
below it leaves the child in the place. -/
theorem HasShape.destroy_of_promoted {f : Frame (Key × α)} {kept : Shape (Key × α)}
    (h : t.HasShape (Context.plug (f :: C) kept)) :
    let promoted := (t.setChild f.label.1 f.side none).setPlace C.place kept.topKey
    (promoted.destroy f.label.1).state.HasShape (C.plug kept) ∧
      (∀ j, (promoted.destroy f.label.1).state.nodes.Issued j ↔ t.nodes.Issued j) ∧
      (promoted.destroy f.label.1).state.id = t.id := by
  obtain ⟨opens, hangs, nodup⟩ := bears_plug_iff.1 h.toBears
  obtain ⟨nodupK, nodupF, apart⟩ := Context.nodup_keys_plug.1 nodup
  rw [setChild_eq_setPlace (C := C)]
  -- The kept subtree comes off, and the node without it still hangs in its place.
  have bare : (t.setPlace (Context.place (f :: C)) none).Bears (Context.plug (f :: C) .nil) :=
    opens.bears_setPlace (hangs_nil t.nodes none)
      (Context.nodup_keys_plug.2 ⟨List.nodup_nil, nodupF, by simp⟩)
  have loose := hangs_setPlace_of_apart (c := none) hangs apart (by simp)
  have covers : ∀ j node, (t.setPlace (Context.place (f :: C)) none).nodes.get? j = some node →
      j ∈ (Context.plug (f :: C) kept).keys := by
    intro j node found
    obtain ⟨node', found'⟩ := exists_get?_of_setPlace _ found
    exact h.covers j node' found'
  have issued := issued_setPlace t (Context.place (f :: C)) none
  have id := id_setPlace t (Context.place (f :: C)) none
  generalize t.setPlace (Context.place (f :: C)) none = t₁ at bare loose covers issued id
  rw [Context.plug] at bare
  obtain ⟨opens₁, node₁, nodup₁⟩ := bears_plug_iff.1 bare
  obtain ⟨nodupN, nodupC, apartN⟩ := Context.nodup_keys_plug.1 nodup₁
  have namesN : ∀ j, j ∈ (Shape.hang f.label f.side .nil f.sibling).keys ↔
      j = f.label.1 ∨ j ∈ f.sibling.keys := by
    intro j
    rw [(Shape.keys_hang_perm _ _ _ _).mem_iff]
    simp
  rw [Context.keys_cons] at apart
  have apartK : ∀ j ∈ kept.keys, j ∉ (Shape.hang f.label f.side .nil f.sibling).keys := by
    intro j mem
    have away := apart j mem
    rw [namesN]
    simp_all
  -- The kept subtree goes into the place, and the node hangs loose.
  have nodupP : (C.plug kept).keys.Nodup :=
    Context.nodup_keys_plug.2 ⟨nodupK, nodupC, fun j mem inC => apart j mem (by simp [inC])⟩
  have promoted := opens₁.bears_setPlace loose nodupP
  have looseN := hangs_setPlace_of_apart (c := kept.topKey) node₁ apartN
    fun j mem top => apartK j (Shape.topKey_mem top) mem
  have top : (Shape.hang f.label f.side .nil f.sibling).topKey = some f.label.1 :=
    Shape.topKey_hang _ _ _ _
  refine ⟨promoted.hasShape_destroy looseN nodupN top ?_ ?_, fun j => ?_, ?_⟩
  · intro j mem inN
    rcases Context.mem_keys_plug.1 mem with inK | inC
    · exact apartK j inK inN
    · exact apartN j inN inC
  · intro j node found
    obtain ⟨node', found'⟩ := exists_get?_of_setPlace _ found
    have mem := covers j node' found'
    rw [Context.mem_keys_plug, Context.keys_cons, List.mem_cons, List.mem_append] at mem
    rw [Context.mem_keys_plug, namesN]
    rcases mem with inK | here | inS | inC
    · exact .inl (.inl inK)
    · exact .inr (.inl here)
    · exact .inr (.inr inS)
    · exact .inl (.inr inC)
  · rw [issued_destroy looseN nodupN top, issued_setPlace, issued]
  · rw [id_destroy looseN nodupN top, id_setPlace, id]

/-- Reserving a side puts the subtree on that side into the node's place. -/
theorem HasShape.edited_reserve (h : t.HasShape s) {hd : Handle}
    (accepted : t.resolve hd = .ok (k, node)) (side : Side) :
    t.Edited (t.reserve side hd) (s.editAt k (·.child side)) (node.child side) := by
  obtain ⟨C, l, r, at?⟩ := h.exists_located accepted
  have hung := Shape.node_eq_hang (k, node.data) l r side
  rw [at?.editAt, reserve, accepted]
  simp only [at?.placeOf, at?.child side]
  have whole : t.HasShape (Context.plug (⟨side, (k, node.data),
      (Shape.node (k, node.data) l r).child side.opposite⟩ :: C)
        ((Shape.node (k, node.data) l r).child side)) := by
    rw [Context.plug, ← hung, ← at?.shape]
    exact h
  obtain ⟨shape, issued, id⟩ := whole.destroy_of_promoted
  exact ⟨shape, rfl, fun j => (issued j).2, id⟩

/-! ## Pieces come in -/

/-- Merging puts a copy of the other tree into the node's place. -/
theorem HasShape.edited_merge (h : t.HasShape s) {hd : Handle}
    (accepted : t.resolve hd = .ok (k, node)) {other : LinkedTree S α} {d : Shape (Key × α)}
    (ho : other.HasShape d) :
    ∃ c, c.payloads = d.payloads ∧ (∀ j ∈ c.keys, ¬ t.nodes.Issued j) ∧
      t.Edited (t.merge hd other) (s.editAt k fun _ => c) c.topKey := by
  obtain ⟨C, l, r, at?⟩ := h.exists_located accepted
  obtain ⟨c, graft, copied⟩ := exists_copied_copyTree ho t
  refine ⟨c, copied.payloads, fun j mem => ((copied.mem_iff j).1 mem).1, ?_⟩
  rw [at?.editAt, merge, accepted]
  simp only [at?.placeOf]
  rcases pair : t.copyTree other with ⟨root, grown⟩
  rw [pair] at graft copied
  obtain rfl : root = c.topKey := graft
  have whole : t.Bears (C.plug (.node (k, node.data) l r)) := at?.shape ▸ h.toBears
  have old : ∀ j ∈ (C.plug (.node (k, node.data) l r)).keys, t.nodes.Issued j := by
    rw [← at?.shape]
    exact fun j mem => h.issued mem
  have fresh : ∀ j ∈ c.keys, ¬ t.nodes.Issued j := fun j mem => ((copied.mem_iff j).1 mem).1
  have kept : grown.Bears (C.plug (.node (k, node.data) l r)) :=
    whole.congr copied.rootKey fun j mem => copied.kept j (old j mem)
  obtain ⟨opens, replaced, nodup⟩ := bears_plug_iff.1 kept
  obtain ⟨nodupS, nodupC, apart⟩ := Context.nodup_keys_plug.1 nodup
  have apartC : ∀ j ∈ c.keys, j ∉ C.keys := fun j mem inC =>
    fresh j mem (old j (Context.mem_keys_plug.2 (.inr inC)))
  have apartS : ∀ j ∈ c.keys, j ∉ (Shape.node (k, node.data) l r).keys := fun j mem inS =>
    fresh j mem (old j (Context.mem_keys_plug.2 (.inl inS)))
  have grafted := opens.bears_setPlace copied.hangs
    (Context.nodup_keys_plug.2 ⟨copied.nodup, nodupC, apartC⟩)
  have loose := hangs_setPlace_of_apart (c := c.topKey) replaced apart
    fun j mem top => apartS j (Shape.topKey_mem top) mem
  have top : (Shape.node (k, node.data) l r).topKey = some k := rfl
  refine ⟨grafted.hasShape_destroy loose nodupS top ?_ ?_, rfl, fun j issued => ?_, ?_⟩
  · intro j mem inS
    rcases Context.mem_keys_plug.1 mem with inc | inC
    · exact apartS j inc inS
    · exact apart j inS inC
  · intro j node' found
    obtain ⟨node'', found'⟩ := exists_get?_of_setPlace _ found
    rw [Context.mem_keys_plug]
    by_cases issued : t.nodes.Issued j
    · rw [copied.kept j issued] at found'
      have mem := h.covers j node'' found'
      rw [at?.shape, Context.mem_keys_plug] at mem
      exact mem.elim .inr fun inC => .inl (.inr inC)
    · exact .inl (.inl ((copied.mem_iff j).2 ⟨issued, Arena.issued_of_get? found'⟩))
  · change ((grown.setPlace C.place c.topKey).destroy k).state.nodes.Issued j
    rw [issued_destroy loose nodupS top, issued_setPlace]
    exact copied.issued j issued
  · change ((grown.setPlace C.place c.topKey).destroy k).state.id = t.id
    rw [id_destroy loose nodupS top, id_setPlace, copied.id]

/-- A copy of the subtree at a node makes a tree of its own. -/
theorem HasShape.exists_hasShape_subtree (h : t.HasShape s) {hd : Handle}
    (accepted : t.resolve hd = .ok (k, node)) (id : TreeId) :
    ∃ tree u c, t.subtree hd id = .ok tree ∧ s.sub? k = some u ∧ c.payloads = u.payloads ∧
      tree.HasShape c ∧ tree.id = id := by
  obtain ⟨C, l, r, at?⟩ := h.exists_located accepted
  obtain ⟨-, found⟩ := resolve_eq_ok_iff.1 accepted
  have whole : (C.plug (.node (k, node.data) l r)).keys.Nodup := at?.shape ▸ h.nodup
  have nodup := (Context.nodup_keys_plug.1 whole).1
  obtain ⟨c, top, copied⟩ := exists_copied_copySubtree at?.hangs nodup (empty α id) none rfl found
  have shape := copied.hasShape fun j => Arena.get?_empty j
  rw [top] at shape
  refine ⟨_, _, c, ?_, at?.sub?, copied.payloads, shape, copied.id⟩
  rw [subtree, accepted]
  rfl

/-! ## Payloads -/

/-- Another payload in a node changes neither names nor links. -/
theorem HasShape.hasShape_setData (h : t.HasShape s) {hd : Handle}
    (accepted : t.resolve hd = .ok (k, node)) (v : α) :
    (t.setData hd v).state.HasShape (s.editAt k (·.setTop v)) ∧
      (t.setData hd v).reply = .ok () ∧ (t.setData hd v).destroyed = [node.data] ∧
      (∀ j, (t.setData hd v).state.nodes.Issued j ↔ t.nodes.Issued j) ∧
      (t.setData hd v).state.id = t.id := by
  obtain ⟨C, l, r, at?⟩ := h.exists_located accepted
  have whole : (C.plug (.node (k, node.data) l r)).keys.Nodup := at?.shape ▸ h.nodup
  have covers := h.covers
  rw [at?.shape] at covers
  have apart := (Context.nodup_keys_plug.1 whole).1
  rw [Shape.keys_node, List.nodup_cons, List.mem_append, not_or] at apart
  obtain ⟨here, left, right⟩ := at?.hangs
  have outcome : t.setData hd v =
      ⟨.ok (), { t with nodes := t.nodes.modify k fun node => { node with data := v } },
        [node.data]⟩ := by
    rw [setData, accepted]
  rw [at?.editAt, outcome]
  have other : ∀ j, j ≠ k →
      (t.nodes.modify k fun node => { node with data := v }).get? j = t.nodes.get? j := by
    intro j ne
    rw [Arena.get?_modify, if_neg ne]
  have names : (C.plug (.node (k, v) l r)).keys.Nodup := by
    rw [Context.nodup_keys_plug] at whole ⊢
    exact whole
  refine ⟨⟨bears_plug_iff.2 ⟨at?.opens.congr rfl fun j mem => other j ?_, ⟨?_, ?_, ?_⟩, names⟩,
    fun j node' found => ?_⟩, rfl, rfl, Arena.issued_modify _ _ _, rfl⟩
  · rintro rfl
    exact at?.outside mem
  · rw [Arena.get?_modify, if_pos rfl, here]
    rfl
  · refine (hangs_congr fun j mem => other j ?_).2 left
    rintro rfl
    exact apart.1.1 mem
  · refine (hangs_congr fun j mem => other j ?_).2 right
    rintro rfl
    exact apart.1.2 mem
  · have held : ∃ node'', t.nodes.get? j = some node'' := by
      simp only [Arena.get?_modify] at found
      split at found
      · obtain ⟨node'', found', -⟩ := Option.map_eq_some_iff.1 found
        exact ⟨node'', found'⟩
      · exact ⟨node', found⟩
    obtain ⟨node'', found'⟩ := held
    have mem := covers j node'' found'
    rw [Context.mem_keys_plug] at mem ⊢
    exact mem

end LinkedTree

end Substrate
