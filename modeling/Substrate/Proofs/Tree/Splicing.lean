import Substrate.Proofs.Tree.Editing
import Substrate.Tree.Forest

/-!
# Substrate.Proofs.Tree.Splicing

What an insertion makes of the shape of a tree. A new node goes into the place of a subtree, or of
a child of a node, and what was there hangs below the new node on the side it is told to keep
(`edited_insert`); a tree without nodes takes its first one at a handle that denotes none
(`edited_insert_first`). A constructor in place of a payload makes no difference to the tree
(`emplaceWatched_eq`).
-/

namespace Substrate

variable {S : Type → Type} [SlotMap S] {α : Type}

namespace LinkedTree

variable {t : LinkedTree S α} {s : Shape (Key × α)} {k : Key} {node : Node α}
  {C : Context (Key × α)} {l r : Shape (Key × α)}

/-! ## A new node in a place -/

/-- A new node beside a tree leaves what hangs from the root. -/
theorem HasShape.bears_addNode (h : t.HasShape s) (new : Node α) : (t.addNode new).Bears s :=
  h.toBears.congr rfl fun j mem => by
    rw [nodes_addNode, Arena.get?_insert, if_neg (Arena.ne_nextKey (h.issued mem))]

/-- After a node was added, a key is the new one or one of the shape. -/
theorem HasShape.mem_of_addNode (h : t.HasShape s) (new : Node α) {j : Key}
    (found : (t.addNode new).nodes.get? j = some node) : j = t.nodes.nextKey ∨ j ∈ s.keys := by
  rw [nodes_addNode, Arena.get?_insert] at found
  split at found
  · next same => exact .inl same
  · exact .inr (h.covers j node found)

/-- A new node takes the place of a subtree, which then hangs below it. -/
theorem HasShape.hasShape_put_above {u : Shape (Key × α)} (h : t.HasShape (C.plug u))
    (top : u.topKey = some k) (keep : Side) (v : α) :
    (t.put (.above k C.place keep) v).HasShape
      (C.plug (.hang (t.nodes.nextKey, v) keep u .nil)) := by
  have fresh := h.nextKey_not_mem
  rw [Context.mem_keys_plug, not_or] at fresh
  rw [put]
  have added := h.bears_addNode ⟨none, none, none, v⟩
  have covers := fun j node => @HasShape.mem_of_addNode S _ α t (C.plug u) node h
    ⟨none, none, none, v⟩ j
  have new : Hangs (t.addNode ⟨none, none, none, v⟩).nodes none
      (.node (t.nodes.nextKey, v) .nil .nil) := by
    refine ⟨?_, trivial, trivial⟩
    simp
  generalize t.addNode ⟨none, none, none, v⟩ = t₁ at added covers new
  generalize t.nodes.nextKey = n at fresh covers new
  obtain ⟨opens, hangs, nodup⟩ := bears_plug_iff.1 added
  obtain ⟨nodupU, nodupC, apart⟩ := Context.nodup_keys_plug.1 nodup
  -- The new node goes into the place, and the subtree hangs loose.
  have placed := opens.bears_setPlace new
    (Context.nodup_keys_plug.2 ⟨by simp, nodupC, by simpa using fresh.2⟩)
  have loose := hangs_setPlace_of_apart (c := some n) hangs apart fun j mem same => by
    cases same
    exact fresh.1 mem
  rw [Shape.topKey_node] at placed
  have covers₂ : ∀ j node, (t₁.setPlace C.place (some n)).nodes.get? j = some node →
      j = n ∨ j ∈ (C.plug u).keys := by
    intro j node found
    obtain ⟨node', found'⟩ := exists_get?_of_setPlace _ found
    exact covers j node' found'
  generalize t₁.setPlace C.place (some n) = t₂ at placed loose covers₂
  -- The subtree goes below the new node.
  have split : C.plug (.node (n, v) .nil .nil) = Context.plug (⟨keep, (n, v), .nil⟩ :: C) .nil := by
    cases keep <;> rfl
  rw [split] at placed
  obtain ⟨opens₂, -, nodup₂⟩ := bears_plug_iff.1 placed
  have nodupF := (Context.nodup_keys_plug.1 nodup₂).2.1
  have apartF : ∀ j ∈ u.keys, j ∉ Context.keys ((⟨keep, (n, v), .nil⟩ : Frame (Key × α)) :: C) := by
    intro j mem
    have away := apart j mem
    rw [Context.keys_cons, List.mem_cons, Shape.keys_nil, List.nil_append, not_or]
    refine ⟨?_, away⟩
    rintro rfl
    exact fresh.1 mem
  have hung := opens₂.bears_setPlace loose (Context.nodup_keys_plug.2 ⟨nodupU, nodupF, apartF⟩)
  rw [top] at hung
  refine ⟨hung, fun j node found => ?_⟩
  obtain ⟨node', found'⟩ := exists_get?_of_setPlace (.child n keep) found
  have mem := covers₂ j node' found'
  rw [Context.mem_keys_plug] at mem
  change j ∈ (Context.plug (⟨keep, (n, v), .nil⟩ :: C) u).keys
  rw [Context.mem_keys_plug, Context.keys_cons, List.mem_cons, Shape.keys_nil, List.nil_append]
  rcases mem with here | inU | inC
  · exact .inr (.inl here)
  · exact .inl inU
  · exact .inr (.inr inC)

theorem rootKey_setChild (t : LinkedTree S α) (p : Key) (side : Side) (c : Option Key) :
    (t.setChild p side c).rootKey = t.rootKey := by
  cases c <;> rfl

/-- A new node takes the place of a child, which then hangs below it. -/
theorem HasShape.hasShape_put_below {f : Frame (Key × α)} {u : Shape (Key × α)}
    (h : t.HasShape (Context.plug (f :: C) u)) (keep : Side) (v : α) :
    (t.put (.below f.label.1 f.side keep u.topKey) v).HasShape
      (Context.plug (f :: C) (.hang (t.nodes.nextKey, v) keep u .nil)) := by
  have fresh := h.nextKey_not_mem
  rw [Context.mem_keys_plug, not_or] at fresh
  rw [put]
  have added := h.bears_addNode ⟨some f.label.1, none, none, v⟩
  have covers := fun j node =>
    @HasShape.mem_of_addNode S _ α t (Context.plug (f :: C) u) node h
      ⟨some f.label.1, none, none, v⟩ j
  have new : (t.addNode ⟨some f.label.1, none, none, v⟩).nodes.get? t.nodes.nextKey =
      some ⟨some f.label.1, none, none, v⟩ := by simp
  generalize t.addNode ⟨some f.label.1, none, none, v⟩ = t₁ at added covers new
  generalize t.nodes.nextKey = n at fresh covers new
  obtain ⟨opens, hangs, nodup⟩ := bears_plug_iff.1 added
  obtain ⟨nodupU, nodupC, apart⟩ := Context.nodup_keys_plug.1 nodup
  -- The child goes below the new node, which hangs loose.
  have notTop : u.topKey ≠ some n := fun top => fresh.1 (Shape.topKey_mem top)
  have below : Hangs (t₁.setChild n keep u.topKey).nodes (some f.label.1)
      (.hang (n, v) keep u .nil) := by
    refine (Context.hangs_hang (f := ⟨keep, (n, v), .nil⟩)).2 ⟨?_, trivial, ?_⟩
    · rw [get?_setChild, new]
      cases keep <;> simp [notTop, Node.setChild, Frame.node]
    · refine Context.hangs_setPlace (C := [⟨keep, (n, v), .nil⟩]) hangs nodupU fun j mem => ?_
      simp only [Context.keys_cons, Shape.keys_nil, Context.keys_empty, List.append_nil,
        List.mem_singleton]
      rintro rfl
      exact fresh.1 mem
  have opens₂ : (t₁.setChild n keep u.topKey).Opens (f :: C) u.topKey := by
    refine opens.congr (rootKey_setChild t₁ n keep u.topKey) fun j mem => ?_
    refine get?_setPlace_of_ne (.child n keep) ?_ fun top => ?_
    · rintro ⟨rfl⟩
      exact fresh.2 mem
    · exact apart j (Shape.topKey_mem top) mem
  have covers₂ : ∀ j node, (t₁.setChild n keep u.topKey).nodes.get? j = some node →
      j = n ∨ j ∈ (Context.plug (f :: C) u).keys := by
    intro j node found
    obtain ⟨node', found'⟩ := exists_get?_of_setPlace (.child n keep) found
    exact covers j node' found'
  generalize t₁.setChild n keep u.topKey = t₂ at below opens₂ covers₂
  -- The new node goes into the child's place.
  have names : ∀ j, j ∈ (Shape.hang (n, v) keep u .nil).keys ↔ j = n ∨ j ∈ u.keys := by
    intro j
    rw [(Shape.keys_hang_perm _ _ _ _).mem_iff]
    simp
  have nodupN : (Shape.hang (n, v) keep u .nil).keys.Nodup := by
    rw [(Shape.keys_hang_perm _ _ _ _).nodup_iff, Shape.keys_nil, List.append_nil,
      List.nodup_cons]
    exact ⟨fresh.1, nodupU⟩
  have apartN : ∀ j ∈ (Shape.hang (n, v) keep u .nil).keys, j ∉ Context.keys (f :: C) := by
    intro j mem
    rcases (names j).1 mem with rfl | inU
    · exact fresh.2
    · exact apart j inU
  have hung := opens₂.bears_setPlace below (Context.nodup_keys_plug.2 ⟨nodupN, nodupC, apartN⟩)
  rw [Shape.topKey_hang] at hung
  refine ⟨hung, fun j node found => ?_⟩
  obtain ⟨node', found'⟩ := exists_get?_of_setPlace (.child f.label.1 f.side) found
  have mem := covers₂ j node' found'
  rw [Context.mem_keys_plug] at mem
  rw [Context.mem_keys_plug, names]
  exact or_assoc.2 mem

/-- Splicing in a node issues one key. -/
theorem issued_put (t : LinkedTree S α) (site : Site) (v : α) (j : Key) :
    (t.put site v).nodes.Issued j ↔ j = t.nodes.nextKey ∨ t.nodes.Issued j := by
  cases site with
  | emptyTree => exact Arena.issued_insert _ _ _
  | above it place keep =>
    rw [put]
    refine (issued_setPlace _ (.child _ keep) _ _).trans ?_
    rw [issued_setPlace, nodes_addNode, Arena.issued_insert]
  | below it side keep displaced =>
    rw [put]
    refine (issued_setPlace _ (.child it side) _ _).trans ?_
    refine (issued_setPlace _ (.child _ keep) _ _).trans ?_
    rw [nodes_addNode, Arena.issued_insert]

/-! ## Insertions -/

/-- The site above an accepted node is its place. -/
theorem site_above_of_resolve {hd : Handle} (accepted : t.resolve hd = .ok (k, node))
    (keep : Side) : t.site (.above keep) hd = .ok (.above k (t.placeOf k node) keep) := by
  have usable : hd.isUsable = true := by
    rw [(resolve_eq_ok_iff.1 accepted).1]
    rfl
  simp only [site, usable, accepted, Bool.not_true, Bool.false_and, Bool.false_eq_true, if_false]
  rfl

/-- The site below an accepted node has the child there displaced. -/
theorem site_below_of_resolve {hd : Handle} (accepted : t.resolve hd = .ok (k, node))
    (side keep : Side) :
    t.site (.below side keep) hd = .ok (.below k side keep (node.child side)) := by
  rw [site, accepted]
  rfl

/-- An insertion at a node changes the subtree at that node and answers the new node. -/
theorem HasShape.edited_insert (h : t.HasShape s) {hd : Handle}
    (accepted : t.resolve hd = .ok (k, node)) (splice : Splice) (v : α) :
    t.Edited (t.insert splice hd v) (s.editAt k (·.spliceTop splice (t.nodes.nextKey, v)))
      (some t.nodes.nextKey) := by
  cases splice with
  | above keep =>
    obtain ⟨C, l, r, at?⟩ := h.exists_located accepted
    have whole : t.HasShape (C.plug (.node (k, node.data) l r)) := at?.shape ▸ h
    have shape := whole.hasShape_put_above (Shape.topKey_node _ l r) keep v
    rw [at?.editAt, insert, site_above_of_resolve accepted, at?.placeOf]
    exact ⟨shape, rfl, fun j old => (issued_put t _ v j).2 (.inr old), id_put t _ v⟩
  | below side keep =>
    obtain ⟨C, c, other, whole, -, link, -, edit⟩ := h.exists_sides accepted side
    have shape := whole.hasShape_put_below keep v
    rw [edit, insert, site_below_of_resolve accepted, link, Shape.spliceTop, Shape.setChild_hang,
      Shape.child_hang]
    exact ⟨shape, rfl, fun j old => (issued_put t _ v j).2 (.inr old), id_put t _ v⟩

/-- The first node of a tree. -/
theorem HasShape.edited_insert_first (h : t.HasShape .nil) {hd : Handle} (unusable : hd.key = none)
    (keep : Side) (v : α) :
    t.Edited (t.insert (.above keep) hd v) (.node (t.nodes.nextKey, v) .nil .nil)
      (some t.nodes.nextKey) := by
  have first : t.site (.above keep) hd = .ok .emptyTree := by
    simp [site, Handle.isUsable, unusable, isEmpty, h.root]
  rw [insert, first]
  refine ⟨⟨⟨rfl, ⟨?_, trivial, trivial⟩, by simp⟩, fun j node found => ?_⟩, rfl,
    fun j old => (issued_put t .emptyTree v j).2 (.inr old), rfl⟩
  · exact Arena.get?_insert_nextKey _ _
  · rcases h.mem_of_addNode ⟨none, none, none, v⟩ found with rfl | mem
    · simp
    · simp at mem

/-- An insertion is refused, takes place at a node, or makes the first node of a tree. -/
theorem HasShape.insert_cases (h : t.HasShape s) (splice : Splice) (hd : Handle) (v : α) :
    (∃ e, t.insert splice hd v = ⟨.error e, t, [v]⟩ ∧
        (∀ k node, t.resolve hd ≠ .ok (k, node)) ∧
        (hd.key = none → s = .nil → ∀ keep, splice ≠ .above keep)) ∨
      (∃ k node, t.resolve hd = .ok (k, node) ∧
        t.Edited (t.insert splice hd v) (s.editAt k (·.spliceTop splice (t.nodes.nextKey, v)))
          (some t.nodes.nextKey)) ∨
      (∃ keep, s = .nil ∧ hd.key = none ∧ splice = .above keep ∧
        t.Edited (t.insert splice hd v) (.node (t.nodes.nextKey, v) .nil .nil)
          (some t.nodes.nextKey)) := by
  rcases t.resolve_cases hd with ⟨e, refused⟩ | ⟨k, node, accepted⟩
  · by_cases first : ∃ keep, s = .nil ∧ hd.key = none ∧ splice = .above keep
    · obtain ⟨keep, rfl, unusable, rfl⟩ := first
      exact .inr (.inr ⟨keep, rfl, unusable, rfl, h.edited_insert_first unusable keep v⟩)
    · refine .inl ⟨e, insert_of_site_error ?_ v, by simp [refused], fun unusable empty keep is =>
        first ⟨keep, empty, unusable, is⟩⟩
      cases splice with
      | below side keep => rw [site, refused]; rfl
      | above keep =>
        have notFirst : (!hd.isUsable && t.isEmpty) = false := by
          rw [Bool.eq_false_iff]
          intro taken
          simp only [Bool.and_eq_true, Bool.not_eq_true', isEmpty, h.root,
            Option.isNone_iff_eq_none, Handle.isUsable, Option.isSome_eq_false_iff] at taken
          exact first ⟨keep, Shape.eq_nil_of_topKey taken.2, taken.1, rfl⟩
        simp only [site, notFirst, refused, Bool.false_eq_true, if_false]
        rfl
  · exact .inr (.inl ⟨k, node, accepted, h.edited_insert accepted splice v⟩)

/-! ## Constructors -/

/-- A constructor runs exactly when a payload would have been accepted, and then the tree comes
out the same. -/
theorem emplaceWatched_eq (t : LinkedTree S α) (splice : Splice) (hd : Handle) (v : α) :
    Forest.emplaceWatched t splice hd v =
      .keeping (.built (t.insert splice hd v).reply.isOk (t.insert splice hd v).reply)
        (t.insert splice hd v).state := by
  unfold Forest.emplaceWatched emplace insert
  cases t.site splice hd <;> rfl

/-- Where a splice is accepted, a constructor of any kind runs first, and what it makes is
inserted. -/
theorem emplace_of_site {splice : Splice} {hd : Handle} {site : Site} {m : Type → Type} [Monad m]
    (found : t.site splice hd = .ok site) (make : m α) :
    t.emplace splice hd make = do return t.insert splice hd (← make) := by
  simp only [emplace, insert, found]

/-- Handing a payload over and making it in place differ only in what a refusal destroys. -/
theorem insertLink_eq (t : LinkedTree S α) (hd : Handle) (link : Link α) :
    (t.insertLink hd link).reply = (t.insert link.splice hd link.payload).reply ∧
      (t.insertLink hd link).state = (t.insert link.splice hd link.payload).state := by
  unfold insertLink emplace insert
  cases link.isMade <;> cases t.site link.splice hd <;> exact ⟨rfl, rfl⟩

end LinkedTree

end Substrate
