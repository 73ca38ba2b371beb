import Substrate.Proofs.Tree.Splicing
import Substrate.Proofs.Tree.Stock

/-!
# Substrate.Proofs.Tree.Turnover

What each edit of a tree brings in and what it takes out. A `Turnover` says it in terms of the tree
before the edit: which payloads are handed in or copied, and which hang where the edit removes
something. `Turns` relates it to the outcome of the edit, one lemma for each edit; the edits that
remove nodes destroy the payloads of just the nodes that the tree has lost (`Removes`).
-/

namespace Substrate

variable {S : Type → Type} [SlotMap S] {α : Type}

/-- The payloads that come in, and those that come to their end. -/
structure Turnover (α : Type) where
  made : Multiset α := 0
  ended : Multiset α := 0

namespace Turnover

/-- One turnover after another. -/
instance : Add (Turnover α) := ⟨fun w w' => ⟨w.made + w'.made, w.ended + w'.ended⟩⟩

@[simp] theorem made_add (w w' : Turnover α) : (w + w').made = w.made + w'.made := rfl

@[simp] theorem ended_add (w w' : Turnover α) : (w + w').ended = w.ended + w'.ended := rfl

end Turnover

namespace LinkedTree

/-! ## Where payloads hang -/

/-- The nodes that hang from a link, with their payloads. -/
def below (t : LinkedTree S α) (link : Option Key) : Multiset (Key × α) :=
  ((walkNodes t.nodes t.size link.toList []).map fun (key, node) => (key, node.data) : List _)

def payloadsBelow (t : LinkedTree S α) (link : Option Key) : Multiset α :=
  (t.below link).map Prod.snd

/-- The payloads that hang from the root. -/
def contents (t : LinkedTree S α) : Multiset α := t.toList

/-- The payloads of the nodes that `t` has and `t'` has not. -/
def lost (t t' : LinkedTree S α) : Multiset α :=
  ((t.below t.rootKey).filter fun x => t'.nodes.contains x.1 = false).map Prod.snd

variable {t : LinkedTree S α} {s : Shape (Key × α)} {k : Key} {node : Node α}
  {C : Context (Key × α)} {l r : Shape (Key × α)}

theorem contents_eq (t : LinkedTree S α) : t.contents = t.payloadsBelow t.rootKey := by
  simp [contents, payloadsBelow, below, toList, preorder, Function.comp_def]

/-- A shape that hangs from a link is what hangs from it. -/
theorem below_of_hangs {parent : Option Key} {u : Shape (Key × α)} (hangs : Hangs t.nodes parent u)
    (nodup : u.keys.Nodup) : t.below u.topKey = u.bag := by
  obtain ⟨spare, enough⟩ := Nat.exists_eq_add_of_le (size_le_of_hangs hangs nodup)
  have walk := walkNodes_append hangs spare [] []
  rw [List.append_nil, List.append_nil, ← enough] at walk
  have stop (seen : List (Key × Node α)) : walkNodes t.nodes spare [] seen = seen.reverse := by
    cases spare <;> rfl
  rw [below, size, walk, stop, List.reverse_reverse, payloads_entries hangs, Shape.bag]

namespace HasShape

variable {u : Shape (Key × α)}

/-- What is in a place hangs from the link to its top node. -/
theorem below (h : t.HasShape (C.plug u)) : t.below u.topKey = u.bag := by
  obtain ⟨-, hangs, nodup⟩ := bears_plug_iff.1 h.toBears
  exact below_of_hangs hangs (Context.nodup_keys_plug.1 nodup).1

/-- Below the link to a piece hang the payloads of the piece. -/
theorem payloadsBelow (h : t.HasShape (C.plug u)) : t.payloadsBelow u.topKey = u.payloads.bag := by
  rw [LinkedTree.payloadsBelow, h.below, Shape.bag_payloads]

theorem below_root (h : t.HasShape s) : t.below t.rootKey = s.bag := by
  rw [h.root]
  exact below (C := []) h

/-- A tree holds the payloads of its shape. -/
theorem contents (h : t.HasShape s) : t.contents = s.payloads.bag := by
  rw [contents_eq, h.root]
  exact payloadsBelow (C := []) h

end HasShape

/-! ## Turnovers -/

/-- The turnover of an edit at a handle: none if the handle is refused. -/
def turnoverAt (t : LinkedTree S α) (h : Handle) (ofNode : Key → Node α → Turnover α) :
    Turnover α :=
  match t.resolve h with
  | .error _ => {}
  | .ok (key, node) => ofNode key node

/-- At an accepted handle, the turnover is that of its node. -/
theorem turnoverAt_of_resolve {h : Handle} (accepted : t.resolve h = .ok (k, node))
    (ofNode : Key → Node α → Turnover α) : t.turnoverAt h ofNode = ofNode k node := by
  rw [turnoverAt, accepted]

/-- The turnover of one insertion. A payload that is handed over at a refused handle is destroyed;
a constructor does not run there. -/
def linkTurnover (t : LinkedTree S α) (h : Handle) (link : Link α) : Turnover α :=
  match t.site link.splice h with
  | .ok _ => { made := {link.payload} }
  | .error _ => if link.isMade then {} else ⟨{link.payload}, {link.payload}⟩

/-- The turnover of a chain of insertions, up to the first refusal. -/
def chainTurnover (t : LinkedTree S α) (h : Handle) : List (Link α) → Turnover α
  | [] => {}
  | link :: rest =>
    let o := t.insertLink h link
    t.linkTurnover h link +
      match o.reply with
      | .error _ => {}
      | .ok next => o.state.chainTurnover next rest

/-- The outcome of an edit has the turnover `w`: the stock before it with what comes in is the
stock after it with what is destroyed, and what is destroyed is what the turnover says. -/
structure Turns {ρ : Type} (t : LinkedTree S α) (o : Outcome (LinkedTree S α) ρ α)
    (w : Turnover α) : Prop where
  balance : t.stock + w.made = o.state.stock + o.destroyed
  destroyed : o.destroyed = w.ended

/-- The edit destroys the payloads of the nodes that the tree has lost. -/
structure Removes {ρ : Type} (t : LinkedTree S α) (o : Outcome (LinkedTree S α) ρ α)
    (w : Turnover α) : Prop extends Turns t o w where
  lost : o.destroyed = t.lost o.state

theorem turns_keeping {ρ : Type} (t : LinkedTree S α) (reply : ρ) : t.Turns (.keeping reply t) {} :=
  ⟨rfl, rfl⟩

/-- An edit that takes the nodes `gone` out and puts the nodes `added` there. -/
theorem removes_of_bags {ρ : Type} {o : Outcome (LinkedTree S α) ρ α} {s' : Shape (Key × α)}
    (gone added kept : Multiset (Key × α)) (h : t.HasShape s) (h' : o.state.HasShape s')
    (balance : t.stock + added.map Prod.snd = o.state.stock + o.destroyed)
    (before : s.bag = gone + kept) (after : s'.bag = added + kept)
    (apart : ∀ x ∈ gone, x.1 ∉ s'.keys) :
    t.Removes o ⟨added.map Prod.snd, gone.map Prod.snd⟩ := by
  have destroyed : (o.destroyed : Multiset α) = gone.map Prod.snd := by
    rw [h.stock, h'.stock, Shape.bag_payloads, Shape.bag_payloads, before, after,
      Multiset.map_add, Multiset.map_add] at balance
    refine add_left_cancel (a := added.map Prod.snd + kept.map Prod.snd) (balance.symm.trans ?_)
    abel
  refine ⟨⟨balance, destroyed⟩, destroyed.trans ?_⟩
  have absent : ∀ x ∈ gone, o.state.nodes.contains x.1 = false := by
    intro x mem
    cases found : o.state.nodes.get? x.1 with
    | none => simp [Arena.contains, found]
    | some node => exact absurd (h'.covers _ node found) (apart x mem)
  have present : ∀ x ∈ kept, ¬ o.state.nodes.contains x.1 = false := by
    intro x mem
    have inS : x ∈ s'.bag := after ▸ Multiset.mem_add.2 (.inr mem)
    obtain ⟨node, found⟩ := (h'.mem_iff x.1).1 (Shape.mem_keys_of_mem_bag inS)
    simp [Arena.contains, found]
  rw [LinkedTree.lost, h.below_root, before, Multiset.filter_add,
    Multiset.filter_eq_self.2 absent, Multiset.filter_eq_nil.2 present, add_zero]

/-- An edit that changes what is in a place: `u` goes, and `c` comes. -/
theorem removes_of_plug {ρ : Type} {o : Outcome (LinkedTree S α) ρ α} {u c : Shape (Key × α)}
    (h : t.HasShape (C.plug u)) (h' : o.state.HasShape (C.plug c))
    (balance : o.state.stock + o.destroyed = t.stock + c.payloads.bag)
    (apart : ∀ j ∈ u.keys, j ∉ c.keys) : t.Removes o ⟨c.payloads.bag, u.payloads.bag⟩ := by
  have around := h.apart
  rw [Shape.bag_payloads] at balance
  rw [Shape.bag_payloads, Shape.bag_payloads]
  refine removes_of_bags u.bag c.bag C.bag h h' balance.symm (C.bag_plug u) (C.bag_plug c) ?_
  intro x mem inS
  have inU := Shape.mem_keys_of_mem_bag mem
  exact (Context.mem_keys_plug.1 inS).elim (apart x.1 inU) (around x.1 inU)

/-- Nothing is lost as long as nothing happens. -/
theorem HasShape.removes_keeping {ρ : Type} (h : t.HasShape s) (reply : ρ) :
    t.Removes (.keeping reply t) {} :=
  removes_of_bags 0 0 s.bag h h rfl (zero_add _).symm (zero_add _).symm (by simp)

/-! ## Removals -/

theorem stock_erase (t : LinkedTree S α) (hd : Handle) :
    (t.erase hd).state.stock + (t.erase hd).destroyed = t.stock := by
  rw [erase]
  rcases t.resolve hd with e | ⟨key, node⟩
  · exact add_zero _
  · cases place : t.placeOf key node with
    | root => simp [place, destroyed_clear]
    | child parent side => simp [place, stock_destroy]

theorem stock_eraseChild (t : LinkedTree S α) (side : Side) (hd : Handle) :
    (t.eraseChild side hd).state.stock + (t.eraseChild side hd).destroyed = t.stock := by
  rw [eraseChild]
  rcases t.resolve hd with e | ⟨key, node⟩
  · exact add_zero _
  · cases link : node.child side with
    | none => simp [link]
    | some child => simp [link, stock_destroy]

theorem stock_reserve (t : LinkedTree S α) (side : Side) (hd : Handle) :
    (t.reserve side hd).state.stock + (t.reserve side hd).destroyed = t.stock := by
  rw [reserve]
  rcases t.resolve hd with e | ⟨key, node⟩
  · exact add_zero _
  · simp [stock_destroy]

/-- Clearing destroys all payloads. -/
theorem HasShape.removes_clear (h : t.HasShape s) : t.Removes t.clear { ended := t.contents } := by
  rw [h.contents]
  exact removes_of_plug (C := []) h (hasShape_clear t) (by simp [destroyed_clear, Shape.payloads])
    (by simp)

/-- Erasing destroys what hangs at the node. -/
theorem HasShape.removes_erase (h : t.HasShape s) (hd : Handle) :
    t.Removes (t.erase hd)
      (t.turnoverAt hd fun key _ => { ended := t.payloadsBelow (some key) }) := by
  rw [turnoverAt]
  rcases resolved : t.resolve hd with e | ⟨k, node⟩
  · rw [erase, resolved]
    exact h.removes_keeping _
  · obtain ⟨C, l, r, at?⟩ := h.exists_located resolved
    have whole : t.HasShape (C.plug (.node (k, node.data) l r)) := at?.shape ▸ h
    have shape := (h.edited_erase resolved).shape
    rw [at?.editAt] at shape
    have below := whole.payloadsBelow
    rw [Shape.topKey_node] at below
    simp only [below]
    exact removes_of_plug whole shape (by simp [stock_erase, Shape.payloads]) (by simp)

/-- Erasing a child destroys what hangs on that side. -/
theorem HasShape.removes_eraseChild (h : t.HasShape s) (side : Side) (hd : Handle) :
    t.Removes (t.eraseChild side hd)
      (t.turnoverAt hd fun _ node => { ended := t.payloadsBelow (node.child side) }) := by
  rw [turnoverAt]
  rcases resolved : t.resolve hd with e | ⟨k, node⟩
  · rw [eraseChild, resolved]
    exact h.removes_keeping _
  · obtain ⟨C, c, other, whole, -, link, -, edit⟩ := h.exists_sides resolved side
    have shape := (h.edited_eraseChild resolved side).shape
    rw [edit, Shape.setChild_hang] at shape
    simp only [link, whole.payloadsBelow]
    -- The child stands in the context of the node and of what is on the other side.
    exact removes_of_plug whole shape (by simp [stock_eraseChild, Shape.payloads]) (by simp)

/-- Reserving a side destroys the node and what hangs on the other side. -/
theorem HasShape.removes_reserve (h : t.HasShape s) (side : Side) (hd : Handle) :
    t.Removes (t.reserve side hd) (t.turnoverAt hd fun _ node =>
      { ended := node.data ::ₘ t.payloadsBelow (node.child side.opposite) }) := by
  rw [turnoverAt]
  rcases resolved : t.resolve hd with e | ⟨k, node⟩
  · rw [reserve, resolved]
    exact h.removes_keeping _
  · obtain ⟨C, kept, other, -, whole, -, link, edit⟩ := h.exists_sides resolved side
    have shape := (h.edited_reserve resolved side).shape
    rw [edit, Shape.child_hang] at shape
    -- What goes is the node with the other side; what is promoted stands around it and stays.
    obtain ⟨-, around, apart⟩ := Context.nodup_keys_plug.1 whole.nodup
    rw [Context.keys_cons, List.nodup_cons] at around
    have before := Context.bag_plug (⟨side.opposite, (k, node.data), kept⟩ :: C) other
    rw [Context.bag, Multiset.add_cons, ← Multiset.cons_add] at before
    simp only [link, whole.payloadsBelow, Shape.bag_payloads]
    have removed := removes_of_bags ((k, node.data) ::ₘ other.bag) 0 _ whole shape
      (by simp [stock_reserve]) before (by rw [Context.bag_plug, zero_add]) fun x mem inS => ?_
    · rwa [Multiset.map_cons] at removed
    · rw [Context.mem_keys_plug, ← List.mem_append] at inS
      rcases Multiset.mem_cons.1 mem with rfl | inO
      · exact around.1 inS
      · refine apart x.1 (Shape.mem_keys_of_mem_bag inO) ?_
        rw [Context.keys_cons]
        exact List.mem_cons_of_mem _ inS

/-- What is promoted stays as it is. -/
theorem HasShape.below_reserve (h : t.HasShape s) {hd : Handle}
    (accepted : t.resolve hd = .ok (k, node)) (side : Side) :
    (t.reserve side hd).state.below (node.child side) = t.below (node.child side) := by
  obtain ⟨C, kept, other, whole, -, link, -, edit⟩ := h.exists_sides accepted side
  have shape := (h.edited_reserve accepted side).shape
  rw [edit, Shape.child_hang] at shape
  rw [link, whole.below, shape.below]

/-! ## Replacements -/

variable {other : LinkedTree S α} {d : Shape (Key × α)}

/-- Merging keeps the balance, with the donor's payloads copied. -/
theorem stock_merge (ho : other.HasShape d) {hd : Handle}
    (accepted : t.resolve hd = .ok (k, node)) :
    (t.merge hd other).state.stock + (t.merge hd other).destroyed =
      t.stock + d.payloads.bag := by
  rw [merge, accepted, ← stock_copyTree ho t]
  simp [stock_destroy]

/-- Merging destroys what hangs at the node, and copies the other tree. -/
theorem HasShape.removes_merge (h : t.HasShape s) (ho : other.HasShape d) (hd : Handle) :
    t.Removes (t.merge hd other)
      (t.turnoverAt hd fun key _ => ⟨other.contents, t.payloadsBelow (some key)⟩) := by
  rw [turnoverAt]
  rcases resolved : t.resolve hd with e | ⟨k, node⟩
  · rw [merge, resolved]
    exact h.removes_keeping _
  · obtain ⟨C, l, r, at?⟩ := h.exists_located resolved
    have whole : t.HasShape (C.plug (.node (k, node.data) l r)) := at?.shape ▸ h
    obtain ⟨c, payloads, fresh, edited⟩ := h.edited_merge resolved ho
    have shape := edited.shape
    rw [at?.editAt] at shape
    have below := whole.payloadsBelow
    rw [Shape.topKey_node] at below
    simp only [below, ho.contents, ← payloads]
    refine removes_of_plug whole shape (by rw [stock_merge ho resolved, payloads])
      fun j inU inc => ?_
    exact fresh j inc (whole.issued (Context.mem_keys_plug.2 (.inl inU)))

theorem stock_assign (ho : other.HasShape d) (t : LinkedTree S α) :
    (t.assign other).state.stock + (t.assign other).destroyed = t.stock + d.payloads.bag := by
  have copied := stock_copyTree ho t.clear.state
  rw [stock_clear, zero_add] at copied
  rw [add_comm t.stock]
  exact congrArg₂ (· + ·) copied (destroyed_clear t)

/-- Assigning destroys all payloads, and copies the other tree. -/
theorem HasShape.removes_assign (h : t.HasShape s) (ho : other.HasShape d) :
    t.Removes (t.assign other) ⟨other.contents, t.contents⟩ := by
  obtain ⟨c, payloads, fresh, shape, -, -⟩ := exists_hasShape_assign ho t
  rw [h.contents, ho.contents, ← payloads]
  exact removes_of_plug (C := []) h shape (by rw [stock_assign ho, payloads]) fun j inS inc =>
    fresh j inc (h.issued inS)

/-! ## Copies -/

/-- A clone holds the payloads of the tree. -/
theorem HasShape.stock_clone (h : t.HasShape s) (id : TreeId) :
    (t.clone id).stock = t.contents := by
  obtain ⟨c, payloads, shape, -⟩ := exists_hasShape_clone h id
  rw [shape.stock, payloads, h.contents]

/-- A copy of a subtree has the payloads that hang at its node. -/
theorem HasShape.exists_stock_subtree (h : t.HasShape s) {hd : Handle}
    (accepted : t.resolve hd = .ok (k, node)) (id : TreeId) :
    ∃ tree, t.subtree hd id = .ok tree ∧ tree.stock = t.payloadsBelow (some k) := by
  obtain ⟨C, l, r, at?⟩ := h.exists_located accepted
  obtain ⟨tree, u, c, copied, found, payloads, shape, -⟩ := h.exists_hasShape_subtree accepted id
  obtain rfl := Option.some.inj (at?.sub?.symm.trans found)
  have whole : t.HasShape (C.plug (.node (k, node.data) l r)) := at?.shape ▸ h
  refine ⟨tree, copied, ?_⟩
  rw [shape.stock, payloads, ← whole.payloadsBelow, Shape.topKey_node]

/-! ## Insertions -/

/-- A payload handed over ends at a refusal; one that is made in place is never made. -/
theorem turns_insertLink (t : LinkedTree S α) (hd : Handle) (link : Link α) :
    t.Turns (t.insertLink hd link) (t.linkTurnover hd link) := by
  unfold insertLink emplace insert linkTurnover
  cases site : t.site link.splice hd with
  | error e =>
    cases made : link.isMade with
    | true => exact turns_keeping t _
    | false => exact ⟨rfl, rfl⟩
  | ok place =>
    have balance : t.stock + {link.payload} = (t.put place link.payload).stock + 0 := by
      rw [stock_put, add_zero, add_comm, Multiset.singleton_add]
    cases made : link.isMade <;> exact ⟨balance, rfl⟩

/-- An accepted insertion destroys nothing. -/
theorem destroyed_insertLink_of_ok {hd next : Handle} {link : Link α}
    (accepted : (t.insertLink hd link).reply = .ok next) :
    (t.insertLink hd link).destroyed = [] := by
  revert accepted
  unfold insertLink emplace insert
  cases t.site link.splice hd with
  | error e => cases link.isMade <;> exact (nomatch ·)
  | ok place => cases link.isMade <;> exact fun _ => rfl

theorem turns_insert (t : LinkedTree S α) (splice : Splice) (hd : Handle) (v : α) :
    t.Turns (t.insert splice hd v) (t.linkTurnover hd ⟨splice, v, false⟩) :=
  turns_insertLink t hd ⟨splice, v, false⟩

theorem turns_emplaceWatched (t : LinkedTree S α) (splice : Splice) (hd : Handle) (v : α) :
    t.Turns (Forest.emplaceWatched t splice hd v) (t.linkTurnover hd ⟨splice, v, true⟩) := by
  have made := turns_insertLink t hd ⟨splice, v, true⟩
  have same := (insertLink_eq t hd ⟨splice, v, true⟩).2
  have kept : (t.insertLink hd ⟨splice, v, true⟩).destroyed = [] := by
    unfold insertLink emplace
    cases t.site splice hd <;> rfl
  obtain ⟨balance, destroyed⟩ := made
  rw [same, kept] at balance
  rw [kept] at destroyed
  rw [emplaceWatched_eq]
  exact ⟨balance, destroyed⟩

/-- The turnovers of the insertions of a chain add up. -/
theorem turns_insertChain (t : LinkedTree S α) (hd : Handle) (chain : List (Link α)) :
    t.Turns (t.insertChain hd chain) (t.chainTurnover hd chain) := by
  induction chain generalizing t hd with
  | nil => exact turns_keeping t _
  | cons link rest ih =>
    obtain ⟨balance, destroyed⟩ := turns_insertLink t hd link
    rw [insertChain, chainTurnover]
    cases reply : (t.insertLink hd link).reply with
    | error e => exact ⟨by simpa using balance, by simpa using destroyed⟩
    | ok next =>
      -- What was accepted is in the tree, and the rest of the chain goes on from there.
      have kept := destroyed_insertLink_of_ok reply
      rw [kept, Multiset.coe_nil] at balance destroyed
      obtain ⟨balance', destroyed'⟩ := ih (t.insertLink hd link).state next
      refine ⟨?_, ?_⟩
      · simp only [Turnover.made_add, ← add_assoc, balance, add_zero]
        exact balance'
      · simp only [Turnover.ended_add, ← destroyed, zero_add]
        exact destroyed'

/-! ## Changes -/

/-- The payload that is replaced ends, the new one stays. -/
theorem turns_setData (t : LinkedTree S α) (hd : Handle) (v : α) :
    t.Turns (t.setData hd v) (t.turnoverAt hd fun _ node => ⟨{v}, {node.data}⟩) := by
  rw [turnoverAt]
  rcases resolved : t.resolve hd with e | ⟨k, node⟩
  · rw [setData, resolved]
    exact turns_keeping t _
  · have found := (resolve_eq_ok_iff.1 resolved).2
    have before := Multiset.coe_eq_coe.2 ((Arena.values_perm_remove found).map Node.data)
    have after := Multiset.coe_eq_coe.2
      ((Arena.values_perm_modify found fun node => { node with data := v }).map Node.data)
    rw [setData, resolved]
    refine ⟨?_, rfl⟩
    simp only [stock, before, after, List.map_cons, ← Multiset.cons_coe, Multiset.coe_nil,
      ← Multiset.singleton_add]
    abel

end LinkedTree

end Substrate
