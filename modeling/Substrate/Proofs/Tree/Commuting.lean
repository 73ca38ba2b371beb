import Substrate.Proofs.Shape.Renaming
import Substrate.Proofs.Tree.Framing
import Substrate.Proofs.Tree.Positions
import Substrate.Proofs.Tree.Refusal
import Substrate.Proofs.Tree.Turnover

/-!
# Substrate.Proofs.Tree.Commuting

Edits at two places of a tree, neither inside the other. Each edit changes the subtree at its own
place (`LocalEdit.Remakes`) and leaves what is around it, and what it does there depends on nothing
but the subtree and the node above. So either order gives the same tree, but for the names of the
nodes that the edits make (`HasShape.exists_commute`).

The main result is `exists_commute_of_run`, for all states that commands lead to.
-/

namespace Substrate

variable {S : Type → Type} [SlotMap S] {α : Type}

/-! ## Edits at a handle -/

/-- An edit that is made at a handle. A merge has the tree that it copies with it. -/
inductive LocalEdit (S : Type → Type) (α : Type) where
  | insert (splice : Splice) (v : α)
  | erase
  | eraseChild (side : Side)
  | reserve (side : Side)
  | merge (donor : LinkedTree S α)

namespace LocalEdit

def run (e : LocalEdit S α) (t : LinkedTree S α) (h : Handle) :
    Outcome (LinkedTree S α) (Except TreeError Handle) α :=
  match e with
  | insert splice v => t.insert splice h v
  | erase => t.erase h
  | eraseChild side => t.eraseChild side h
  | reserve side => t.reserve side h
  | merge donor => t.merge h donor

def donor? : LocalEdit S α → Option (LinkedTree S α)
  | merge donor => some donor
  | _ => none

/-- What is copied is a whole tree. -/
def WellLinked (e : LocalEdit S α) : Prop := ∀ donor, e.donor? = some donor → donor.WellLinked

def made : LocalEdit S α → Multiset α
  | insert _ v => {v}
  | merge donor => donor.contents
  | _ => 0

/-- The edit may turn the subtree `u` below the node `above` into `w` and answer the name `answer`.
The names of new nodes are none of those that are `Old`. -/
inductive Remakes (Old : Key → Prop) (above : Option Key) (u : Shape (Key × α)) :
    LocalEdit S α → Shape (Key × α) → Option Key → Prop where
  | insert {splice : Splice} {v : α} {m : Key} (new : ¬ Old m) :
    Remakes Old above u (.insert splice v) (u.spliceTop splice (m, v)) (some m)
  | erase : Remakes Old above u .erase .nil above
  | eraseChild {side : Side} :
    Remakes Old above u (.eraseChild side) (u.setChild side .nil) u.topKey
  | reserve {side : Side} :
    Remakes Old above u (.reserve side) (u.child side) (u.child side).topKey
  | merge {donor : LinkedTree S α} {d c : Shape (Key × α)} (shape : donor.HasShape d)
    (payloads : c.payloads = d.payloads) (new : ∀ j ∈ c.keys, ¬ Old j) :
    Remakes Old above u (.merge donor) c c.topKey

variable {e : LocalEdit S α} {Old : Key → Prop} {above answer answer' : Option Key}
  {u w w' : Shape (Key × α)} {k : Key}

/-- Where fewer names are old, more are new. -/
theorem Remakes.mono (h : e.Remakes Old above u w answer) {Older : Key → Prop}
    (le : ∀ k, Older k → Old k) : e.Remakes Older above u w answer := by
  cases h with
  | insert new => exact .insert (mt (le _) new)
  | erase => exact .erase
  | eraseChild => exact .eraseChild
  | reserve => exact .reserve
  | merge shape payloads new =>
    exact .merge shape payloads fun j mem => mt (le j) (new j mem)

/-- An edit has one result, but for the names of new nodes. -/
theorem Remakes.alike (h : e.Remakes Old above u w answer) (h' : e.Remakes Old above u w' answer')
    (old : ∀ k ∈ u.keys, Old k) : Shape.Alike (SameOrNew Old) w w' := by
  have same : Shape.Alike (SameOrNew Old) u u := Shape.alike_refl fun k mem => .inl ⟨old k mem, rfl⟩
  cases h with
  | insert new =>
    cases h' with
    | insert new' => exact same.spliceTop _ (.inr ⟨new, new'⟩) _
  | erase =>
    cases h'
    exact .nil
  | eraseChild =>
    cases h'
    exact same.setChild _ .nil
  | reserve =>
    cases h'
    exact same.child _
  | merge shape payloads new =>
    cases h' with
    | merge shape' payloads' new' =>
      obtain rfl := shape.hosts_root.unique shape'.hosts_root
      exact Shape.alike_of_payloads (payloads.trans payloads'.symm) fun m mem j mem' =>
        .inr ⟨new m mem, new' j mem'⟩

/-- The answers correspond as the results do. -/
theorem Remakes.answer_eq (h : e.Remakes Old above u w answer)
    (h' : e.Remakes Old above u w' answer') (top : u.topKey = some k) {f : Key → Key}
    (fixes : ∀ k ∈ u.keys, f k = k) (fixesAbove : above.map f = above)
    (renamed : w' = w.rename f) : answer' = answer.map f := by
  have kept : u.rename f = u := Shape.rename_eq_self fixes
  cases h with
  | @insert splice v m new =>
    cases h' with
    | @insert _ _ m' new' =>
      cases splice with
      | above keep =>
        have tops := congrArg Shape.topKey renamed
        simpa [Shape.spliceTop] using tops
      | below side keep =>
        cases u with
        | nil => cases top
        | node x l r =>
          have tops := congrArg (fun s => (s.child side).topKey) renamed
          cases side <;>
            simpa [Shape.spliceTop, Shape.setChild, Shape.child, Shape.rename] using tops
  | erase =>
    cases h'
    exact fixesAbove.symm
  | eraseChild =>
    cases h'
    rw [← Shape.topKey_rename, kept]
  | reserve =>
    cases h'
    rw [← Shape.topKey_rename, ← Shape.child_rename, kept]
  | merge shape payloads new =>
    cases h'
    rw [renamed, Shape.topKey_rename]

end LocalEdit

namespace LinkedTree

variable {t : LinkedTree S α} {C : Context (Key × α)} {u : Shape (Key × α)} {k : Key}
  {node : Node α} {h : Handle}

/-- An edit at a node remakes the subtree there. -/
theorem HasShape.exists_remakes (whole : t.HasShape (C.plug u)) (top : u.topKey = some k)
    (e : LocalEdit S α) (donated : e.WellLinked) :
    ∃ w answer, e.Remakes t.nodes.Issued C.above u w answer ∧
      t.Edited (e.run t (t.handle (some k))) (C.plug w) answer := by
  cases u with
  | nil => cases top
  | node x l r =>
    obtain rfl : x.1 = k := Option.some.inj top
    have found := whole.hangs_piece.1
    have accepted := resolve_handle found
    cases e with
    | insert splice v =>
      have edited := whole.edited_insert accepted splice v
      exact ⟨_, _, .insert t.nodes.not_issued_nextKey, whole.edited_plug top edited⟩
    | erase =>
      have edited := whole.edited_erase accepted
      rw [Context.parentOf_plug whole.nodup] at edited
      exact ⟨_, _, .erase, whole.edited_plug top edited⟩
    | eraseChild side =>
      have edited := whole.edited_eraseChild accepted side
      exact ⟨_, _, .eraseChild, whole.edited_plug top edited⟩
    | reserve side =>
      have edited := whole.edited_reserve accepted side
      have link : Node.child ⟨C.above, l.topKey, r.topKey, x.2⟩ side =
          ((Shape.node x l r).child side).topKey := by
        cases side <;> rfl
      rw [link] at edited
      exact ⟨_, _, .reserve, whole.edited_plug top edited⟩
    | merge donor =>
      obtain ⟨d, shape⟩ := donated donor rfl
      obtain ⟨c, payloads, new, edited⟩ := whole.edited_merge accepted shape
      exact ⟨_, _, .merge shape payloads new, whole.edited_plug top edited⟩

/-- What comes in and what was there is what is there then and what is destroyed. -/
theorem stock_run (accepted : t.resolve h = .ok (k, node)) (e : LocalEdit S α)
    (donated : e.WellLinked) :
    t.stock + e.made = (e.run t h).state.stock + (e.run t h).destroyed := by
  cases e with
  | insert splice v =>
    obtain ⟨site, found⟩ : ∃ site, t.site splice h = .ok site :=
      exists_site (.inl ⟨k, node, accepted⟩)
    have turns := (t.turns_insert splice h v).balance
    simp only [linkTurnover, found] at turns
    exact turns
  | erase => exact (add_zero _).trans (t.stock_erase h).symm
  | eraseChild side => exact (add_zero _).trans (t.stock_eraseChild side h).symm
  | reserve side => exact (add_zero _).trans (t.stock_reserve side h).symm
  | merge donor =>
    obtain ⟨d, shape⟩ := donated donor rfl
    have balance := stock_merge shape accepted
    rw [← shape.contents] at balance
    exact balance.symm

/-! ## Edits at the places of a fork -/

variable {F : Fork (Key × α)} {u₁ u₂ w₁ w₂ : Shape (Key × α)} {k₁ k₂ : Key}

/-- An edit at the first place of a fork remakes what is there and leaves the second place. -/
theorem HasShape.exists_remakes_fork (whole : t.HasShape (F.plug u₁ u₂)) (top : u₁.topKey = some k)
    (e : LocalEdit S α) (donated : e.WellLinked) :
    ∃ w answer, e.Remakes t.nodes.Issued F.above u₁ w answer ∧
      t.Edited (e.run t (t.handle (some k))) (F.plug w u₂) answer ∧
      u₁.payloads.bag + e.made =
        w.payloads.bag + (e.run t (t.handle (some k))).destroyed := by
  rw [← F.plug_around] at whole
  obtain ⟨w, answer, remakes, edited⟩ := whole.exists_remakes top e donated
  obtain ⟨node, found, -⟩ := get?_of_hangs_top whole.hangs_piece top
  have balance := stock_run (resolve_handle found) e donated
  rw [whole.stock, edited.shape.stock, Context.payloads_plug, Context.payloads_plug,
    Context.bag_plug, Context.bag_plug, add_right_comm, add_right_comm w.payloads.bag] at balance
  rw [F.above_around] at remakes
  rw [F.plug_around] at edited
  exact ⟨w, answer, remakes, edited, add_right_cancel balance⟩

/-- The edits `e₁` at the first place of a fork and then `e₂` at the second, with outcomes `o₁` and
`o₂`, remade the subtrees `u₁` and `u₂` there into `w₁` and `w₂`. -/
structure Remade (t : LinkedTree S α) (F : Fork (Key × α)) (e₁ e₂ : LocalEdit S α)
    (u₁ u₂ w₁ w₂ : Shape (Key × α)) (answer₁ answer₂ : Option Key)
    (o₁ o₂ : Outcome (LinkedTree S α) (Except TreeError Handle) α) : Prop where
  first : e₁.Remakes t.nodes.Issued F.above u₁ w₁ answer₁
  second : e₂.Remakes t.nodes.Issued F.swap.above u₂ w₂ answer₂
  reply₁ : o₁.reply = .ok (t.handle answer₁)
  reply₂ : o₂.reply = .ok (t.handle answer₂)
  shape : o₂.state.HasShape (F.plug w₁ w₂)
  id : o₂.state.id = t.id
  balance₁ : u₁.payloads.bag + e₁.made = w₁.payloads.bag + o₁.destroyed
  balance₂ : u₂.payloads.bag + e₂.made = w₂.payloads.bag + o₂.destroyed

/-- Edits at both places of a fork, one after the other, remake each place on its own. -/
theorem HasShape.exists_remade (whole : t.HasShape (F.plug u₁ u₂)) (top₁ : u₁.topKey = some k₁)
    (top₂ : u₂.topKey = some k₂) (e₁ e₂ : LocalEdit S α)
    (donated₁ : e₁.WellLinked) (donated₂ : e₂.WellLinked) :
    ∃ w₁ w₂ answer₁ answer₂, t.Remade F e₁ e₂ u₁ u₂ w₁ w₂ answer₁ answer₂
      (e₁.run t (t.handle (some k₁)))
      (e₂.run (e₁.run t (t.handle (some k₁))).state (t.handle (some k₂))) := by
  obtain ⟨w₁, answer₁, first, edited₁, balance₁⟩ := whole.exists_remakes_fork top₁ e₁ donated₁
  generalize e₁.run t (t.handle (some k₁)) = o₁ at edited₁ balance₁
  have whole₁ := edited₁.shape
  rw [← F.plug_swap] at whole₁
  obtain ⟨w₂, answer₂, second, edited₂, balance₂⟩ := whole₁.exists_remakes_fork top₂ e₂ donated₂
  rw [handle_congr edited₁.id] at edited₂ balance₂
  have reply₂ := edited₂.reply
  rw [handle_congr edited₁.id] at reply₂
  have shape := edited₂.shape
  rw [F.plug_swap] at shape
  exact ⟨w₁, w₂, answer₁, answer₂, first, second.mono edited₁.issued, edited₁.reply, reply₂,
    shape, edited₂.id.trans edited₁.id, balance₁, balance₂⟩

end LinkedTree

/-! ## Trees under other names -/

/-- The node with its links under other names. -/
def Node.rename (f : Key → Key) (node : Node α) : Node α :=
  ⟨node.parent.map f, node.left.map f, node.right.map f, node.data⟩

/-- A node of a renamed piece has the renamed links and the same payload. -/
theorem get?_rename {nodes nodes' : Arena S (Node α)} {parent : Option Key} {s : Shape (Key × α)}
    {f : Key → Key} (hangs : Hangs nodes parent s)
    (hangs' : Hangs nodes' (parent.map f) (s.rename f)) {k : Key} (mem : k ∈ s.keys) :
    nodes'.get? (f k) = (nodes.get? k).map (·.rename f) := by
  induction s generalizing parent with
  | nil => simp at mem
  | node x l r ihl ihr =>
    obtain ⟨top, left, right⟩ := hangs
    obtain ⟨top', left', right'⟩ := hangs'
    rw [Shape.keys_node, List.mem_cons, List.mem_append] at mem
    rcases mem with rfl | inL | inR
    · rw [top, top']
      simp [Node.rename]
    · exact ihl left left' inL
    · exact ihr right right' inR

namespace LinkedTree

/-- The tree `t'` is `t` with its keys renamed. -/
structure Renamed (t : LinkedTree S α) (ρ : Equiv.Perm Key) (t' : LinkedTree S α) : Prop where
  id : t'.id = t.id
  rootKey : t'.rootKey = t.rootKey.map ρ
  nodes : ∀ k, t'.nodes.get? (ρ k) = (t.nodes.get? k).map (·.rename ρ)

/-- Trees with renamed shapes are renamings of each other, node by node. -/
theorem HasShape.renamed {t t' : LinkedTree S α} {s : Shape (Key × α)} {ρ : Equiv.Perm Key}
    (h : t.HasShape s) (h' : t'.HasShape (s.rename ρ)) (id : t'.id = t.id) : t.Renamed ρ t' where
  id := id
  rootKey := by rw [h.root, h'.root, Shape.topKey_rename]
  nodes := by
    intro k
    by_cases mem : k ∈ s.keys
    · exact get?_rename h.hangs h'.hangs mem
    · have gone : t.nodes.get? k = none := by
        refine Option.eq_none_iff_forall_ne_some.2 fun node found => ?_
        exact mem (h.covers k node found)
      have gone' : t'.nodes.get? (ρ k) = none := by
        refine Option.eq_none_iff_forall_ne_some.2 fun node found => ?_
        have mem' := h'.covers _ node found
        rw [Shape.keys_rename] at mem'
        exact mem ((List.mem_map_of_injective ρ.injective).1 mem')
      rw [gone, gone', Option.map_none]

/-! ## Either order -/

/-- Two edits of the tree `t` commute: made in one order they have the outcomes `o₁` and `o₂`, in
the other `o₂'` and `o₁'`, and these differ in the names of new nodes alone, which `ρ` exchanges. -/
structure Commute (t : LinkedTree S α) (ρ : Equiv.Perm Key)
    (o₁ o₂ o₁' o₂' : Outcome (LinkedTree S α) (Except TreeError Handle) α) : Prop where
  /-- Whatever node the tree has or had keeps its name. -/
  fixes : ∀ k, t.nodes.Issued k → ρ k = k
  reply₁ : ∃ answer, o₁.reply = .ok (t.handle answer) ∧
    o₁'.reply = .ok (t.handle (answer.map ρ))
  reply₂ : ∃ answer, o₂.reply = .ok (t.handle answer) ∧
    o₂'.reply = .ok (t.handle (answer.map ρ))
  shape : ∃ s, o₂.state.HasShape s ∧ o₁'.state.HasShape (s.rename ρ)
  renamed : o₂.state.Renamed ρ o₁'.state
  /-- The same nodes of the tree survive. -/
  survivors : ∀ k, t.nodes.Issued k → o₁'.state.nodes.contains k = o₂.state.nodes.contains k
  /-- Each edit destroys the same payloads. -/
  destroyed₁ : (o₁'.destroyed : Multiset α) = o₁.destroyed
  destroyed₂ : (o₂'.destroyed : Multiset α) = o₂.destroyed

variable {t : LinkedTree S α} {F : Fork (Key × α)} {u₁ u₂ w₁ w₂ w₁' w₂' : Shape (Key × α)}
  {k₁ k₂ : Key} {e₁ e₂ : LocalEdit S α} {answer₁ answer₂ answer₁' answer₂' : Option Key}
  {o₁ o₂ o₁' o₂' : Outcome (LinkedTree S α) (Except TreeError Handle) α}

/-- Either order remakes the two places alike, but for the names of new nodes. -/
theorem Remade.exists_renaming (whole : t.HasShape (F.plug u₁ u₂)) (top₁ : u₁.topKey = some k₁)
    (top₂ : u₂.topKey = some k₂) (one : t.Remade F e₁ e₂ u₁ u₂ w₁ w₂ answer₁ answer₂ o₁ o₂)
    (other : t.Remade F.swap e₂ e₁ u₂ u₁ w₂' w₁' answer₂' answer₁' o₂' o₁') :
    ∃ ρ : Equiv.Perm Key, (∀ k, t.nodes.Issued k → ρ k = k) ∧
      (w₁' = w₁.rename ρ ∧ w₂' = w₂.rename ρ) ∧
      (answer₁' = answer₁.map ρ ∧ answer₂' = answer₂.map ρ) := by
  have again := other.second
  rw [F.swap_swap] at again
  have shape' := other.shape
  rw [F.plug_swap] at shape'
  have old : ∀ k ∈ (u₁.keys ++ u₂.keys) ++ F.keys, t.nodes.Issued k := fun k mem =>
    whole.issued ((F.keys_plug_perm u₁ u₂).mem_iff.2 mem)
  simp only [List.mem_append] at old
  have alike₁ := one.first.alike again fun k mem => old k (.inl (.inl mem))
  have alike₂ := one.second.alike other.first fun k mem => old k (.inl (.inr mem))
  have nodup := ((F.keys_plug_perm w₁ w₂).nodup_iff.1 one.shape.nodup).of_append_left
  have nodup' := ((F.keys_plug_perm w₁' w₂').nodup_iff.1 shape'.nodup).of_append_left
  obtain ⟨ρ, fixes, renamed₁, renamed₂⟩ :=
    Shape.exists_rename_of_alike alike₁ alike₂ nodup nodup'
  -- The nodes above the places are old, too.
  have keeps : ∀ key : Option Key, (∀ k, key = some k → k ∈ F.keys) → key.map ρ = key := by
    intro key inF
    cases key with
    | none => rfl
    | some k => exact congrArg some (fixes k (old k (.inr (inF k rfl))))
  refine ⟨ρ, fixes, ⟨renamed₁, renamed₂⟩, ?_, ?_⟩
  · exact one.first.answer_eq again top₁ (fun k mem => fixes k (old k (.inl (.inl mem))))
      (keeps _ fun k above => Fork.above_mem above) renamed₁
  · exact one.second.answer_eq other.first top₂ (fun k mem => fixes k (old k (.inl (.inr mem))))
      (keeps _ fun k above => Fork.mem_keys_swap.1 (Fork.above_mem above)) renamed₂

/-- Edits at the two places of a fork commute. -/
theorem HasShape.exists_commute (whole : t.HasShape (F.plug u₁ u₂)) (top₁ : u₁.topKey = some k₁)
    (top₂ : u₂.topKey = some k₂) (e₁ e₂ : LocalEdit S α)
    (donated₁ : e₁.WellLinked) (donated₂ : e₂.WellLinked) :
    ∃ ρ, t.Commute ρ (e₁.run t (t.handle (some k₁)))
      (e₂.run (e₁.run t (t.handle (some k₁))).state (t.handle (some k₂)))
      (e₁.run (e₂.run t (t.handle (some k₂))).state (t.handle (some k₁)))
      (e₂.run t (t.handle (some k₂))) := by
  obtain ⟨w₁, w₂, answer₁, answer₂, one⟩ :=
    whole.exists_remade top₁ top₂ e₁ e₂ donated₁ donated₂
  have swapped : t.HasShape (F.swap.plug u₂ u₁) := F.plug_swap u₁ u₂ ▸ whole
  obtain ⟨w₂', w₁', answer₂', answer₁', other⟩ :=
    swapped.exists_remade top₂ top₁ e₂ e₁ donated₂ donated₁
  generalize e₂.run (e₁.run t (t.handle (some k₁))).state (t.handle (some k₂)) = o₂ at one
  generalize e₁.run (e₂.run t (t.handle (some k₂))).state (t.handle (some k₁)) = o₁' at other
  obtain ⟨ρ, fixes, ⟨renamed₁, renamed₂⟩, same₁, same₂⟩ :=
    one.exists_renaming whole top₁ top₂ other
  have fixesF : ∀ k ∈ F.keys, ρ k = k := fun k mem =>
    fixes k (whole.issued ((F.keys_plug_perm u₁ u₂).mem_iff.2 (List.mem_append_right _ mem)))
  have shape : o₁'.state.HasShape ((F.plug w₁ w₂).rename ρ) := by
    rw [Fork.rename_plug fixesF, ← renamed₁, ← renamed₂, ← F.plug_swap]
    exact other.shape
  have renamed := one.shape.renamed shape (other.id.trans one.id.symm)
  have balance₁ := one.balance₁.symm.trans other.balance₂
  have balance₂ := one.balance₂.symm.trans other.balance₁
  rw [renamed₁, Shape.payloads_rename] at balance₁
  rw [renamed₂, Shape.payloads_rename] at balance₂
  refine ⟨ρ, fixes, ⟨answer₁, one.reply₁, same₁ ▸ other.reply₂⟩,
    ⟨answer₂, one.reply₂, same₂ ▸ other.reply₁⟩, ⟨_, one.shape, shape⟩, renamed, fun k old => ?_,
    (add_left_cancel balance₁).symm, (add_left_cancel balance₂).symm⟩
  have node := renamed.nodes k
  rw [fixes k old] at node
  rw [Arena.contains, Arena.contains, node, Option.isSome_map]

/-! ## Independent handles -/

/-- A way down leads from the first handle to the second. A way of no step is one. -/
def Leads (t : LinkedTree S α) (h h' : Handle) : Prop :=
  ∃ sides : List Side, t.walk h (sides.map .down) = .ok h'

/-- From a node, a way leads down to every node of its subtree. -/
theorem HasShape.leads_of_encloses {s : Shape (Key × α)} {k j : Key} (whole : t.HasShape s)
    (encloses : s.Encloses k j) : t.Leads (t.handle (some k)) (t.handle (some j)) := by
  obtain ⟨C, u, rfl, top, mem⟩ := encloses
  obtain ⟨D, v, l, r, rfl⟩ := Context.exists_plug mem
  have way := walk_down_of_hangs whole.hangs_piece (Shape.topKey_node (j, v) l r)
  rw [top] at way
  exact ⟨D.sides, way⟩

end LinkedTree

namespace Forest

/-- In every state that commands lead to, edits commute at two nodes of a tree neither of which is
below the other. -/
theorem exists_commute_of_run (edits : List (Edit Handle α)) {r : Nat} {t : LinkedTree S α}
    (held : (run {} edits).trees[r]? = some t) {h₁ h₂ : Handle} {k₁ k₂ : Key} {node₁ node₂ : Node α}
    (accepted₁ : t.resolve h₁ = .ok (k₁, node₁)) (accepted₂ : t.resolve h₂ = .ok (k₂, node₂))
    (notAbove : ¬ t.Leads h₁ h₂) (notBelow : ¬ t.Leads h₂ h₁) (e₁ e₂ : LocalEdit S α)
    (donated : ∀ donor, e₁.donor? = some donor ∨ e₂.donor? = some donor →
      ∃ (past : List (Edit Handle α)) (u : Nat), (run {} past).trees[u]? = some donor) :
    ∃ ρ, t.Commute ρ (e₁.run t h₁) (e₂.run (e₁.run t h₁).state h₂)
      (e₁.run (e₂.run t h₂).state h₁) (e₂.run t h₂) := by
  obtain ⟨s, whole⟩ := wellLinked_run wellLinked_init edits r t held
  have wellLinked : ∀ donor, e₁.donor? = some donor ∨ e₂.donor? = some donor →
      donor.WellLinked := by
    intro donor given
    obtain ⟨past, u, heldU⟩ := donated donor given
    exact wellLinked_run wellLinked_init past u donor heldU
  obtain ⟨rfl, found₁⟩ := LinkedTree.resolve_eq_ok_iff.1 accepted₁
  obtain ⟨rfl, found₂⟩ := LinkedTree.resolve_eq_ok_iff.1 accepted₂
  rcases Shape.encloses_or_forks (whole.covers k₁ node₁ found₁) (whole.covers k₂ node₂ found₂) with
    encloses | encloses | ⟨F, u₁, u₂, rfl, top₁, top₂⟩
  · exact absurd (whole.leads_of_encloses encloses) notAbove
  · exact absurd (whole.leads_of_encloses encloses) notBelow
  · exact whole.exists_commute top₁ top₂ e₁ e₂ (fun donor given => wellLinked donor (.inl given))
      fun donor given => wellLinked donor (.inr given)

/-- A new node above the left one of two children, and a copy in the place of the right one. -/
theorem exists_commute_of_siblings :
    let edits : List (Edit Handle Nat) := [.create 0, .insert 0 (.above .left) .null 7,
      .insert 0 (.below .left .left) ⟨some 0, 1⟩ 8, .insert 0 (.below .right .left) ⟨some 0, 1⟩ 9]
    let t : LinkedTree Cells Nat :=
      ⟨⟨⟨#[some ⟨none, some 1, some 2, 7⟩, some ⟨some 0, none, none, 8⟩,
        some ⟨some 0, none, none, 9⟩]⟩⟩, some 0, 1⟩
    let past : List (Edit Handle Nat) := [.create 0, .insert 0 (.above .left) .null 4]
    let donor : LinkedTree Cells Nat := ⟨⟨⟨#[some ⟨none, none, none, 4⟩]⟩⟩, some 0, 1⟩
    let e₁ : LocalEdit Cells Nat := .insert (.above .left) 5
    let e₂ : LocalEdit Cells Nat := .merge donor
    (run {} edits).trees[0]? = some t ∧ t.resolve ⟨some 1, 1⟩ = .ok (1, ⟨some 0, none, none, 8⟩) ∧
      t.resolve ⟨some 2, 1⟩ = .ok (2, ⟨some 0, none, none, 9⟩) ∧
      (¬ t.Leads ⟨some 1, 1⟩ ⟨some 2, 1⟩) ∧ (¬ t.Leads ⟨some 2, 1⟩ ⟨some 1, 1⟩) ∧
      (run {} past).trees[0]? = some donor ∧
      ∃ ρ, t.Commute ρ (e₁.run t ⟨some 1, 1⟩) (e₂.run (e₁.run t ⟨some 1, 1⟩).state ⟨some 2, 1⟩)
        (e₁.run (e₂.run t ⟨some 2, 1⟩).state ⟨some 1, 1⟩) (e₂.run t ⟨some 2, 1⟩) := by
  intro edits t past donor e₁ e₂
  have held : (run {} edits).trees[0]? = some t := rfl
  have heldU : (run {} past).trees[0]? = some donor := rfl
  have notAbove : ¬ t.Leads ⟨some 1, 1⟩ ⟨some 2, 1⟩ := by
    rintro ⟨_ | ⟨_ | _, _ | ⟨_, _⟩⟩, way⟩ <;> cases way
  have notBelow : ¬ t.Leads ⟨some 2, 1⟩ ⟨some 1, 1⟩ := by
    rintro ⟨_ | ⟨_ | _, _ | ⟨_, _⟩⟩, way⟩ <;> cases way
  refine ⟨held, rfl, rfl, notAbove, notBelow, heldU, exists_commute_of_run edits held rfl rfl
    notAbove notBelow e₁ e₂ fun other given => ⟨past, 0, ?_⟩⟩
  rcases given with given | given
  · cases given
  · cases given
    exact heldU

end Forest

end Substrate
