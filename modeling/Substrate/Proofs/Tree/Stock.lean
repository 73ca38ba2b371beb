import Mathlib.Tactic.Abel
import Substrate.Proofs.Shape.Bag
import Substrate.Proofs.Tree.Editing
import Substrate.Proofs.Tree.Walking

/-!
# Substrate.Proofs.Tree.Stock

The payloads in the arena of a tree. Rewiring does not touch them, a new node adds its own, and
removing nodes turns payloads of the arena into destroyed ones, whatever the links say
(`stock_destroyAll`). So each edit balances: the stock before it and the payloads handed in or
copied are the stock after it and the payloads destroyed.
-/

namespace Substrate

variable {S : Type → Type} [SlotMap S] {α : Type}

/-! ## Values of an arena -/

namespace Arena

variable {a : Arena S α} {k : Key} {v : α}

theorem size_eq_length_values (a : Arena S α) : a.size = a.values.length := by
  have all : ∀ k ∈ a.keys, (a.get? k).isSome := fun k mem =>
    Option.isSome_iff_exists.2 (mem_keys.1 mem)
  rw [size, values, List.length_filterMap_eq_countP, List.countP_eq_length.2 all]

/-- An insertion adds its value. -/
theorem values_perm_insert (a : Arena S α) (v : α) : (a.insert v).values.Perm (v :: a.values) := by
  have old : a.keys.filterMap (a.insert v).get? = a.values := List.filterMap_congr fun k mem => by
    obtain ⟨w, found⟩ := mem_keys.1 mem
    rw [get?_insert, if_neg (ne_nextKey (issued_of_get? found))]
  have perm := (a.keys_insert_perm v).filterMap (a.insert v).get?
  rwa [List.filterMap_cons, get?_insert_nextKey, old] at perm

theorem values_eq_nil (none : ∀ k, a.get? k = none) : a.values = [] := by
  rw [values, keys_eq_nil none, List.filterMap_nil]

/-- A change that a measure does not see leaves the measures of all values. -/
theorem map_values_perm_modify {β : Type} {g : α → β} {f : α → α} (same : ∀ v, g (f v) = g v)
    (a : Arena S α) (k : Key) : ((a.modify k f).values.map g).Perm (a.values.map g) := by
  have unseen : ∀ j, ((a.modify k f).get? j).map g = (a.get? j).map g := by
    intro j
    rw [get?_modify]
    split
    · rw [Option.map_map]
      exact congrArg (Option.map · (a.get? j)) (funext same)
    · rfl
  simp only [values, List.map_filterMap, unseen]
  exact (a.keys_modify_perm k f).filterMap _

/-- Removing a key takes its value away. -/
theorem values_perm_remove (found : a.get? k = some v) :
    a.values.Perm (v :: (a.remove k).values) := by
  have first : a.keys.Perm (k :: a.keys.erase k) := List.perm_cons_erase (mem_keys.2 ⟨v, found⟩)
  have others : (a.keys.erase k).filterMap (a.remove k).get? = (a.keys.erase k).filterMap a.get? :=
    List.filterMap_congr fun j mem => by
      rw [get?_remove, if_neg (a.nodup_keys.mem_erase_iff.1 mem).1]
  have perm := first.filterMap a.get?
  rw [List.filterMap_cons, found, ← others] at perm
  exact perm.trans (((a.keys_remove_perm k).filterMap _).symm.cons v)

/-- Arenas with the same look-ups have the same values. -/
theorem values_perm_of_get? {b : Arena S α} (same : ∀ j, a.get? j = b.get? j) :
    a.values.Perm b.values := by
  have keys : a.keys.Perm b.keys := keys_perm b.nodup_keys fun j => by rw [mem_keys, same]
  rw [values, funext same]
  exact keys.filterMap _

/-- Replacing a value takes it away and adds the new one. -/
theorem values_perm_modify (found : a.get? k = some v) (f : α → α) :
    (a.modify k f).values.Perm (f v :: (a.remove k).values) := by
  have here : (a.modify k f).get? k = some (f v) := by rw [get?_modify, if_pos rfl, found]; rfl
  refine (values_perm_remove here).trans (.cons _ (values_perm_of_get? fun j => ?_))
  rw [get?_remove, get?_remove, get?_modify]
  split <;> rfl

end Arena

namespace LinkedTree

/-- The payloads in the arena. -/
def stock (t : LinkedTree S α) : Multiset α := (t.nodes.values.map (·.data) : List α)

/-- A tree has as many nodes as payloads. -/
theorem size_eq_card_stock (t : LinkedTree S α) : t.size = t.stock.card := by
  rw [LinkedTree.size, Arena.size_eq_length_values, stock, Multiset.coe_card, List.length_map]

/-! ## Rewiring -/

@[simp] theorem stock_setParent (t : LinkedTree S α) (k : Key) (parent : Option Key) :
    (t.setParent k parent).stock = t.stock :=
  Multiset.coe_eq_coe.2 (Arena.map_values_perm_modify (g := Node.data)
    (f := fun node => { node with parent }) (fun _ => rfl) t.nodes k)

@[simp] theorem stock_setChild (t : LinkedTree S α) (parent : Key) (side : Side)
    (child : Option Key) : (t.setChild parent side child).stock = t.stock := by
  have linked := Multiset.coe_eq_coe.2 (Arena.map_values_perm_modify
    (fun node => node.data_setChild side child) t.nodes parent)
  cases child with
  | none => exact linked
  | some c => exact (stock_setParent _ _ _).trans linked

@[simp] theorem stock_setPlace (t : LinkedTree S α) (place : Place) (c : Option Key) :
    (t.setPlace place c).stock = t.stock := by
  cases place with
  | child parent side => exact stock_setChild _ _ _ _
  | root =>
    cases c with
    | none => rfl
    | some k => exact stock_setParent _ _ _

@[simp] theorem stock_addNode (t : LinkedTree S α) (node : Node α) :
    (t.addNode node).stock = node.data ::ₘ t.stock :=
  Multiset.coe_eq_coe.2 ((t.nodes.values_perm_insert node).map _)

/-- Splicing in a node adds its payload. -/
theorem stock_put (t : LinkedTree S α) (site : Site) (v : α) :
    (t.put site v).stock = v ::ₘ t.stock := by
  cases site with
  | emptyTree => exact stock_addNode t ⟨none, none, none, v⟩
  | above it place keep => simp [put]
  | below it side keep displaced => simp [put]

/-! ## Removal -/

@[simp] theorem stock_empty (id : TreeId) : (LinkedTree.empty α id : LinkedTree S α).stock = 0 := by
  have none : (LinkedTree.empty α id : LinkedTree S α).nodes.values = [] :=
    Arena.values_eq_nil Arena.get?_empty
  rw [stock, none]
  rfl

@[simp] theorem stock_clear (t : LinkedTree S α) : t.clear.state.stock = 0 := by
  have none : t.clear.state.nodes.values = [] := Arena.values_eq_nil t.nodes.get?_clear
  rw [stock, none]
  rfl

/-- Clearing destroys all that the arena holds. -/
theorem destroyed_clear (t : LinkedTree S α) : (t.clear.destroyed : Multiset α) = t.stock := rfl

/-- What the loop of removal takes out of the arena is what it destroys. -/
theorem stock_destroyAll (t : LinkedTree S α) (pending : List Key) (gone : List α) :
    (t.destroyAll pending gone).state.stock + (t.destroyAll pending gone).destroyed =
      t.stock + gone := by
  fun_induction destroyAll t pending gone with
  | case1 t gone => rw [Multiset.coe_reverse]
  | case2 t gone key rest missing ih => exact ih
  | case3 t gone key rest node found smaller ih =>
    have taken : t.stock = node.data ::ₘ ({ t with nodes := t.nodes.remove key }).stock :=
      Multiset.coe_eq_coe.2 ((Arena.values_perm_remove found).map _)
    rw [ih, taken, ← Multiset.cons_coe, Multiset.add_cons, Multiset.cons_add]

/-- Removal turns payloads of the arena into destroyed ones. -/
theorem stock_destroy (t : LinkedTree S α) (key : Key) :
    (t.destroy key).state.stock + (t.destroy key).destroyed = t.stock := by
  rw [destroy, stock_destroyAll, Multiset.coe_nil, add_zero]

/-! ## Copies -/

/-- Copying the top node of a shape adds its payload. -/
theorem stock_bud (t : LinkedTree S α) (copy : Key) (side : Side) (s : Shape (Key × α)) (n : Key) :
    (t.bud copy side s).stock = t.stock + (s.stub n).payloads.bag := by
  cases s with
  | nil => exact (add_zero _).symm
  | node x l r =>
    rw [bud, stock_setChild, stock_addNode, add_comm]
    rfl

/-- Copying what is below a node adds the payloads that are there. -/
theorem stock_copyBelow (t : LinkedTree S α) (copy : Key) (s : Shape (Key × α)) (n : Key) :
    (t.copyBelow copy s).stock + (s.stub n).payloads.bag = t.stock + s.payloads.bag := by
  induction s generalizing t copy with
  | nil => rfl
  | node x l r ihl ihr =>
    have top : ((Shape.node x l r).stub n).payloads.bag = {x.2} := rfl
    have all : (Shape.node x l r).payloads.bag = {x.2} + (l.payloads.bag + r.payloads.bag) := rfl
    rw [copyBelow, top, all]
    -- The tops of both children are copied first, so their stubs stand on both sides and cancel.
    have budL := stock_bud t copy .left l n
    generalize t.bud copy .left l = t₁ at budL
    have budR := stock_bud t₁ copy .right r n
    have right := ihr (t₁.bud copy .right r) t₁.nodes.nextKey
    rw [budR, budL] at right
    generalize (t₁.bud copy .right r).copyBelow t₁.nodes.nextKey r = t₂ at right
    have left := ihl t₂ t.nodes.nextKey
    refine add_right_cancel (b := (l.stub n).payloads.bag + (r.stub n).payloads.bag) ?_
    calc (t₂.copyBelow t.nodes.nextKey l).stock + {x.2} +
          ((l.stub n).payloads.bag + (r.stub n).payloads.bag)
        = (t₂.copyBelow t.nodes.nextKey l).stock + (l.stub n).payloads.bag +
            ((r.stub n).payloads.bag + {x.2}) := by abel
      _ = t₂.stock + (r.stub n).payloads.bag + (l.payloads.bag + {x.2}) := by rw [left]; abel
      _ = t.stock + ({x.2} + (l.payloads.bag + r.payloads.bag)) +
            ((l.stub n).payloads.bag + (r.stub n).payloads.bag) := by rw [right]; abel

/-- A copy of a piece adds the payloads of the piece. -/
theorem stock_copySubtree {source : Arena S (Node α)} {parent : Option Key} {s : Shape (Key × α)}
    (hangs : Hangs source parent s) (nodup : s.keys.Nodup) (t : LinkedTree S α)
    (above : Option Key) {key : Key} {node : Node α} (top : s.topKey = some key)
    (found : source.get? key = some node) :
    (t.copySubtree source above key node).stock = t.stock + s.payloads.bag := by
  cases s with
  | nil => cases top
  | node x l r =>
    obtain rfl : x.1 = key := Option.some.inj top
    have data : node.data = x.2 := by
      rw [hangs.1] at found
      rw [← Option.some.inj found]
    have below := stock_copyBelow (t.addNode ⟨above, none, none, node.data⟩) t.nodes.nextKey
      (.node x l r) 0
    have stub : ((Shape.node x l r).stub 0).payloads.bag = {node.data} := data ▸ rfl
    rw [stub, stock_addNode, ← Multiset.singleton_add] at below
    rw [copySubtree_eq hangs nodup t above top]
    refine add_right_cancel (b := {node.data}) (below.trans ?_)
    abel

/-- Copying a whole tree adds its payloads. -/
theorem stock_copyTree {other : LinkedTree S α} {d : Shape (Key × α)} (h : other.HasShape d)
    (t : LinkedTree S α) : (t.copyTree other).2.stock = t.stock + d.payloads.bag := by
  rw [copyTree, h.root]
  cases d with
  | nil => exact (add_zero _).symm
  | node x l r =>
    have found := h.hangs.1
    simp only [Shape.topKey_node, found]
    exact stock_copySubtree h.hangs h.nodup t none rfl found

/-! ## The stock of a whole tree -/

/-- The values are those under the keys that have one. -/
theorem values_perm_entries {nodes : Arena S (Node α)} {ks : List Key} (nodup : ks.Nodup)
    (held : ∀ k, k ∈ ks ↔ ∃ node, nodes.get? k = some node) :
    nodes.values.Perm ((entries nodes ks).map Prod.snd) := by
  rw [entries, List.map_filterMap]
  simp only [Option.map_map, Function.comp_def, Option.map_id']
  exact (Arena.keys_perm nodup held).filterMap _

/-- The arena of a tree holds what hangs from the root, and nothing else. -/
theorem HasShape.stock {t : LinkedTree S α} {s : Shape (Key × α)} (h : t.HasShape s) :
    t.stock = s.payloads.bag := by
  have held := (values_perm_entries h.nodup h.mem_iff).map (·.data)
  rw [s.bag_payloads, Shape.bag, ← payloads_entries h.hangs, Multiset.map_coe, List.map_map]
  rw [List.map_map] at held
  exact Multiset.coe_eq_coe.2 held

end LinkedTree

end Substrate
