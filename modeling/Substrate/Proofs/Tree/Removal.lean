import Substrate.Proofs.Tree.Hanging

/-!
# Substrate.Proofs.Tree.Removal

What is gone after a subtree was removed: its own nodes and no others (`get?_destroy`), and its
payloads, each once, a node before its right subtree and that before its left one
(`destroy_eq`).

Removal follows child links alone, so all it asks for is that they spell out a shape (`Spells`). The
loop works on a list of pending keys (`Clears`); `clears_append` says that it clears one shape after
another off the front of that list.
-/

namespace Substrate

variable {S : Type → Type} [SlotMap S] {α β κ : Type}

/-! ## The order of removal -/

/-- A node before its right shape, and that before its left one. -/
def Shape.fromRight : Shape β → List β
  | nil => []
  | node x l r => x :: (r.fromRight ++ l.fromRight)

/-- The order of removal lists the nodes that pre-order lists. -/
theorem Shape.fromRight_perm (s : Shape β) : s.fromRight.Perm s.preorder := by
  induction s with
  | nil => exact .nil
  | node x l r ihl ihr => exact (List.perm_append_comm.trans (ihl.append ihr)).cons x

theorem Shape.mem_fromRight {s : Shape (κ × α)} {k : κ} :
    k ∈ s.fromRight.map Prod.fst ↔ k ∈ s.keys :=
  (s.fromRight_perm.map Prod.fst).mem_iff

/-! ## Removing many keys -/

namespace Arena

def removeAll (a : Arena S α) (ks : List Key) : Arena S α := ks.foldl remove a

/-- Keys that are removed find nothing; the others find what they did. -/
theorem get?_removeAll (a : Arena S α) (ks : List Key) (j : Key) :
    (a.removeAll ks).get? j = if j ∈ ks then none else a.get? j := by
  induction ks generalizing a with
  | nil => rfl
  | cons k ks ih =>
    rw [removeAll, List.foldl_cons, ← removeAll, ih, get?_remove]
    by_cases same : j = k <;> simp [same]

/-- Removing keys neither issues nor takes back any. -/
@[simp] theorem issued_removeAll (a : Arena S α) (ks : List Key) (j : Key) :
    (a.removeAll ks).Issued j ↔ a.Issued j := by
  induction ks generalizing a with
  | nil => rfl
  | cons k ks ih => rw [removeAll, List.foldl_cons, ← removeAll, ih, issued_remove]

theorem removeAll_cons (a : Arena S α) (k : Key) (ks : List Key) :
    a.removeAll (k :: ks) = (a.remove k).removeAll ks := rfl

theorem removeAll_append (a : Arena S α) (ks js : List Key) :
    a.removeAll (ks ++ js) = (a.removeAll ks).removeAll js := List.foldl_append

end Arena

/-! ## What child links spell out -/

/-- The child links from `key` down spell out a shape: its nodes are in the arena under their names,
with the payloads that the shape gives them and child links to its subtrees. A link that leads to no
node counts as none, and what the nodes name as their parents does not matter. -/
def Spells (nodes : Arena S (Node α)) : Option Key → Shape (Key × α) → Prop
  | key, .nil => ∀ k, key = some k → nodes.get? k = none
  | key, .node x l r =>
    key = some x.1 ∧ ∃ node, nodes.get? x.1 = some node ∧ node.data = x.2 ∧
      Spells nodes node.left l ∧ Spells nodes node.right r

theorem spells_none (nodes : Arena S (Node α)) : Spells nodes none .nil := by
  intro k key
  cases key

/-- The links of a hanging shape spell it out. -/
theorem spells_of_hangs {nodes : Arena S (Node α)} {parent : Option Key} {s : Shape (Key × α)}
    (hangs : Hangs nodes parent s) : Spells nodes s.topKey s := by
  induction s generalizing parent with
  | nil => exact spells_none nodes
  | node x l r ihl ihr =>
    obtain ⟨top, left, right⟩ := hangs
    exact ⟨rfl, _, top, rfl, ihl left, ihr right⟩

/-- A shape stays spelled out if its nodes stay and no node is added. -/
theorem Spells.of_kept {nodes nodes' : Arena S (Node α)} {key : Option Key} {s : Shape (Key × α)}
    (spells : Spells nodes key s) (kept : ∀ k ∈ s.keys, nodes'.get? k = nodes.get? k)
    (absent : ∀ k, nodes.get? k = none → nodes'.get? k = none) : Spells nodes' key s := by
  induction s generalizing key with
  | nil => exact fun k link => absent k (spells k link)
  | node x l r ihl ihr =>
    obtain ⟨top, node, found, data, left, right⟩ := spells
    simp only [Shape.keys_node, List.mem_cons, List.mem_append] at kept
    exact ⟨top, node, (kept x.1 (.inl rfl)).trans found, data,
      ihl left fun k mem => kept k (.inr (.inl mem)),
      ihr right fun k mem => kept k (.inr (.inr mem))⟩

/-- Removing keys keeps a shape spelled out that has none of them. -/
theorem Spells.removeAll {nodes : Arena S (Node α)} {key : Option Key} {s : Shape (Key × α)}
    (spells : Spells nodes key s) (ks : List Key) (apart : ∀ k ∈ s.keys, k ∉ ks) :
    Spells (nodes.removeAll ks) key s := by
  refine spells.of_kept (fun k mem => ?_) fun k missing => ?_
  · rw [Arena.get?_removeAll, if_neg (apart k mem)]
  · rw [Arena.get?_removeAll, missing, ite_self]

/-! ## Removing what is spelled out -/

namespace LinkedTree

/-- From `t` and the pending keys, the loop of removal ends in `t'`. It takes the first key off the
list; if there is a node under it, that one is removed, and its children are put in front, the right
one before the left one. `removed` has the names and payloads of the removed nodes, in that order.
-/
inductive Clears : LinkedTree S α → List Key → List (Key × α) → LinkedTree S α → Prop
  | done (t : LinkedTree S α) : Clears t [] [] t
  | absent {t t' : LinkedTree S α} {key : Key} {rest : List Key} {removed : List (Key × α)}
      (missing : t.nodes.get? key = none) (later : Clears t rest removed t') :
      Clears t (key :: rest) removed t'
  | found {t t' : LinkedTree S α} {key : Key} {node : Node α} {rest : List Key}
      {removed : List (Key × α)} (here : t.nodes.get? key = some node)
      (later : Clears { t with nodes := t.nodes.remove key }
        (node.right.toList ++ node.left.toList ++ rest) removed t') :
      Clears t (key :: rest) ((key, node.data) :: removed) t'

/-- `destroyAll` computes where the loop ends, and collects the payloads on the way. -/
theorem Clears.destroyAll_eq {t t' : LinkedTree S α} {pending : List Key}
    {removed : List (Key × α)} (clears : Clears t pending removed t') (gone : List α) :
    t.destroyAll pending gone = ⟨(), t', gone.reverse ++ removed.map Prod.snd⟩ := by
  induction clears generalizing gone with
  | done t => simp [destroyAll]
  | absent missing later ih =>
    rw [destroyAll]
    split
    · exact ih gone
    · next found => simp [missing] at found
  | found here later ih =>
    rw [destroyAll]
    split
    · next missing => simp [here] at missing
    · next node' found =>
      rw [here] at found
      cases found
      refine (ih _).trans ?_
      simp

variable {t : LinkedTree S α} {parent : Option Key} {s : Shape (Key × α)} {key : Key}

/-- The loop removes a shape that is spelled out at the front of the pending keys before it goes
on. -/
theorem clears_append {first : Option Key} (spells : Spells t.nodes first s)
    (nodup : s.keys.Nodup) {t' : LinkedTree S α} {rest : List Key} {removed : List (Key × α)}
    (later : Clears { t with nodes := t.nodes.removeAll (s.fromRight.map Prod.fst) } rest removed
      t') : Clears t (first.toList ++ rest) (s.fromRight ++ removed) t' := by
  induction s generalizing t first rest removed with
  | nil =>
    cases first with
    | none => exact later
    | some k => exact .absent (spells k rfl) later
  | node x l r ihl ihr =>
    obtain ⟨rfl, node, found, data, left, right⟩ := spells
    rw [Shape.keys_node, List.nodup_cons, List.nodup_append] at nodup
    obtain ⟨notBelow, nodupL, nodupR, apart⟩ := nodup
    rw [List.mem_append, not_or] at notBelow
    have right' : Spells (t.nodes.remove x.1) node.right r := by
      refine right.removeAll [x.1] fun k mem => ?_
      rw [List.mem_singleton]
      rintro rfl
      exact notBelow.2 mem
    -- The left child waits on the list until the node and all of the right shape are gone.
    have left' :
        Spells ((t.nodes.remove x.1).removeAll (r.fromRight.map Prod.fst)) node.left l := by
      refine left.removeAll (x.1 :: r.fromRight.map Prod.fst) fun k mem => ?_
      rw [List.mem_cons, not_or, Shape.mem_fromRight]
      exact ⟨by rintro rfl; exact notBelow.1 mem, fun inR => apart k mem k inR rfl⟩
    rw [Shape.fromRight, List.map_cons, List.map_append, Arena.removeAll_cons,
      Arena.removeAll_append] at later
    have below := ihr (t := { t with nodes := t.nodes.remove x.1 }) right' nodupR
      (ihl left' nodupL later)
    have order : (Shape.node x l r).fromRight ++ removed =
        (x.1, node.data) :: (r.fromRight ++ (l.fromRight ++ removed)) := by
      rw [Shape.fromRight, List.cons_append, List.append_assoc, data]
    rw [order]
    refine .found found ?_
    rw [List.append_assoc]
    exact below

/-- The loop ends once it has removed what is spelled out. -/
theorem clears_of_spells (spells : Spells t.nodes (some key) s) (nodup : s.keys.Nodup) :
    Clears t [key] s.fromRight
      { t with nodes := t.nodes.removeAll (s.fromRight.map Prod.fst) } := by
  have loop := clears_append spells nodup (.done _)
  rwa [List.append_nil, List.append_nil] at loop

/-- Removal along child links that spell out a shape takes out just these nodes. -/
theorem destroy_eq_of_spells (spells : Spells t.nodes (some key) s) (nodup : s.keys.Nodup) :
    t.destroy key =
      ⟨(), { t with nodes := t.nodes.removeAll (s.fromRight.map Prod.fst) },
        s.fromRight.map Prod.snd⟩ :=
  (clears_of_spells spells nodup).destroyAll_eq []

/-- Removal of a piece that hangs takes out just its nodes. -/
theorem destroy_eq (hangs : Hangs t.nodes parent s) (nodup : s.keys.Nodup)
    (top : s.topKey = some key) :
    t.destroy key =
      ⟨(), { t with nodes := t.nodes.removeAll (s.fromRight.map Prod.fst) },
        s.fromRight.map Prod.snd⟩ :=
  destroy_eq_of_spells (top ▸ spells_of_hangs hangs) nodup

/-- Exactly the nodes of the removed shape are gone. -/
theorem get?_destroy (hangs : Hangs t.nodes parent s) (nodup : s.keys.Nodup)
    (top : s.topKey = some key) (j : Key) :
    (t.destroy key).state.nodes.get? j = if j ∈ s.keys then none else t.nodes.get? j := by
  rw [destroy_eq hangs nodup top, Arena.get?_removeAll]
  simp only [Shape.mem_fromRight]

theorem rootKey_destroy (hangs : Hangs t.nodes parent s) (nodup : s.keys.Nodup)
    (top : s.topKey = some key) : (t.destroy key).state.rootKey = t.rootKey := by
  rw [destroy_eq hangs nodup top]

theorem issued_destroy (hangs : Hangs t.nodes parent s) (nodup : s.keys.Nodup)
    (top : s.topKey = some key) (j : Key) :
    (t.destroy key).state.nodes.Issued j ↔ t.nodes.Issued j := by
  rw [destroy_eq hangs nodup top, Arena.issued_removeAll]

theorem id_destroy (hangs : Hangs t.nodes parent s) (nodup : s.keys.Nodup)
    (top : s.topKey = some key) : (t.destroy key).state.id = t.id := by
  rw [destroy_eq hangs nodup top]

end LinkedTree

end Substrate
