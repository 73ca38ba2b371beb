import Substrate.Proofs.Tree.Whole
import Substrate.Tree.Preorder

/-!
# Substrate.Proofs.Tree.Walking

Walks over a tree that bears a shape. The way up from a node has one step for each frame around it
(`Bears.walk_up`), the way down from the root takes the same frames the other way round
(`Bears.walk_down`), and the walk over the whole tree meets the names of the shape in pre-order
(`HasShape.preorder_eq`), each with its payload (`HasShape.listing`).
-/

namespace Substrate

variable {S : Type → Type} [SlotMap S] {α : Type}

/-! ## Frames as steps -/

@[simp] theorem Frame.child_node (f : Frame (Key × α)) (parent hole : Option Key) :
    (f.node parent hole).child f.side = hole := by
  unfold Frame.node
  cases f.side <;> rfl

@[simp] theorem Frame.child_opposite_node (f : Frame (Key × α)) (parent hole : Option Key) :
    (f.node parent hole).child f.side.opposite = f.sibling.topKey := by
  unfold Frame.node
  cases f.side <;> rfl

namespace Context

/-- The sides on the way down from the root to the place. -/
def sides (C : Context (Key × α)) : List Side := (C.map (·.side)).reverse

/-- There are more nodes than frames around any one of them. -/
theorem length_lt_size_plug {C : Context (Key × α)} {s : Shape (Key × α)} {k : Key}
    (top : s.topKey = some k) : C.length < (plug C s).size := by
  have around : C.length ≤ (keys C).length := by
    induction C with
    | nil => exact Nat.le_refl _
    | cons f C ih =>
      rw [keys_cons, List.length_cons, List.length_cons, List.length_append]
      omega
  have filling : 0 < s.keys.length := List.length_pos_of_mem (Shape.topKey_mem top)
  have all := (keys_plug_perm C s).length_eq
  rw [List.length_append, Shape.length_keys] at all
  omega

end Context

namespace LinkedTree

variable {t : LinkedTree S α} {C : Context (Key × α)} {u : Shape (Key × α)} {k : Key}

/-- A tree accepts the handles of its nodes. -/
theorem resolve_handle {node : Node α} (found : t.nodes.get? k = some node) :
    t.resolve (t.handle (some k)) = .ok (k, node) := by
  simp [resolve, handle, found]

/-- The top of a piece that hangs is there and names what it hangs below. -/
theorem get?_of_hangs_top {nodes : Arena S (Node α)} {parent : Option Key}
    (hangs : Hangs nodes parent u) (top : u.topKey = some k) :
    ∃ node, nodes.get? k = some node ∧ node.parent = parent := by
  cases u with
  | nil => simp at top
  | node x l r =>
    obtain rfl : x.1 = k := Option.some.inj top
    exact ⟨_, hangs.1, rfl⟩

/-- What is in a place of a hanging piece hangs there. -/
theorem exists_hangs_of_plug {nodes : Arena S (Node α)} {parent : Option Key}
    (hangs : Hangs nodes parent (C.plug u)) : ∃ above, Hangs nodes above u := by
  induction C generalizing u with
  | nil => exact ⟨parent, hangs⟩
  | cons f C ih =>
    obtain ⟨above, here⟩ := ih hangs
    exact ⟨_, (Context.hangs_hang.1 here).2.2⟩

/-- A walk goes on where its first part ends. -/
theorem walk_append (t : LinkedTree S α) (h : Handle) (ms ns : List Move) :
    t.walk h (ms ++ ns) = (t.walk h ms).bind fun h' => t.walk h' ns := by
  induction ms generalizing h with
  | nil => rfl
  | cons m ms ih =>
    rw [List.cons_append, walk, walk]
    cases t.move h m with
    | error e => rfl
    | ok h' => exact ih h'

/-- As many steps up as there are frames lead to the root. -/
theorem Bears.walk_up (h : t.Bears (C.plug u)) (top : u.topKey = some k) :
    t.walk (t.handle (some k)) (List.replicate C.length .up) = .ok t.root := by
  induction C generalizing u k with
  | nil =>
    have root : t.rootKey = some k := h.root.trans top
    rw [LinkedTree.root, root]
    rfl
  | cons f C ih =>
    obtain ⟨-, hangs, -⟩ := bears_plug_iff.1 h
    obtain ⟨node, found, parent⟩ := get?_of_hangs_top hangs top
    have step : t.move (t.handle (some k)) .up = .ok (t.handle (some f.label.1)) := by
      rw [move, LinkedTree.parent, resolve_handle found]
      exact congrArg (fun p => Except.ok (t.handle p)) parent
    rw [List.length_cons, List.replicate_succ, walk, step]
    exact ih h (Shape.topKey_hang _ _ _ _)

/-- The frames' sides lead from the top of a hanging piece to the place. -/
theorem walk_down_of_hangs {parent : Option Key} (hangs : Hangs t.nodes parent (C.plug u))
    (top : u.topKey = some k) :
    t.walk (t.handle (C.plug u).topKey) (C.sides.map .down) = .ok (t.handle (some k)) := by
  induction C generalizing u k with
  | nil =>
    rw [Context.plug, top]
    rfl
  | cons f C ih =>
    have outer := ih hangs (Shape.topKey_hang _ _ _ _)
    obtain ⟨above, here⟩ := exists_hangs_of_plug (C := C) hangs
    have step : t.move (t.handle (some f.label.1)) (.down f.side) = .ok (t.handle (some k)) := by
      rw [move, child, resolve_handle (Context.hangs_hang.1 here).1, top]
      exact congrArg (fun c => Except.ok (t.handle c)) (f.child_node _ _)
    rw [Context.plug, Context.sides, List.map_cons, List.reverse_cons, List.map_append, walk_append,
      ← Context.sides, outer]
    change t.walk (t.handle (some f.label.1)) [.down f.side] = _
    rw [walk, step]
    rfl

/-- The frames' sides lead from the root to the place. -/
theorem Bears.walk_down (h : t.Bears (C.plug u)) (top : u.topKey = some k) :
    t.walk t.root (C.sides.map .down) = .ok (t.handle (some k)) := by
  rw [LinkedTree.root, h.root]
  exact walk_down_of_hangs h.hangs top

/-! ## Walks over a whole tree -/

def entries (nodes : Arena S (Node α)) (ks : List Key) : List (Key × Node α) :=
  ks.filterMap fun k => (nodes.get? k).map (k, ·)

/-- The entries are the nodes under the keys. -/
theorem mem_entries {nodes : Arena S (Node α)} {ks : List Key} {node : Node α} :
    (k, node) ∈ entries nodes ks ↔ k ∈ ks ∧ nodes.get? k = some node := by
  simp only [entries, List.mem_filterMap, Option.map_eq_some_iff, Prod.mk.injEq]
  constructor
  · rintro ⟨j, mem, node', found, rfl, rfl⟩
    exact ⟨mem, found⟩
  · rintro ⟨mem, found⟩
    exact ⟨k, mem, node, found, rfl, rfl⟩

theorem keys_entries {nodes : Arena S (Node α)} {ks : List Key}
    (held : ∀ k ∈ ks, ∃ node, nodes.get? k = some node) :
    (entries nodes ks).map Prod.fst = ks := by
  induction ks with
  | nil => rfl
  | cons k ks ih =>
    obtain ⟨node, found⟩ := held k List.mem_cons_self
    have rest := ih fun j mem => held j (List.mem_cons_of_mem _ mem)
    rw [entries, List.filterMap_cons, found]
    exact congrArg (k :: ·) rest

/-- The walk meets a shape that hangs at the front of the pending keys before it goes on. -/
theorem walkNodes_append {nodes : Arena S (Node α)} {parent : Option Key} {s : Shape (Key × α)}
    (hangs : Hangs nodes parent s) (steps : Nat) (rest : List Key)
    (seen : List (Key × Node α)) :
    walkNodes nodes (s.size + steps) (s.topKey.toList ++ rest) seen =
      walkNodes nodes steps rest ((entries nodes s.keys).reverse ++ seen) := by
  induction s generalizing parent steps rest seen with
  | nil => simp [Shape.size, entries]
  | node x l r ihl ihr =>
    obtain ⟨top, left, right⟩ := hangs
    have count : (Shape.node x l r).size + steps = (l.size + (r.size + steps)) + 1 := by
      simp only [Shape.size]
      omega
    rw [count]
    simp only [Shape.topKey_node, Option.toList_some, List.singleton_append, walkNodes, top,
      List.append_assoc]
    rw [ihl left, ihr right]
    simp [entries, top]

/-- The walk over a tree meets the names of its shape in pre-order. -/
theorem HasShape.preorder_eq {s : Shape (Key × α)} (h : t.HasShape s) :
    t.preorder = entries t.nodes s.keys := by
  have whole := walkNodes_append h.hangs 0 [] []
  rw [List.append_nil, List.append_nil, Nat.add_zero] at whole
  rw [preorder, h.size, h.root, whole, walkNodes, List.reverse_reverse]

/-- The nodes of a hanging shape carry its payloads. -/
theorem payloads_entries {nodes : Arena S (Node α)} {parent : Option Key} {s : Shape (Key × α)}
    (hangs : Hangs nodes parent s) :
    (entries nodes s.keys).map (fun (key, node) => (key, node.data)) = s.preorder := by
  induction s generalizing parent with
  | nil => rfl
  | node x l r ihl ihr =>
    obtain ⟨top, left, right⟩ := hangs
    have parts : entries nodes (Shape.node x l r).keys =
        (x.1, ⟨parent, l.topKey, r.topKey, x.2⟩) ::
          (entries nodes l.keys ++ entries nodes r.keys) := by
      simp [entries, top]
    rw [parts, List.map_cons, List.map_append, ihl left, ihr right]
    rfl

/-- The keys and payloads of a tree in pre-order. -/
def listing (t : LinkedTree S α) : List (Key × α) :=
  t.preorder.map fun (key, node) => (key, node.data)

/-- The tree lists the nodes of its shape in pre-order. -/
theorem HasShape.listing {s : Shape (Key × α)} (h : t.HasShape s) : t.listing = s.preorder := by
  rw [LinkedTree.listing, h.preorder_eq, payloads_entries h.hangs]

end LinkedTree

end Substrate
