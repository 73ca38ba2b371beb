import Substrate.Proofs.Tree.Coherence

/-!
# Substrate.Proofs.Tree.Linked

Links that agree with each other make up a shape. In a coherent tree the way up from a node ends at
the root, and it does so after one number of steps only, since the root names no parent
(`Climbs.unique`). A child is one step further from the root than its parent, and no node is further
away than there are nodes. So the child links below a node, followed that deep, spell out a shape
that hangs there (`Coherent.hangs_spell`). Two children of a node have no descendant in common, as
it would lead up to both of them in the same number of steps.

The main result is `coherent_iff_wellLinked`.
-/

namespace Substrate

variable {S : Type → Type} [SlotMap S] {α : Type}

namespace LinkedTree

/-- The shape that the child links from `key` down spell out, so many links deep. -/
def spell (nodes : Arena S (Node α)) : Nat → Option Key → Shape (Key × α)
  | depth + 1, some key =>
    match nodes.get? key with
    | none => .nil
    | some node =>
      .node (key, node.data) (spell nodes depth node.left) (spell nodes depth node.right)
  | 0, _ => .nil
  | _ + 1, none => .nil

variable {t : LinkedTree S α} {i j k r : Key} {m n : Nat} {node : Node α}

/-! ## Ways up -/

/-- `n` steps up from `j` lead to `k`. -/
def Climbs (t : LinkedTree S α) (j k : Key) (n : Nat) : Prop :=
  t.walk (t.handle (some j)) (List.replicate n .up) = .ok (t.handle (some k))

theorem climbs_zero (t : LinkedTree S α) (k : Key) : t.Climbs k k 0 := rfl

/-- One climb goes on where another one ended. -/
theorem Climbs.trans (lower : t.Climbs i j m) (upper : t.Climbs j k n) : t.Climbs i k (m + n) := by
  rw [Climbs, ← List.replicate_append_replicate, walk_append, lower]
  exact upper

theorem move_up (found : t.nodes.get? k = some node) :
    t.move (t.handle (some k)) .up = .ok (t.handle node.parent) := by
  rw [move, parent, resolve_handle found]
  rfl

/-- A parent link is a climb of one step. -/
theorem climbs_parent (found : t.nodes.get? j = some node) (parent : node.parent = some k) :
    t.Climbs j k 1 := by
  rw [Climbs, List.replicate_one, walk, move_up found, parent]
  rfl

/-- No step leads up from the root. -/
theorem not_climbs_of_top (found : t.nodes.get? r = some node) (top : node.parent = none) (k : Key)
    (n : Nat) : ¬ t.Climbs r k (n + 1) := by
  intro climbs
  rw [Climbs, List.replicate_succ, walk, move_up found, top] at climbs
  cases n with
  | zero => cases climbs
  | succ n => cases climbs

/-- What is left of a climb after its lower part is a climb. -/
theorem Climbs.of_add {m n : Nat} (whole : t.Climbs j k (m + n)) (lower : t.Climbs j i m) :
    t.Climbs i k n := by
  rw [Climbs, ← List.replicate_append_replicate, walk_append, lower] at whole
  exact whole

/-- The root is so many steps above a node. -/
theorem Climbs.unique (found : t.nodes.get? r = some node) (top : node.parent = none)
    (first : t.Climbs j r m) (second : t.Climbs j r n) : m = n := by
  have le : ∀ {m n}, t.Climbs j r m → t.Climbs j r n → n ≤ m := by
    intro m n first second
    refine Nat.le_of_not_lt fun lt => ?_
    obtain ⟨d, rfl⟩ := Nat.exists_eq_add_of_lt lt
    exact not_climbs_of_top found top r d (Climbs.of_add second first)
  exact Nat.le_antisymm (le second first) (le first second)

/-! ## Ways down -/

@[simp] theorem spell_none (nodes : Arena S (Node α)) (depth : Nat) :
    spell nodes depth none = .nil := by
  cases depth <;> rfl

/-- A node that is there spells out what its child links do. -/
theorem spell_some (found : t.nodes.get? k = some node) (depth : Nat) :
    spell t.nodes (depth + 1) (some k) =
      .node (k, node.data) (spell t.nodes depth node.left) (spell t.nodes depth node.right) := by
  rw [spell, found]

variable {root : Node α}

/-- A child is one step further away than its parent. -/
theorem Coherent.climbs_child (h : t.Coherent) (climbs : t.Climbs k r n)
    (found : t.nodes.get? k = some node) {side : Side} {c : Key} (link : node.child side = some c) :
    ∃ below, t.nodes.get? c = some below ∧ below.parent = some k ∧ t.Climbs c r (n + 1) := by
  obtain ⟨below, foundC, parent⟩ := h.child k node side c found link
  exact ⟨below, foundC, parent, Nat.add_comm 1 n ▸ (climbs_parent foundC parent).trans climbs⟩

/-- No node is as far from the root as there are nodes. -/
theorem Coherent.lt_size (h : t.Coherent) (rooted : t.rootKey = some r)
    (found : t.nodes.get? k = some node) (climbs : t.Climbs k r n) : n < t.size := by
  obtain ⟨top, foundR, parentless⟩ := h.root r rooted
  obtain ⟨m, lt, up⟩ := h.climb k node found
  rw [LinkedTree.root, rooted] at up
  exact Climbs.unique foundR parentless climbs up ▸ lt

/-- What is spelled out deep enough hangs. -/
theorem Coherent.hangs_spell (h : t.Coherent) (rooted : t.rootKey = some r) {depth : Nat}
    (found : t.nodes.get? k = some node) (climbs : t.Climbs k r n) (deep : t.size ≤ depth + n) :
    Hangs t.nodes node.parent (spell t.nodes depth (some k)) ∧
      (spell t.nodes depth (some k)).topKey = some k := by
  induction depth generalizing k node n with
  | zero =>
    have lt := h.lt_size rooted found climbs
    omega
  | succ depth ih =>
    rw [spell_some found]
    have below : ∀ side, Hangs t.nodes (some k) (spell t.nodes depth (node.child side)) ∧
        (spell t.nodes depth (node.child side)).topKey = node.child side := by
      intro side
      cases link : node.child side with
      | none => simp
      | some c =>
        obtain ⟨child, foundC, parent, further⟩ := h.climbs_child climbs found link
        rw [← parent]
        exact ih foundC further (by omega)
    obtain ⟨hangsL, topL⟩ := below .left
    obtain ⟨hangsR, topR⟩ := below .right
    simp only [Node.child] at hangsL hangsR topL topR
    refine ⟨⟨?_, hangsL, hangsR⟩, rfl⟩
    rw [found, topL, topR]

/-- From the top of a piece, one step leads to what it hangs below. -/
theorem climbs_of_hangs_top {u : Shape (Key × α)} (hangs : Hangs t.nodes (some k) u)
    (top : u.topKey = some j) : t.Climbs j k 1 := by
  obtain ⟨node, found, parent⟩ := get?_of_hangs_top hangs top
  exact climbs_parent found parent

/-- The way up from a node of a hanging shape passes the top of the shape. -/
theorem exists_climbs_of_hangs {parent : Option Key} {s : Shape (Key × α)}
    (hangs : Hangs t.nodes parent s) (mem : j ∈ s.keys) :
    ∃ k n, s.topKey = some k ∧ t.Climbs j k n := by
  induction s generalizing parent with
  | nil => exact absurd mem List.not_mem_nil
  | node x l r ihl ihr =>
    obtain ⟨-, left, right⟩ := hangs
    rw [Shape.keys_node, List.mem_cons, List.mem_append] at mem
    rcases mem with rfl | inL | inR
    · exact ⟨x.1, 0, rfl, climbs_zero t x.1⟩
    · obtain ⟨c, n, top, climbs⟩ := ihl left inL
      exact ⟨x.1, n + 1, rfl, climbs.trans (climbs_of_hangs_top left top)⟩
    · obtain ⟨c, n, top, climbs⟩ := ihr right inR
      exact ⟨x.1, n + 1, rfl, climbs.trans (climbs_of_hangs_top right top)⟩

/-- What hangs in a coherent tree has no node twice. -/
theorem Coherent.nodup_keys (h : t.Coherent) (rooted : t.rootKey = some r) {parent : Option Key}
    {s : Shape (Key × α)} (hangs : Hangs t.nodes parent s) : s.keys.Nodup := by
  obtain ⟨top, foundR, parentless⟩ := h.root r rooted
  induction s generalizing parent with
  | nil => exact List.nodup_nil
  | node x l r' ihl ihr =>
    obtain ⟨here, left, right⟩ := hangs
    obtain ⟨n, -, up⟩ := h.climb x.1 _ here
    rw [LinkedTree.root, rooted] at up
    -- A node below a child is further from the root than the top.
    have far : ∀ {u : Shape (Key × α)}, Hangs t.nodes (some x.1) u → ∀ j ∈ u.keys,
        ∃ c m, u.topKey = some c ∧ t.Climbs j c m ∧ t.Climbs j r (m + (1 + n)) := by
      intro u hangsU j mem
      obtain ⟨c, m, topU, climbs⟩ := exists_climbs_of_hangs hangsU mem
      exact ⟨c, m, topU, climbs, climbs.trans ((climbs_of_hangs_top hangsU topU).trans up)⟩
    have notBelow : ∀ {u : Shape (Key × α)}, Hangs t.nodes (some x.1) u → x.1 ∉ u.keys := by
      intro u hangsU mem
      obtain ⟨c, m, -, -, further⟩ := far hangsU x.1 mem
      have same := Climbs.unique foundR parentless up further
      omega
    rw [Shape.keys_node, List.nodup_cons, List.mem_append, not_or, List.nodup_append]
    refine ⟨⟨notBelow left, notBelow right⟩, ihl left, ihr right, ?_⟩
    rintro j inL _ inR rfl
    obtain ⟨c, m, topL, climbsL, upL⟩ := far left j inL
    obtain ⟨d, m', topR, climbsR, upR⟩ := far right j inR
    have same := Climbs.unique foundR parentless upL upR
    obtain rfl : m = m' := by omega
    rw [Climbs, climbsL] at climbsR
    obtain ⟨rfl⟩ := climbsR
    exact h.distinct x.1 _ c here topL topR

/-- The way down from the top of a hanging shape stays in the shape. -/
theorem mem_keys_of_walk_down {parent : Option Key} {s : Shape (Key × α)}
    (hangs : Hangs t.nodes parent s) {sides : List Side}
    (walk : t.walk (t.handle s.topKey) (sides.map .down) = .ok (t.handle (some k))) :
    k ∈ s.keys := by
  induction sides generalizing parent s with
  | nil =>
    have same := congrArg Handle.key (Except.ok.inj walk)
    exact Shape.topKey_mem same
  | cons side sides ih =>
    cases s with
    | nil => cases walk
    | node x l r =>
      obtain ⟨here, left, right⟩ := hangs
      have step : t.move (t.handle (some x.1)) (.down side) =
          .ok (t.handle ((Shape.node x l r).child side).topKey) := by
        rw [move, LinkedTree.child, resolve_handle here]
        cases side <;> rfl
      rw [List.map_cons, LinkedTree.walk, Shape.topKey_node, step] at walk
      rw [Shape.keys_node, List.mem_cons, List.mem_append]
      cases side with
      | left => exact .inr (.inl (ih left walk))
      | right => exact .inr (.inr (ih right walk))

/-! ## Shapes of coherent trees -/

/-- The links of a coherent tree make up a shape. -/
theorem Coherent.wellLinked (h : t.Coherent) : t.WellLinked := by
  cases rooted : t.rootKey with
  | none =>
    have none := h.empty_iff.2 rooted
    refine ⟨.nil, ⟨rooted, trivial, List.nodup_nil⟩, fun k node found => ?_⟩
    have removed := Arena.size_remove found
    rw [LinkedTree.size] at none
    omega
  | some r =>
    obtain ⟨root, found, top⟩ := h.root r rooted
    obtain ⟨hangs, topKey⟩ := h.hangs_spell rooted found (climbs_zero t r) (Nat.le_refl t.size)
    rw [top] at hangs
    refine ⟨_, ⟨rooted.trans topKey.symm, hangs, h.nodup_keys rooted hangs⟩, fun k node found => ?_⟩
    obtain ⟨sides, down⟩ := h.descend k node found
    rw [LinkedTree.root, rooted, ← topKey] at down
    exact mem_keys_of_walk_down hangs down

/-- The links of a tree agree exactly if they make up a shape. -/
theorem coherent_iff_wellLinked : t.Coherent ↔ t.WellLinked :=
  ⟨Coherent.wellLinked, WellLinked.coherent⟩

end LinkedTree

end Substrate
