import Mathlib.Data.Fintype.Card
import Substrate.Proofs.Shape.Positions
import Substrate.Proofs.Tree.Linked
import Substrate.Proofs.Tree.Stock

/-!
# Substrate.Proofs.Tree.Uprooting

Removal in an arena of any links. What is below a node is what a way down its child links leads to
(`Carries`), and it is a tree if no two ways lead to one node (`Branching`). Nothing is asked of the
parent links, of the root or of the nodes elsewhere, which need not make up a tree at all.

Only so many keys were issued, so no way down a tree is longer than that (`Branching.length_lt`),
and its links, followed that deep, spell out a shape (`branching_iff_exists_spells`). This is what
the loop of removal takes off, and there is no other way for it to end (`Clears.unique`).

The main result is `exists_uproots_of_branching`.
-/

namespace Substrate

variable {S : Type → Type} [SlotMap S] {α : Type}

/-! ## Ways down -/

namespace LinkedTree

/-- Where the child links on these sides lead down from the node under a key, if there is a node
under it and at each step. -/
def descend (nodes : Arena S (Node α)) (key : Option Key) : List Side → Option Key
  | [] => key.filter nodes.contains
  | side :: sides => descend nodes ((key.bind nodes.get?).bind (·.child side)) sides

/-- Some way leads from the node `k` down to the node `j`. -/
def Carries (nodes : Arena S (Node α)) (k j : Key) : Prop :=
  ∃ sides, descend nodes (some k) sides = some j

/-- The nodes below the node `k` make up a tree: one way only leads down to each of them. -/
def Branching (nodes : Arena S (Node α)) (k : Key) : Prop :=
  ∀ j sides sides', descend nodes (some k) sides = some j →
    descend nodes (some k) sides' = some j → sides = sides'

/-- No node outside of what is below the node `k` has a child there. -/
def Detached (nodes : Arena S (Node α)) (k : Key) : Prop :=
  ∀ j node side c, nodes.get? j = some node → node.child side = some c → Carries nodes k c →
    Carries nodes k j

variable {nodes : Arena S (Node α)} {key : Option Key} {j k : Key} {node : Node α}
  {sides : List Side}

@[simp] theorem descend_none (nodes : Arena S (Node α)) (sides : List Side) :
    descend nodes none sides = none := by
  induction sides with
  | nil => rfl
  | cons side sides ih => exact ih

theorem descend_nil (found : nodes.get? k = some node) : descend nodes (some k) [] = some k := by
  simp [descend, Arena.contains, found]

/-- A way down goes on from the child on its first side. -/
theorem descend_cons (found : nodes.get? k = some node) (side : Side) (sides : List Side) :
    descend nodes (some k) (side :: sides) = descend nodes (node.child side) sides := by
  simp [descend, found]

/-- A way down starts at a node. -/
theorem exists_get?_of_descend (way : descend nodes key sides = some j) :
    ∃ k node, key = some k ∧ nodes.get? k = some node := by
  cases key with
  | none => simp at way
  | some k =>
    cases found : nodes.get? k with
    | some node => exact ⟨k, node, rfl, found⟩
    | none =>
      cases sides with
      | nil => simp [descend, Arena.contains, Option.filter, found] at way
      | cons side sides => simp [descend, found] at way

/-- Each part of a way down leads to a node. -/
theorem exists_descend_take (way : descend nodes key sides = some j) (n : Nat) :
    ∃ i, (∃ node, nodes.get? i = some node) ∧ descend nodes key (sides.take n) = some i := by
  induction sides generalizing key n with
  | nil =>
    obtain ⟨k, node, rfl, found⟩ := exists_get?_of_descend way
    rw [List.take_nil]
    exact ⟨k, ⟨node, found⟩, descend_nil found⟩
  | cons side sides ih =>
    obtain ⟨k, node, rfl, found⟩ := exists_get?_of_descend way
    rw [descend_cons found] at way
    cases n with
    | zero => exact ⟨k, ⟨node, found⟩, descend_nil found⟩
    | succ n =>
      rw [List.take_succ_cons, descend_cons found]
      exact ih way n

/-! ## Trees -/

/-- A way down a tree is shorter than there are nodes, as its parts lead to different ones. -/
theorem Branching.length_lt (h : Branching nodes k) (way : descend nodes (some k) sides = some j) :
    sides.length < nodes.size := by
  choose visit held part using exists_descend_take way
  have nodup : ((List.range (sides.length + 1)).map visit).Nodup := by
    refine List.nodup_range.map_on fun m inM n inN same => ?_
    have parts : sides.take m = sides.take n := h _ _ _ (part m) (same ▸ part n)
    have lengths := congrArg List.length parts
    rw [List.mem_range] at inM inN
    rw [List.length_take, List.length_take] at lengths
    omega
  have count := Arena.length_le_size nodup fun k mem => by
    obtain ⟨n, -, rfl⟩ := List.mem_map.1 mem
    exact held n
  rwa [List.length_map, List.length_range] at count

/-- Links that are followed deep enough spell out a shape. -/
theorem spells_spell {depth : Nat}
    (deep : ∀ sides j, descend nodes key sides = some j → sides.length < depth) :
    Spells nodes key (spell nodes depth key) := by
  induction depth generalizing key with
  | zero =>
    rintro k rfl
    refine Option.eq_none_iff_forall_ne_some.2 fun node found => ?_
    exact absurd (deep [] k (descend_nil found)) (Nat.not_lt_zero _)
  | succ depth ih =>
    cases key with
    | none => exact spells_none nodes
    | some k =>
      rw [spell]
      cases found : nodes.get? k with
      | none =>
        rintro _ ⟨rfl⟩
        exact found
      | some node =>
        have below : ∀ side,
            Spells nodes (node.child side) (spell nodes depth (node.child side)) := by
          -- A way down from a child is one step shorter than the one from here.
          refine fun side => ih fun sides j way => ?_
          rw [← descend_cons found] at way
          exact Nat.lt_of_succ_lt_succ (deep _ j way)
        exact ⟨rfl, node, found, rfl, below .left, below .right⟩

end LinkedTree

open LinkedTree

/-- Ways down the links lead where they lead in the shape. -/
theorem Spells.descend_eq {nodes : Arena S (Node α)} {key : Option Key} {s : Shape (Key × α)}
    (spells : Spells nodes key s) (sides : List Side) :
    descend nodes key sides = s.keyAt? sides := by
  induction sides generalizing key s with
  | nil =>
    cases s with
    | nil =>
      cases key with
      | none => rfl
      | some k => simp [descend, Arena.contains, spells k rfl]
    | node x l r =>
      obtain ⟨rfl, node, found, -⟩ := spells
      exact descend_nil found
  | cons side sides ih =>
    cases s with
    | nil =>
      cases key with
      | none => simp
      | some k => simp [descend, spells k rfl]
    | node x l r =>
      obtain ⟨rfl, node, found, -, left, right⟩ := spells
      rw [descend_cons found, Shape.keyAt?_cons]
      cases side with
      | left => exact ih left
      | right => exact ih right

namespace LinkedTree

variable {nodes : Arena S (Node α)} {k : Key}

/-- What is below a node makes up a tree exactly if its links spell out a shape without a node
twice. -/
theorem branching_iff_exists_spells :
    Branching nodes k ↔ ∃ s : Shape (Key × α), Spells nodes (some k) s ∧ s.keys.Nodup := by
  constructor
  · intro tree
    have spells := spells_spell fun sides j way => tree.length_lt way
    refine ⟨_, spells, Shape.nodup_keys_of_keyAt? fun j sides sides' => ?_⟩
    rw [← spells.descend_eq, ← spells.descend_eq]
    exact tree j sides sides'
  · rintro ⟨s, spells, nodup⟩ j sides sides'
    rw [spells.descend_eq, spells.descend_eq]
    exact Shape.eq_of_keyAt? nodup

/-! ## Removal of trees -/

/-- The loop of removal ends in one way at most. -/
theorem Clears.unique {t t₁ t₂ : LinkedTree S α} {pending : List Key}
    {removed₁ removed₂ : List (Key × α)} (first : Clears t pending removed₁ t₁)
    (second : Clears t pending removed₂ t₂) : removed₁ = removed₂ ∧ t₁ = t₂ := by
  induction first generalizing removed₂ with
  | done t =>
    cases second
    exact ⟨rfl, rfl⟩
  | absent missing later ih =>
    cases second with
    | absent missing' later' => exact ih later'
    | found here later' => simp [missing] at here
  | found here later ih =>
    cases second with
    | absent missing later' => simp [missing] at here
    | found here' later' =>
      rw [here] at here'
      cases here'
      obtain ⟨rfl, rfl⟩ := ih later'
      exact ⟨rfl, rfl⟩

/-- The outcome `o` of removing the node `k` with all that is below it, the tree `s`. -/
structure Uproots (t : LinkedTree S α) (k : Key) (o : Outcome (LinkedTree S α) Unit α)
    (s : Shape (Key × α)) : Prop where
  /-- The child links from `k` down spell out `s`. -/
  spells : Spells t.nodes (some k) s
  /-- Each way down them leads to the node that stands there in `s`. -/
  position : ∀ sides, descend t.nodes (some k) sides = s.keyAt? sides
  /-- The loop ends. It removes a node, then its right subtree, then its left one. -/
  ends : Clears t [k] s.fromRight o.state
  /-- It does not end in another way. -/
  only : ∀ removed t', Clears t [k] removed t' → removed = s.fromRight ∧ t' = o.state
  /-- The node and those below it are removed, each of them once. -/
  removed_iff : ∀ j, j ∈ s.fromRight.map Prod.fst ↔ Carries t.nodes k j
  once : (s.fromRight.map Prod.fst).Nodup
  gone : ∀ j, Carries t.nodes k j → o.state.nodes.get? j = none
  /-- Every other node is as it was. -/
  kept : ∀ j, ¬ Carries t.nodes k j → o.state.nodes.get? j = t.nodes.get? j
  rootKey : o.state.rootKey = t.rootKey
  id : o.state.id = t.id
  issued : ∀ j, o.state.nodes.Issued j ↔ t.nodes.Issued j
  size : o.state.size + s.size = t.size
  /-- The payloads come to their end in the order in which their nodes are removed. -/
  destroyed : o.destroyed = s.fromRight.map Prod.snd
  /-- If no other node had a child among the removed ones, no node that stays has one. -/
  unlinked : Detached t.nodes k → ∀ j node side c, o.state.nodes.get? j = some node →
    node.child side = some c → ¬ Carries t.nodes k c

/-- Where the child links spell out a shape without repetition, removal does all that `Uproots`
says. -/
theorem uproots_of_spells {t : LinkedTree S α} {s : Shape (Key × α)}
    (spells : Spells t.nodes (some k) s) (nodup : s.keys.Nodup) :
    t.Uproots k (t.destroy k) s := by
  have loop := clears_of_spells spells nodup
  have balance := stock_destroy t k
  rw [destroy_eq_of_spells spells nodup] at balance ⊢
  have carries : ∀ j, j ∈ s.fromRight.map Prod.fst ↔ Carries t.nodes k j := by
    intro j
    rw [Shape.mem_fromRight, Shape.mem_keys_iff_exists_keyAt?]
    simp only [← spells.descend_eq, Carries]
  have gone : ∀ j, Carries t.nodes k j →
      (t.nodes.removeAll (s.fromRight.map Prod.fst)).get? j = none := by
    intro j below
    rw [Arena.get?_removeAll, if_pos ((carries j).2 below)]
  have kept : ∀ j, ¬ Carries t.nodes k j →
      (t.nodes.removeAll (s.fromRight.map Prod.fst)).get? j = t.nodes.get? j := by
    intro j outside
    rw [Arena.get?_removeAll, if_neg (mt (carries j).1 outside)]
  constructor
  case spells => exact spells
  case position => exact spells.descend_eq
  case ends => exact loop
  case only =>
    intro removed t' loop'
    exact loop'.unique loop
  case removed_iff => exact carries
  case once => exact (s.fromRight_perm.map Prod.fst).nodup_iff.2 nodup
  case gone => exact gone
  case kept => exact kept
  case rootKey => rfl
  case id => rfl
  case issued => exact Arena.issued_removeAll _ _
  case size =>
    have count := congrArg Multiset.card balance
    rw [Multiset.card_add, ← size_eq_card_stock, ← size_eq_card_stock, Multiset.coe_card,
      List.length_map, s.fromRight_perm.length_eq, s.length_preorder] at count
    exact count
  case destroyed => rfl
  case unlinked =>
    intro detached j node side c held link below
    by_cases inside : Carries t.nodes k j
    · cases (gone j inside).symm.trans held
    · exact inside (detached j node side c ((kept j inside).symm.trans held) link below)

/-- What is below a node goes with it if it makes up a tree, and nothing else does, whatever the
other links are. -/
theorem exists_uproots_of_branching (t : LinkedTree S α) {k : Key} (tree : Branching t.nodes k) :
    ∃ s, t.Uproots k (t.destroy k) s := by
  obtain ⟨s, spells, nodup⟩ := branching_iff_exists_spells.1 tree
  exact ⟨s, uproots_of_spells spells nodup⟩

/-- A node in whose place another one hangs goes with three nodes below it. -/
theorem exists_uproots_of_replaced_node :
    let t : LinkedTree Cells Nat :=
      ⟨⟨⟨#[some ⟨none, none, some 5, 7⟩, some ⟨some 0, some 2, some 3, 8⟩,
        some ⟨some 1, none, some 4, 9⟩, some ⟨some 1, none, none, 10⟩,
        some ⟨some 2, none, none, 11⟩, some ⟨some 0, none, none, 12⟩]⟩⟩, some 0, 1⟩
    Branching t.nodes 1 ∧ Detached t.nodes 1 ∧
      t.destroy 1 = ⟨(), ⟨⟨⟨#[some ⟨none, none, some 5, 7⟩, none, none, none, none,
        some ⟨some 0, none, none, 12⟩]⟩⟩, some 0, 1⟩, [8, 10, 9, 11]⟩ ∧
      ∃ s, t.Uproots 1 (t.destroy 1) s := by
  intro t
  let s : Shape (Key × Nat) :=
    .node (1, 8) (.node (2, 9) .nil (.node (4, 11) .nil .nil)) (.node (3, 10) .nil .nil)
  have hangs : Hangs t.nodes (some 0) s :=
    ⟨rfl, ⟨rfl, trivial, rfl, trivial, trivial⟩, rfl, trivial, trivial⟩
  have spells : Spells t.nodes (some 1) s := spells_of_hangs hangs
  have nodup : s.keys.Nodup := by decide
  have tree : Branching t.nodes 1 := branching_iff_exists_spells.2 ⟨s, spells, nodup⟩
  have carries := (uproots_of_spells spells nodup).removed_iff
  refine ⟨tree, ?_, destroy_eq_of_spells spells nodup, exists_uproots_of_branching t tree⟩
  intro j node side c found link below
  rw [← carries] at below ⊢
  match j with
  | 1 | 2 | 3 | 4 => decide
  | 0 =>
    cases found
    cases side with
    | left => cases link
    | right =>
      cases link
      exact absurd below (by decide)
  | 5 => cases found; cases side <;> cases link
  | j + 6 => cases found

end LinkedTree

end Substrate
