import Substrate.Tree.Copy

/-!
# Substrate.Tree.Shape

Binary trees as plain data, without keys and links. A shape is determined by its outline: its
payloads in pre-order, with a mark for every absent child (`ofOutline_outline`).
-/

namespace Substrate

/-- No node, or a payload over a left and a right shape. -/
inductive Shape (α : Type) where
  | nil
  | node (data : α) (left right : Shape α)
  deriving Repr, DecidableEq

namespace Shape

variable {α : Type}

/-- The number of nodes. -/
def size : Shape α → Nat
  | nil => 0
  | node _ l r => l.size + r.size + 1

/-- Node, left shape, right shape. -/
def preorder : Shape α → List α
  | nil => []
  | node v l r => v :: (l.preorder ++ r.preorder)

/-- Left shape, right shape, node. -/
def postorder : Shape α → List α
  | nil => []
  | node v l r => l.postorder ++ r.postorder ++ [v]

/-- Pre-order with a mark for every absent child. -/
def outline : Shape α → List (Option α)
  | nil => [none]
  | node v l r => some v :: (l.outline ++ r.outline)

/-- Reads one shape off the front of an outline: the shape, and what follows it. Marks that are
missing at the end count as written. -/
def readOutline : (l : List (Option α)) →
    Shape α × { rest : List (Option α) // rest.length ≤ l.length }
  | [] => (nil, ⟨[], Nat.le_refl _⟩)
  | none :: rest => (nil, ⟨rest, Nat.le_succ _⟩)
  | some v :: rest =>
    let (left, ⟨afterLeft, hl⟩) := readOutline rest
    let (right, ⟨afterRight, hr⟩) := readOutline afterLeft
    (node v left right, ⟨afterRight, by simp only [List.length_cons]; omega⟩)
termination_by l => l.length

/-- The shape that an outline describes. -/
def ofOutline (l : List (Option α)) : Shape α := (readOutline l).1

theorem length_preorder (s : Shape α) : s.preorder.length = s.size := by
  induction s with
  | nil => rfl
  | node v l r ihl ihr => simp [preorder, size, ihl, ihr]

theorem length_postorder (s : Shape α) : s.postorder.length = s.size := by
  induction s with
  | nil => rfl
  | node v l r ihl ihr => simp [postorder, size, ihl, ihr, Nat.add_assoc]

theorem readOutline_append (s : Shape α) (rest : List (Option α)) :
    (readOutline (s.outline ++ rest)).1 = s ∧
      (readOutline (s.outline ++ rest)).2.val = rest := by
  induction s generalizing rest with
  | nil => simp [outline, readOutline]
  | node v l r ihl ihr =>
    have hl := ihl (r.outline ++ rest)
    rw [← List.append_assoc] at hl
    simp only [outline, List.cons_append, readOutline, hl.1]
    rw [hl.2]
    exact ⟨congrArg _ (ihr rest).1, (ihr rest).2⟩

/-- An outline describes the shape it was made from. -/
theorem ofOutline_outline (s : Shape α) : ofOutline s.outline = s := by
  have h := (readOutline_append s []).1
  rwa [List.append_nil] at h

end Shape

namespace LinkedTree

variable {S : Type → Type} [SlotMap S] {α : Type}

/-- Builds a shape node by node, its top spliced in at `h`. -/
def plant (t : LinkedTree S α) (splice : Splice) (h : Handle) : Shape α → LinkedTree S α
  | .nil => t
  | .node v l r =>
    let o := t.insert splice h v
    match o.reply with
    | .error _ => t
    | .ok top => (o.state.plant (.below .left .left) top l).plant (.below .right .right) top r

/-- A new tree of the given shape and number. -/
def ofShape (id : TreeId) (s : Shape α) : LinkedTree S α :=
  (empty α id).plant (.above .left) .null s

end LinkedTree

end Substrate
