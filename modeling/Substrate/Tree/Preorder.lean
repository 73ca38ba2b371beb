import Substrate.Text.Rendering
import Substrate.Tree.Basic

/-!
# Substrate.Tree.Preorder

Walks over a whole tree: a node comes before its left subtree, and that before its right one. A
walk keeps a list of pending keys, so that it needs no deeper recursion for deeper trees. It meets
every node once at most, which bounds its steps by the number of nodes.

A `Cursor` is a walk under way, which yields one payload at each call of `next`.
-/

namespace Substrate

variable {S : Type → Type} [SlotMap S] {α : Type}

/-! ## One payload at a time -/

/-- A walk under way: the nodes it reads, and the pending keys, the next one first. -/
structure Cursor (S : Type → Type) (α : Type) where
  nodes : Arena S (Node α)
  pending : List Key

namespace Cursor

/-- The next payload, if there is one, and the walk from there on. A key without a node yields
nothing, as the end does. -/
def next (c : Cursor S α) : Option α × Cursor S α :=
  match c.pending with
  | [] => (none, c)
  | key :: rest =>
    match c.nodes.get? key with
    | none => (none, { c with pending := rest })
    | some node =>
      (some node.data, { c with pending := node.left.toList ++ node.right.toList ++ rest })

/-- The walk after some calls of `next`. -/
def after (c : Cursor S α) : Nat → Cursor S α
  | 0 => c
  | calls + 1 => c.next.2.after calls

/-- What at most `calls` calls of `next` yield, up to the first that yields nothing. -/
def take (c : Cursor S α) : Nat → List α
  | 0 => []
  | calls + 1 =>
    match c.next with
    | (none, _) => []
    | (some v, rest) => v :: rest.take calls

end Cursor

namespace LinkedTree

/-- A walk from the root. -/
def cursor (t : LinkedTree S α) : Cursor S α := ⟨t.nodes, t.rootKey.toList⟩

/-! ## The whole walk -/

/-- Walks from the pending keys; `seen` holds the nodes met before, the latest first. -/
def walkNodes (nodes : Arena S (Node α)) :
    Nat → List Key → List (Key × Node α) → List (Key × Node α)
  | steps + 1, key :: rest, seen =>
    match nodes.get? key with
    | none => seen.reverse
    | some node =>
      walkNodes nodes steps (node.left.toList ++ node.right.toList ++ rest) ((key, node) :: seen)
  | 0, _, seen => seen.reverse
  | _ + 1, [], seen => seen.reverse

/-- The nodes with their keys, in pre-order. -/
def preorder (t : LinkedTree S α) : List (Key × Node α) :=
  walkNodes t.nodes t.size t.rootKey.toList []

/-- The payloads in pre-order. -/
def toList (t : LinkedTree S α) : List α := t.preorder.map (·.2.data)

/-- Walks from the pending links and marks the absent ones; `seen` holds what was met before, the
latest first. -/
def walkLinks (nodes : Arena S (Node α)) :
    Nat → List (Option Key) → List (Option α) → List (Option α)
  | steps + 1, link :: rest, seen =>
    match link.bind nodes.get? with
    | none => walkLinks nodes steps rest (none :: seen)
    | some node =>
      walkLinks nodes steps (node.left :: node.right :: rest) (some node.data :: seen)
  | 0, _, seen => seen.reverse
  | _ + 1, [], seen => seen.reverse

/-- The payloads in pre-order, with a mark for every absent child. A tree of `n` nodes has `n + 1`
absent children; the empty tree counts as one. -/
def outline (t : LinkedTree S α) : List (Option α) :=
  walkLinks t.nodes (2 * t.size + 1) [t.rootKey] []

/-- A node's payload, its parent's payload, and whether it is the root. -/
structure Row (α : Type) where
  data : α
  parent : Option α
  isRoot : Bool
  deriving Repr, DecidableEq

/-- The rows of all nodes in pre-order. -/
def rows (t : LinkedTree S α) : List (Row α) :=
  t.preorder.map fun (key, node) =>
    ⟨node.data, (node.parent.bind t.nodes.get?).map (·.data), t.rootKey == some key⟩

/-- The number of the tree, and its payloads in pre-order. -/
def rendering (ofData : α → Text.Rendering) (t : LinkedTree S α) : Text.Rendering :=
  .record "LinkedBinaryTree"
    [("id", .atom (toString t.id)), ("preorder", .list (t.toList.map ofData))]

end LinkedTree

end Substrate
