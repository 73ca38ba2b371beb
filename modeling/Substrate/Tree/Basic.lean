import Substrate.Tree.Arena
import Substrate.Tree.Error

/-!
# Substrate.Tree.Basic

Binary trees whose nodes are linked by keys: each node names its parent and its two children, and
the tree names its root. The caller shapes the tree and refers to nodes by handles.

A handle is a plain value that carries a key and the number of the tree that issued it. `resolve`
is the one place where handles are checked, in this order: a handle that denotes no node, a handle
of another tree, a handle whose node is gone.
-/

namespace Substrate

/-- The left or the right child of a node. -/
inductive Side where
  | left
  | right
  deriving Repr, DecidableEq

/-- The other child. -/
def Side.opposite : Side → Side
  | left => right
  | right => left

/-- A payload with its links. -/
structure Node (α : Type) where
  parent : Option Key
  left : Option Key := none
  right : Option Key := none
  data : α
  deriving Repr, DecidableEq

namespace Node

variable {α : Type}

/-- The child on one side. -/
def child (n : Node α) : Side → Option Key
  | .left => n.left
  | .right => n.right

/-- The node with another child on one side. -/
def setChild (n : Node α) (side : Side) (child : Option Key) : Node α :=
  match side with
  | .left => { n with left := child }
  | .right => { n with right := child }

@[simp] theorem child_setChild_self (n : Node α) (s : Side) (c : Option Key) :
    (n.setChild s c).child s = c := by
  cases s <;> rfl

@[simp] theorem child_setChild_opposite (n : Node α) (s : Side) (c : Option Key) :
    (n.setChild s c).child s.opposite = n.child s.opposite := by
  cases s <;> rfl

@[simp] theorem parent_setChild (n : Node α) (s : Side) (c : Option Key) :
    (n.setChild s c).parent = n.parent := by
  cases s <;> rfl

@[simp] theorem data_setChild (n : Node α) (s : Side) (c : Option Key) :
    (n.setChild s c).data = n.data := by
  cases s <;> rfl

end Node

/-- A reference to a node, or to no node, issued by a tree. -/
structure Handle where
  key : Option Key
  tree : TreeId
  deriving Repr, DecidableEq

namespace Handle

/-- The handle that denotes no node and that no tree issued. -/
def null : Handle := ⟨none, 0⟩

/-- Does the handle denote a node? -/
def isUsable (h : Handle) : Bool := h.key.isSome

end Handle

/-- The nodes, the root among them, and the number of the tree. -/
structure LinkedTree (S : Type → Type) (α : Type) where
  nodes : Arena S (Node α)
  rootKey : Option Key
  id : TreeId

namespace LinkedTree

variable {S : Type → Type} [SlotMap S] {α : Type}

/-- The tree without nodes. -/
def empty (α : Type) (id : TreeId) : LinkedTree S α := ⟨∅, none, id⟩

/-- Has the tree no node? -/
def isEmpty (t : LinkedTree S α) : Bool := t.rootKey.isNone

/-- The number of nodes. -/
def size (t : LinkedTree S α) : Nat := t.nodes.size

/-- This tree's handle for a key. -/
def handle (t : LinkedTree S α) (key : Option Key) : Handle := ⟨key, t.id⟩

/-- The root's handle. It denotes no node if the tree is empty. -/
def root (t : LinkedTree S α) : Handle := t.handle t.rootKey

/-- The node behind a handle, with its key. -/
def resolve (t : LinkedTree S α) (h : Handle) : Except TreeError (Key × Node α) :=
  match h.key with
  | none => .error .nullNode
  | some key =>
    if h.tree = t.id then
      match t.nodes.get? key with
      | none => .error .staleNode
      | some node => .ok (key, node)
    else .error (.foreignNode t.id h.tree)

/-! ## Looking around -/

/-- The payload of a node. -/
def data (t : LinkedTree S α) (h : Handle) : Except TreeError α := do
  let (_, node) ← t.resolve h
  return node.data

/-- The node above. The root has none. -/
def parent (t : LinkedTree S α) (h : Handle) : Except TreeError Handle := do
  let (_, node) ← t.resolve h
  return t.handle node.parent

/-- The node below on one side. -/
def child (t : LinkedTree S α) (side : Side) (h : Handle) : Except TreeError Handle := do
  let (_, node) ← t.resolve h
  return t.handle (node.child side)

/-- Is it the root? -/
def isRoot (t : LinkedTree S α) (h : Handle) : Except TreeError Bool := do
  let (key, _) ← t.resolve h
  return t.rootKey == some key

/-- One step of a walk. -/
inductive Move where
  | down (side : Side)
  | up
  deriving Repr, DecidableEq

/-- Where one step leads. -/
def move (t : LinkedTree S α) (h : Handle) : Move → Except TreeError Handle
  | .down side => t.child side h
  | .up => t.parent h

/-- Where a walk leads. A walk of no step stays at its handle, whatever that is. -/
def walk (t : LinkedTree S α) (h : Handle) : List Move → Except TreeError Handle
  | [] => .ok h
  | m :: ms => do t.walk (← t.move h m) ms

end LinkedTree

end Substrate
