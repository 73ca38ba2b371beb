import Substrate.Tree.Edit

/-!
# Substrate.Tree.Copy

Deep copies: of a whole tree, of a subtree into a new tree, and of a tree into the place of a
subtree. A copy consists of new nodes only, so no handle into its source resolves in it.

Copying works through a list of pairs of a node and its copy, whose children are still missing, so
that it needs no deeper recursion for deeper trees.
-/

namespace Substrate

namespace LinkedTree

variable {S : Type → Type} [SlotMap S] {α : Type}

/-- Copies the node that `key`, if any, names in `source` to one side of the node `parent`, and
puts both at the front of the pending pairs. -/
def copyChild (source : Arena S (Node α)) (t : LinkedTree S α) (pending : List (Key × Key))
    (parent : Key) (side : Side) (key : Option Key) : LinkedTree S α × List (Key × Key) :=
  match key with
  | none => (t, pending)
  | some key =>
    match source.get? key with
    | none => (t, pending)
    | some node =>
      let copy := t.nodes.nextKey
      ((t.addNode ⟨none, none, none, node.data⟩).setChild parent side (some copy),
        (key, copy) :: pending)

/-- Copies the children of the pending nodes and all below. A pair is a node of `source` and its
copy in `t`; every node of `source` is pending once at most, which bounds the steps. -/
def copyPending (source : Arena S (Node α)) :
    Nat → LinkedTree S α → List (Key × Key) → LinkedTree S α
  | steps + 1, t, (key, copy) :: rest =>
    match source.get? key with
    | none => copyPending source steps t rest
    | some node =>
      let (t, pending) := copyChild source t rest copy .left node.left
      let (t, pending) := copyChild source t pending copy .right node.right
      copyPending source steps t pending
  | 0, t, _ => t
  | _ + 1, t, [] => t

/-- Adds a copy of the subtree at `key` in `source`, which nothing links to yet. Its top node has
the key `t.nodes.nextKey` and names `parent` as its parent. -/
def copySubtree (t : LinkedTree S α) (source : Arena S (Node α)) (parent : Option Key) (key : Key)
    (node : Node α) : LinkedTree S α :=
  let copy := t.nodes.nextKey
  copyPending source source.size (t.addNode ⟨parent, none, none, node.data⟩) [(key, copy)]

/-- Adds a copy of a whole tree, which nothing links to yet: the key of its root, if any. -/
def copyTree (t other : LinkedTree S α) : Option Key × LinkedTree S α :=
  match other.rootKey with
  | none => (none, t)
  | some key =>
    match other.nodes.get? key with
    | none => (none, t)
    | some node => (some t.nodes.nextKey, t.copySubtree other.nodes none key node)

/-- Replaces the contents by a copy of another tree. The tree keeps its number. -/
def assign (t other : LinkedTree S α) : Outcome (LinkedTree S α) Unit α :=
  let cleared := t.clear
  let (root, copied) := cleared.state.copyTree other
  ⟨(), { copied with rootKey := root }, cleared.destroyed⟩

/-- A copy as a new tree of the given number. -/
def clone (t : LinkedTree S α) (id : TreeId) : LinkedTree S α := ((empty α id).assign t).state

/-- A copy of the subtree at a handle, as a new tree of the given number. -/
def subtree (t : LinkedTree S α) (h : Handle) (id : TreeId) :
    Except TreeError (LinkedTree S α) := do
  let (key, node) ← t.resolve h
  let fresh := empty α id
  return { fresh.copySubtree t.nodes none key node with rootKey := some fresh.nodes.nextKey }

/-- Replaces a node and everything below it by a copy of another tree: the handle of the copy's
root. -/
def merge (t : LinkedTree S α) (h : Handle) (other : LinkedTree S α) :
    Outcome (LinkedTree S α) (Except TreeError Handle) α :=
  match t.resolve h with
  | .error e => .keeping (.error e) t
  | .ok (key, node) =>
    let place := t.placeOf key node
    let (graft, grown) := t.copyTree other
    ((grown.setPlace place graft).destroy key).withReply (.ok (t.handle graft))

end LinkedTree

end Substrate
