import Substrate.Outcome
import Substrate.Tree.Basic

/-!
# Substrate.Tree.Edit

Edits at a handle. A new node is spliced in above a node, taking its place, or below it, taking a
child's place; what was there hangs below the new node on the side it is told to keep. A subtree
is erased, or a node is removed and one of its children promoted into its place.

Every edit resolves its handle before it changes anything, so a failing edit changes nothing.
-/

namespace Substrate

/-- Where a node hangs: at the root, or on one side of its parent. -/
inductive Place where
  | root
  | child (parent : Key) (side : Side)
  deriving Repr, DecidableEq

/-- How a new node is spliced in at a handle's node. -/
inductive Splice where
  /-- In its place; it becomes the new node's child on side `keep`. -/
  | above (keep : Side)
  /-- As its child on side `side`; the child that was there becomes the new node's child on side
  `keep`. -/
  | below (side keep : Side)
  deriving Repr, DecidableEq

/-- What a splice has to rewire. -/
inductive Site where
  /-- The new node becomes the root of an empty tree. -/
  | emptyTree
  | above (key : Key) (place : Place) (keep : Side)
  | below (key : Key) (side keep : Side) (displaced : Option Key)
  deriving Repr, DecidableEq

namespace LinkedTree

variable {S : Type → Type} [SlotMap S] {α : Type}

/-! ## Links -/

/-- Where the node under `key` hangs. -/
def placeOf (t : LinkedTree S α) (key : Key) (node : Node α) : Place :=
  match node.parent with
  | none => .root
  | some parent =>
    if (t.nodes.get? parent).bind (·.left) = some key then .child parent .left
    else .child parent .right

/-- Sets a node's parent link. -/
def setParent (t : LinkedTree S α) (key : Key) (parent : Option Key) : LinkedTree S α :=
  { t with nodes := t.nodes.modify key fun node => { node with parent } }

/-- Links a node, if any, to a side of a parent, in both directions. -/
def setChild (t : LinkedTree S α) (parent : Key) (side : Side) (child : Option Key) :
    LinkedTree S α :=
  let linked := { t with nodes := t.nodes.modify parent fun node => node.setChild side child }
  match child with
  | none => linked
  | some key => linked.setParent key (some parent)

/-- Hangs a subtree, if any, into a place. -/
def setPlace (t : LinkedTree S α) (place : Place) (subtree : Option Key) : LinkedTree S α :=
  match place with
  | .child parent side => t.setChild parent side subtree
  | .root =>
    match subtree with
    | none => { t with rootKey := none }
    | some key => { t with rootKey := some key }.setParent key none

/-- Adds a node that nothing links to yet. Its key is `t.nodes.nextKey`. -/
def addNode (t : LinkedTree S α) (node : Node α) : LinkedTree S α :=
  { t with nodes := t.nodes.insert node }

/-- Removes the nodes under the pending keys and everything below them, from the front: each node
before its right subtree, and that before its left one. `gone` holds the payloads removed before,
the latest first. -/
def destroyAll (t : LinkedTree S α) (pending : List Key) (gone : List α) :
    Outcome (LinkedTree S α) Unit α :=
  match pending with
  | [] => ⟨(), t, gone.reverse⟩
  | key :: rest =>
    match h : t.nodes.get? key with
    | none => t.destroyAll rest gone
    | some node =>
      have := Arena.size_remove_lt h
      { t with nodes := t.nodes.remove key }.destroyAll
        (node.right.toList ++ node.left.toList ++ rest) (node.data :: gone)
termination_by (t.nodes.size, pending.length)

/-- Removes the node under `key` and everything below it. Nothing may link to it any more. -/
def destroy (t : LinkedTree S α) (key : Key) : Outcome (LinkedTree S α) Unit α :=
  t.destroyAll [key] []

/-- Removes all nodes. -/
def clear (t : LinkedTree S α) : Outcome (LinkedTree S α) Unit α :=
  ⟨(), { t with nodes := t.nodes.clear, rootKey := none }, t.nodes.values.map (·.data)⟩

/-! ## Splicing in -/

/-- What a splice at a handle has to rewire. A splice above no node makes the root of an empty
tree. -/
def site (t : LinkedTree S α) (splice : Splice) (h : Handle) : Except TreeError Site :=
  match splice with
  | .above keep =>
    if !h.isUsable && t.isEmpty then .ok .emptyTree
    else do
      let (key, node) ← t.resolve h
      return .above key (t.placeOf key node) keep
  | .below side keep => do
    let (key, node) ← t.resolve h
    return .below key side keep (node.child side)

/-- Adds a node of payload `v` at a site. Its key is `t.nodes.nextKey`. -/
def put (t : LinkedTree S α) (site : Site) (v : α) : LinkedTree S α :=
  let key := t.nodes.nextKey
  match site with
  | .emptyTree => { t.addNode ⟨none, none, none, v⟩ with rootKey := some key }
  | .above it place keep =>
    ((t.addNode ⟨none, none, none, v⟩).setPlace place (some key)).setChild key keep (some it)
  | .below it side keep displaced =>
    ((t.addNode ⟨some it, none, none, v⟩).setChild key keep displaced).setChild it side (some key)

/-- The handle of the node that the next `put` adds. -/
def nextHandle (t : LinkedTree S α) : Handle := t.handle (some t.nodes.nextKey)

/-- Splices in a node of payload `v`: the new node's handle. A handle that is not accepted costs
the payload. -/
def insert (t : LinkedTree S α) (splice : Splice) (h : Handle) (v : α) :
    Outcome (LinkedTree S α) (Except TreeError Handle) α :=
  match t.site splice h with
  | .error e => ⟨.error e, t, [v]⟩
  | .ok site => .keeping (.ok t.nextHandle) (t.put site v)

/-- Splices in a node of the payload that `make` yields. `make` runs only when the handle is
accepted. -/
def emplace {m : Type → Type} [Monad m] (t : LinkedTree S α) (splice : Splice) (h : Handle)
    (make : m α) : m (Outcome (LinkedTree S α) (Except TreeError Handle) α) :=
  match t.site splice h with
  | .error e => pure (.keeping (.error e) t)
  | .ok site => do
    let v ← make
    return .keeping (.ok t.nextHandle) (t.put site v)

/-- One node of a chain: how it is spliced in, its payload, and whether the payload is handed over
or made by a constructor. -/
structure Link (α : Type) where
  splice : Splice
  payload : α
  isMade : Bool
  deriving Repr, DecidableEq

/-- Splices in one node of a chain. -/
def insertLink (t : LinkedTree S α) (h : Handle) (link : Link α) :
    Outcome (LinkedTree S α) (Except TreeError Handle) α :=
  if link.isMade then Id.run (t.emplace link.splice h (pure link.payload))
  else t.insert link.splice h link.payload

/-- Splices in nodes one after another, the first at `h` and each further one at the node before,
up to the first refusal: the last node's handle. -/
def insertChain (t : LinkedTree S α) (h : Handle) :
    List (Link α) → Outcome (LinkedTree S α) (Except TreeError Handle) α
  | [] => .keeping (.ok h) t
  | link :: rest =>
    let o := t.insertLink h link
    match o.reply with
    | .error _ => o
    | .ok next => o.state.insertChain next rest

/-! ## Changing and removing -/

/-- Puts another payload into a node and destroys the old one. -/
def setData (t : LinkedTree S α) (h : Handle) (v : α) :
    Outcome (LinkedTree S α) (Except TreeError Unit) α :=
  match t.resolve h with
  | .error e => .keeping (.error e) t
  | .ok (key, node) =>
    ⟨.ok (), { t with nodes := t.nodes.modify key fun node => { node with data := v } },
      [node.data]⟩

/-- Removes a node and everything below it: the handle of its former parent. Erasing the root
empties the tree. -/
def erase (t : LinkedTree S α) (h : Handle) :
    Outcome (LinkedTree S α) (Except TreeError Handle) α :=
  match t.resolve h with
  | .error e => .keeping (.error e) t
  | .ok (key, node) =>
    match t.placeOf key node with
    | .root => t.clear.withReply (.ok (t.handle none))
    | .child parent side =>
      ((t.setChild parent side none).destroy key).withReply (.ok (t.handle (some parent)))

/-- Removes everything below one side of a node: the node's handle. -/
def eraseChild (t : LinkedTree S α) (side : Side) (h : Handle) :
    Outcome (LinkedTree S α) (Except TreeError Handle) α :=
  match t.resolve h with
  | .error e => .keeping (.error e) t
  | .ok (key, node) =>
    match node.child side with
    | none => .keeping (.ok (t.handle (some key))) t
    | some child =>
      ((t.setChild key side none).destroy child).withReply (.ok (t.handle (some key)))

/-- Removes a node and promotes its child on one side, if any, into its place: that child's handle.
What hangs on the other side has nowhere to go and is removed with the node. -/
def reserve (t : LinkedTree S α) (side : Side) (h : Handle) :
    Outcome (LinkedTree S α) (Except TreeError Handle) α :=
  match t.resolve h with
  | .error e => .keeping (.error e) t
  | .ok (key, node) =>
    let kept := node.child side
    let place := t.placeOf key node
    let promoted := (t.setChild key side none).setPlace place kept
    (promoted.destroy key).withReply (.ok (t.handle kept))

/-! ## What edits do to the nodes -/

@[simp] theorem nodes_addNode (t : LinkedTree S α) (node : Node α) :
    (t.addNode node).nodes = t.nodes.insert node := rfl

theorem get?_setParent (t : LinkedTree S α) (k : Key) (parent : Option Key) (j : Key) :
    (t.setParent k parent).nodes.get? j =
      if j = k then (t.nodes.get? j).map fun node => { node with parent } else t.nodes.get? j :=
  Arena.get?_modify _ _ _ _

/-- Linking a child changes the parent's link down and the child's link up, and no other node. -/
theorem get?_setChild (t : LinkedTree S α) (p : Key) (side : Side) (child : Option Key) (j : Key) :
    (t.setChild p side child).nodes.get? j =
      (t.nodes.get? j).map fun node =>
        let linked := if j = p then node.setChild side child else node
        if child = some j then { linked with parent := some p } else linked := by
  cases child with
  | none =>
    simp only [setChild, Arena.get?_modify]
    cases t.nodes.get? j <;> by_cases h : j = p <;> simp [h]
  | some c =>
    simp only [setChild, get?_setParent, Arena.get?_modify, Option.some.injEq]
    cases t.nodes.get? j <;> by_cases h : j = p <;> by_cases h' : c = j <;>
      simp_all [eq_comm]

/-! ## What edits leave alone -/

@[simp] theorem id_setParent (t : LinkedTree S α) (k : Key) (p : Option Key) :
    (t.setParent k p).id = t.id := rfl

@[simp] theorem id_setChild (t : LinkedTree S α) (p : Key) (s : Side) (c : Option Key) :
    (t.setChild p s c).id = t.id := by
  cases c <;> rfl

@[simp] theorem id_setPlace (t : LinkedTree S α) (p : Place) (c : Option Key) :
    (t.setPlace p c).id = t.id := by
  cases p <;> cases c <;> rfl

@[simp] theorem id_put (t : LinkedTree S α) (s : Site) (v : α) : (t.put s v).id = t.id := by
  cases s <;> simp [put, addNode]

/-- A failing insertion changes nothing and costs its payload. -/
theorem insert_of_site_error {t : LinkedTree S α} {splice : Splice} {h : Handle} {e : TreeError}
    (refused : t.site splice h = .error e) (v : α) :
    t.insert splice h v = ⟨.error e, t, [v]⟩ := by
  simp [insert, refused]

end LinkedTree

end Substrate
