import Std.Data.TreeMap
import Substrate.Tree.Copy

/-!
# Substrate.Tree.Forest

Any number of trees under register numbers, edited one command at a time. The forest hands out the
tree numbers: every tree made gets the next one, and a command that fails takes none. A tree that
moves to another register keeps its number, and with it its handles.
-/

namespace Substrate

/-- Trees by register, and the number of the next tree. -/
structure Forest (S : Type → Type) (α : Type) where
  trees : Std.TreeMap Nat (LinkedTree S α) := ∅
  nextId : TreeId := 1

namespace Forest

/-- One command; `ρ` is how it refers to nodes. Registers `t` and `u` differ. -/
inductive Edit (ρ α : Type) where
  /-- Puts a new empty tree into `t`. -/
  | create (t : Nat)
  /-- Takes the tree in `t`, if any, out of use. -/
  | discard (t : Nat)
  /-- Puts a copy of `u` into `t`. -/
  | clone (t u : Nat)
  /-- Puts a copy of a subtree of `u` into `t`. -/
  | subtree (t u : Nat) (h : ρ)
  /-- Moves the tree in `t` to `u` and leaves a new empty tree. -/
  | take (t u : Nat)
  | swap (t u : Nat)
  /-- Replaces the contents of `t` by a copy of `u`. -/
  | assign (t u : Nat)
  /-- Replaces a subtree of `t` by a copy of `u`. -/
  | merge (t : Nat) (h : ρ) (u : Nat)
  | clear (t : Nat)
  | insert (t : Nat) (splice : Splice) (h : ρ) (v : α)
  /-- Inserts the payload that a constructor makes. -/
  | emplace (t : Nat) (splice : Splice) (h : ρ) (v : α)
  | insertChain (t : Nat) (h : ρ) (chain : List (LinkedTree.Link α))
  | erase (t : Nat) (h : ρ)
  | eraseChild (t : Nat) (side : Side) (h : ρ)
  | reserve (t : Nat) (side : Side) (h : ρ)
  | setData (t : Nat) (h : ρ) (v : α)
  deriving Repr, DecidableEq

/-- What a command answers. -/
inductive Reply where
  | done
  | failed (error : TreeError)
  | handle (h : Handle)
  /-- Whether the constructor ran, and the new node's handle or the refusal. -/
  | built (ran : Bool) (result : Except TreeError Handle)
  /-- A register that the command needs holds no tree. -/
  | noTree

namespace Edit

variable {ρ σ α : Type}

/-- The command under another way to refer to nodes. -/
def map (f : ρ → σ) : Edit ρ α → Edit σ α
  | create t => create t
  | discard t => discard t
  | clone t u => clone t u
  | subtree t u h => subtree t u (f h)
  | take t u => take t u
  | swap t u => swap t u
  | assign t u => assign t u
  | merge t h u => merge t (f h) u
  | clear t => clear t
  | insert t splice h v => insert t splice (f h) v
  | emplace t splice h v => emplace t splice (f h) v
  | insertChain t h chain => insertChain t (f h) chain
  | erase t h => erase t (f h)
  | eraseChild t side h => eraseChild t side (f h)
  | reserve t side h => reserve t side (f h)
  | setData t h v => setData t (f h) v

/-- The register whose tree a command is about. -/
def register : Edit ρ α → Nat
  | create t | discard t | clear t => t
  | clone t _ | subtree t _ _ | take t _ | swap t _ | assign t _ | merge t _ _ => t
  | insert t _ _ _ | emplace t _ _ _ | insertChain t _ _ | setData t _ _ => t
  | erase t _ | eraseChild t _ _ | reserve t _ _ => t

end Edit

variable {S : Type → Type} [SlotMap S] {α : Type}

/-- The outcome of one command. -/
abbrev Result (S : Type → Type) (α : Type) := Outcome (Forest S α) Reply α

namespace Reply

/-- The reply of an operation that yields a handle. -/
def ofHandle : Except TreeError Handle → Reply
  | .ok h => handle h
  | .error e => failed e

/-- The reply of an operation that only succeeds or fails. -/
def ofUnit : Except TreeError Unit → Reply
  | .ok _ => done
  | .error e => failed e

end Reply

/-- The payloads that a tree destroys when it goes out of use. -/
def payloadsOf (tree : Option (LinkedTree S α)) : List α :=
  match tree with
  | none => []
  | some tree => tree.clear.destroyed

/-- Puts a tree into a register; the tree that was there goes out of use. -/
def put (f : Forest S α) (t : Nat) (tree : LinkedTree S α) : Outcome (Forest S α) Unit α :=
  ⟨(), { f with trees := f.trees.insert t tree }, payloadsOf f.trees[t]?⟩

/-- Puts a new tree into a register, made under the next number. -/
def putNew (f : Forest S α) (t : Nat) (tree : TreeId → LinkedTree S α) : Result S α :=
  ({ f with nextId := f.nextId + 1 }.put t (tree f.nextId)).withReply .done

/-- A command on a register without a tree. -/
def missing (f : Forest S α) : Result S α := .keeping .noTree f

/-- Runs an operation on the tree in a register. -/
def onTree {ρ : Type} (f : Forest S α) (t : Nat) (ofReply : ρ → Reply)
    (operation : LinkedTree S α → Outcome (LinkedTree S α) ρ α) : Result S α :=
  match f.trees[t]? with
  | none => f.missing
  | some tree =>
    let o := operation tree
    ⟨ofReply o.reply, { f with trees := f.trees.insert t o.state }, o.destroyed⟩

/-- Runs an operation on the tree in `t`, with the tree in `u` at hand. -/
def onTrees {ρ : Type} (f : Forest S α) (t u : Nat) (ofReply : ρ → Reply)
    (operation : LinkedTree S α → LinkedTree S α → Outcome (LinkedTree S α) ρ α) : Result S α :=
  match f.trees[u]? with
  | none => f.missing
  | some other => f.onTree t ofReply fun tree => operation tree other

/-- Inserts what a constructor makes and watches whether the constructor runs. -/
def emplaceWatched (tree : LinkedTree S α) (splice : Splice) (h : Handle) (v : α) :
    Outcome (LinkedTree S α) Reply α :=
  let (o, ran) :=
    (tree.emplace splice h (do set true; pure v : StateM Bool α)).run false
  o.withReply (.built ran o.reply)

/-- Runs one command. -/
def step (f : Forest S α) : Edit Handle α → Result S α
  | .create t => f.putNew t (.empty α)
  | .discard t => ⟨.done, { f with trees := f.trees.erase t }, payloadsOf f.trees[t]?⟩
  | .clone t u =>
    match f.trees[u]? with
    | none => f.missing
    | some other => f.putNew t other.clone
  | .subtree t u h =>
    match f.trees[u]? with
    | none => f.missing
    | some other =>
      match other.subtree h f.nextId with
      | .error e => .keeping (.failed e) f
      | .ok tree => f.putNew t fun _ => tree
  | .take t u =>
    match f.trees[t]? with
    | none => f.missing
    | some tree =>
      let moved := f.put u tree
      let fresh := { moved.state with
        trees := moved.state.trees.insert t (.empty α moved.state.nextId)
        nextId := moved.state.nextId + 1 }
      ⟨.done, fresh, moved.destroyed⟩
  | .swap t u =>
    match f.trees[t]?, f.trees[u]? with
    | some tree, some other =>
      .keeping .done { f with trees := (f.trees.insert t other).insert u tree }
    | _, _ => f.missing
  | .assign t u => f.onTrees t u (fun _ => .done) LinkedTree.assign
  | .merge t h u => f.onTrees t u .ofHandle fun tree other => tree.merge h other
  | .clear t => f.onTree t (fun _ => .done) LinkedTree.clear
  | .insert t splice h v => f.onTree t .ofHandle fun tree => tree.insert splice h v
  | .emplace t splice h v => f.onTree t id fun tree => emplaceWatched tree splice h v
  | .insertChain t h chain => f.onTree t .ofHandle fun tree => tree.insertChain h chain
  | .erase t h => f.onTree t .ofHandle fun tree => tree.erase h
  | .eraseChild t side h => f.onTree t .ofHandle fun tree => tree.eraseChild side h
  | .reserve t side h => f.onTree t .ofHandle fun tree => tree.reserve side h
  | .setData t h v => f.onTree t .ofUnit fun tree => tree.setData h v

/-- The payloads destroyed when all trees go out of use, by ascending register. -/
def payloads (f : Forest S α) : List α :=
  f.trees.toList.flatMap fun (_, tree) => payloadsOf (some tree)

end Forest

end Substrate
