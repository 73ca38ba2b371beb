import Substrate.Collector.Staging
import Substrate.Expr.Eval

/-!
# Substrate.Session.Build

The expression `(a - b) * (a + b)` as a tree. Its four leaves are staged in a pool of terms until
the tree holds copies of them; then they are retired. Folding replaces one operand of a copy of a
tree by a number.
-/

namespace Substrate

/-- A number with a tag takes two words of eight bytes. -/
def Term.layout : Layout := ⟨16, 8⟩

namespace Session

/-! ## Trees of terms -/

/-- What growing a tree comes to. When a node is refused, the tree has the nodes before it. -/
abbrev Growth (ρ : Type) := Outcome (LinkedTree Cells Term) (Except TreeError ρ) Term

/-- Hangs the first two leaves below an operator; the rest of the leaves stays. -/
def hangPair (t : LinkedTree Cells Term) (parent : Handle) : List Term → Growth (List Term)
  | left :: right :: rest =>
    (t.insert (.below .left .left) parent left).andThen fun _ t =>
    (t.insert (.below .right .right) parent right).andThen fun _ t => .keeping (.ok rest) t
  | rest => .keeping (.ok rest) t

/-- Grows a product of a difference and a sum over the given leaves. -/
def assemble (id : TreeId) (leaves : List Term) : Growth Unit :=
  let t := LinkedTree.empty Term id
  (t.insert (.above .left) t.root (.operator .mul)).andThen fun mul t =>
  (t.insert (.below .left .left) mul (.operator .sub)).andThen fun sub t =>
  (t.insert (.below .right .right) mul (.operator .add)).andThen fun add t =>
  (hangPair t sub leaves).andThen fun rest t =>
  (hangPair t add rest).andThen fun _ t => .keeping (.ok ()) t

/-- A tree of one number. -/
def single (id : TreeId) (n : Int) : Except TreeError (LinkedTree Cells Term) := do
  let t := LinkedTree.empty Term id
  let o := t.insert (.above .left) t.root (.number n)
  let _ ← o.reply
  return o.state

/-- A copy of a tree, in which the child on one side of the root is replaced by a number. The copy
gets the number `id`, the tree that is merged into it the number after. -/
def fold (t : LinkedTree Cells Term) (id : TreeId) (side : Side) (n : Int) :
    Except TreeError (LinkedTree Cells Term) := do
  let copy := t.clone id
  let operand ← copy.child side copy.root
  let value ← single (id + 1) n
  let o := copy.merge operand value
  let _ ← o.reply
  return o.state

/-! ## Building from staged leaves -/

variable {β : Type} [Backing β]

/-- Ends a construction with a result: the collector goes out of use. -/
def finish {ρ : Type} (reply : ρ) (s : Staging Term β) (destroyed : List Term) :
    Outcome (Pool Term β) ρ Term :=
  let abandoned := s.abandon
  ⟨reply, abandoned.state, destroyed ++ abandoned.destroyed⟩

/-- Builds `(a - b) * (a + b)` as tree number `id`, with the leaves staged in the pool. -/
def build (pool : Pool Term β) (id : TreeId) (a b : Int) :
    Outcome (Pool Term β) (Except Failure (LinkedTree Cells Term)) Term :=
  let staged := (Staging.start pool).stage [.number a, .number b, .number a, .number b]
  match staged.reply with
  | .error e => finish (.error e) staged.state staged.destroyed
  | .ok slots =>
    let assembled := assemble id (slots.filterMap staged.state.pool.read)
    let tree := assembled.state
    let destroyed := staged.destroyed ++ assembled.destroyed
    match assembled.reply with
    | .error e => finish (.error (.tree e)) staged.state (destroyed ++ tree.clear.destroyed)
    | .ok _ =>
      let retired := staged.state.retire slots
      let destroyed := destroyed ++ retired.destroyed
      match retired.reply with
      | .error e => finish (.error e) retired.state (destroyed ++ tree.clear.destroyed)
      | .ok _ => finish (.ok tree) retired.state destroyed

end Session

end Substrate
