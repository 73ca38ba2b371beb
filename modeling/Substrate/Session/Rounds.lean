import Substrate.Expr.Trial
import Substrate.Session.Build
import Substrate.Tree.Preorder

/-!
# Substrate.Session.Rounds

A session of rounds over one pool of terms. Each round builds `(a - b) * (a + b)`, evaluates it,
folds one operand of a copy into a number and evaluates the copy.
-/

namespace Substrate

namespace Session

/-- The numbers of one round: the operands, the number to fold in, and the side it goes to. -/
structure Round where
  a : Int
  b : Int
  folded : Int
  side : Side
  deriving Repr, DecidableEq

/-- What one round shows. -/
structure RoundReport where
  tree : List Term
  value : EvalReport
  folded : List Term
  again : EvalReport
  pooled : Nat

/-- The pool of a session, and the number of its next tree. -/
structure State where
  pool : Pool Term Rationed
  nextId : TreeId := 1

/-- Evaluates a tree from its root on an empty stack of the default capacity. -/
def evaluate (t : LinkedTree Cells Term) : Progress defaultStackCapacity :=
  t.eval t.root Stack.empty

/-- A new session: a pool of the default capacity over a supply without limit. -/
def State.start : Except Failure State :=
  match Pool.create Term Term.layout defaultPoolCapacity Rationed.endless with
  | .ok pool => .ok { pool }
  | .error (e, _) => .error (.allocation e)

/-- Runs one round. -/
def State.round (s : State) (r : Round) : Except Failure (RoundReport × State) := do
  let built := build s.pool s.nextId r.a r.b
  let tree ← built.reply
  let folded ← (fold tree (s.nextId + 1) r.side r.folded).mapError .tree
  let report := {
    tree := tree.toList
    value := .ofProgress (evaluate tree)
    folded := folded.toList
    again := .ofProgress (evaluate folded)
    pooled := built.state.pooled.length }
  return (report, { pool := built.state, nextId := s.nextId + 3 })

/-- Runs rounds in turn: their reports, and the session after them. -/
def State.rounds (s : State) : List Round → Except Failure (List RoundReport × State)
  | [] => .ok ([], s)
  | r :: rs => do
    let (report, s) ← s.round r
    let (reports, last) ← s.rounds rs
    return (report :: reports, last)

/-- Takes `n` terms from the pool: their slots, and the session after that. -/
def State.hold (s : State) : Nat → Except Failure (List Slot × State)
  | 0 => .ok ([], s)
  | n + 1 => do
    let made := s.pool.alloc (.number n)
    let slot ← made.reply.mapError .allocation
    let (slots, last) ← { s with pool := made.state }.hold n
    return (slot :: slots, last)

/-- Runs a session while `held` terms are taken from its pool: the reports, and how many slots are
pooled when the terms are back. -/
def run (held : Nat) (rs : List Round) : Except Failure (List RoundReport × Nat) := do
  let s ← State.start
  let (slots, s) ← s.hold held
  let (reports, s) ← s.rounds rs
  return (reports, (s.pool.freeAll slots).state.pooled.length)

end Session

end Substrate
