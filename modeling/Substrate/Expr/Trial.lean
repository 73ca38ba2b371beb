import Substrate.Expr.Eval

/-!
# Substrate.Expr.Trial

Trials of the evaluator: any tree of terms, from any handle, on a stack that already holds values,
several times in a row.
-/

namespace Substrate

/-- What one evaluation shows: whether it failed, the size of the stack afterwards, and the values
at its top. -/
structure EvalReport where
  result : Except Failure Unit
  size : Nat
  top : List Int

/-- How many values a report shows. -/
def EvalReport.shown : Nat := 8

/-- What the state after an evaluation shows. -/
def EvalReport.ofProgress {capacity : Nat} (p : Progress capacity) : EvalReport :=
  ⟨p.1, p.2.size, p.2.toList.take shown⟩

/-- Where an evaluation starts. -/
inductive Trial.Start where
  | root
  /-- At the handle that denotes no node. -/
  | null
  /-- At the root of a copy of the tree. -/
  | foreign
  /-- At the root, after the tree was cleared. -/
  | stale
  | path (sides : List Side)
  deriving Repr, DecidableEq

/-- A tree, where to start, the values on the stack from the base up, and how often to evaluate. -/
structure Trial where
  shape : Shape Term
  start : Trial.Start
  values : List Int
  times : Nat
  deriving Repr, DecidableEq

namespace Trial

/-- The tree to evaluate, and the handle to start at. -/
def setting (trial : Trial) : Except TreeError (LinkedTree Cells Term × Handle) := do
  let tree := LinkedTree.ofShape 1 trial.shape
  match trial.start with
  | .root => return (tree, tree.root)
  | .null => return (tree, .null)
  | .foreign => return (tree, (tree.clone 2).root)
  | .stale => return (tree.clear.state, tree.root)
  | .path sides => return (tree, ← tree.walk tree.root (sides.map .down))

/-- Evaluates on one stack, again and again. -/
def runs (tree : LinkedTree Cells Term) (h : Handle) {capacity : Nat} (s : Stack Int capacity) :
    Nat → List EvalReport
  | 0 => []
  | n + 1 =>
    let progress := tree.eval h s
    .ofProgress progress :: runs tree h progress.2 n

/-- Runs a trial on a stack of the default capacity: a report of each evaluation, and the number of
nodes. -/
def run (trial : Trial) : Except TreeError (List EvalReport × Nat) := do
  let (tree, h) ← trial.setting
  let s : Stack Int defaultStackCapacity := Stack.empty
  return (runs tree h (s.pushAll trial.values).state trial.times, tree.size)

end Trial

end Substrate
