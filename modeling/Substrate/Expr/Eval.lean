import Substrate.Failure
import Substrate.Stack.Basic
import Substrate.Tree.Shape

/-!
# Substrate.Expr.Eval

Evaluation of a tree of terms on a bounded stack: the left subtree, then the right one, then the
node itself. A number is pushed; an operator pops its right operand and puts its result in the
place of its left one. Any tree can be evaluated: an operator without operands of its own takes
what it finds on the stack.

Beside it stands `execute`, which runs terms one after another without any tree.
-/

namespace Substrate

/-- How far work on a stack came: whether it failed, and the stack as it was left. -/
abbrev Progress (capacity : Nat) := Except Failure Unit × Stack Int capacity

namespace Progress

variable {capacity : Nat}

/-- Goes on unless the work failed. -/
def andThen (p : Progress capacity) (next : Stack Int capacity → Progress capacity) :
    Progress capacity :=
  match p.1 with
  | .ok _ => next p.2
  | .error e => (.error e, p.2)

end Progress

namespace Term

variable {capacity : Nat}

/-- Puts the result of an operator in the place of its two operands. The right operand is gone
when its left one is missing, and when the result overflows. -/
def operate (op : Operator) (s : Stack Int capacity) : Progress capacity :=
  let popped := s.pop
  match popped.reply with
  | .error e => (.error (.stack e), popped.state)
  | .ok right =>
    match popped.state.top with
    | .error e => (.error (.stack e), popped.state)
    | .ok left =>
      match op.apply left right with
      | .error e => (.error (.arithmetic e), popped.state)
      | .ok result => (.ok (), (popped.state.modifyTop fun _ => result).state)

/-- Runs one term on a stack. -/
def execute (s : Stack Int capacity) : Term → Progress capacity
  | number n =>
    let pushed := s.push n
    match pushed.reply with
    | .error e => (.error (.stack e), pushed.state)
    | .ok _ => (.ok (), pushed.state)
  | operator op => operate op s

/-- Runs terms one after another, up to the first failure. -/
def executeAll (s : Stack Int capacity) : List Term → Progress capacity
  | [] => (.ok (), s)
  | t :: ts => Progress.andThen (t.execute s) fun s => executeAll s ts

theorem executeAll_append (s : Stack Int capacity) (ts us : List Term) :
    executeAll s (ts ++ us) = Progress.andThen (executeAll s ts) fun s => executeAll s us := by
  induction ts generalizing s with
  | nil => rfl
  | cons t ts ih =>
    simp only [List.cons_append, executeAll, Progress.andThen]
    cases (t.execute s).1 with
    | error e => rfl
    | ok _ => exact ih _

end Term

namespace LinkedTree

variable {S : Type → Type} [SlotMap S] {capacity : Nat}

/-- Evaluates below a handle. No path in a tree is longer than the tree has nodes, so `depth` bounds
the descent; a path that goes on beyond it has left the tree. -/
def evalWithin (t : LinkedTree S Term) :
    (depth : Nat) → Handle → Stack Int capacity → Progress capacity
  | 0, h, s => if h.isUsable then (.error (.tree .staleNode), s) else (.ok (), s)
  | depth + 1, h, s =>
    if h.isUsable then
      match t.child .left h with
      | .error e => (.error (.tree e), s)
      | .ok left => Progress.andThen (t.evalWithin depth left s) fun s =>
        match t.child .right h with
        | .error e => (.error (.tree e), s)
        | .ok right => Progress.andThen (t.evalWithin depth right s) fun s =>
          match t.data h with
          | .error e => (.error (.tree e), s)
          | .ok term => term.execute s
    else (.ok (), s)

/-- Evaluates the subtree at a handle on a stack. A handle that denotes no node leaves the stack
as it is. -/
def eval (t : LinkedTree S Term) (h : Handle) (s : Stack Int capacity) : Progress capacity :=
  t.evalWithin (t.size + 1) h s

end LinkedTree

end Substrate
