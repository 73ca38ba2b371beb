import Substrate.Log.Filter
import Substrate.Session.Rounds

/-!
# Substrate.Session.Program

The program's own session: it builds one expression, evaluates it, folds an operand, evaluates
again, and reports on each step in log lines.
-/

namespace Substrate

namespace Session

/-- The origin of the program's lines, by which settings of the log call it. -/
def origin : String := "covm_bin"

/-- Evaluates a tree from its root on a stack and pops the value. -/
def evaluateOnto {capacity : Nat} (t : LinkedTree Cells Term) (s : Stack Int capacity) :
    Except Failure (Int × Stack Int capacity) := do
  let (result, s) := t.eval t.root s
  let _ ← result
  let popped := s.pop
  return (← popped.reply.mapError .stack, popped.state)

/-- The messages of the program's session, up to the first failure. -/
def messages : List String × Except Failure Unit :=
  match State.start with
  | .error e => ([], .error e)
  | .ok s =>
    let built := build s.pool s.nextId 7 3
    match built.reply with
    | .error e => ([], .error e)
    | .ok tree =>
      let s : Stack Int defaultStackCapacity := Stack.empty
      match evaluateOnto tree s with
      | .error e => ([], .error e)
      | .ok (value, s) =>
        let first := s!"(7 - 3) * (7 + 3) = {value}"
        match fold tree 2 .left 4 with
        | .error e => ([first], .error (.tree e))
        | .ok folded =>
          match evaluateOnto folded s with
          | .error e => ([first], .error e)
          | .ok (again, _) =>
            let sizes := s!"({folded.size} nodes, original still {tree.size} nodes)"
            ([first,
              s!"after folding the left operand: {again} {sizes}",
              s!"{built.state.pooled.length} slots pooled"], .ok ())

/-- What the program leaves behind: its log and its exit code. -/
structure Ending where
  code : UInt8
  log : List Log.Line

/-- Runs the program under a filter of its log. -/
def program (filter : Log.Filter) : Ending :=
  let (texts, result) := messages
  let lines := texts.map (Log.Line.mk origin .info)
  match result with
  | .ok _ => ⟨0, filter.visible lines⟩
  | .error e =>
    ⟨1, filter.visible (lines ++ [⟨origin, .error, "session failed: " ++ e.message⟩])⟩

end Session

end Substrate
