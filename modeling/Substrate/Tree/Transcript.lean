import Substrate.Payload
import Substrate.Tree.Forest
import Substrate.Tree.Preorder

/-!
# Substrate.Tree.Transcript

Scripts over a forest of payloads. Every step saves one handle: the one it answered, or the handle
that denotes no node. Later steps refer to nodes by the number of the step that saved the handle,
and answers show a handle as the first step that saved an equal one.
-/

namespace Substrate

/-- A forest and the handles saved so far. -/
structure Transcript where
  forest : Forest Cells Payload := {}
  saved : Array Handle := #[]

namespace Transcript

/-- How steps refer to nodes: by the number of a step, or not at all. -/
abbrev Ref := Option Nat

/-- A question about a tree or about handles. -/
inductive Query where
  | root
  | walk (h : Ref) (moves : List LinkedTree.Move)
  | data (h : Ref)
  | isRoot (h : Ref)
  | isEmpty
  | size
  | list
  | outline
  | rows
  | checksum
  | render (spread : Bool)
  | isUsable (h : Ref)
  | same (h h' : Ref)
  /-- Asks for the handle that denotes no node. -/
  | null
  deriving Repr, DecidableEq

/-- An edit, or a question about the tree in register `t`. -/
inductive Action where
  | edit (e : Forest.Edit Ref Payload)
  | ask (t : Nat) (q : Query)
  deriving Repr, DecidableEq

/-- An action, and a further register to show beside the one it is about. -/
structure Command where
  action : Action
  also : Option Nat := none
  deriving Repr, DecidableEq

/-- What a step answers. A handle is the number of a step, or nothing if it denotes no node. -/
inductive Answer where
  | done
  | failed (error : TreeError)
  | handle (step : Option Nat)
  | payload (v : Payload)
  | flag (b : Bool)
  | count (n : Nat)
  | payloads (vs : List Payload)
  | outline (marks : List (Option Payload))
  | rows (rows : List (LinkedTree.Row Payload))
  | checksum (count : Nat) (sum : Int)
  | text (s : String)
  /-- A register that the step needs holds no tree. -/
  | noTree

/-- A tree as a report shows it. -/
structure View where
  register : Nat
  size : Nat
  outline : List (Option Payload)

/-- One step's answer, whether a constructor ran if there was one, what the step destroyed in
ascending order, and the trees it is about. -/
structure Report where
  answer : Answer
  built : Option Bool
  destroyed : List Payload
  views : List View

/-! ## Handles -/

/-- The handle that a step refers to. -/
def deref (tr : Transcript) (ref : Ref) : Handle := (ref.bind (tr.saved[·]?)).getD .null

/-- The first step that saved this handle, if the handle denotes a node. -/
def number (tr : Transcript) (h : Handle) : Option Nat :=
  if h.isUsable then tr.saved.findIdx? (· = h) else none

/-- Saves a handle. -/
def save (tr : Transcript) (h : Handle) : Transcript := { tr with saved := tr.saved.push h }

/-- Saves a handle and answers it. -/
def answerHandle (tr : Transcript) (h : Handle) : Answer × Transcript :=
  let tr := tr.save h
  (.handle (tr.number h), tr)

/-- Answers what is not a handle. -/
def answerPlain (tr : Transcript) (a : Answer) : Answer × Transcript := (a, tr.save .null)

/-- Answers a handle or a refusal. -/
def answerResult (tr : Transcript) : Except TreeError Handle → Answer × Transcript
  | .ok h => tr.answerHandle h
  | .error e => tr.answerPlain (.failed e)

/-! ## Steps -/

/-- A number that depends on the order of payloads: a polynomial in 31 modulo 1000003. -/
def checksum (vs : List Payload) : Int :=
  vs.foldl (fun sum v => (sum * 31 + v.toInt.emod 1000003).emod 1000003) 0

/-- Answers a question about a tree. -/
def askTree (tr : Transcript) (tree : LinkedTree Cells Payload) : Query → Answer × Transcript
  | .root => tr.answerHandle tree.root
  | .walk h moves => tr.answerResult (tree.walk (tr.deref h) moves)
  | .data h =>
    match tree.data (tr.deref h) with
    | .ok v => tr.answerPlain (.payload v)
    | .error e => tr.answerPlain (.failed e)
  | .isRoot h =>
    match tree.isRoot (tr.deref h) with
    | .ok b => tr.answerPlain (.flag b)
    | .error e => tr.answerPlain (.failed e)
  | .isEmpty => tr.answerPlain (.flag tree.isEmpty)
  | .size => tr.answerPlain (.count tree.size)
  | .list => tr.answerPlain (.payloads tree.toList)
  | .outline => tr.answerPlain (.outline tree.outline)
  | .rows => tr.answerPlain (.rows tree.rows)
  | .checksum => tr.answerPlain (.checksum tree.size (checksum tree.toList))
  | .render spread =>
    let text := tree.rendering Payload.rendering
    tr.answerPlain (.text (if spread then text.block else text.inline))
  | .isUsable h => tr.answerPlain (.flag (tr.deref h).isUsable)
  | .same h h' => tr.answerPlain (.flag (tr.deref h = tr.deref h'))
  | .null => tr.answerHandle .null

/-- Answers a question. Those about handles alone need no tree. -/
def ask (tr : Transcript) (t : Nat) (q : Query) : Answer × Transcript :=
  match q, tr.forest.trees[t]? with
  | q, some tree => tr.askTree tree q
  | .isUsable h, none => tr.answerPlain (.flag (tr.deref h).isUsable)
  | .same h h', none => tr.answerPlain (.flag (tr.deref h = tr.deref h'))
  | .null, none => tr.answerHandle .null
  | _, none => tr.answerPlain .noTree

/-- Is a question shown with the tree in its register? -/
def Query.isShown : Query → Bool
  | .isUsable _ | .same _ _ | .null => true
  | _ => false

/-- The trees in the given registers. -/
def views (tr : Transcript) (registers : List Nat) : List View :=
  registers.filterMap fun t => tr.forest.trees[t]?.map fun tree => ⟨t, tree.size, tree.outline⟩

/-- Runs an edit: its answer, whether a constructor ran, and the payloads destroyed. -/
def edit (tr : Transcript) (e : Forest.Edit Ref Payload) :
    (Answer × Option Bool × List Payload) × Transcript :=
  let o := tr.forest.step (e.map tr.deref)
  let tr := { tr with forest := o.state }
  match o.reply with
  | .handle h =>
    let (a, tr) := tr.answerHandle h
    ((a, none, o.destroyed), tr)
  | .built ran result =>
    let (a, tr) := tr.answerResult result
    ((a, some ran, o.destroyed), tr)
  | .failed e => ((.failed e, none, o.destroyed), tr.save .null)
  | .noTree => ((.noTree, none, o.destroyed), tr.save .null)
  | .done =>
    match e with
    | .setData t h _ =>
      let (a, tr) := tr.ask t (.data h)
      ((a, none, o.destroyed), tr)
    | _ => ((.done, none, o.destroyed), tr.save .null)

/-- Runs one step. A quiet script shows no trees. -/
def step (quiet : Bool) (tr : Transcript) (c : Command) : Report × Transcript :=
  match c.action with
  | .edit e =>
    let ((answer, built, destroyed), tr) := tr.edit e
    let views := if quiet then [] else tr.views (e.register :: c.also.toList)
    (⟨answer, built, Payload.sorted destroyed, views⟩, tr)
  | .ask t q =>
    let (answer, tr) := tr.ask t q
    (⟨answer, none, [], if q.isShown && !quiet then tr.views (t :: c.also.toList) else []⟩, tr)

/-- Runs steps in turn: their reports, and the transcript after them. -/
def run (quiet : Bool) (tr : Transcript) : List Command → List Report × Transcript
  | [] => ([], tr)
  | c :: cs =>
    let (report, tr) := tr.step quiet c
    let (reports, last) := tr.run quiet cs
    (report :: reports, last)

/-- Runs a script from nothing: the reports, and what is destroyed when all trees go out of use, in
ascending order. -/
def script (quiet : Bool) (cs : List Command) : List Report × List Payload :=
  let (reports, last) := ({} : Transcript).run quiet cs
  (reports, Payload.sorted last.forest.payloads)

end Transcript

end Substrate
