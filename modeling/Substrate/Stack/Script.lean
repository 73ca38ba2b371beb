import Substrate.Payload
import Substrate.Stack.Basic

/-!
# Substrate.Stack.Script

Scripts over one stack. Each command is one operation of `Stack`; its report holds the reply, the
size afterwards and the payloads destroyed on the way. At the end of a script the stack goes out of
use and destroys what is left.

Everything is for elements of any kind that can be shown. `Command`, `Reply`, `Report` and `script`
are for payloads.
-/

namespace Substrate

namespace Stack

/-- One operation on the stack of a script. -/
inductive CommandOf (α : Type) where
  | push (v : α)
  /-- Pushes the element that a constructor makes; then puts `successor`, if given, in its place. -/
  | pushWith (v : α) (successor : Option α)
  | pushAll (vs : List α)
  | pop
  | discard
  | top
  | setTop (v : α)
  | clear
  | list
  | listFromBase
  | assign (vs : List α)
  | render (spread : Bool)
  | info
  /-- Takes a new stack into use in place of the old one. -/
  | renew
  deriving Repr, DecidableEq

/-- What a command answers. -/
inductive ReplyOf (α : Type) where
  | done
  | failed (error : StackError)
  | value (v : α)
  /-- Whether the constructor ran, and the top afterwards or the refusal. -/
  | built (ran : Bool) (top : Except StackError α)
  /-- How many pushes were taken, and the refusals in order. -/
  | pushed (taken : Nat) (refusals : List StackError)
  | values (vs : List α)
  | count (n : Nat)
  | text (s : String)
  | info (isEmpty isFull : Bool) (size capacity : Nat)

/-- One command's reply, the size after it, and what it destroyed. -/
structure ReportOf (α : Type) where
  reply : ReplyOf α
  size : Nat
  destroyed : List α

/-- One operation on a stack of payloads. -/
abbrev Command := CommandOf Payload

/-- What a command on a stack of payloads answers. -/
abbrev Reply := ReplyOf Payload

/-- What one command did on a stack of payloads. -/
abbrev Report := ReportOf Payload

variable {α : Type} {capacity : Nat}

namespace ReplyOf

/-- The reply of an operation that only succeeds or fails. -/
def ofUnit : Except StackError Unit → ReplyOf α
  | .ok _ => done
  | .error e => failed e

/-- The reply of an operation that yields an element. -/
def ofElement : Except StackError α → ReplyOf α
  | .ok v => value v
  | .error e => failed e

end ReplyOf

/-- The elements in brackets, from the top down. -/
def rendering (shown : α → Text.Rendering) (s : Stack α capacity) : Text.Rendering :=
  .list (s.toList.map shown)

/-- Pushes what a constructor makes and watches whether the constructor runs. An element pushed so
may be replaced at once through the top. -/
def pushBuilt (s : Stack α capacity) (v : α) (successor : Option α) :
    Outcome (Stack α capacity) (ReplyOf α) α :=
  let (first, ran) := (s.pushWith (do set true; pure v : StateM Bool α)).run false
  match first.reply, successor with
  | .error e, _ => first.withReply (.built ran (.error e))
  | .ok _, none => first.withReply (.built ran first.state.top)
  | .ok _, some w =>
    let second := first.state.modifyTop fun _ => w
    ⟨.built ran second.state.top, second.state, first.destroyed ++ second.destroyed⟩

/-- Runs one command. -/
def step (shown : α → Text.Rendering) (s : Stack α capacity) :
    CommandOf α → Outcome (Stack α capacity) (ReplyOf α) α
  | .push v => let o := s.push v; o.withReply (.ofUnit o.reply)
  | .pushWith v successor => s.pushBuilt v successor
  | .pushAll vs => let o := s.pushAll vs; o.withReply (.pushed o.reply.1 o.reply.2)
  | .pop => let o := s.pop; o.withReply (.ofElement o.reply)
  | .discard => let o := s.discard; o.withReply (.ofUnit o.reply)
  | .top => .keeping (.ofElement s.top) s
  | .setTop v =>
    let o := s.modifyTop fun _ => v
    match o.reply with
    | .error e => o.withReply (.failed e)
    | .ok _ => o.withReply (.ofElement o.state.top)
  | .clear => s.clear.withReply .done
  | .list => .keeping (.values s.toList) s
  | .listFromBase => .keeping (.values s.toList.reverse) s
  | .assign vs => let o := s.assign vs; o.withReply (.count o.reply)
  | .render spread =>
    let text := s.rendering shown
    .keeping (.text (if spread then text.block else text.inline)) s
  | .info => .keeping (.info s.isEmpty s.isFull s.size capacity) s
  | .renew => ⟨.done, empty, s.clear.destroyed⟩

/-- Runs the commands in turn: their reports, and the stack that is left. -/
def run (shown : α → Text.Rendering) (s : Stack α capacity) :
    List (CommandOf α) → List (ReportOf α) × Stack α capacity
  | [] => ([], s)
  | c :: cs =>
    let o := s.step shown c
    let rest := o.state.run shown cs
    (⟨o.reply, o.state.size, o.destroyed⟩ :: rest.1, rest.2)

/-- Runs a script on a new stack: the reports, and what is destroyed when the stack goes out of
use. -/
def scriptOf (shown : α → Text.Rendering) (capacity : Nat) (cs : List (CommandOf α)) :
    List (ReportOf α) × List α :=
  let (reports, last) := (empty : Stack α capacity).run shown cs
  (reports, last.clear.destroyed)

/-- Runs a script on a new stack of payloads. -/
def script (capacity : Nat) (cs : List Command) : List Report × List Payload :=
  scriptOf Payload.rendering capacity cs

end Stack

end Substrate
