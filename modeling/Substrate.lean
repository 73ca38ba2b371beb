import Substrate.Collector.Basic
import Substrate.Collector.Custody
import Substrate.Collector.Staging
import Substrate.Expr.Eval
import Substrate.Expr.Term
import Substrate.Expr.Trial
import Substrate.Failure
import Substrate.Log.Filter
import Substrate.Log.Level
import Substrate.Main
import Substrate.Outcome
import Substrate.Pattern.Basic
import Substrate.Pattern.Bracket
import Substrate.Pattern.CharSet
import Substrate.Pattern.Encoding
import Substrate.Pattern.Escape
import Substrate.Pattern.Mode
import Substrate.Pattern.Reader
import Substrate.Pattern.Room
import Substrate.Pattern.Simple
import Substrate.Pattern.Words
import Substrate.Payload
import Substrate.Pool.Backing
import Substrate.Pool.Basic
import Substrate.Pool.Layout
import Substrate.Proofs.Collector.Accounts
import Substrate.Proofs.Collector.Automaton
import Substrate.Proofs.Collector.Calls
import Substrate.Proofs.Collector.Claims
import Substrate.Proofs.Collector.Conservation
import Substrate.Proofs.Collector.Counting
import Substrate.Proofs.Collector.Endings
import Substrate.Proofs.Collector.Nesting
import Substrate.Proofs.Collector.Order
import Substrate.Proofs.Collector.Peak
import Substrate.Proofs.Collector.Refusals
import Substrate.Proofs.Collector.Rollback
import Substrate.Proofs.Collector.Roster
import Substrate.Proofs.Collector.Safety
import Substrate.Proofs.Collector.Staging
import Substrate.Proofs.Collector.Transparency
import Substrate.Proofs.Expr.Evaluation
import Substrate.Proofs.Expr.Folding
import Substrate.Proofs.Expr.Machine
import Substrate.Proofs.Expr.Room
import Substrate.Proofs.Expr.Value
import Substrate.Proofs.Pool.Disposal
import Substrate.Proofs.Pool.Storage
import Substrate.Proofs.Pool.Trips
import Substrate.Proofs.Registers
import Substrate.Proofs.Session.Assembly
import Substrate.Proofs.Session.Build
import Substrate.Proofs.Session.Values
import Substrate.Proofs.Shape.Alike
import Substrate.Proofs.Shape.Bag
import Substrate.Proofs.Shape.Forking
import Substrate.Proofs.Shape.Named
import Substrate.Proofs.Shape.Positions
import Substrate.Proofs.Shape.Renaming
import Substrate.Proofs.Stack.Ownership
import Substrate.Proofs.Stack.Refinement
import Substrate.Proofs.Tree.Above
import Substrate.Proofs.Tree.Below
import Substrate.Proofs.Tree.Coherence
import Substrate.Proofs.Tree.Commuting
import Substrate.Proofs.Tree.Conservation
import Substrate.Proofs.Tree.Copying
import Substrate.Proofs.Tree.Duplicating
import Substrate.Proofs.Tree.Editing
import Substrate.Proofs.Tree.Fidelity
import Substrate.Proofs.Tree.Framing
import Substrate.Proofs.Tree.Grafting
import Substrate.Proofs.Tree.Grove
import Substrate.Proofs.Tree.Handles
import Substrate.Proofs.Tree.Hanging
import Substrate.Proofs.Tree.Iteration
import Substrate.Proofs.Tree.Linked
import Substrate.Proofs.Tree.Positions
import Substrate.Proofs.Tree.Pruning
import Substrate.Proofs.Tree.Refusal
import Substrate.Proofs.Tree.Removal
import Substrate.Proofs.Tree.Replacing
import Substrate.Proofs.Tree.Simulation
import Substrate.Proofs.Tree.Splicing
import Substrate.Proofs.Tree.Stock
import Substrate.Proofs.Tree.Tracking
import Substrate.Proofs.Tree.Turnover
import Substrate.Proofs.Tree.Undoing
import Substrate.Proofs.Tree.Uprooting
import Substrate.Proofs.Tree.Walking
import Substrate.Proofs.Tree.Whole
import Substrate.Session.Build
import Substrate.Session.Program
import Substrate.Session.Rounds
import Substrate.Stack.Basic
import Substrate.Stack.Error
import Substrate.Stack.Script
import Substrate.Stack.View
import Substrate.Text.Blank
import Substrate.Text.Letter
import Substrate.Text.Quoted
import Substrate.Text.Rendering
import Substrate.Text.Unprintable
import Substrate.Tree.Arena
import Substrate.Tree.Basic
import Substrate.Tree.Copy
import Substrate.Tree.Edit
import Substrate.Tree.Error
import Substrate.Tree.Forest
import Substrate.Tree.Preorder
import Substrate.Tree.Shape
import Substrate.Tree.Transcript
