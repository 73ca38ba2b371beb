import Substrate.Proofs.Tree.Fidelity
import Substrate.Proofs.Tree.Replacing

/-!
# Substrate.Proofs.Tree.Grafting

Merging another tree in at a node. The copy is made among the nodes of the tree that it goes into,
while what it takes the place of is still there; so it has to be told from both. `Grafted` says that
one piece is replaced by another, that the new one shows the donor at every position, and that its
keys were never issued before. `Grafts` adds what the command does to the forest: the donor stays
the tree it was, and its handles are not those of the copy.

The main result is `grafts_of_run`, for all states that commands lead to.
-/

namespace Substrate

variable {S : Type → Type} [SlotMap S] {α : Type}

namespace LinkedTree

/-- The outcome `o` of merging the tree `donor`, of the shape `d`, in at the node `k`: where the
piece `u` hung there stands `c`, a copy of `d`. -/
structure Grafted (t donor : LinkedTree S α)
    (o : Outcome (LinkedTree S α) (Except TreeError Handle) α) (k : Key) (node : Node α)
    (u c d : Shape (Key × α)) : Prop extends t.Replaced o.state k node u c where
  donor_shape : donor.HasShape d
  /-- The shape is the same and so are the payloads, position by position. -/
  copied : c.payloads = d.payloads
  /-- One way down reads one payload in the copy and in the donor, or leads to no node in both. -/
  read : ∀ sides, o.state.read (t.handle c.topKey) sides = donor.read donor.root sides
  /-- The answer is the handle of the top of the copy, or of no node if the donor is empty. -/
  reply : o.reply = .ok (t.handle c.topKey)
  absent_iff : c.topKey = none ↔ donor.isEmpty = true
  /-- The tree issued no key of the copy before. -/
  new : ∀ j ∈ c.keys, ¬ t.nodes.Issued j
  /-- Gone is the old piece. -/
  lost_iff : ∀ h j old, t.resolve h = .ok (j, old) →
    (o.state.resolve h = .error .staleNode ↔ j ∈ u.keys)
  destroyed : (o.destroyed : Multiset α) = u.payloads.bag
  grown : o.state.size + u.size = t.size + donor.size

variable {t donor : LinkedTree S α} {s d : Shape (Key × α)} {h : Handle} {k : Key} {node : Node α}

/-- A merge at a node that the tree accepts does all that `Grafted` says. -/
theorem HasShape.exists_grafted (shape : t.HasShape s) (donated : donor.HasShape d)
    (accepted : t.resolve h = .ok (k, node)) :
    ∃ u c, t.Grafted donor (t.merge h donor) k node u c d := by
  obtain ⟨c, copied, new, edited⟩ := shape.edited_merge accepted donated
  have ended := (shape.removes_merge donated h).destroyed
  obtain ⟨u, replaced⟩ := shape.exists_replaced accepted edited
  rw [turnoverAt_of_resolve accepted, replaced.payloadsBelow] at ended
  obtain ⟨C, whole⟩ := replaced.exists_plug
  have whole' := replaced.shape C whole
  refine ⟨u, c, ?_⟩
  constructor
  case toReplaced => exact replaced
  case donor_shape => exact donated
  case copied => exact copied
  case read =>
    intro sides
    rw [← handle_congr edited.id, read_of_hangs whole'.hangs_piece,
      donated.root_eq, read_of_hangs donated.hangs, copied]
  case reply => exact edited.reply
  case absent_iff =>
    rw [donated.isEmpty, Option.isNone_iff_eq_none]
    cases c <;> cases d <;> simp [Shape.payloads] at copied ⊢
  case new => exact new
  case lost_iff =>
    intro h j old accepted'
    rw [replaced.stale_iff h j old accepted']
    -- An old key was issued before, so the copy does not have it.
    have issued := Arena.issued_of_get? (resolve_eq_ok_iff.1 accepted').2
    have notNew : j ∉ c.keys := fun inC => new j inC issued
    simp only [notNew, not_false_eq_true, and_true]
  case destroyed => exact ended
  case grown =>
    rw [replaced.size, donated.size, ← c.size_payloads, copied, d.size_payloads]

end LinkedTree

namespace Forest

/-- The command to merge the tree `donor` in register `a` in at the node `k` of the tree `t` in
register `r`, after some commands. -/
structure Grafts (edits : List (Edit Handle α)) (r a : Nat) (h : Handle) (t donor : LinkedTree S α)
    (k : Key) (node : Node α) (u c d : Shape (Key × α)) : Prop where
  grafted : t.Grafted donor (t.merge h donor) k node u c d
  reply : ((run ({} : Forest S α) edits).step (.merge r h a)).reply = .handle (t.handle c.topKey)
  destroyed : ((run ({} : Forest S α) edits).step (.merge r h a)).destroyed =
    (t.merge h donor).destroyed
  held : ((run {} edits).step (.merge r h a)).state.trees[r]? = some (t.merge h donor).state
  /-- No other tree differs, the donor among them. -/
  others : ∀ b : Nat, b ≠ r →
    ((run ({} : Forest S α) edits).step (.merge r h a)).state.trees[b]? =
      (run ({} : Forest S α) edits).trees[b]?
  source : ((run {} edits).step (.merge r h a)).state.trees[a]? = some donor
  /-- The tree refuses the handles of the donor. -/
  estranged : Estranged edits donor (t.merge h donor).state
  /-- No handle of a node of the copy was accepted in any state before. -/
  unmet : FewTrees S edits → ∀ past future, edits = past ++ future →
    ∀ (b : Nat) (other : LinkedTree S α) (j : Key) (old : Node α),
      (run {} past).trees[b]? = some other → other.resolve (t.handle (some j)) = .ok (j, old) →
      j ∉ c.keys

variable {r a : Nat} {t donor : LinkedTree S α} {h : Handle} {k : Key} {node : Node α}

/-- In every state that commands lead to, merging another tree in at a node puts a copy of it into
the place of the node. -/
theorem grafts_of_run (edits : List (Edit Handle α)) (held : (run {} edits).trees[r]? = some t)
    (given : (run {} edits).trees[a]? = some donor) (other : a ≠ r)
    (accepted : t.resolve h = .ok (k, node)) :
    ∃ u c d, Grafts edits r a h t donor k node u c d := by
  obtain ⟨s, shape⟩ := wellLinked_run wellLinked_init edits r t held
  obtain ⟨d, donated⟩ := wellLinked_run wellLinked_init edits a donor given
  obtain ⟨u, c, grafted⟩ := shape.exists_grafted donated accepted
  have step : (run {} edits).step (.merge r h a) =
      (run {} edits).onTree r .ofHandle fun tree => tree.merge h donor := by
    simp only [Forest.step, onTrees, given]
  have trees (b : Nat) := trees_onTree held .ofHandle (fun tree => tree.merge h donor) b
  refine ⟨u, c, d, ?_⟩
  constructor
  case grafted => exact grafted
  case reply => rw [step, reply_onTree held, grafted.reply]; rfl
  case destroyed => rw [step, onTree, held]
  case held => rw [step, trees, if_pos rfl]
  case others =>
    intro b elsewhere
    rw [step, trees, if_neg elsewhere]
  case source => rw [step, trees, if_neg other, given]
  case estranged =>
    exact estranged_of_ne fun few same =>
      other (apart_of_run few given held (same.symm.trans grafted.id))
  case unmet =>
    intro few past future split b one j old heldB met inC
    exact grafted.new j inC (issued_of_run few held split heldB met)

/-- A tree of two nodes goes to where the left one of two children was. -/
theorem grafts_of_left_child :
    let edits : List (Edit Handle Nat) := [.create 0, .insert 0 (.above .left) .null 7,
      .insert 0 (.below .left .left) ⟨some 0, 1⟩ 8, .insert 0 (.below .right .left) ⟨some 0, 1⟩ 9,
      .create 1, .insert 1 (.above .left) .null 5, .insert 1 (.above .right) ⟨some 0, 2⟩ 6]
    let t : LinkedTree Cells Nat :=
      ⟨⟨⟨#[some ⟨none, some 1, some 2, 7⟩, some ⟨some 0, none, none, 8⟩,
        some ⟨some 0, none, none, 9⟩]⟩⟩, some 0, 1⟩
    let donor : LinkedTree Cells Nat :=
      ⟨⟨⟨#[some ⟨some 1, none, none, 5⟩, some ⟨none, none, some 0, 6⟩]⟩⟩, some 1, 2⟩
    (run {} edits).trees[0]? = some t ∧ (run {} edits).trees[1]? = some donor ∧
      t.resolve ⟨some 1, 1⟩ = .ok (1, ⟨some 0, none, none, 8⟩) ∧
      FewTrees Cells edits ∧
      (t.merge ⟨some 1, 1⟩ donor).reply = .ok ⟨some 3, 1⟩ ∧
      ∃ u c d, Grafts edits 0 1 ⟨some 1, 1⟩ t donor 1 ⟨some 0, none, none, 8⟩ u c d := by
  intro edits t donor
  have held : (run {} edits).trees[0]? = some t := rfl
  have given : (run {} edits).trees[1]? = some donor := rfl
  exact ⟨held, given, rfl, by decide, rfl, grafts_of_run edits held given (by decide) rfl⟩

end Forest

end Substrate
