import Substrate.Proofs.Expr.Evaluation
import Substrate.Proofs.Expr.Value
import Substrate.Proofs.Tree.Fidelity

/-!
# Substrate.Proofs.Expr.Folding

Folding an expression within a tree to a number. In a copy of the tree, a tree of one number is
merged over the copy of an expression of that value (`Folded`, `HasShape.exists_folded`). Around the
expression there may be any terms at all. They see the expression only through the value that it
pushes, so the two trees evaluate alike, except that the folded one may get past an overflow within
the expression (`FoldsTo`, `foldsTo_of_payloads`).

The main result is `foldsInCopy_of_run`, for all trees that commands have made.
-/

namespace Substrate

variable {S : Type → Type} [SlotMap S]

namespace LinkedTree

variable {capacity : Nat} {t t' copy one : LinkedTree S Term} {C : Context (Key × Term)}
  {u d c : Shape (Key × Term)} {v : Int}

/-! ## Evaluation of a folded tree -/

/-- From the stack `s` the tree `t'` evaluates as `t` does, but for the subtree at `h`, in the place
of which `t'` has the number `v`. `C` is what is around the subtree. -/
structure FoldsTo (t t' : LinkedTree S Term) (h : Handle) (v : Int) (C : Context Term)
    (s : Stack Int capacity) : Prop where
  /-- Without an overflow the result is the same, and so are the values left on the stack. -/
  same : (t.eval t.root s).1 ≠ .error (.stack (.overflow capacity)) →
    (t'.eval t'.root s).view = (t.eval t.root s).view
  /-- An overflow is the same, or it was within the subtree. Then `t'` comes to the same stack
  before it, pushes the number and goes on with what is after it. -/
  past : (t.eval t.root s).1 = .error (.stack (.overflow capacity)) →
    (t'.eval t'.root s).view = (t.eval t.root s).view ∨
      ∃ s' : Stack Int capacity, Term.executeAll s C.before = (.ok (), s') ∧ s'.size < capacity ∧
        t.eval t.root s = t.eval h s' ∧
        t'.eval t'.root s = Term.executeAll (s'.push v).state C.after

/-- A tree that has a number where another has an expression of that value evaluates alike. -/
theorem foldsTo_of_payloads (h : t.HasShape (C.plug u)) (computes : Computes u.payloads v)
    (h' : t'.HasShape c) (same : c.payloads = C.payloads.plug (.node (.number v) .nil .nil))
    (s : Stack Int capacity) : FoldsTo t t' (t.handle u.topKey) v C.payloads s := by
  have whole : t.eval t.root s = Term.executeAll s
      (C.payloads.before ++ u.payloads.postorder ++ C.payloads.after) := by
    rw [h.eval_root, Context.payloads_plug, Context.postorder_plug]
  have folded : t'.eval t'.root s = Term.executeAll s
      (C.payloads.before ++ [.number v] ++ C.payloads.after) := by
    rw [h'.eval_root, same, Context.postorder_plug]
    rfl
  have inner : ∀ s' : Stack Int capacity,
      t.eval (t.handle u.topKey) s' = Term.executeAll s' u.payloads.postorder := by
    intro s'
    obtain ⟨-, hangs⟩ := Context.hangs_plug.1 h.hangs
    exact eval_of_hangs hangs (size_le_of_hangs hangs (Context.nodup_keys_plug.1 h.nodup).1) s'
  rcases computes.executeAll_value s C.payloads.before C.payloads.after with
    alike | ⟨s', before, room, overflows, stops, goesOn⟩
  · rw [← whole, ← folded] at alike
    exact ⟨fun _ => alike, fun _ => .inl alike⟩
  · rw [← inner] at overflows stops
    rw [← whole] at stops
    rw [← folded] at goesOn
    refine ⟨fun fine => absurd ?_ fine, fun _ => .inr ⟨s', before, room, stops, goesOn⟩⟩
    rw [stops, overflows]

/-! ## Merging the number over the expression -/

/-- The tree `t'` is like `t`, but for the subtree `u` at `h`, in the place of which it has the
number `v` at the handle `g`. `C` is what is around the subtree. -/
structure Folded (t t' : LinkedTree S Term) (h g : Handle) (u : Shape (Key × Term)) (v : Int)
    (C : Context (Key × Term)) : Prop where
  shape : t.HasShape (C.plug u)
  shape' : ∃ c, t'.HasShape c ∧ c.payloads = C.payloads.plug (.node (.number v) .nil .nil)
  samePlace : t.SamePlace h t' g
  size : t'.size + u.size = t.size + 1
  eval : ∀ (capacity : Nat) (s : Stack Int capacity), FoldsTo t t' h v C.payloads s

/-- Merging a number over the copy of an expression of that value folds the expression. -/
theorem HasShape.exists_folded {h h' : Handle} {k j : Key} (shape : t.HasShape d)
    (shapeC : copy.HasShape c) (same : c.payloads = d.payloads)
    (shapeN : one.HasShape (.node (j, .number v) .nil .nil)) (own : h = t.handle (some k))
    (hosts : t.Hosts h u) (computes : Computes u.payloads v) (place : t.SamePlace h copy h') :
    ∃ g C, (copy.merge h' one).reply = .ok g ∧
      Folded t (copy.merge h' one).state h g u v C := by
  subst own
  obtain ⟨sides, way, wayC⟩ := place
  rw [shape.root_eq] at way
  obtain ⟨C, v', l, r, rfl, rfl⟩ := exists_plug_of_walk shape.hangs way
  obtain ⟨-, hangs⟩ := Context.hangs_plug.1 shape.hangs
  obtain rfl : u = .node (k, v') l r := hosts.unique ⟨rfl, _, hangs⟩
  -- The copy has the expression in the same place.
  obtain ⟨D, w, i, rfl, around, -, top, wayD⟩ := shapeC.exists_plug same rfl
  obtain rfl : copy.handle (some i) = h' := Except.ok.inj (wayD.symm.trans wayC)
  -- The number takes its place.
  obtain ⟨e, number, edited⟩ := shapeC.edited_merge_plug top shapeN
  have payloads : (D.plug e).payloads = C.payloads.plug (.node (.number v) .nil .nil) := by
    rw [Context.payloads_plug, around, number]
    rfl
  obtain ⟨m, topE⟩ := Shape.exists_topKey_of_payloads number rfl
  have wayE := edited.shape.toBears.walk_down topE
  rw [Context.sides_eq_of_payloads around] at wayE
  have answer : copy.handle e.topKey =
      (copy.merge (copy.handle (some i)) one).state.handle (some m) := by
    rw [topE, handle, handle, edited.id]
  refine ⟨copy.handle e.topKey, C, edited.reply, shape, ⟨_, edited.shape, payloads⟩, ?_, ?_, ?_⟩
  · rw [← shape.root_eq] at way
    exact ⟨C.sides, way, answer ▸ wayE⟩
  · have single : e.size = 1 := by
      rw [← e.size_payloads, number]
      rfl
    rw [edited.shape.size_plug, shape.size_plug, around, single]
    omega
  · exact fun capacity => foldsTo_of_payloads shape computes edited.shape payloads

end LinkedTree

/-! ## Folding by commands -/

namespace Forest

open LinkedTree

/-- After a copy of the tree `t` in register `r` was made in register `a`, the tree in register `b`
was merged over the node `h'` of the copy. This folded the subtree `u` at `h`, and left `t` as it
was. -/
structure Merges (edits : List (Edit Handle Term)) (a r b : Nat) (t t' : LinkedTree S Term)
    (h h' g : Handle) (u : Shape (Key × Term)) (v : Int) (C : Context (Key × Term)) : Prop where
  reply : ((run ({} : Forest S Term) (edits ++ [.clone a r])).step (.merge a h' b)).reply =
    .handle g
  held : (run {} (edits ++ [.clone a r, .merge a h' b])).trees[a]? = some t'
  source : (run {} (edits ++ [.clone a r, .merge a h' b])).trees[r]? = some t
  folded : Folded t t' h g u v C

/-- The subtree `u` at `h` can be folded in a copy: the copy has a node in the place of `h`, and
merging at that node is all it takes. -/
def FoldsInCopy (edits : List (Edit Handle Term)) (a r b : Nat) (t : LinkedTree S Term) (h : Handle)
    (u : Shape (Key × Term)) (v : Int) : Prop :=
  ∃ copy, (run {} (edits ++ [.clone a r])).trees[a]? = some copy ∧
    (∃ h', t.SamePlace h copy h') ∧
    ∀ h', t.SamePlace h copy h' → ∃ t' g C, Merges edits a r b t t' h h' g u v C

variable {r a b : Nat} {t one : LinkedTree S Term} {h : Handle} {k : Key} {node : Node Term}
  {u : Shape (Key × Term)} {v : Int}

/-- In every state that commands lead to, an expression in a tree can be folded in a copy of the
tree, by means of a tree that is the number of its value. -/
theorem foldsInCopy_of_run (edits : List (Edit Handle Term))
    (held : (run {} edits).trees[r]? = some t) (accepted : t.resolve h = .ok (k, node))
    (hosts : t.Hosts h u) (computes : Computes u.payloads v)
    (atHand : (run {} edits).trees[b]? = some one) (single : one.size = 1)
    (number : one.data one.root = .ok (.number v)) (ar : a ≠ r) (ab : a ≠ b) :
    FoldsInCopy edits a r b t h u v := by
  obtain ⟨d, shape⟩ := wellLinked_run wellLinked_init edits r t held
  obtain ⟨e, shapeN⟩ := wellLinked_run wellLinked_init edits b one atHand
  obtain ⟨j, rfl⟩ := shapeN.eq_node single number
  obtain ⟨own, -⟩ := resolve_eq_ok_iff.1 accepted
  -- First the copy is made.
  obtain ⟨copy, s, places, portrays, -⟩ := exists_copy_of_clone held ar
  obtain rfl : s = d := portrays.hosts.unique shape.hosts_root
  obtain ⟨c, shapeC, same⟩ := portrays.shape
  have cloned : run ({} : Forest S Term) (edits ++ [.clone a r]) =
      ((run {} edits).step (.clone a r)).state :=
    run_append _ _ _
  have heldA : (run {} (edits ++ [.clone a r])).trees[a]? = some copy := by
    rw [cloned, places.held]
  have heldB : (run {} (edits ++ [.clone a r])).trees[b]? = some one := by
    rw [cloned, places.others b (Ne.symm ab), atHand]
  have heldR : (run {} (edits ++ [.clone a r])).trees[r]? = some t := by
    rw [cloned, places.source]
  -- Then the number is merged over the node in the same place.
  refine ⟨copy, heldA, shape.exists_samePlace shapeC same accepted, fun h' place => ?_⟩
  obtain ⟨g, C, reply, folded⟩ := shape.exists_folded shapeC same shapeN own hosts computes place
  have merge : (run {} (edits ++ [.clone a r])).step (.merge a h' b) =
      (run {} (edits ++ [.clone a r])).onTree a .ofHandle fun tree => tree.merge h' one := by
    simp only [Forest.step, onTrees, heldB]
  have after : run ({} : Forest S Term) (edits ++ [.clone a r, .merge a h' b]) =
      ((run {} (edits ++ [.clone a r])).step (.merge a h' b)).state := by
    rw [run_append, run_append]
    rfl
  refine ⟨_, g, C, ?_, ?_, ?_, folded⟩
  · rw [merge, reply_onTree heldA, reply]
    rfl
  · rw [after, merge, trees_onTree heldA, if_pos rfl]
  · rw [after, merge, trees_onTree heldA, if_neg (Ne.symm ar), heldR]

/-- A difference is folded below an operator that lacks its right operand. -/
theorem foldsInCopy_of_missing_operand :
    let edits : List (Edit Handle Term) := [.create 0,
      .insert 0 (.above .left) .null (.operator .mul),
      .insert 0 (.below .left .left) ⟨some 0, 1⟩ (.operator .sub),
      .insert 0 (.below .left .left) ⟨some 1, 1⟩ (.number 7),
      .insert 0 (.below .right .left) ⟨some 1, 1⟩ (.number 3),
      .create 2, .insert 2 (.above .left) .null (.number 4)]
    let t : LinkedTree Cells Term :=
      ⟨⟨⟨#[some ⟨none, some 1, none, .operator .mul⟩,
        some ⟨some 0, some 2, some 3, .operator .sub⟩, some ⟨some 1, none, none, .number 7⟩,
        some ⟨some 1, none, none, .number 3⟩]⟩⟩, some 0, 1⟩
    let u : Shape (Key × Term) := .node (1, .operator .sub) (.node (2, .number 7) .nil .nil)
      (.node (3, .number 3) .nil .nil)
    (run {} edits).trees[0]? = some t ∧ t.Hosts ⟨some 1, 1⟩ u ∧ Computes u.payloads 4 ∧
      FoldsInCopy edits 1 0 2 t ⟨some 1, 1⟩ u 4 := by
  intro edits t u
  have held : (run {} edits).trees[0]? = some t := rfl
  have hosts : t.Hosts ⟨some 1, 1⟩ u :=
    ⟨rfl, some 0, rfl, ⟨rfl, trivial, trivial⟩, ⟨rfl, trivial, trivial⟩⟩
  have computes : Computes u.payloads 4 :=
    .operator (.number 7) (.number 3) (by decide : FitsWord (Operator.sub.exact 7 3))
  have atHand : (run ({} : Forest Cells Term) edits).trees[2]? =
      some ⟨⟨⟨#[some ⟨none, none, none, .number 4⟩]⟩⟩, some 0, 2⟩ := rfl
  have accepted : t.resolve ⟨some 1, 1⟩ = .ok (1, ⟨some 0, some 2, some 3, .operator .sub⟩) := rfl
  exact ⟨held, hosts, computes, foldsInCopy_of_run edits held accepted hosts computes atHand rfl rfl
    (by decide) (by decide)⟩

end Forest

end Substrate
