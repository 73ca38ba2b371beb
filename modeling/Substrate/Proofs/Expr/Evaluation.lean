import Substrate.Proofs.Expr.Machine
import Substrate.Proofs.Tree.Positions

/-!
# Substrate.Proofs.Expr.Evaluation

Evaluating a tree of terms is running its terms in post-order. Evaluation goes from handle to handle
and could meet handles that its tree refuses; on a subtree that hangs in the tree it meets none, and
it never reaches the bound of its depth (`evalWithin_of_hangs`). Every handle that denotes no node
or a node of the tree has such a subtree, and only one (`WellLinked.exists_hosts`, `Hosts.unique`).
-/

namespace Substrate

namespace LinkedTree

variable {S : Type → Type} [SlotMap S] {capacity : Nat} {t : LinkedTree S Term}

/-- At no node there is nothing to evaluate. -/
theorem evalWithin_null (depth : Nat) {h : Handle} (unusable : h.key = none)
    (s : Stack Int capacity) : t.evalWithin depth h s = (.ok (), s) := by
  cases depth <;> simp [evalWithin, Handle.isUsable, unusable]

/-- On a hanging subtree, evaluation runs the terms in post-order, and the bound of its depth makes
no difference. -/
theorem evalWithin_of_hangs {parent : Option Key} {u : Shape (Key × Term)}
    (hangs : Hangs t.nodes parent u) {depth : Nat} (deep : u.size ≤ depth)
    (s : Stack Int capacity) :
    t.evalWithin depth (t.handle u.topKey) s = Term.executeAll s u.payloads.postorder := by
  induction u generalizing parent depth s with
  | nil => exact evalWithin_null depth rfl s
  | node x l r ihl ihr =>
    obtain ⟨top, left, right⟩ := hangs
    simp only [Shape.size] at deep
    obtain ⟨depth, rfl⟩ : ∃ d, depth = d + 1 := ⟨depth - 1, by omega⟩
    have usable : (t.handle (some x.1)).isUsable = true := rfl
    have resolved := resolve_handle (t := t) top
    have leftOf : t.child .left (t.handle (some x.1)) = .ok (t.handle l.topKey) := by
      rw [child, resolved]
      rfl
    have rightOf : t.child .right (t.handle (some x.1)) = .ok (t.handle r.topKey) := by
      rw [child, resolved]
      rfl
    have dataOf : t.data (t.handle (some x.1)) = .ok x.2 := by
      rw [data, resolved]
      rfl
    rw [Shape.topKey_node, evalWithin, if_pos usable, leftOf]
    simp only [rightOf, dataOf]
    have deepL : l.size ≤ depth := by omega
    have deepR : r.size ≤ depth := by omega
    simp only [ihl left deepL, ihr right deepR]
    rw [Shape.payloads, Shape.postorder, Term.executeAll_append, Term.executeAll_append]
    rw [Progress.andThen_assoc]
    simp only [Term.executeAll_singleton]

/-- Evaluating a piece that hangs in the tree is executing its terms in post-order. -/
theorem eval_of_hangs {parent : Option Key} {u : Shape (Key × Term)}
    (hangs : Hangs t.nodes parent u) (small : u.size ≤ t.size) (s : Stack Int capacity) :
    t.eval (t.handle u.topKey) s = Term.executeAll s u.payloads.postorder :=
  evalWithin_of_hangs hangs (Nat.le_succ_of_le small) s

/-- Evaluating the whole tree is executing its terms in post-order. -/
theorem HasShape.eval_root {d : Shape (Key × Term)} (h : t.HasShape d) (s : Stack Int capacity) :
    t.eval t.root s = Term.executeAll s d.payloads.postorder := by
  rw [h.root_eq]
  exact eval_of_hangs h.hangs (Nat.le_of_eq h.size.symm) s

/-- Evaluation at a handle is a run of the terms `ts`: with the same result, the same values left
on the stack, and no refused handle on the way. No deeper descent changes it. -/
structure Evaluates (t : LinkedTree S Term) (h : Handle) (s : Stack Int capacity)
    (ts : List Term) : Prop where
  deeper : ∀ depth, t.size ≤ depth → t.evalWithin depth h s = t.eval h s
  view : (t.eval h s).view = ListMachine.run capacity s.toList ts
  notTree : ∀ e, (t.eval h s).1 ≠ .error (.tree e)
  size : (t.eval h s).1 = .ok () →
    (t.eval h s).2.size + ts.countP (!·.isNumber) = s.size + ts.countP (·.isNumber)

/-- Evaluation at a handle runs the terms of the subtree there in post-order. -/
theorem Hosts.evaluates {h : Handle} {u : Shape (Key × Term)} (hosts : t.Hosts h u)
    (own : h.key = none ∨ h.tree = t.id) (small : u.size ≤ t.size) (s : Stack Int capacity) :
    t.Evaluates h s u.payloads.postorder := by
  obtain ⟨top, parent, hangs⟩ := hosts
  have within : ∀ depth, t.size ≤ depth →
      t.evalWithin depth h s = Term.executeAll s u.payloads.postorder := by
    intro depth deep
    rcases own with unusable | own
    · obtain rfl := Shape.eq_nil_of_topKey (top.trans unusable)
      exact evalWithin_null depth unusable s
    · have is : h = t.handle u.topKey := by rw [handle, top, ← own]
      rw [is]
      exact evalWithin_of_hangs hangs (Nat.le_trans small deep) s
  have whole : t.eval h s = Term.executeAll s u.payloads.postorder :=
    within _ (Nat.le_succ t.size)
  have view : (t.eval h s).view = ListMachine.run capacity s.toList u.payloads.postorder := by
    rw [whole, Term.view_executeAll]
  have result : (t.eval h s).1 = (ListMachine.run capacity s.toList u.payloads.postorder).1 :=
    congrArg Prod.fst view
  have values : (t.eval h s).2.toList =
      (ListMachine.run capacity s.toList u.payloads.postorder).2 := congrArg Prod.snd view
  refine ⟨fun depth deep => (within depth deep).trans whole.symm, view, fun e => ?_, fun done => ?_⟩
  · rw [result]
    exact ListMachine.run_ne_tree _ _ e
  · rw [result] at done
    have length := ListMachine.length_run done
    rw [← values, Stack.length_toList, Stack.length_toList] at length
    exact length

/-- In whatever tree commands have made, evaluation at a handle that denotes no node or a node of
the tree comes out as its terms in post-order do on a list of values. -/
theorem exists_evaluates_of_run (edits : List (Forest.Edit Handle Term)) {r : Nat}
    (held : (Forest.run {} edits).trees[r]? = some t) {h : Handle}
    (accepted : h.key = none ∨ ∃ k node, t.resolve h = .ok (k, node))
    (s : Stack Int capacity) :
    ∃ u, t.Hosts h u ∧ (∀ u', t.Hosts h u' → u' = u) ∧ t.Evaluates h s u.payloads.postorder := by
  have whole := Forest.wellLinked_run Forest.wellLinked_init edits r t held
  obtain ⟨u, hosts, small⟩ := whole.exists_hosts accepted
  have own : h.key = none ∨ h.tree = t.id := by
    rcases accepted with unusable | ⟨k, node, accepted⟩
    · exact .inl unusable
    · exact .inr (congrArg Handle.tree (resolve_eq_ok_iff.1 accepted).1)
  exact ⟨u, hosts, fun u' hosts' => hosts'.unique hosts, hosts.evaluates own small s⟩

/-- An operator over one number: it takes its left operand from below. -/
theorem exists_evaluates_of_missing_operand :
    let t : LinkedTree Cells Term :=
      ⟨⟨⟨#[some ⟨none, none, some 1, .operator .sub⟩, some ⟨some 0, none, none, .number 3⟩]⟩⟩,
        some 0, 1⟩
    let s : Stack Int 4 := (Stack.empty.push 5).state
    (Forest.run {} [.create 0, .insert 0 (.above .left) .null (.operator .sub),
      .insert 0 (.below .right .left) ⟨some 0, 1⟩ (.number 3)]).trees[0]? = some t ∧
    t.resolve ⟨some 0, 1⟩ = .ok (0, ⟨none, none, some 1, .operator .sub⟩) ∧
    (t.eval ⟨some 0, 1⟩ s).2.toList = [2] ∧
    ∃ u, t.Hosts ⟨some 0, 1⟩ u ∧ (∀ u', t.Hosts ⟨some 0, 1⟩ u' → u' = u) ∧
      t.Evaluates ⟨some 0, 1⟩ s u.payloads.postorder := by
  intro t s
  have held : (Forest.run {} [.create 0, .insert 0 (.above .left) .null (.operator .sub),
      .insert 0 (.below .right .left) ⟨some 0, 1⟩ (.number 3)]).trees[0]? = some t := rfl
  have accepted : t.resolve ⟨some 0, 1⟩ = .ok (0, ⟨none, none, some 1, .operator .sub⟩) := rfl
  have left : (t.eval ⟨some 0, 1⟩ s).2.toList = [2] := by decide
  exact ⟨held, accepted, left, exists_evaluates_of_run _ held (.inr ⟨_, _, accepted⟩) s⟩

end LinkedTree

end Substrate
