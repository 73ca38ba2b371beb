import Substrate.Proofs.Expr.Evaluation
import Substrate.Proofs.Expr.Value

/-!
# Substrate.Proofs.Expr.Room

How much room on the stack an expression takes up, and what its evaluation comes to. The left
operand is done before the right one is begun, and leaves one value, so the right operand has one
place less (`Shape.need`). With that much room an expression pushes its value, and with less it
overflows (`Computes.run_iff`). Where an exact result is out of range, the first operator in
post-order of which this is true fails (`IsExpression.run_of_firstOut`). No operator of an
expression lacks an operand (`IsExpression.run_ne_empty`).

The main result is `takesRoom_of_run`, for all trees that commands have made.
-/

namespace Substrate

variable {S : Type → Type} [SlotMap S] {capacity : Nat}

/-! ## Expressions -/

namespace Shape

/-- The operators have both operands, and the numbers have none. -/
inductive IsExpression : Shape Term → Prop where
  | number (n : Int) : IsExpression (.node (.number n) .nil .nil)
  | operator (op : Operator) {l r : Shape Term} (left : IsExpression l) (right : IsExpression r) :
    IsExpression (.node (.operator op) l r)

/-- The exact value of an expression, in range or not. -/
def value : Shape Term → Int
  | nil => 0
  | node (.number n) _ _ => n
  | node (.operator op) l r => op.exact l.value r.value

/-- The most values that the evaluation of an expression puts on the stack at one time. -/
def need : Shape Term → Nat
  | nil => 0
  | node (.number _) _ _ => 1
  | node (.operator _) l r => max l.need (1 + r.need)

/-- The operators in post-order, each with its exact result. -/
def results : Shape Term → List (Operator × Int)
  | nil => []
  | node (.number _) l r => l.results ++ r.results
  | node (.operator op) l r => l.results ++ r.results ++ [(op, op.exact l.value r.value)]

/-- All exact results are in range. -/
def InRange (u : Shape Term) : Prop := ∀ x ∈ u.results, FitsWord x.2

/-- The first operator in post-order whose exact result is out of range. -/
def firstOut? (u : Shape Term) : Option Operator :=
  (u.results.find? fun x => !decide (FitsWord x.2)).map Prod.fst

/-- What goes out of range in the operands comes before the operator. -/
theorem firstOut?_operator (op : Operator) (l r : Shape Term) :
    (node (.operator op) l r).firstOut? = (l.firstOut?.or r.firstOut?).or
      (if FitsWord (op.exact l.value r.value) then none else some op) := by
  simp only [firstOut?, results, List.find?_append, Option.map_or]
  split <;> simp [*]

/-- No operator is out of range if all values are in range. -/
theorem firstOut?_eq_none_iff {u : Shape Term} : u.firstOut? = none ↔ u.InRange := by
  simp [firstOut?, InRange]

end Shape

open Shape ListMachine

/-! ## Expressions in range -/

/-- An expression in range computes its exact value. -/
theorem Shape.IsExpression.computes {u : Shape Term} (expression : u.IsExpression)
    (inRange : u.firstOut? = none) : Computes u u.value := by
  induction expression with
  | number n => exact .number n
  | operator op _ _ ihl ihr =>
    rw [firstOut?_operator, Option.or_eq_none_iff, Option.or_eq_none_iff] at inRange
    obtain ⟨⟨left, right⟩, here⟩ := inRange
    refine .operator (ihl left) (ihr right) ?_
    split at here
    · assumption
    · cases here

/-- There is room for an expression exactly when its value is pushed. -/
theorem Computes.run_iff {u : Shape Term} {v : Int} (computes : Computes u v) (vs : List Int) :
    ListMachine.run capacity vs u.postorder = (.ok (), v :: vs) ↔
      vs.length + u.need ≤ capacity := by
  induction computes generalizing vs with
  | number n =>
    rw [Shape.postorder, Shape.need]
    by_cases room : vs.length < capacity
    · have enough : vs.length + 1 ≤ capacity := room
      simp [Shape.postorder, ListMachine.run, step, room, enough]
    · have little : ¬ vs.length + 1 ≤ capacity := room
      simp [Shape.postorder, ListMachine.run, step, room, little]
  | @operator op l r v w left right fits ihl ihr =>
    rw [Shape.postorder, Shape.need, List.append_assoc]
    by_cases roomL : vs.length + l.need ≤ capacity
    · rw [run_append_of_ok ((ihl vs).2 roomL)]
      by_cases roomR : (v :: vs).length + r.need ≤ capacity
      · rw [run_append_of_ok ((ihr (v :: vs)).2 roomR)]
        rw [List.length_cons] at roomR
        simp [ListMachine.run, step, fits]
        omega
      · have overflows := (right.run (v :: vs)).resolve_left (mt (ihr (v :: vs)).1 roomR)
        rw [run_append_of_error overflows]
        rw [List.length_cons] at roomR
        constructor
        · intro done
          rw [done] at overflows
          cases overflows
        · omega
    · have overflows := (left.run vs).resolve_left (mt (ihl vs).1 roomL)
      rw [run_append_of_error overflows]
      constructor
      · intro done
        rw [done] at overflows
        cases overflows
      · omega

/-! ## Expressions out of range -/

/-- With room enough, the first operator that is out of range fails. -/
theorem Shape.IsExpression.run_of_firstOut {u : Shape Term} (expression : u.IsExpression)
    {op : Operator} (out : u.firstOut? = some op) {vs : List Int}
    (room : vs.length + u.need ≤ capacity) :
    (ListMachine.run capacity vs u.postorder).1 = .error (.arithmetic ⟨op⟩) := by
  induction expression generalizing vs with
  | number n => cases out
  | @operator top l r left right ihl ihr =>
    rw [Shape.need] at room
    have roomL : vs.length + l.need ≤ capacity := by omega
    have roomR : (l.value :: vs).length + r.need ≤ capacity := by
      rw [List.length_cons]
      omega
    rw [firstOut?_operator] at out
    rw [Shape.postorder, List.append_assoc]
    cases outL : l.firstOut? with
    | some first =>
      rw [outL] at out
      cases out
      have failed := ihl outL roomL
      rw [run_append_of_error failed]
      exact failed
    | none =>
      rw [run_append_of_ok (((left.computes outL).run_iff vs).2 roomL)]
      cases outR : r.firstOut? with
      | some first =>
        rw [outL, outR] at out
        cases out
        have failed := ihr outR roomR
        rw [run_append_of_error failed]
        exact failed
      | none =>
        rw [run_append_of_ok (((right.computes outR).run_iff _).2 roomR)]
        rw [outL, outR, Option.or_none, Option.none_or] at out
        split at out
        · cases out
        · next unfit =>
          cases out
          simp [ListMachine.run, step, unfit]

/-! ## Operands -/

/-- An expression leaves one value on those that were there, or its run has failed for want of room
or because a result is out of range. -/
theorem Shape.IsExpression.run_cases {u : Shape Term} (expression : u.IsExpression)
    (capacity : Nat) (vs : List Int) :
    (∃ v, ListMachine.run capacity vs u.postorder = (.ok (), v :: vs)) ∨
      ∃ e, (ListMachine.run capacity vs u.postorder).1 = .error e ∧ e ≠ .stack .empty := by
  induction expression generalizing vs with
  | number n =>
    by_cases room : vs.length < capacity
    · exact .inl ⟨n, by simp [Shape.postorder, ListMachine.run, step, room]⟩
    · exact .inr ⟨.stack (.overflow capacity),
        by simp [Shape.postorder, ListMachine.run, step, room], by simp⟩
  | @operator op l r _ _ ihl ihr =>
    rw [Shape.postorder, List.append_assoc]
    rcases ihl vs with ⟨v, left⟩ | ⟨e, left, notEmpty⟩
    · rw [run_append_of_ok left]
      rcases ihr (v :: vs) with ⟨w, right⟩ | ⟨e, right, notEmpty⟩
      · rw [run_append_of_ok right]
        by_cases fits : FitsWord (op.exact v w)
        · exact .inl ⟨op.exact v w, by simp [ListMachine.run, step, fits]⟩
        · exact .inr ⟨.arithmetic ⟨op⟩, by simp [ListMachine.run, step, fits], by simp⟩
      · rw [run_append_of_error right]
        exact .inr ⟨e, right, notEmpty⟩
    · rw [run_append_of_error left]
      exact .inr ⟨e, left, notEmpty⟩

/-- An expression never takes an operand from an empty stack. -/
theorem Shape.IsExpression.run_ne_empty {u : Shape Term} (expression : u.IsExpression)
    (vs : List Int) :
    (ListMachine.run capacity vs u.postorder).1 ≠ .error (.stack .empty) := by
  rcases expression.run_cases capacity vs with ⟨v, done⟩ | ⟨e, failed, notEmpty⟩
  · rw [done]
    simp
  · rw [failed]
    simpa using notEmpty

/-! ## Evaluation on a stack -/

namespace LinkedTree

/-- What the evaluation of a tree comes to from the stack `s`, if the tree is the expression `u`. -/
structure TakesRoom (t : LinkedTree S Term) (u : Shape Term) (s : Stack Int capacity) : Prop where
  /-- An expression in range is evaluated exactly where it has the room. -/
  ok_iff : u.InRange → ((t.eval t.root s).1 = .ok () ↔ s.size + u.need ≤ capacity)
  /-- Then its value lies on what was on the stack before. -/
  values : u.InRange → (t.eval t.root s).1 = .ok () →
    (t.eval t.root s).2.toList = u.value :: s.toList
  overflows : u.InRange → capacity < s.size + u.need →
    (t.eval t.root s).1 = .error (.stack (.overflow capacity))
  notEmpty : (t.eval t.root s).1 ≠ .error (.stack .empty)
  /-- Where there is room, the first operator that is out of range fails. -/
  fails : ¬ u.InRange → s.size + u.need ≤ capacity →
    ∃ op, u.firstOut? = some op ∧ (t.eval t.root s).1 = .error (.arithmetic ⟨op⟩)

/-- Evaluating a tree of an expression takes the room that it needs. -/
theorem HasShape.takesRoom {t : LinkedTree S Term} {d : Shape (Key × Term)} (h : t.HasShape d)
    (expression : d.payloads.IsExpression) (s : Stack Int capacity) :
    t.TakesRoom d.payloads s := by
  have view : (t.eval t.root s).view = ListMachine.run capacity s.toList d.payloads.postorder := by
    rw [h.eval_root, Term.view_executeAll]
  have result : (t.eval t.root s).1 = (ListMachine.run capacity s.toList d.payloads.postorder).1 :=
    congrArg Prod.fst view
  have left : (t.eval t.root s).2.toList =
      (ListMachine.run capacity s.toList d.payloads.postorder).2 := congrArg Prod.snd view
  have size : s.toList.length = s.size := s.length_toList
  -- An expression in range pushes its value, or it overflows for want of room.
  have outcome : d.payloads.InRange →
      (ListMachine.run capacity s.toList d.payloads.postorder =
          (.ok (), d.payloads.value :: s.toList) ∧ s.size + d.payloads.need ≤ capacity) ∨
        ((ListMachine.run capacity s.toList d.payloads.postorder).1 =
          .error (.stack (.overflow capacity)) ∧ capacity < s.size + d.payloads.need) := by
    intro inRange
    have computes := expression.computes (firstOut?_eq_none_iff.2 inRange)
    have room : ListMachine.run capacity s.toList d.payloads.postorder =
        (.ok (), d.payloads.value :: s.toList) ↔ s.size + d.payloads.need ≤ capacity := by
      rw [← size]
      exact computes.run_iff s.toList
    by_cases enough : s.size + d.payloads.need ≤ capacity
    · exact .inl ⟨room.2 enough, enough⟩
    · exact .inr ⟨(computes.run s.toList).resolve_left (mt room.1 enough), Nat.lt_of_not_le enough⟩
  refine ⟨fun inRange => ?_, fun inRange done => ?_, fun inRange little => ?_, ?_,
    fun outOfRange room => ?_⟩
  · rw [result]
    rcases outcome inRange with ⟨done, enough⟩ | ⟨failed, little⟩
    · simp [done, enough]
    · simp [failed, little]
  · rw [result] at done
    rcases outcome inRange with ⟨pushed, -⟩ | ⟨failed, -⟩
    · rw [left, pushed]
    · rw [failed] at done
      cases done
  · rw [result]
    rcases outcome inRange with ⟨-, enough⟩ | ⟨failed, -⟩
    · exact absurd enough (Nat.not_le.2 little)
    · exact failed
  · rw [result]
    exact expression.run_ne_empty _
  · rw [← firstOut?_eq_none_iff] at outOfRange
    obtain ⟨op, out⟩ := Option.ne_none_iff_exists'.1 outOfRange
    rw [result]
    exact ⟨op, out, expression.run_of_firstOut out (size.symm ▸ room)⟩

/-- In whatever tree commands have made, if it is an expression, its evaluation takes up the room
that the expression needs, and comes to its exact value or to the first operator out of range. -/
theorem takesRoom_of_run (edits : List (Forest.Edit Handle Term)) {r : Nat} {t : LinkedTree S Term}
    (held : (Forest.run {} edits).trees[r]? = some t) {u : Shape (Key × Term)}
    (hosts : t.Hosts t.root u) (expression : u.payloads.IsExpression) (s : Stack Int capacity) :
    t.TakesRoom u.payloads s := by
  obtain ⟨d, shape⟩ := Forest.wellLinked_run Forest.wellLinked_init edits r t held
  obtain rfl : d = u := shape.hosts_root.unique hosts
  exact shape.takesRoom expression s

/-- A product that is the right operand needs one place more than on the left. -/
theorem takesRoom_of_right_operand :
    let edits : List (Forest.Edit Handle Term) := [.create 0,
      .insert 0 (.above .left) .null (.operator .sub),
      .insert 0 (.below .left .left) ⟨some 0, 1⟩ (.number 1),
      .insert 0 (.below .right .left) ⟨some 0, 1⟩ (.operator .mul),
      .insert 0 (.below .left .left) ⟨some 2, 1⟩ (.number 2),
      .insert 0 (.below .right .left) ⟨some 2, 1⟩ (.number 3)]
    let t : LinkedTree Cells Term :=
      ⟨⟨⟨#[some ⟨none, some 1, some 2, .operator .sub⟩, some ⟨some 0, none, none, .number 1⟩,
        some ⟨some 0, some 3, some 4, .operator .mul⟩, some ⟨some 2, none, none, .number 2⟩,
        some ⟨some 2, none, none, .number 3⟩]⟩⟩, some 0, 1⟩
    let u : Shape (Key × Term) := .node (0, .operator .sub) (.node (1, .number 1) .nil .nil)
      (.node (2, .operator .mul) (.node (3, .number 2) .nil .nil) (.node (4, .number 3) .nil .nil))
    let s : Stack Int defaultStackCapacity := (Stack.empty.push 9).state
    (Forest.run {} edits).trees[0]? = some t ∧ t.Hosts t.root u ∧ u.payloads.IsExpression ∧
      u.payloads.need = 3 ∧ u.payloads.value = -5 ∧ t.TakesRoom u.payloads s := by
  intro edits t u s
  have held : (Forest.run {} edits).trees[0]? = some t := rfl
  have hosts : t.Hosts t.root u := ⟨rfl, none, rfl, ⟨rfl, trivial, trivial⟩,
    ⟨rfl, ⟨rfl, trivial, trivial⟩, ⟨rfl, trivial, trivial⟩⟩⟩
  have expression : u.payloads.IsExpression :=
    .operator .sub (.number 1) (.operator .mul (.number 2) (.number 3))
  exact ⟨held, hosts, expression, rfl, rfl, takesRoom_of_run edits held hosts expression s⟩

end LinkedTree

end Substrate
