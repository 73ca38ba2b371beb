import Substrate.Proofs.Expr.Machine

/-!
# Substrate.Proofs.Expr.Value

Expressions and their values. Running the terms of an expression in post-order pushes its value, or
runs out of room (`Computes.run`). So among other terms a number can stand in for an expression of
that value (`Computes.executeAll_value`): the runs differ at most in that the one with the number
gets past an overflow within the expression.
-/

namespace Substrate

variable {capacity : Nat}

/-- The shape is an expression of value `v`: its operators have both operands, its numbers have
none, and no operator's exact result is out of range. -/
inductive Computes : Shape Term → Int → Prop where
  | number (n : Int) : Computes (.node (.number n) .nil .nil) n
  | operator {op : Operator} {l r : Shape Term} {v w : Int} (left : Computes l v)
    (right : Computes r w) (fits : FitsWord (op.exact v w)) :
    Computes (.node (.operator op) l r) (op.exact v w)

namespace Term

theorem execute_number_of_room {s : Stack Int capacity} (room : s.size < capacity) (n : Int) :
    execute s (.number n) = (.ok (), (s.push n).state) := by
  rw [execute, Stack.push, dif_pos room]
  rfl

theorem execute_number_of_full {s : Stack Int capacity} (full : ¬ s.size < capacity) (n : Int) :
    execute s (.number n) = (.error (.stack (.overflow capacity)), s) := by
  rw [execute, Stack.push, dif_neg full]

end Term

namespace Computes

open ListMachine

variable {u : Shape Term} {v : Int}

/-- Post-order meets a number first. -/
theorem exists_number (computes : Computes u v) : ∃ n rest, u.postorder = .number n :: rest := by
  induction computes with
  | number n => exact ⟨n, [], rfl⟩
  | operator _ _ _ ihl _ =>
    obtain ⟨n, rest, first⟩ := ihl
    rw [Shape.postorder, first]
    exact ⟨n, _, rfl⟩

/-- Without room nothing of an expression is run. -/
theorem run_of_full (computes : Computes u v) {vs : List Int} (full : ¬ vs.length < capacity) :
    run capacity vs u.postorder = (.error (.stack (.overflow capacity)), vs) := by
  obtain ⟨n, rest, first⟩ := computes.exists_number
  rw [first, ListMachine.run, step, if_neg full]

/-- The terms of an expression push its value, or they overflow. -/
theorem run (computes : Computes u v) (vs : List Int) :
    run capacity vs u.postorder = (.ok (), v :: vs) ∨
      (ListMachine.run capacity vs u.postorder).1 = .error (.stack (.overflow capacity)) := by
  induction computes generalizing vs with
  | number n =>
    by_cases room : vs.length < capacity
    · left
      simp [Shape.postorder, ListMachine.run, step, room]
    · right
      simp [Shape.postorder, ListMachine.run, step, room]
  | @operator op l r v w _ _ fits ihl ihr =>
    rw [Shape.postorder, List.append_assoc]
    rcases ihl vs with left | left
    · rw [run_append_of_ok left]
      rcases ihr (v :: vs) with right | right
      · left
        rw [run_append_of_ok right]
        simp [ListMachine.run, step, fits]
      · right
        rw [run_append_of_error right]
        exact right
    · right
      rw [run_append_of_error left]
      exact left

/-! ## On a stack -/

/-- Running an expression pushes its value, or it overflows. -/
theorem executeAll (computes : Computes u v) (s : Stack Int capacity) :
    (∃ s', Term.executeAll s u.postorder = (.ok (), s') ∧ s'.toList = v :: s.toList) ∨
      (Term.executeAll s u.postorder).1 = .error (.stack (.overflow capacity)) := by
  have view := Term.view_executeAll s u.postorder
  rcases computes.run s.toList with done | overflows
  · rw [done] at view
    left
    rcases ran : Term.executeAll s u.postorder with ⟨failure | _, s'⟩
    · rw [ran] at view
      cases congrArg Prod.fst view
    · rw [ran] at view
      exact ⟨s', rfl, congrArg Prod.snd view⟩
  · rw [← view] at overflows
    exact .inr overflows

/-- A full stack is left as it is. -/
theorem executeAll_of_full (computes : Computes u v) {s : Stack Int capacity}
    (full : ¬ s.size < capacity) :
    ∃ s', Term.executeAll s u.postorder = (.error (.stack (.overflow capacity)), s') ∧
      s'.toList = s.toList := by
  have view := Term.view_executeAll s u.postorder
  rw [computes.run_of_full (s.length_toList.symm ▸ full)] at view
  have failed : (Term.executeAll s u.postorder).1 = .error (.stack (.overflow capacity)) :=
    congrArg Prod.fst view
  exact ⟨_, Prod.ext failed rfl, congrArg Prod.snd view⟩

/-- In a run of terms a number can stand in for an expression of that value, unless the expression
overflows where there is room for the number. -/
theorem executeAll_value (computes : Computes u v) (s : Stack Int capacity)
    (before after : List Term) :
    (Term.executeAll s (before ++ [.number v] ++ after)).view =
        (Term.executeAll s (before ++ u.postorder ++ after)).view ∨
      ∃ s' : Stack Int capacity, Term.executeAll s before = (.ok (), s') ∧ s'.size < capacity ∧
        (Term.executeAll s' u.postorder).1 = .error (.stack (.overflow capacity)) ∧
        Term.executeAll s (before ++ u.postorder ++ after) = Term.executeAll s' u.postorder ∧
        Term.executeAll s (before ++ [.number v] ++ after) =
          Term.executeAll (s'.push v).state after := by
  simp only [Term.executeAll_append, Term.executeAll_singleton]
  rcases Term.executeAll s before with ⟨failure | _, s'⟩
  · exact .inl rfl
  by_cases room : s'.size < capacity
  · rcases computes.executeAll s' with ⟨s'', done, values⟩ | overflows
    · left
      have same : (s'.push v).state.toList = s''.toList := by
        rw [Stack.toList_push, if_pos room, values]
      simp only [Progress.andThen, Term.execute_number_of_room room, done, Term.view_executeAll,
        same]
    · right
      refine ⟨s', rfl, room, overflows, ?_, ?_⟩
      · simp only [Progress.andThen, overflows]
        exact Prod.ext overflows.symm rfl
      · simp only [Progress.andThen, Term.execute_number_of_room room]
  · left
    obtain ⟨s'', overflows, values⟩ := computes.executeAll_of_full room
    simp only [Progress.andThen, Term.execute_number_of_full room, overflows, Progress.view, values]

end Computes

end Substrate
