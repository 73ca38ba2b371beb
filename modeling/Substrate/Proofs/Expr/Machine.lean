import Substrate.Expr.Eval
import Substrate.Stack.View

/-!
# Substrate.Proofs.Expr.Machine

A machine on lists of values, and that the terms of a stack follow it. `ListMachine.step` says in
five lines what one term does, `ListMachine.run` goes through a list of terms up to the first
failure. Running terms on a stack comes out as the machine does on the stack's list of elements
(`view_executeAll`), so a run is judged without slots and sizes: it fails on the stack or on
arithmetic only (`ListMachine.run_ne_tree`), and a run that goes through adds a value for each
number and takes one for each operator (`ListMachine.length_run`).
-/

namespace Substrate

def Term.isNumber : Term → Bool
  | number _ => true
  | operator _ => false

/-! ## The machine -/

namespace ListMachine

/-- What one term does to the values, the top first, when `capacity` of them have room. -/
def step (capacity : Nat) (vs : List Int) : Term → Except Failure Unit × List Int
  | .number n =>
    if vs.length < capacity then (.ok (), n :: vs)
    else (.error (.stack (.overflow capacity)), vs)
  | .operator op =>
    match vs with
    | [] => (.error (.stack .empty), [])
    | [_] => (.error (.stack .empty), [])
    | right :: left :: rest =>
      if FitsWord (op.exact left right) then (.ok (), op.exact left right :: rest)
      else (.error (.arithmetic ⟨op⟩), left :: rest)

/-- Goes through the terms from left to right, up to the first failure. -/
def run (capacity : Nat) (vs : List Int) : List Term → Except Failure Unit × List Int
  | [] => (.ok (), vs)
  | t :: ts =>
    match step capacity vs t with
    | (.ok _, vs) => run capacity vs ts
    | (.error e, vs) => (.error e, vs)

variable {capacity : Nat}

/-- A term on its own causes no tree error. -/
theorem step_ne_tree (capacity : Nat) (vs : List Int) (t : Term) (e : TreeError) :
    (step capacity vs t).1 ≠ .error (.tree e) := by
  cases t with
  | number n =>
    rw [step]
    split <;> simp
  | operator op =>
    match vs with
    | [] => simp [step]
    | [_] => simp [step]
    | right :: left :: rest =>
      rw [step]
      split <;> simp

/-- No run fails for a reason that has to do with trees. -/
theorem run_ne_tree (vs : List Int) (ts : List Term) (e : TreeError) :
    (run capacity vs ts).1 ≠ .error (.tree e) := by
  induction ts generalizing vs with
  | nil => simp [run]
  | cons t ts ih =>
    have first := step_ne_tree capacity vs t e
    rw [run]
    rcases stepped : step capacity vs t with ⟨failure | done, vs'⟩
    · rw [stepped] at first
      exact first
    · exact ih vs'

/-- A run of more terms goes on where a run of the first ones ends. -/
theorem run_append_of_ok {vs ws : List Int} {ts : List Term}
    (done : run capacity vs ts = (.ok (), ws)) (us : List Term) :
    run capacity vs (ts ++ us) = run capacity ws us := by
  induction ts generalizing vs with
  | nil =>
    cases done
    rfl
  | cons t ts ih =>
    rw [run] at done
    rw [List.cons_append, run]
    rcases stepped : step capacity vs t with ⟨failure | _, vs'⟩
    · rw [stepped] at done
      cases done
    · rw [stepped] at done
      exact ih done

/-- A run of more terms ends where a run of the first ones fails. -/
theorem run_append_of_error {vs : List Int} {ts : List Term} {e : Failure}
    (failed : (run capacity vs ts).1 = .error e) (us : List Term) :
    run capacity vs (ts ++ us) = run capacity vs ts := by
  induction ts generalizing vs with
  | nil => cases failed
  | cons t ts ih =>
    rw [run] at failed
    rw [List.cons_append, run, run]
    rcases stepped : step capacity vs t with ⟨failure | _, vs'⟩
    · rfl
    · rw [stepped] at failed
      exact ih failed

/-- A number makes the stack longer by one, an operator shorter. -/
theorem length_step (capacity : Nat) (vs : List Int) (t : Term)
    (done : (step capacity vs t).1 = .ok ()) :
    (step capacity vs t).2.length + [t].countP (!·.isNumber) =
      vs.length + [t].countP (·.isNumber) := by
  cases t with
  | number n =>
    rw [step] at done ⊢
    split at done
    · next room => simp [room, Term.isNumber]
    · simp at done
  | operator op =>
    match vs with
    | [] => simp [step] at done
    | [_] => simp [step] at done
    | right :: left :: rest =>
      rw [step] at done ⊢
      split at done
      · next fits => simp [fits, Term.isNumber]
      · simp at done

/-- A run that goes through adds a value for each number and takes one for each operator. -/
theorem length_run {vs : List Int} {ts : List Term} (done : (run capacity vs ts).1 = .ok ()) :
    (run capacity vs ts).2.length + ts.countP (!·.isNumber) =
      vs.length + ts.countP (·.isNumber) := by
  induction ts generalizing vs with
  | nil => rfl
  | cons t ts ih =>
    have first := length_step capacity vs t
    rw [run] at done ⊢
    rcases stepped : step capacity vs t with ⟨failure | _, vs'⟩
    · rw [stepped] at done
      simp at done
    · rw [stepped] at done first
      have rest := ih done
      have here := first rfl
      simp only [List.countP_cons, List.countP_nil] at here ⊢
      omega

end ListMachine

/-! ## Stacks follow the machine -/

namespace Progress

variable {capacity : Nat}

/-- How far work came, with the stack seen as the list of its elements. -/
def view (p : Progress capacity) : Except Failure Unit × List Int := (p.1, p.2.toList)

theorem andThen_assoc (p : Progress capacity) (f g : Stack Int capacity → Progress capacity) :
    (p.andThen f).andThen g = p.andThen fun s => (f s).andThen g := by
  rcases p with ⟨failure | _, s⟩
  · rfl
  · rfl

end Progress

namespace Term

variable {capacity : Nat}

theorem executeAll_singleton (s : Stack Int capacity) (t : Term) :
    executeAll s [t] = t.execute s := by
  rw [executeAll]
  rcases t.execute s with ⟨failure | _, s'⟩
  · rfl
  · rfl

theorem pop_eq (s : Stack Int capacity) :
    s.pop.reply = match s.toList with
      | [] => .error .empty
      | v :: _ => .ok v := by
  unfold Stack.pop
  split
  · next h =>
    rw [s.toList_eq_cons h]
    rfl
  · next h =>
    rw [Stack.toList_eq_nil h]
    rfl

/-- An operator acts on the view as on a list of numbers. -/
theorem view_operate (op : Operator) (s : Stack Int capacity) :
    (operate op s).view = ListMachine.step capacity s.toList (.operator op) := by
  have popped := pop_eq s
  have left := s.pop.state.top_eq
  have below := s.toList_pop
  unfold operate
  match values : s.toList with
  | [] =>
    rw [values] at popped below
    simp only [popped, Progress.view, below]
    rfl
  | [right] =>
    rw [values] at popped below
    rw [below] at left
    simp only [popped, left, List.tail_cons, Progress.view, below, ListMachine.step]
  | right :: left' :: rest =>
    rw [values] at popped below
    rw [below] at left
    simp only [popped, left, List.tail_cons, Operator.apply, ListMachine.step]
    by_cases fits : FitsWord (op.exact left' right)
    · simp only [if_pos fits, Progress.view, Stack.toList_modifyTop, below, List.tail_cons,
        List.modifyHead_cons]
    · simp only [if_neg fits, Progress.view, below, List.tail_cons]

/-- One term does to a stack what the machine does to its values. -/
theorem view_execute (s : Stack Int capacity) (t : Term) :
    (t.execute s).view = ListMachine.step capacity s.toList t := by
  cases t with
  | operator op => exact view_operate op s
  | number n =>
    rw [execute, ListMachine.step, Stack.length_toList]
    unfold Stack.push
    by_cases room : s.size < capacity
    · simp [room, Progress.view]
    · simp [room, Progress.view]

/-- Terms in a row do to a stack what the machine does to its values. -/
theorem view_executeAll (s : Stack Int capacity) (ts : List Term) :
    (executeAll s ts).view = ListMachine.run capacity s.toList ts := by
  induction ts generalizing s with
  | nil => rfl
  | cons t ts ih =>
    rw [executeAll, ListMachine.run, ← view_execute]
    rcases t.execute s with ⟨failure | _, s'⟩
    · rfl
    · exact ih s'

end Term

end Substrate
