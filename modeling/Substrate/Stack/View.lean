import Substrate.Stack.Basic

/-!
# Substrate.Stack.View

What the operations of a stack do to the list of its elements, the top first. A push conses
(`toList_push`), a pop takes the tail (`toList_pop`), clearing destroys the list in order
(`destroyed_clear`), and assigning replaces the front of the list (`toList_assign`).
-/

namespace Substrate

namespace Stack

variable {α : Type} {capacity : Nat}

/-! ## Slots -/

theorem slot_place (s : Stack α capacity) (room : s.size < capacity) (v : α) (i : Nat) :
    (s.place room v).slot i = if i = s.size then some v else s.slot i := by
  simp only [slot, place, Vector.getElem?_set]
  by_cases same : s.size = i
  · subst same
    simp
  · simp [same, Ne.symm same]

@[simp] theorem slot_lower (s : Stack α capacity) (i : Nat) : s.lower.slot i = s.slot i := rfl

theorem slot_overwrite (s : Stack α capacity) (i : Nat) (h : i < s.size) (v : α) (j : Nat) :
    (s.overwrite i h v).slot j = if j = i then some v else s.slot j := by
  simp only [slot, overwrite, Vector.getElem?_set]
  by_cases same : i = j
  · subst same
    simp
  · simp [same, Ne.symm same]

/-! ## The view -/

theorem slot_eq_some_get (s : Stack α capacity) (i : Nat) (h : i < s.size) :
    s.slot i = some (s.get i h) := (Option.some_get _).symm

theorem lowest_succ (s : Stack α capacity) (n : Nat) (h : n < s.size) :
    s.lowest (n + 1) = s.get n h :: s.lowest n := by
  rw [lowest, slot_eq_some_get s n h]
  rfl

theorem length_lowest (s : Stack α capacity) (n : Nat) (h : n ≤ s.size) :
    (s.lowest n).length = n := by
  induction n with
  | zero => rfl
  | succ n ih => rw [s.lowest_succ n h, List.length_cons, ih (Nat.le_of_succ_le h)]

@[simp] theorem length_toList (s : Stack α capacity) : s.toList.length = s.size :=
  s.length_lowest s.size (Nat.le_refl _)

/-- Only the slots below `n` matter for what the lowest `n` hold. -/
theorem lowest_congr {s t : Stack α capacity} (n : Nat) (same : ∀ i < n, s.slot i = t.slot i) :
    s.lowest n = t.lowest n := by
  induction n with
  | zero => rfl
  | succ n ih => rw [lowest, lowest, same n (Nat.lt_succ_self n), ih fun i h => same i (by omega)]

@[simp] theorem toList_empty : (empty : Stack α capacity).toList = [] := rfl

theorem toList_eq_nil {s : Stack α capacity} (h : ¬ 0 < s.size) : s.toList = [] := by
  rw [← List.length_eq_zero_iff, length_toList]
  omega

theorem toList_eq_cons (s : Stack α capacity) (h : 0 < s.size) :
    s.toList = s.get (s.size - 1) (Nat.sub_one_lt_of_lt h) :: s.lower.toList := by
  have top := s.lowest_succ (s.size - 1) (by omega)
  rw [Nat.sub_add_cancel h] at top
  exact top.trans (congrArg _ (lowest_congr _ fun i _ => rfl))

@[simp] theorem toList_place (s : Stack α capacity) (room : s.size < capacity) (v : α) :
    (s.place room v).toList = v :: s.toList := by
  have kept : (s.place room v).lowest s.size = s.lowest s.size :=
    lowest_congr _ fun i h => by rw [slot_place, if_neg (by omega)]
  rw [toList, size_place, lowest, slot_place, if_pos rfl, kept]
  rfl

@[simp] theorem toList_lower (s : Stack α capacity) : s.lower.toList = s.toList.tail := by
  by_cases h : 0 < s.size
  · rw [s.toList_eq_cons h, List.tail_cons]
  · rw [toList_eq_nil h, toList_eq_nil (by simp; omega), List.tail_nil]

theorem top_eq (s : Stack α capacity) :
    s.top = match s.toList with
      | [] => .error .empty
      | v :: _ => .ok v := by
  unfold top
  split
  · next h => rw [s.toList_eq_cons h]
  · next h => rw [toList_eq_nil h]

/-- A push onto a stack with room conses, a push onto a full stack changes nothing. -/
theorem toList_push (s : Stack α capacity) (v : α) :
    (s.push v).state.toList = if s.size < capacity then v :: s.toList else s.toList := by
  unfold push
  split <;> simp [*]

theorem toList_pop (s : Stack α capacity) : s.pop.state.toList = s.toList.tail := by
  unfold pop
  split
  · simp
  · next h => simp [toList_eq_nil h]

theorem toList_discard (s : Stack α capacity) : s.discard.state.toList = s.toList.tail := by
  unfold discard
  split
  · simp
  · next h => simp [toList_eq_nil h]

/-- Replacing the top replaces the head of the view. -/
theorem toList_modifyTop (s : Stack α capacity) (f : α → α) :
    (s.modifyTop f).state.toList = s.toList.modifyHead f := by
  unfold modifyTop
  split
  · next h =>
    have lt := Nat.sub_one_lt_of_lt h
    have view : ∀ v, (s.overwrite (s.size - 1) lt v).toList = v :: s.lower.toList := by
      intro v
      rw [toList_eq_cons (s.overwrite (s.size - 1) lt v) h]
      congr 1
      · simp [get, slot_overwrite]
      · refine lowest_congr _ fun i hi => ?_
        simp only [size_lower, size_overwrite] at hi
        rw [slot_lower, slot_lower, slot_overwrite, if_neg (by omega)]
    rw [view, s.toList_eq_cons h, List.modifyHead_cons]
  · next h => simp [toList_eq_nil h]

/-! ## The view under operations on all elements -/

theorem destroyed_discardMany (s : Stack α capacity) (n : Nat) :
    (s.discardMany n).destroyed = s.toList.take n := by
  induction n generalizing s with
  | zero => simp [discardMany]
  | succ n ih =>
    simp only [discardMany, ih, toList_discard]
    unfold discard
    split
    · next h => rw [s.toList_eq_cons h]; simp
    · next h => simp [toList_eq_nil h]

theorem toList_discardMany (s : Stack α capacity) (n : Nat) :
    (s.discardMany n).state.toList = s.toList.drop n := by
  induction n generalizing s with
  | zero => simp [discardMany]
  | succ n ih =>
    simp only [discardMany, ih, toList_discard, ← List.drop_one, List.drop_drop]
    rw [Nat.add_comm]

/-- Clearing destroys the elements from the top down to the base. -/
theorem destroyed_clear (s : Stack α capacity) : s.clear.destroyed = s.toList := by
  rw [clear, destroyed_discardMany, ← length_toList, List.take_length]

theorem toList_clear (s : Stack α capacity) : s.clear.state.toList = [] := by
  rw [clear, toList_discardMany, ← length_toList, List.drop_length]

@[simp] theorem size_assignLowest (s : Stack α capacity) (n : Nat) (h : n ≤ s.size)
    (vs : List α) : (s.assignLowest n h vs).state.size = s.size := by
  induction n generalizing s vs with
  | zero => rfl
  | succ n ih =>
    cases vs with
    | nil => rfl
    | cons v vs => exact ih (s.overwrite n h v) (Nat.le_of_succ_le h) vs

/-- Assigning to the lowest elements leaves the others alone. -/
theorem slot_assignLowest_of_le (s : Stack α capacity) (n : Nat) (h : n ≤ s.size) (vs : List α)
    (j : Nat) (above : n ≤ j) : (s.assignLowest n h vs).state.slot j = s.slot j := by
  induction n generalizing s vs with
  | zero => rfl
  | succ n ih =>
    cases vs with
    | nil => rfl
    | cons v vs =>
      have rest := ih (s.overwrite n h v) (Nat.le_of_succ_le h) vs (Nat.le_of_succ_le above)
      rw [slot_overwrite, if_neg (by omega)] at rest
      exact rest

theorem lowest_assignLowest (s : Stack α capacity) (n : Nat) (h : n ≤ s.size) (vs : List α) :
    (s.assignLowest n h vs).state.lowest n = vs.take n ++ (s.lowest n).drop vs.length := by
  induction n generalizing s vs with
  | zero => simp [lowest]
  | succ n ih =>
    cases vs with
    | nil => rfl
    | cons v vs =>
      have top := slot_assignLowest_of_le (s.overwrite n h v) n (Nat.le_of_succ_le h) vs n
        (Nat.le_refl n)
      have rest := ih (s.overwrite n h v) (Nat.le_of_succ_le h) vs
      have kept : (s.overwrite n h v).lowest n = s.lowest n :=
        lowest_congr n fun i hi => by rw [slot_overwrite, if_neg (by omega)]
      rw [slot_overwrite, if_pos rfl] at top
      rw [kept] at rest
      rw [s.lowest_succ n h, List.take_succ_cons, List.length_cons, List.drop_succ_cons, lowest]
      simp only [assignLowest, top, rest]
      rfl

/-- Assigning replaces as many elements as there are payloads for, from the top down. -/
theorem toList_assign (s : Stack α capacity) (vs : List α) :
    (s.assign vs).state.toList = vs.take s.size ++ s.toList.drop vs.length := by
  rw [toList, assign, size_assignLowest]
  exact s.lowest_assignLowest s.size (Nat.le_refl _) vs

/-- The payloads that assigning replaces are destroyed in the same order. -/
theorem destroyed_assignLowest (s : Stack α capacity) (n : Nat) (h : n ≤ s.size) (vs : List α) :
    (s.assignLowest n h vs).destroyed = (s.lowest n).take vs.length := by
  induction n generalizing s vs with
  | zero => simp [lowest, assignLowest]
  | succ n ih =>
    cases vs with
    | nil => simp [assignLowest]
    | cons v vs =>
      have kept : (s.overwrite n h v).lowest n = s.lowest n :=
        lowest_congr n fun i hi => by rw [slot_overwrite, if_neg (by omega)]
      rw [assignLowest, s.lowest_succ n h, List.length_cons, List.take_succ_cons]
      exact congrArg _ ((ih (s.overwrite n h v) (Nat.le_of_succ_le h) vs).trans (by rw [kept]))

theorem destroyed_assign (s : Stack α capacity) (vs : List α) :
    (s.assign vs).destroyed = s.toList.take vs.length :=
  s.destroyed_assignLowest s.size (Nat.le_refl _) vs

end Stack

end Substrate
