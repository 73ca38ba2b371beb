import Substrate.Proofs.Stack.Refinement

/-!
# Substrate.Proofs.Stack.Ownership

Where the payloads of a stack end. An `Act` is a command, or the assignment to one element that is
come across in an iteration. For each act, `ListStack.born` lists the payloads that come into being,
and `ListStack.ends` those that end, each with its `Fate`. Born payloads and elements are those that
end and the elements after the act (`ListStack.balance_act`); what ends and is not moved out is what
the stack destroys, in that order (`ListStack.destroyed_act`, `mirrors_act`).

A slot at or above the top may still hold a payload that was moved out or destroyed. `Agree` says
that two stacks differ at most there; then no act tells them apart (`Agree.act`).

The main result is `settled_of_run`.
-/

namespace Substrate

variable {α : Type} {capacity : Nat}

/-- How a payload ends. -/
inductive Fate where
  /-- A pop moves it out to the caller. -/
  | moved
  /-- A full stack refuses it. -/
  | rejected
  /-- Another payload is put in its place. -/
  | overwritten
  /-- It is taken off the top. -/
  | discarded
  /-- The stack is cleared or goes out of use. -/
  | cleared
  deriving Repr, DecidableEq

namespace Fate

def isMoved : Fate → Bool
  | moved => true
  | _ => false

def destroyed (ends : List (α × Fate)) : List α := (ends.filter (!·.2.isMoved)).map Prod.fst

def movedOut (ends : List (α × Fate)) : List α := (ends.filter (·.2.isMoved)).map Prod.fst

theorem destroyed_append (xs ys : List (α × Fate)) :
    destroyed (xs ++ ys) = destroyed xs ++ destroyed ys := by
  rw [destroyed, List.filter_append, List.map_append]
  rfl

theorem movedOut_append (xs ys : List (α × Fate)) :
    movedOut (xs ++ ys) = movedOut xs ++ movedOut ys := by
  rw [movedOut, List.filter_append, List.map_append]
  rfl

theorem fst_map (f : Fate) (xs : List α) : (xs.map (·, f)).map Prod.fst = xs := by
  simp [Function.comp_def]

theorem destroyed_map (f : Fate) (xs : List α) :
    destroyed (xs.map (·, f)) = if f.isMoved then [] else xs := by
  cases f <;> simp [destroyed, isMoved, List.filter_map, Function.comp_def]

theorem movedOut_map (f : Fate) (xs : List α) :
    movedOut (xs.map (·, f)) = if f.isMoved then xs else [] := by
  cases f <;> simp [movedOut, isMoved, List.filter_map, Function.comp_def]

/-- Every payload that ends is moved out or destroyed. -/
theorem perm_ends (ends : List (α × Fate)) :
    (ends.map Prod.fst).Perm (movedOut ends ++ destroyed ends) := by
  rw [movedOut, destroyed, ← List.map_append]
  exact (List.filter_append_perm _ ends).symm.map Prod.fst

end Fate

namespace Stack

/-! ## Acts -/

/-- A use of a stack. -/
inductive Act (α : Type) where
  | command (c : CommandOf α)
  /-- Assigns to the element that has `i` others on top of it. -/
  | assignAt (i : Nat) (v : α)

/-- Assigns `v` to the element that has `i` others on top of it, if there is one. -/
def assignAt (s : Stack α capacity) (i : Nat) (v : α) : Outcome (Stack α capacity) (ReplyOf α) α :=
  if h : i < s.size then
    have below : s.size - 1 - i < s.size := by omega
    ⟨.count 1, s.overwrite (s.size - 1 - i) below v, [s.get (s.size - 1 - i) below]⟩
  else .keeping (.count 0) s

def act (shown : α → Text.Rendering) (s : Stack α capacity) :
    Act α → Outcome (Stack α capacity) (ReplyOf α) α
  | .command c => s.step shown c
  | .assignAt i v => s.assignAt i v

/-- The payload that an answer moves out to the caller. -/
def answered : Act α → ReplyOf α → List α
  | .command .pop, .value v => [v]
  | _, _ => []

end Stack

namespace ListStack

open Stack (Act ReplyOf answered)

variable (shown : α → Text.Rendering) (xs : List α)

/-- What an act does to a list of at most `capacity` elements, the top first. -/
def act (capacity : Nat) : Act α → Outcome (List α) (ReplyOf α) α
  | .command c => step shown capacity xs c
  | .assignAt i v =>
    if i < xs.length then ⟨.count 1, xs.set i v, xs[i]?.toList⟩ else .keeping (.count 0) xs

/-- The payloads that come into being with an act: what is handed in, what a constructor makes, and
what is assigned where there is an element. -/
def born (capacity : Nat) : Act α → List α
  | .command (.push v) => [v]
  | .command (.pushWith v successor) => if xs.length < capacity then v :: successor.toList else []
  | .command (.pushAll vs) => vs
  | .command (.setTop v) => if xs.isEmpty then [] else [v]
  | .command (.assign vs) => vs.take xs.length
  | .assignAt i v => if i < xs.length then [v] else []
  | .command .pop | .command .discard | .command .top | .command .clear | .command .list
  | .command .listFromBase | .command (.render _) | .command .info | .command .renew => []

/-- The payloads that end with an act, in order, and how each of them ends. -/
def ends (capacity : Nat) : Act α → List (α × Fate)
  | .command (.push v) => if xs.length < capacity then [] else [(v, .rejected)]
  | .command (.pushWith v successor) =>
    if xs.length < capacity ∧ successor.isSome then [(v, .overwritten)] else []
  | .command (.pushAll vs) => (vs.drop (capacity - xs.length)).map (·, .rejected)
  | .command .pop => (xs.take 1).map (·, .moved)
  | .command .discard => (xs.take 1).map (·, .discarded)
  | .command (.setTop _) => (xs.take 1).map (·, .overwritten)
  | .command (.assign vs) => (xs.take vs.length).map (·, .overwritten)
  | .assignAt i _ => xs[i]?.toList.map (·, .overwritten)
  | .command .clear | .command .renew => xs.map (·, .cleared)
  | .command .top | .command .list | .command .listFromBase | .command (.render _)
  | .command .info => []

variable {xs}

/-- The payload that is assigned takes the place of the one that is destroyed. -/
theorem perm_set {i : Nat} (h : i < xs.length) (v : α) :
    (v :: xs).Perm (xs[i]?.toList ++ xs.set i v) := by
  have before : xs = xs.take i ++ xs[i] :: xs.drop (i + 1) := by
    rw [List.getElem_cons_drop, List.take_append_drop]
  have others : xs.Perm (xs[i] :: (xs.take i ++ xs.drop (i + 1))) :=
    (List.Perm.of_eq before).trans List.perm_middle
  rw [List.getElem?_eq_getElem h, List.set_eq_take_append_cons_drop, if_pos h]
  exact (others.cons v).trans ((List.Perm.swap ..).trans (List.perm_middle.symm.cons _))

variable (xs)

/-- Payloads neither get lost nor double. -/
theorem balance_act (capacity : Nat) (a : Act α) :
    (born xs capacity a ++ xs).Perm
      ((ends xs capacity a).map Prod.fst ++ (act shown xs capacity a).state) := by
  cases a with
  | assignAt i v =>
    simp only [born, ends, act]
    by_cases h : i < xs.length
    · rw [if_pos h, if_pos h, Fate.fst_map]
      exact perm_set h v
    · rw [if_neg h, if_neg h, List.getElem?_eq_none (Nat.le_of_not_lt h)]
      exact List.Perm.refl _
  | command c =>
    cases c with
    | push v =>
      simp only [born, ends, act, step]
      split <;> exact List.Perm.refl _
    | pushWith v successor =>
      simp only [born, ends, act, step]
      by_cases room : xs.length < capacity
      · simp only [room, if_true, true_and]
        cases successor <;> exact List.Perm.refl _
      · simp only [room, if_false, false_and]
        exact List.Perm.refl _
    | pushAll vs =>
      simp only [born, ends, act, step, Fate.fst_map]
      have parts : vs.Perm (vs.drop (capacity - xs.length) ++
          (vs.take (capacity - xs.length)).reverse) := by
        refine (List.Perm.of_eq (List.take_append_drop (capacity - xs.length) vs).symm).trans ?_
        exact List.perm_append_comm.trans ((List.reverse_perm _).symm.append_left _)
      rw [← List.append_assoc]
      exact parts.append_right xs
    | assign vs =>
      simp only [born, ends, act, step, Fate.fst_map]
      have parts : xs = xs.take vs.length ++ xs.drop vs.length := (List.take_append_drop ..).symm
      exact (List.Perm.of_eq (congrArg (vs.take xs.length ++ ·) parts)).trans
        (List.perm_append_comm_assoc ..)
    | setTop w =>
      cases xs with
      | nil => exact List.Perm.refl _
      | cons v rest => exact List.Perm.swap ..
    | pop | discard | top => cases xs <;> exact List.Perm.refl _
    | clear | renew =>
      simp only [born, ends, act, step, Fate.fst_map, List.append_nil, List.nil_append]
      exact List.Perm.refl _
    | list | listFromBase | render spread | info => exact List.Perm.refl _

/-- What ends without being moved out is destroyed. -/
theorem destroyed_act (capacity : Nat) (a : Act α) :
    (act shown xs capacity a).destroyed = Fate.destroyed (ends xs capacity a) := by
  cases a with
  | assignAt i v =>
    simp only [ends, act, Fate.destroyed_map]
    split
    · rfl
    · next h =>
      rw [List.getElem?_eq_none (Nat.le_of_not_lt h)]
      rfl
  | command c =>
    cases c with
    | push v =>
      simp only [ends, act, step]
      split <;> rfl
    | pushWith v successor =>
      simp only [ends, act, step]
      by_cases room : xs.length < capacity
      · simp only [room, if_true, true_and]
        cases successor <;> rfl
      · simp only [room, if_false, false_and]
        rfl
    | pushAll vs | assign vs | clear | renew =>
      simp only [ends, act, step, Fate.destroyed_map]
      rfl
    | pop | discard | setTop w | top => cases xs <;> rfl
    | list | listFromBase | render spread | info => rfl

/-- What is moved out is what a pop answers. -/
theorem answered_act (capacity : Nat) (a : Act α) :
    answered a (act shown xs capacity a).reply = Fate.movedOut (ends xs capacity a) := by
  cases a with
  | assignAt i v =>
    simp only [ends, Fate.movedOut_map]
    rfl
  | command c =>
    cases c with
    | push v =>
      simp only [ends, act, step]
      split <;> rfl
    | pushWith v successor =>
      simp only [ends]
      split <;> rfl
    | pushAll vs | assign vs | clear | renew =>
      simp only [ends, Fate.movedOut_map]
      rfl
    | pop | discard | setTop w => cases xs <;> rfl
    | top | list | listFromBase | render spread | info => rfl

end ListStack

namespace Stack

/-! ## Slots -/

/-- The lowest elements are listed with the highest of them first, while slots count from the base.
-/
theorem getElem?_lowest (s : Stack α capacity) {n i : Nat} (le : n ≤ s.size) (h : i < n) :
    (s.lowest n)[i]? = some (s.get (n - 1 - i) (by omega)) := by
  induction n generalizing i with
  | zero => exact absurd h (Nat.not_lt_zero i)
  | succ n ih =>
    rw [s.lowest_succ n le]
    cases i with
    | zero => rfl
    | succ i =>
      rw [List.getElem?_cons_succ, ih (Nat.le_of_succ_le le) (Nat.lt_of_succ_lt_succ h)]
      congr 2
      omega

/-- Assigning to one slot sets one element. -/
theorem lowest_overwrite (s : Stack α capacity) {n j : Nat} (h : j < s.size) (le : n ≤ s.size)
    (lt : j < n) (v : α) :
    (s.overwrite j h v).lowest n = (s.lowest n).set (n - 1 - j) v := by
  induction n with
  | zero => exact absurd lt (Nat.not_lt_zero j)
  | succ n ih =>
    rw [s.lowest_succ n le, lowest, slot_overwrite]
    by_cases top : n = j
    · subst top
      have kept : (s.overwrite n h v).lowest n = s.lowest n :=
        lowest_congr n fun i below => by rw [slot_overwrite, if_neg (by omega)]
      rw [if_pos rfl, kept, Nat.add_sub_cancel, Nat.sub_self]
      rfl
    · have place : n + 1 - 1 - j = n - 1 - j + 1 := by omega
      rw [if_neg top, slot_eq_some_get s n le, ih (Nat.le_of_succ_le le) (by omega), place]
      rfl

/-! ## Acts on stacks -/

variable (shown : α → Text.Rendering) (s : Stack α capacity)

theorem mirrors_assignAt (i : Nat) (v : α) :
    Mirrors (s.assignAt i v) (ListStack.act shown s.toList capacity (.assignAt i v)) := by
  simp only [assignAt, ListStack.act, length_toList]
  by_cases h : i < s.size
  · have below : s.size - 1 - i < s.size := by omega
    have place : s.size - 1 - (s.size - 1 - i) = i := by omega
    have view := s.lowest_overwrite below (Nat.le_refl _) below v
    have old := s.getElem?_lowest (Nat.le_refl _) h
    rw [place] at view
    rw [dif_pos h, if_pos h]
    refine ⟨rfl, view, ?_⟩
    exact (congrArg Option.toList old).symm
  · rw [dif_neg h, if_neg h]
    exact ⟨rfl, rfl, rfl⟩

/-- Every act does to a stack what it does to the list of its elements. -/
theorem mirrors_act (a : Act α) :
    Mirrors (s.act shown a) (ListStack.act shown s.toList capacity a) := by
  cases a with
  | command c => exact mirrors_step shown s c
  | assignAt i v => exact mirrors_assignAt shown s i v

/-! ## What is left over -/

/-- The stacks have the same elements in the same slots. -/
structure Agree (s t : Stack α capacity) : Prop where
  size : s.size = t.size
  slots : ∀ i < s.size, s.slot i = t.slot i

theorem slot_of_lowest {s t : Stack α capacity} {n : Nat} (le : n ≤ s.size) (le' : n ≤ t.size)
    (same : s.lowest n = t.lowest n) : ∀ i < n, s.slot i = t.slot i := by
  induction n with
  | zero => exact fun i h => absurd h (Nat.not_lt_zero i)
  | succ n ih =>
    rw [s.lowest_succ n le, t.lowest_succ n le', List.cons.injEq] at same
    intro i h
    rcases Nat.lt_succ_iff_lt_or_eq.1 h with below | rfl
    · exact ih (Nat.le_of_succ_le le) (Nat.le_of_succ_le le') same.2 i below
    · rw [slot_eq_some_get s i le, slot_eq_some_get t i le', same.1]

/-- Stacks agree exactly if their elements do. -/
theorem agree_iff {s t : Stack α capacity} : s.Agree t ↔ s.toList = t.toList := by
  constructor
  · intro h
    rw [toList, toList, ← h.size]
    exact lowest_congr s.size h.slots
  · intro h
    have size : s.size = t.size := by rw [← length_toList, h, length_toList]
    refine ⟨size, slot_of_lowest (Nat.le_refl _) (Nat.le_of_eq size) ?_⟩
    rw [toList, toList, ← size] at h
    exact h

/-- What is in the slots above the top is neither read nor destroyed by any act. -/
theorem Agree.act {s t : Stack α capacity} (h : s.Agree t) (a : Act α) :
    (s.act shown a).reply = (t.act shown a).reply ∧
      (s.act shown a).destroyed = (t.act shown a).destroyed ∧
      (s.act shown a).state.Agree (t.act shown a).state := by
  have here := mirrors_act shown s a
  have there := mirrors_act shown t a
  rw [agree_iff.1 h] at here
  exact ⟨here.reply.trans there.reply.symm, here.destroyed.trans there.destroyed.symm,
    agree_iff.2 (here.view.trans there.view.symm)⟩

/-! ## Runs -/

def after (s : Stack α capacity) (acts : List (Act α)) : Stack α capacity :=
  acts.foldl (fun s a => (s.act shown a).state) s

/-- What acts bring about, one after another, where `note` tells it of a stack and the act that is
run on it. -/
def gather {γ : Type} (note : Stack α capacity → Act α → List γ) (s : Stack α capacity) :
    List (Act α) → List γ
  | [] => []
  | a :: acts => note s a ++ gather note (s.act shown a).state acts

def births (s : Stack α capacity) (acts : List (Act α)) : List α :=
  gather shown (fun s a => ListStack.born s.toList capacity a) s acts

def popped (s : Stack α capacity) (acts : List (Act α)) : List α :=
  gather shown (fun s a => answered a (s.act shown a).reply) s acts

/-- The payloads that a stack destroys in a run after which it goes out of use. -/
def destroyedBy (s : Stack α capacity) (acts : List (Act α)) : List α :=
  gather shown (fun s a => (s.act shown a).destroyed) s acts ++ (s.after shown acts).clear.destroyed

/-- The ends of payloads in such a run: those that the acts bring about, and those of the elements
that are left, from the top down. -/
def fates (s : Stack α capacity) (acts : List (Act α)) : List (α × Fate) :=
  gather shown (fun s a => ListStack.ends s.toList capacity a) s acts ++
    (s.after shown acts).toList.map (·, .cleared)

/-- What was there and what comes into being is what ends and what is there afterwards. -/
theorem balance_gather (s : Stack α capacity) (acts : List (Act α)) :
    (births shown s acts ++ s.toList).Perm
      ((gather shown (fun s a => ListStack.ends s.toList capacity a) s acts).map Prod.fst ++
        (s.after shown acts).toList) := by
  induction acts generalizing s with
  | nil => exact List.Perm.refl _
  | cons a acts ih =>
    have first := ListStack.balance_act shown s.toList capacity a
    rw [← (mirrors_act shown s a).view] at first
    rw [gather, List.map_append]
    exact balance_trans first (ih (s.act shown a).state)

/-- An act hands out the payloads whose fate is to be moved. -/
theorem answered_eq (s : Stack α capacity) (a : Act α) :
    answered a (s.act shown a).reply = Fate.movedOut (ListStack.ends s.toList capacity a) := by
  rw [(mirrors_act shown s a).reply, ListStack.answered_act]

theorem destroyed_eq (s : Stack α capacity) (a : Act α) :
    (s.act shown a).destroyed = Fate.destroyed (ListStack.ends s.toList capacity a) := by
  rw [(mirrors_act shown s a).destroyed, ListStack.destroyed_act]

/-- What the acts destroy is what ends with them without being moved out. -/
theorem gather_destroyed (s : Stack α capacity) (acts : List (Act α)) :
    gather shown (fun s a => (s.act shown a).destroyed) s acts =
      Fate.destroyed (gather shown (fun s a => ListStack.ends s.toList capacity a) s acts) := by
  induction acts generalizing s with
  | nil => rfl
  | cons a acts ih =>
    rw [gather, gather, Fate.destroyed_append, ih, destroyed_eq]

/-- A run hands out the payloads whose fate is to be moved. -/
theorem popped_eq (s : Stack α capacity) (acts : List (Act α)) :
    popped shown s acts = Fate.movedOut (fates shown s acts) := by
  have left : Fate.movedOut ((s.after shown acts).toList.map (·, Fate.cleared)) = [] :=
    Fate.movedOut_map ..
  rw [fates, Fate.movedOut_append, left, List.append_nil]
  induction acts generalizing s with
  | nil => rfl
  | cons a acts ih =>
    rw [gather, Fate.movedOut_append, ← ih (s.act shown a).state (Fate.movedOut_map ..),
      ← answered_eq shown]
    rfl

theorem destroyedBy_eq (s : Stack α capacity) (acts : List (Act α)) :
    destroyedBy shown s acts = Fate.destroyed (fates shown s acts) := by
  have left : Fate.destroyed ((s.after shown acts).toList.map (·, Fate.cleared)) =
      (s.after shown acts).toList := Fate.destroyed_map ..
  rw [destroyedBy, fates, Fate.destroyed_append, left, gather_destroyed, destroyed_clear]

/-- The payloads of a stack that is new, then used for `acts`, and then goes out of use. -/
structure Settles (capacity : Nat) (acts : List (Act α)) : Prop where
  /-- Every payload that came into being was moved out by a pop or destroyed, and that once. -/
  once : (births shown (empty : Stack α capacity) acts).Perm
    (popped shown (empty : Stack α capacity) acts ++
      destroyedBy shown (empty : Stack α capacity) acts)
  /-- A step moves out and destroys what the list of its ends says, for the reasons given there. -/
  steps : ∀ past a future, acts = past ++ a :: future →
    let s := (empty : Stack α capacity).after shown past
    answered a (s.act shown a).reply = Fate.movedOut (ListStack.ends s.toList capacity a) ∧
      (s.act shown a).destroyed = Fate.destroyed (ListStack.ends s.toList capacity a)
  /-- So what is moved out and destroyed in all, in order, is told by the fates. -/
  moved : popped shown (empty : Stack α capacity) acts =
    Fate.movedOut (fates shown (empty : Stack α capacity) acts)
  destroyed : destroyedBy shown (empty : Stack α capacity) acts =
    Fate.destroyed (fates shown (empty : Stack α capacity) acts)
  /-- The elements are destroyed from the top down to the base when the stack goes out of use, -/
  dropped : ((empty : Stack α capacity).after shown acts).clear.destroyed =
    ((empty : Stack α capacity).after shown acts).toList
  /-- and when it is cleared. -/
  cleared : (((empty : Stack α capacity).after shown acts).act shown (.command .clear)).destroyed =
    ((empty : Stack α capacity).after shown acts).toList

/-- Payloads settle in every run of a stack, up to its end. None of it depends on what is left over
in the slots at or above the size: nothing there is answered or destroyed, by any act or in the
end. -/
theorem settled_of_run (capacity : Nat) (acts : List (Act α)) :
    Settles shown capacity acts ∧
      ∀ s t : Stack α capacity, s.Agree t →
        s.clear.destroyed = t.clear.destroyed ∧
          ∀ a, (s.act shown a).reply = (t.act shown a).reply ∧
            (s.act shown a).destroyed = (t.act shown a).destroyed ∧
            (s.act shown a).state.Agree (t.act shown a).state := by
  have moved := popped_eq shown (empty : Stack α capacity) acts
  have destroyed := destroyedBy_eq shown (empty : Stack α capacity) acts
  refine ⟨⟨?_, fun past a _ _ => ⟨answered_eq shown _ a, destroyed_eq shown _ a⟩, moved, destroyed,
    destroyed_clear _, destroyed_clear _⟩, fun s t agree => ⟨?_, ?_⟩⟩
  · have balance := balance_gather shown (empty : Stack α capacity) acts
    rw [toList_empty, List.append_nil] at balance
    rw [moved, destroyed]
    refine balance.trans (List.Perm.trans ?_ (Fate.perm_ends _))
    rw [fates, List.map_append, Fate.fst_map]
  · rw [destroyed_clear, destroyed_clear, agree_iff.1 agree]
  · exact agree.act shown

/-- On a stack of two slots 3 is rejected. The slot from which 2 was popped is filled again, with 4,
and then 1 is overwritten and 4 discarded. What is left in the end is 5. -/
theorem settled_of_refilled_slot :
    let shown : Nat → Text.Rendering := fun n => .atom (toString n)
    let acts : List (Act Nat) := [.command (.push 1), .command (.push 2), .command (.push 3),
      .command .pop, .command (.push 4), .assignAt 1 5, .command .discard]
    births shown (empty : Stack Nat 2) acts = [1, 2, 3, 4, 5] ∧
      fates shown (empty : Stack Nat 2) acts = [(3, .rejected), (2, .moved), (1, .overwritten),
        (4, .discarded), (5, .cleared)] ∧
      Settles shown 2 acts :=
  ⟨rfl, rfl, (settled_of_run _ 2 _).1⟩

end Stack

end Substrate
