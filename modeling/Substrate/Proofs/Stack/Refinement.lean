import Substrate.Stack.Script
import Substrate.Stack.View

/-!
# Substrate.Proofs.Stack.Refinement

A stack is a list of bounded length, its top first. `ListStack.step` says what each command does to
such a list: what it answers, the list after it, and the elements it destroys. `Mirrors` says that
an outcome on a stack is that outcome on its list; it holds of every command (`mirrors_step`),
whatever is left over in the slots above the top.

The main result is `script_refines`: a script on a new stack gives the reports that a list machine
gives which starts from the empty list.
-/

namespace Substrate

namespace ListStack

open Stack (CommandOf ReplyOf ReportOf)

variable {α : Type}

/-- What a command does to a list of at most `capacity` elements, the top first. -/
def step (shown : α → Text.Rendering) (capacity : Nat) (xs : List α) :
    CommandOf α → Outcome (List α) (ReplyOf α) α
  | .push v =>
    if xs.length < capacity then .keeping .done (v :: xs)
    else ⟨.failed (.overflow capacity), xs, [v]⟩
  | .pushWith v successor =>
    if xs.length < capacity then
      match successor with
      | none => .keeping (.built true (.ok v)) (v :: xs)
      | some w => ⟨.built true (.ok w), w :: xs, [v]⟩
    else .keeping (.built false (.error (.overflow capacity))) xs
  | .pushAll vs =>
    let room := capacity - xs.length
    ⟨.pushed (min room vs.length) (List.replicate (vs.length - room) (.overflow capacity)),
      (vs.take room).reverse ++ xs, vs.drop room⟩
  | .pop =>
    match xs with
    | [] => .keeping (.failed .empty) []
    | v :: rest => .keeping (.value v) rest
  | .discard =>
    match xs with
    | [] => .keeping (.failed .empty) []
    | v :: rest => ⟨.done, rest, [v]⟩
  | .top =>
    match xs with
    | [] => .keeping (.failed .empty) []
    | v :: rest => .keeping (.value v) (v :: rest)
  | .setTop w =>
    match xs with
    | [] => .keeping (.failed .empty) []
    | v :: rest => ⟨.value w, w :: rest, [v]⟩
  | .clear => ⟨.done, [], xs⟩
  | .list => .keeping (.values xs) xs
  | .listFromBase => .keeping (.values xs.reverse) xs
  | .assign vs =>
    ⟨.count (min xs.length vs.length), vs.take xs.length ++ xs.drop vs.length,
      xs.take vs.length⟩
  | .render spread =>
    let text := Text.Rendering.list (xs.map shown)
    .keeping (.text (if spread then text.block else text.inline)) xs
  | .info => .keeping (.info xs.isEmpty (xs.length == capacity) xs.length capacity) xs
  | .renew => ⟨.done, [], xs⟩

/-- Runs the commands in turn: their reports, and the list that is left. -/
def run (shown : α → Text.Rendering) (capacity : Nat) (xs : List α) :
    List (CommandOf α) → List (ReportOf α) × List α
  | [] => ([], xs)
  | c :: cs =>
    let o := step shown capacity xs c
    let rest := run shown capacity o.state cs
    (⟨o.reply, o.state.length, o.destroyed⟩ :: rest.1, rest.2)

/-- No command makes the list longer than it may be. -/
theorem length_step (shown : α → Text.Rendering) {capacity : Nat} {xs : List α}
    (bounded : xs.length ≤ capacity) (c : CommandOf α) :
    (step shown capacity xs c).state.length ≤ capacity := by
  cases c with
  | push v =>
    simp only [step]
    split
    · next room => exact room
    · exact bounded
  | pushWith v successor =>
    simp only [step]
    split
    · next room => cases successor <;> exact room
    · exact bounded
  | pushAll vs =>
    simp only [step, List.length_append, List.length_reverse, List.length_take]
    omega
  | assign vs =>
    simp only [step, List.length_append, List.length_take, List.length_drop]
    omega
  | pop | discard | top | setTop w =>
    cases xs with
    | nil => exact Nat.zero_le _
    | cons v rest =>
      simp only [List.length_cons] at bounded
      simp only [step, Outcome.state_keeping, List.length_cons]
      omega
  | clear | renew => exact Nat.zero_le _
  | list | listFromBase | render spread | info => exact bounded

/-- A run keeps the list within the capacity. -/
theorem length_run (shown : α → Text.Rendering) {capacity : Nat} {xs : List α}
    (bounded : xs.length ≤ capacity) (cs : List (CommandOf α)) :
    (run shown capacity xs cs).2.length ≤ capacity := by
  induction cs generalizing xs with
  | nil => exact bounded
  | cons c cs ih => exact ih (length_step shown bounded c)

end ListStack

namespace Stack

variable {α ρ : Type} {capacity : Nat}

/-- An outcome on a stack is the outcome `p` on its list. -/
structure Mirrors (o : Outcome (Stack α capacity) ρ α) (p : Outcome (List α) ρ α) : Prop where
  reply : o.reply = p.reply
  view : o.state.toList = p.state
  destroyed : o.destroyed = p.destroyed

variable (shown : α → Text.Rendering) (s : Stack α capacity)

/-! ## Answers of operations -/

theorem reply_modifyTop (f : α → α) :
    (s.modifyTop f).reply = match s.toList with
      | [] => .error .empty
      | _ :: _ => .ok () := by
  unfold modifyTop
  split
  · next h => rw [s.toList_eq_cons h]
  · next h => rw [toList_eq_nil h]; rfl

/-- Putting another element on top destroys the one that was there. -/
theorem destroyed_modifyTop (f : α → α) : (s.modifyTop f).destroyed = s.toList.take 1 := by
  unfold modifyTop
  split
  · next h => rw [s.toList_eq_cons h]; rfl
  · next h => rw [toList_eq_nil h]; rfl

theorem reply_assignLowest (n : Nat) (h : n ≤ s.size) (vs : List α) :
    (s.assignLowest n h vs).reply = min n vs.length := by
  induction n generalizing s vs with
  | zero => simp [assignLowest]
  | succ n ih =>
    cases vs with
    | nil => rfl
    | cons v vs =>
      have rest := ih (s.overwrite n h v) (Nat.le_of_succ_le h) vs
      simp only [assignLowest, rest, List.length_cons]
      omega

/-- As many elements are replaced as there are on both sides. -/
theorem reply_assign (vs : List α) : (s.assign vs).reply = min s.size vs.length :=
  s.reply_assignLowest s.size (Nat.le_refl _) vs

/-- A stack takes as many elements as it has room for and refuses the others. -/
theorem pushAll_eq (vs : List α) :
    (s.pushAll vs).reply.1 = min (capacity - s.size) vs.length ∧
      (s.pushAll vs).reply.2 =
        List.replicate (vs.length - (capacity - s.size)) (.overflow capacity) ∧
      (s.pushAll vs).state.toList = (vs.take (capacity - s.size)).reverse ++ s.toList ∧
      (s.pushAll vs).destroyed = vs.drop (capacity - s.size) := by
  induction vs generalizing s with
  | nil => simp [pushAll]
  | cons v vs ih =>
    by_cases room : s.size < capacity
    · have pushed : s.push v = .keeping (.ok ()) (s.place room v) := dif_pos room
      obtain ⟨taken, refusals, view, refused⟩ := ih (s.place room v)
      have left : capacity - s.size = capacity - (s.size + 1) + 1 := by omega
      simp only [pushAll, pushed, Outcome.reply_keeping, Outcome.state_keeping,
        Outcome.destroyed_keeping, taken, refusals, view, refused, size_place, toList_place]
      rw [left]
      refine ⟨?_, ?_, ?_, rfl⟩
      · simp only [List.length_cons]
        omega
      · simp
      · simp
    · have pushed : s.push v = ⟨.error (.overflow capacity), s, [v]⟩ := dif_neg room
      obtain ⟨taken, refusals, view, refused⟩ := ih s
      have none : capacity - s.size = 0 := by omega
      rw [none] at taken refusals view refused ⊢
      simp only [pushAll, pushed, taken, refusals, view, refused]
      simp [List.replicate_succ]

/-! ## The top -/

/-- Pushing acts on the view as on a list, and a full stack destroys the payload. -/
theorem mirrors_push (v : α) :
    Mirrors (s.step shown (.push v)) (ListStack.step shown capacity s.toList (.push v)) := by
  simp only [step, ListStack.step, push, length_toList]
  split
  · exact ⟨rfl, s.toList_place _ v, rfl⟩
  · exact ⟨rfl, rfl, rfl⟩

/-- With room, the constructor runs and what it makes is on top. -/
theorem run_pushWith_of_room (room : s.size < capacity) (v : α) :
    (s.pushWith (do set true; pure v : StateM Bool α)).run false =
      (.keeping (.ok ()) (s.place room v), true) := by
  rw [pushWith, dif_pos room]
  rfl

/-- Without room, the constructor does not run. -/
theorem run_pushWith_of_full (full : ¬ s.size < capacity) (v : α) :
    (s.pushWith (do set true; pure v : StateM Bool α)).run false =
      (.keeping (.error (.overflow capacity)) s, false) := by
  rw [pushWith, dif_neg full]
  rfl

/-- Pushing what a function makes acts as on a list, and a full stack does not call it. -/
theorem mirrors_pushWith (v : α) (successor : Option α) :
    Mirrors (s.step shown (.pushWith v successor))
      (ListStack.step shown capacity s.toList (.pushWith v successor)) := by
  simp only [step, pushBuilt, ListStack.step, length_toList]
  by_cases room : s.size < capacity
  · rw [run_pushWith_of_room s room, if_pos room]
    have placed := s.toList_place room v
    cases successor with
    | none =>
      have top : (s.place room v).top = .ok v := by rw [top_eq, placed]
      exact ⟨congrArg (ReplyOf.built true) top, placed, rfl⟩
    | some w =>
      have view : ((s.place room v).modifyTop fun _ => w).state.toList = w :: s.toList := by
        rw [toList_modifyTop, placed, List.modifyHead_cons]
      have top : ((s.place room v).modifyTop fun _ => w).state.top = .ok w := by
        rw [top_eq, view]
      have old : ((s.place room v).modifyTop fun _ => w).destroyed = [v] := by
        rw [destroyed_modifyTop, placed]
        rfl
      exact ⟨congrArg (ReplyOf.built true) top, view, old⟩
  · rw [run_pushWith_of_full s room, if_neg room]
    exact ⟨rfl, rfl, rfl⟩

theorem mirrors_pop :
    Mirrors (s.step shown .pop) (ListStack.step shown capacity s.toList .pop) := by
  simp only [step, ListStack.step, pop]
  by_cases h : 0 < s.size
  · rw [dif_pos h, s.toList_eq_cons h]
    exact ⟨rfl, rfl, rfl⟩
  · rw [dif_neg h, toList_eq_nil h]
    exact ⟨rfl, toList_eq_nil h, rfl⟩

theorem mirrors_discard :
    Mirrors (s.step shown .discard) (ListStack.step shown capacity s.toList .discard) := by
  simp only [step, ListStack.step, discard]
  by_cases h : 0 < s.size
  · rw [dif_pos h, s.toList_eq_cons h]
    exact ⟨rfl, rfl, rfl⟩
  · rw [dif_neg h, toList_eq_nil h]
    exact ⟨rfl, toList_eq_nil h, rfl⟩

theorem mirrors_top :
    Mirrors (s.step shown .top) (ListStack.step shown capacity s.toList .top) := by
  have top := s.top_eq
  simp only [step, ListStack.step]
  cases view : s.toList with
  | nil =>
    rw [view] at top
    exact ⟨congrArg ReplyOf.ofElement top, view, rfl⟩
  | cons v rest =>
    rw [view] at top
    exact ⟨congrArg ReplyOf.ofElement top, view, rfl⟩

theorem mirrors_setTop (w : α) :
    Mirrors (s.step shown (.setTop w)) (ListStack.step shown capacity s.toList (.setTop w)) := by
  have view := s.toList_modifyTop fun _ => w
  have old := s.destroyed_modifyTop fun _ => w
  have answer := s.reply_modifyTop fun _ => w
  simp only [step, ListStack.step]
  cases elements : s.toList with
  | nil =>
    rw [elements] at view old answer
    rw [answer]
    exact ⟨rfl, view, old⟩
  | cons v rest =>
    rw [elements] at view old answer
    have top : (s.modifyTop fun _ => w).state.top = .ok w := by
      rw [top_eq, view]
      rfl
    rw [answer]
    exact ⟨congrArg ReplyOf.ofElement top, view, old⟩

/-! ## Many elements -/

theorem mirrors_pushAll (vs : List α) :
    Mirrors (s.step shown (.pushAll vs))
      (ListStack.step shown capacity s.toList (.pushAll vs)) := by
  simp only [step, ListStack.step, length_toList]
  obtain ⟨taken, refusals, view, refused⟩ := s.pushAll_eq vs
  exact ⟨by rw [Outcome.reply_withReply, taken, refusals], view, refused⟩

/-- Assigning a list overwrites the view from the bottom and pushes the rest. -/
theorem mirrors_assign (vs : List α) :
    Mirrors (s.step shown (.assign vs))
      (ListStack.step shown capacity s.toList (.assign vs)) := by
  simp only [step, ListStack.step, length_toList]
  exact ⟨congrArg ReplyOf.count (s.reply_assign vs), s.toList_assign vs, s.destroyed_assign vs⟩

/-! ## Scripts -/

/-- Every command does to a stack what it does to the list of its elements. -/
theorem mirrors_step (c : CommandOf α) :
    Mirrors (s.step shown c) (ListStack.step shown capacity s.toList c) := by
  cases c with
  | push v => exact mirrors_push shown s v
  | pushWith v successor => exact mirrors_pushWith shown s v successor
  | pushAll vs => exact mirrors_pushAll shown s vs
  | pop => exact mirrors_pop shown s
  | discard => exact mirrors_discard shown s
  | top => exact mirrors_top shown s
  | setTop w => exact mirrors_setTop shown s w
  | clear => exact ⟨rfl, s.toList_clear, s.destroyed_clear⟩
  | list | listFromBase | render spread => exact ⟨rfl, rfl, rfl⟩
  | assign vs => exact mirrors_assign shown s vs
  | info =>
    have none : s.isEmpty = s.toList.isEmpty := by
      rw [isEmpty, ← length_toList]
      cases s.toList <;> rfl
    exact ⟨by simp [step, ListStack.step, none, isFull], rfl, rfl⟩
  | renew => exact ⟨rfl, toList_empty, s.destroyed_clear⟩

/-- Commands run on a stack as they do on the list of its elements. -/
theorem run_eq (cs : List (CommandOf α)) :
    (s.run shown cs).1 = (ListStack.run shown capacity s.toList cs).1 ∧
      (s.run shown cs).2.toList = (ListStack.run shown capacity s.toList cs).2 := by
  induction cs generalizing s with
  | nil => exact ⟨rfl, rfl⟩
  | cons c cs ih =>
    obtain ⟨reply, view, destroyed⟩ := mirrors_step shown s c
    obtain ⟨reports, last⟩ := ih (s.step shown c).state
    rw [view] at reports last
    refine ⟨?_, last⟩
    rw [run, ListStack.run, reports, reply, destroyed, ← length_toList, view]

/-- A stack is a list of at most `capacity` elements, the top first: from a new stack, any commands
get the reports that they get from such a list, which is empty at first, and the stack destroys the
list that is left when it goes out of use. What earlier elements left behind in the slots above the
top never shows. -/
theorem script_refines (shown : α → Text.Rendering) (capacity : Nat) (cs : List (CommandOf α)) :
    scriptOf shown capacity cs = ListStack.run shown capacity [] cs ∧
      ((empty : Stack α capacity).run shown cs).2.toList =
        (ListStack.run shown capacity [] cs).2 ∧
      (ListStack.run shown capacity [] cs).2.length ≤ capacity ∧
      ∀ s t : Stack α capacity, s.toList = t.toList → (s.run shown cs).1 = (t.run shown cs).1 := by
  obtain ⟨reports, last⟩ := run_eq shown (empty : Stack α capacity) cs
  rw [toList_empty] at reports last
  refine ⟨?_, last, ListStack.length_run shown (Nat.zero_le _) cs, fun s t same => ?_⟩
  · simp only [scriptOf, destroyed_clear, reports, last]
  · rw [(run_eq shown s cs).1, (run_eq shown t cs).1, same]

end Stack

end Substrate
