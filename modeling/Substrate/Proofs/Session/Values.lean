import Substrate.Proofs.Expr.Room
import Substrate.Proofs.Session.Build
import Substrate.Proofs.Tree.Conservation

/-!
# Substrate.Proofs.Session.Values

What the trees of a session evaluate to. An expression that has the room comes to its value, or to
the text of the first operator in post-order of which the exact result is out of range
(`HasShape.outcome_eval`). For `(a - b) * (a + b)` this is a choice between four outcomes
(`productOutcome`), and between three after a number was folded into the place of the difference
(`foldedOutcome`). Folding works on a copy: as commands over a forest it leaves the tree that was
copied as it is (`exists_run_of_fold`), so the tree comes to the same again.

The main result is `values_of_run`, for a tree that was built over a pool used in any way before.
-/

namespace Substrate

variable {capacity : Nat}

/-! ## Outcomes -/

/-- The values that work leaves on the stack, the top first, or the text of its failure. -/
def Progress.outcome (p : Progress capacity) : Except String (List Int) :=
  match p.1 with
  | .ok _ => .ok p.2.toList
  | .error e => .error e.message

/-- What an expression with room enough comes to from the values `vs`. -/
def Shape.outcome (u : Shape Term) (vs : List Int) : Except String (List Int) :=
  match u.firstOut? with
  | none => .ok (u.value :: vs)
  | some op => .error (ArithmeticOverflow.message ⟨op⟩)

namespace LinkedTree

/-- On every empty stack of the default capacity, the tree evaluates to `outcome`. -/
def ComesTo (t : LinkedTree Cells Term) (outcome : Except String (List Int)) : Prop :=
  ∀ s : Stack Int defaultStackCapacity, s.toList = [] → (t.eval t.root s).outcome = outcome

/-- With room enough, evaluation at the root comes to the outcome of the expression. -/
theorem HasShape.outcome_eval {t : LinkedTree Cells Term} {d : Shape (Key × Term)}
    (shape : t.HasShape d) (expression : d.payloads.IsExpression) {s : Stack Int capacity}
    (room : s.size + d.payloads.need ≤ capacity) :
    (t.eval t.root s).outcome = d.payloads.outcome s.toList := by
  have takes := shape.takesRoom expression s
  rw [Progress.outcome, Shape.outcome]
  by_cases inRange : d.payloads.InRange
  · have done := (takes.ok_iff inRange).2 room
    rw [Shape.firstOut?_eq_none_iff.2 inRange, done, takes.values inRange done]
  · obtain ⟨op, out, failed⟩ := takes.fails inRange room
    rw [out, failed]
    rfl

/-- A tree that is an expression comes to its outcome, if the stack has the room for it. -/
theorem HasShape.comesTo {t : LinkedTree Cells Term} {d : Shape (Key × Term)} {u : Shape Term}
    (shape : t.HasShape d) (same : d.payloads = u) (expression : u.IsExpression)
    (room : u.need ≤ defaultStackCapacity) : t.ComesTo (u.outcome []) := by
  subst same
  intro s empty
  have size : s.size = 0 := by rw [← s.length_toList, empty, List.length_nil]
  rw [← empty]
  exact shape.outcome_eval expression (by omega)

end LinkedTree

namespace Session

/-! ## The two expressions -/

/-- `(a - b) * (a + b)`, or the overflow that comes first: of the difference, of the sum, of the
product. -/
def productOutcome (a b : Int) : Except String (List Int) :=
  if ¬ FitsWord (a - b) then .error "attempt to subtract with overflow"
  else if ¬ FitsWord (a + b) then .error "attempt to add with overflow"
  else if ¬ FitsWord ((a - b) * (a + b)) then .error "attempt to multiply with overflow"
  else .ok [(a - b) * (a + b)]

/-- `n * (a + b)`, or the overflow that comes first: of the sum, of the product. -/
def foldedOutcome (n a b : Int) : Except String (List Int) :=
  if ¬ FitsWord (a + b) then .error "attempt to add with overflow"
  else if ¬ FitsWord (n * (a + b)) then .error "attempt to multiply with overflow"
  else .ok [n * (a + b)]

def foldedExpression (n a b : Int) : Shape Term :=
  .node (.operator .mul) (.node (.number n) .nil .nil)
    (.node (.operator .add) (.node (.number a) .nil .nil) (.node (.number b) .nil .nil))

theorem isExpression_expression (a b : Int) : (expression a b).IsExpression :=
  .operator .mul (.operator .sub (.number a) (.number b)) (.operator .add (.number a) (.number b))

theorem isExpression_folded (n a b : Int) : (foldedExpression n a b).IsExpression :=
  .operator .mul (.number n) (.operator .add (.number a) (.number b))

/-- The product comes to the first overflow on the way, or to its value. -/
theorem outcome_expression (a b : Int) : (expression a b).outcome [] = productOutcome a b := by
  have leaf (n : Int) : (Shape.node (Term.number n) .nil .nil).firstOut? = none := rfl
  have value : (expression a b).value = (a - b) * (a + b) := rfl
  rw [Shape.outcome, productOutcome, value, expression, product]
  simp only [Shape.firstOut?_operator, leaf, Shape.value, Operator.exact]
  by_cases difference : FitsWord (a - b)
  · by_cases sum : FitsWord (a + b)
    · by_cases result : FitsWord ((a - b) * (a + b))
      · simp [difference, sum, result]
      · simp [difference, sum, result]
        rfl
    · simp [difference, sum]
      rfl
  · simp [difference]
    rfl

theorem outcome_folded (n a b : Int) :
    (foldedExpression n a b).outcome [] = foldedOutcome n a b := by
  have leaf (n : Int) : (Shape.node (Term.number n) .nil .nil).firstOut? = none := rfl
  have value : (foldedExpression n a b).value = n * (a + b) := rfl
  rw [Shape.outcome, foldedOutcome, value, foldedExpression]
  simp only [Shape.firstOut?_operator, leaf, Shape.value, Operator.exact]
  by_cases sum : FitsWord (a + b)
  · by_cases result : FitsWord (n * (a + b))
    · simp [sum, result]
    · simp [sum, result]
      rfl
  · simp [sum]
    rfl

/-! ## Folding by commands -/

/-- Commands over the forest `f` that fold the node `h` of a copy of a tree into a number. The tree
is in register `r`, the copy goes to register `c` and the number to register `v`. -/
def foldEdits (f : Forest Cells Term) (c r v : Nat) (h : Handle) (n : Int) :
    List (Forest.Edit Handle Term) :=
  let new : LinkedTree Cells Term := .empty Term (f.nextId + 1)
  [.clone c r, .create v, .insert v (.above .left) new.root (.number n), .merge c h v]

/-- What is folded is a copy, and the number is merged at a child of its root. -/
theorem exists_merged_of_fold {id : TreeId} {t t' : LinkedTree Cells Term} {side : Side} {n : Int}
    (folded : fold t id side n = .ok t') :
    ∃ h, (t.clone id).child side (t.clone id).root = .ok h ∧
      ((t.clone id).merge h (rooted (id + 1) (.number n))).state = t' := by
  simp only [fold, single_eq (id + 1) n, bind, Except.bind, pure, Except.pure] at folded
  cases down : (t.clone id).child side (t.clone id).root with
  | error e =>
    rw [down] at folded
    cases folded
  | ok h =>
    rw [down] at folded
    cases merged : ((t.clone id).merge h (rooted (id + 1) (.number n))).reply with
    | error e =>
      simp only [merged] at folded
      cases folded
    | ok top =>
      simp only [merged] at folded
      exact ⟨h, rfl, Except.ok.inj folded⟩

/-- Folding is what these commands do, and the tree that is copied stays as it is. -/
theorem exists_run_of_fold {f : Forest Cells Term} {c r v : Nat} {t t' : LinkedTree Cells Term}
    (held : f.trees[r]? = some t) (cr : c ≠ r) (vr : v ≠ r) (cv : c ≠ v) {side : Side} {n : Int}
    (folded : fold t f.nextId side n = .ok t') :
    ∃ h, (t.clone f.nextId).child side (t.clone f.nextId).root = .ok h ∧
      (f.run (foldEdits f c r v h n)).trees[r]? = some t ∧
      (f.run (foldEdits f c r v h n)).trees[c]? = some t' := by
  obtain ⟨h, down, rfl⟩ := exists_merged_of_fold folded
  have apart : ∀ e ∈ foldEdits f c r v h n, r ∉ e.changed := by
    simp [foldEdits, Forest.Edit.changed, Forest.Edit.register, cr.symm, vr.symm]
  -- The copy and the number are made one after the other, and then one is merged into the other.
  let insertion : Forest.Edit Handle Term :=
    .insert v (.above .left) (LinkedTree.empty Term (f.nextId + 1) : LinkedTree Cells Term).root
      (.number n)
  have cloned : f.step (.clone c r) = f.putNew c t.clone := by
    simp only [Forest.step, held]
  have copied : ((f.putNew c t.clone).state.run [.create v, insertion]).trees[c]? =
      some (t.clone f.nextId) := by
    have between : ∀ e ∈ [.create v, insertion], c ∉ e.changed := by
      simp [insertion, Forest.Edit.changed, Forest.Edit.register, cv]
    rw [Forest.unchanged_run between]
    exact (Registers.getElem?_insert _ _ _ _).trans (if_pos rfl)
  have number : ((f.putNew c t.clone).state.run [.create v, insertion]).trees[v]? =
      some (rooted (f.nextId + 1) (.number n)) := by
    have created : ((f.putNew c t.clone).state.step (.create v)).state.trees[v]? =
        some (.empty Term (f.nextId + 1)) := (Registers.getElem?_insert _ _ _ _).trans (if_pos rfl)
    exact (Forest.trees_onTree created _ _ _).trans (if_pos rfl)
  have merges : f.run (foldEdits f c r v h n) =
      (((f.putNew c t.clone).state.run [.create v, insertion]).step (.merge c h v)).state := by
    rw [← cloned]
    rfl
  refine ⟨h, down, (Forest.unchanged_run apart).trans held, ?_⟩
  rw [merges, Forest.step, Forest.onTrees, number]
  exact (Forest.trees_onTree copied _ _ _).trans (if_pos rfl)

/-! ## Sessions -/

/-- What a session makes of the tree of `(a - b) * (a + b)`. -/
structure Values (tree : LinkedTree Cells Term) (a b : Int) : Prop where
  size : tree.size = 7
  value : tree.ComesTo (productOutcome a b)
  /-- The left operand of a copy can be folded. -/
  folded : ∀ (id : TreeId) (n : Int), ∃ folded, fold tree id .left n = .ok folded ∧
    folded.size = 5 ∧ folded.ComesTo (foldedOutcome n a b)
  /-- Commands that do so, and the tree is then in its register as before. -/
  again : ∀ (f : Forest Cells Term) (c r v : Nat) (n : Int), f.trees[r]? = some tree →
    c ≠ r → v ≠ r → c ≠ v → ∃ h folded,
      (tree.clone f.nextId).child .left (tree.clone f.nextId).root = .ok h ∧
      fold tree f.nextId .left n = .ok folded ∧
      (f.run (foldEdits f c r v h n)).trees[r]? = some tree ∧
      (f.run (foldEdits f c r v h n)).trees[c]? = some folded

/-- A tree of the product has all the values that a session makes of it. -/
theorem values_of_shape {tree : LinkedTree Cells Term} {s : Shape (Key × Term)} {a b : Int}
    (shape : tree.HasShape s) (same : s.payloads = expression a b) : Values tree a b := by
  have folds : ∀ (id : TreeId) (n : Int), ∃ folded s', fold tree id .left n = .ok folded ∧
      folded.HasShape s' ∧ s'.payloads = foldedExpression n a b := by
    intro id n
    have hung : s.payloads = Shape.hang (.operator .mul) .left _ _ := same
    exact exists_folded_of_payloads shape hung (by simp) id n
  constructor
  case size =>
    rw [shape.size, ← Shape.size_payloads, same]
    rfl
  case value =>
    rw [← outcome_expression]
    have room : (expression a b).need ≤ defaultStackCapacity := by
      show 3 ≤ 1024
      omega
    exact shape.comesTo same (isExpression_expression a b) room
  case folded =>
    intro id n
    obtain ⟨folded, s', done, shape', same'⟩ := folds id n
    refine ⟨folded, done, ?_, ?_⟩
    · rw [shape'.size, ← Shape.size_payloads, same']
      rfl
    · rw [← outcome_folded]
      have room : (foldedExpression n a b).need ≤ defaultStackCapacity := by
        show 3 ≤ 1024
        omega
      exact shape'.comesTo same' (isExpression_folded n a b) room
  case again =>
    intro f c r v n held cr vr cv
    obtain ⟨folded, -, done, -⟩ := folds f.nextId n
    obtain ⟨h, down, kept, copied⟩ := exists_run_of_fold held cr vr cv done
    exact ⟨h, folded, down, done, kept, copied⟩

end Session

namespace Custody

open Session

variable {β : Type} [Backing β] [LawfulBacking β]

/-- Whatever was made and freed in a pool of terms before: where the supply grants the requests that
the pooled slots cannot meet, the tree that is built evaluates to `(a - b) * (a + b)`, a copy of it
with a number in the place of the difference to the product of that number and `a + b`, and then the
tree itself to the same as before; or else to the overflow that comes first. -/
theorem values_of_run {backing : β} {pool : Pool Term β}
    (nodup : (Backing.allocated backing).Nodup)
    (created : Pool.create Term Term.layout defaultPoolCapacity backing = .ok pool)
    (commands : List (Command Term)) (id : TreeId) (a b : Int) :
    let k := (ofPool pool).after 0 commands
    Backing.Grants Term.layout k.pool.backing (4 - k.pool.pooled.length) →
      ∃ tree, (build k.pool id a b).reply = .ok tree ∧ Values tree a b := by
  intro k grants
  have start := accounted_ofPool (Pool.stores_create rfl nodup created)
  have fits := fits_after start (Pool.fits_create created) commands
  obtain ⟨slots, tree, builds⟩ := ((accounted_after start commands).builds fits id a b).1 grants
  obtain ⟨s, shape, same⟩ := builds.shape
  exact ⟨tree, builds.reply, values_of_shape shape same⟩

/-- A new pool, and numbers of which the difference is in range but not the sum. -/
theorem values_of_great_sum :
    let k := (ofPool newPool).after 0 []
    (Backing.allocated Rationed.endless).Nodup ∧
      Pool.create Term Term.layout defaultPoolCapacity Rationed.endless = .ok newPool ∧
      Backing.Grants Term.layout k.pool.backing (4 - k.pool.pooled.length) ∧
      productOutcome greatestWord 1 = .error "attempt to add with overflow" ∧
      ∃ tree, (build k.pool 1 greatestWord 1).reply = .ok tree ∧ Values tree greatestWord 1 := by
  refine ⟨List.nodup_nil, create_newPool, trivial, rfl, ?_⟩
  exact values_of_run List.nodup_nil create_newPool [] 1 greatestWord 1 trivial

end Custody

end Substrate
