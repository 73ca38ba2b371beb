import Mathlib.Algebra.BigOperators.Group.List.Basic
import Substrate.Proofs.Tree.Coherence
import Substrate.Proofs.Tree.Turnover

/-!
# Substrate.Proofs.Tree.Conservation

The payloads of trees are conserved. For every command, `Forest.turnover` says in terms of the
trees before it which payloads are handed in or copied, and which hang where the command removes
something. The command makes and destroys just these (`WellLinked.turns_step`), an edit that takes
nodes out of a tree destroys the payloads of just the nodes that are gone
(`WellLinked.removes_step`), and registers that the command is not about stay as they are
(`unchanged_step`).

The main result is `conserved_of_run`, for runs after which all trees go out of use.
-/

namespace Substrate

variable {S : Type → Type} [SlotMap S] {α ρ : Type}

/-! ## Sums over registers -/

namespace Registers

variable {β M : Type} {m : Std.TreeMap Nat β} [AddCommMonoid M] (worth : β → M)

/-- What the contents of all registers are worth together. -/
def total (m : Std.TreeMap Nat β) : M := (m.toList.map fun entry => worth entry.2).sum

/-- What a register is worth goes with it. -/
theorem total_erase (m : Std.TreeMap Nat β) (k : Nat) :
    total worth (m.erase k) + m[k]?.elim 0 worth = total worth m := by
  cases held : m[k]? with
  | none =>
    have sums := ((toList_erase_of_fresh held).map fun entry => worth entry.2).sum_eq
    exact (add_zero _).trans sums
  | some v =>
    have sums := ((toList_of_getElem? held).map fun entry => worth entry.2).sum_eq
    rw [List.map_cons, List.sum_cons, add_comm] at sums
    exact sums.symm

/-- What comes into a register takes the place of what was there. -/
theorem total_insert (m : Std.TreeMap Nat β) (k : Nat) (v : β) :
    total worth (m.insert k v) + m[k]?.elim 0 worth = total worth m + worth v := by
  have filled := ((toList_insert m k v).map fun entry => worth entry.2).sum_eq
  rw [List.map_cons, List.sum_cons] at filled
  rw [total, filled, ← total_erase worth m k, total]
  abel

/-- What balances in one register balances in all of them together. -/
theorem total_exchange {M : Type} [AddCancelCommMonoid M] (worth : β → M) {m : Std.TreeMap Nat β}
    {k : Nat} {v w : β} {made ended : M} (held : m[k]? = some v)
    (balance : worth v + made = worth w + ended) :
    total worth m + made = total worth (m.insert k w) + ended := by
  have replaced := total_insert worth m k w
  rw [held, Option.elim_some] at replaced
  refine add_right_cancel (b := worth v) ?_
  calc total worth m + made + worth v
      = total worth m + (worth v + made) := by abel
    _ = total worth m + worth w + ended := by rw [balance, add_assoc]
    _ = total worth (m.insert k w) + ended + worth v := by rw [← replaced]; abel

/-- Only what is held counts. -/
theorem total_congr {worth worth' : β → M}
    (same : ∀ (k : Nat) (v : β), m[k]? = some v → worth v = worth' v) :
    total worth m = total worth' m := by
  refine congrArg List.sum (List.map_congr_left fun ⟨k, v⟩ mem => same k v ?_)
  rwa [Std.TreeMap.mem_toList_iff_getElem?_eq_some] at mem

end Registers

/-- In a well-linked tree, what hangs from the root is all that the arena holds. -/
theorem LinkedTree.WellLinked.contents {t : LinkedTree S α} (h : t.WellLinked) :
    t.contents = t.stock := by
  obtain ⟨s, shape⟩ := h
  rw [shape.contents, shape.stock]

namespace Forest

/-! ## What a command is about -/

namespace Edit

/-- The registers whose trees a command may change. -/
def changed : Edit ρ α → List Nat
  | take t u | swap t u => [t, u]
  | e => [e.register]

theorem register_mem_changed (e : Edit ρ α) : e.register ∈ e.changed := by
  cases e <;> simp [changed, register]

/-- Does the command take nodes out of a tree that stays? -/
def removes : Edit ρ α → Bool
  | assign _ _ | merge _ _ _ | clear _ | erase _ _ | eraseChild _ _ _ | reserve _ _ _ => true
  | _ => false

end Edit

/-- The payloads that hang from the roots of all trees. -/
def held (f : Forest S α) : Multiset α := Registers.total LinkedTree.contents f.trees

/-- The payloads that hang from the root of the tree in a register. -/
def contentsAt (f : Forest S α) (r : Nat) : Multiset α := f.trees[r]?.elim 0 LinkedTree.contents

/-- A turnover that depends on the tree in a register: none if there is no tree. -/
def turnoverOf (f : Forest S α) (r : Nat) (ofTree : LinkedTree S α → Turnover α) : Turnover α :=
  f.trees[r]?.elim {} ofTree

/-- The payloads that a command makes, and those whose end it is. -/
def turnover (f : Forest S α) : Edit Handle α → Turnover α
  | .create t | .discard t => { ended := f.contentsAt t }
  | .clone t u => f.turnoverOf u fun other => ⟨other.contents, f.contentsAt t⟩
  | .subtree t u h => f.turnoverOf u fun other =>
      other.turnoverAt h fun key _ => ⟨other.payloadsBelow (some key), f.contentsAt t⟩
  | .take t u => f.turnoverOf t fun _ => { ended := f.contentsAt u }
  | .swap _ _ => {}
  | .assign t u => f.turnoverOf u fun other => f.turnoverOf t fun tree =>
      ⟨other.contents, tree.contents⟩
  | .merge t h u => f.turnoverOf u fun other => f.turnoverOf t fun tree =>
      tree.turnoverAt h fun key _ => ⟨other.contents, tree.payloadsBelow (some key)⟩
  | .clear t => f.turnoverOf t fun tree => { ended := tree.contents }
  | .insert t splice h v => f.turnoverOf t fun tree => tree.linkTurnover h ⟨splice, v, false⟩
  | .emplace t splice h v => f.turnoverOf t fun tree => tree.linkTurnover h ⟨splice, v, true⟩
  | .insertChain t h chain => f.turnoverOf t fun tree => tree.chainTurnover h chain
  | .erase t h => f.turnoverOf t fun tree =>
      tree.turnoverAt h fun key _ => { ended := tree.payloadsBelow (some key) }
  | .eraseChild t side h => f.turnoverOf t fun tree =>
      tree.turnoverAt h fun _ node => { ended := tree.payloadsBelow (node.child side) }
  | .reserve t side h => f.turnoverOf t fun tree => tree.turnoverAt h fun _ node =>
      { ended := node.data ::ₘ tree.payloadsBelow (node.child side.opposite) }
  | .setData t h v => f.turnoverOf t fun tree =>
      tree.turnoverAt h fun _ node => ⟨{v}, {node.data}⟩

/-! ## Payloads in registers -/

def stock (f : Forest S α) : Multiset α := Registers.total LinkedTree.stock f.trees

theorem coe_payloadsOf (tree : Option (LinkedTree S α)) :
    (payloadsOf tree : Multiset α) = tree.elim 0 LinkedTree.stock := by
  cases tree <;> rfl

/-- When all trees go out of use, their stocks are destroyed. -/
theorem coe_payloads (f : Forest S α) : (f.payloads : Multiset α) = f.stock := by
  rw [payloads, stock, Registers.total]
  induction f.trees.toList with
  | nil => rfl
  | cons entry rest ih =>
    rw [List.flatMap_cons, ← Multiset.coe_add, ih, List.map_cons, List.sum_cons, coe_payloadsOf]
    rfl

variable {f : Forest S α}

/-- In well linked trees, what hangs from the roots is what is in the arenas. -/
theorem WellLinked.contentsAt (h : f.WellLinked) (r : Nat) :
    f.contentsAt r = f.trees[r]?.elim 0 LinkedTree.stock := by
  rw [Forest.contentsAt]
  cases held : f.trees[r]? with
  | none => rfl
  | some tree => exact (h r tree held).contents

/-- What hangs from the roots of a well-linked forest is all that its arenas hold. -/
theorem WellLinked.held (h : f.WellLinked) : f.held = f.stock :=
  Registers.total_congr fun r tree held => (h r tree held).contents

/-! ## Commands -/

/-- The outcome of a command has the turnover `w`. -/
structure Turns (f : Forest S α) (o : Result S α) (w : Turnover α) : Prop where
  balance : f.stock + w.made = o.state.stock + o.destroyed
  destroyed : o.destroyed = w.ended

theorem turns_keeping (f : Forest S α) (reply : Reply) : f.Turns (.keeping reply f) {} := ⟨rfl, rfl⟩

/-- What a tree turns over is what the forest turns over. -/
theorem turns_onTree {t : Nat} (ofReply : ρ → Reply)
    {operation : LinkedTree S α → Outcome (LinkedTree S α) ρ α} {w : LinkedTree S α → Turnover α}
    (turns : ∀ tree, f.trees[t]? = some tree → tree.Turns (operation tree) (w tree)) :
    f.Turns (f.onTree t ofReply operation) (f.turnoverOf t w) := by
  rw [onTree, turnoverOf]
  cases held : f.trees[t]? with
  | none => exact f.turns_keeping _
  | some tree =>
    obtain ⟨balance, destroyed⟩ := turns tree held
    exact ⟨Registers.total_exchange _ held balance, destroyed⟩

/-- Beside its turnover, a command takes nodes out of the tree in a register: what it destroys are
the payloads of the nodes that the tree has lost. -/
structure Removes (f : Forest S α) (t : Nat) (o : Result S α) (w : Turnover α) : Prop
    extends Turns f o w where
  lost : ∀ tree, f.trees[t]? = some tree →
    ∃ tree', o.state.trees[t]? = some tree' ∧ o.destroyed = tree.lost tree'

theorem WellLinked.removes_keeping (h : f.WellLinked) (t : Nat) (reply : Reply) :
    f.Removes t (.keeping reply f) {} where
  toTurns := f.turns_keeping reply
  lost := by
    intro tree held
    obtain ⟨s, shape⟩ := h t tree held
    exact ⟨tree, held, (shape.removes_keeping reply).lost⟩

/-- An operation that removes nodes of its tree does so in a register. -/
theorem WellLinked.removes_onTree (h : f.WellLinked) {t : Nat} (ofReply : ρ → Reply)
    {operation : LinkedTree S α → Outcome (LinkedTree S α) ρ α} {w : LinkedTree S α → Turnover α}
    (removes : ∀ (tree : LinkedTree S α) s, tree.HasShape s →
      tree.Removes (operation tree) (w tree)) :
    f.Removes t (f.onTree t ofReply operation) (f.turnoverOf t w) where
  toTurns := turns_onTree _ fun tree held => by
    obtain ⟨s, shape⟩ := h t tree held
    exact (removes tree s shape).toTurns
  lost := by
    intro tree held
    obtain ⟨s, shape⟩ := h t tree held
    refine ⟨_, (trees_onTree held ofReply operation t).trans (if_pos rfl), ?_⟩
    rw [onTree, held]
    exact (removes tree s shape).lost

theorem WellLinked.removes_onTrees (h : f.WellLinked) {t u : Nat} (ofReply : ρ → Reply)
    {operation : LinkedTree S α → LinkedTree S α → Outcome (LinkedTree S α) ρ α}
    {w : LinkedTree S α → LinkedTree S α → Turnover α}
    (removes : ∀ (other tree : LinkedTree S α) d s, other.HasShape d → tree.HasShape s →
      tree.Removes (operation tree other) (w other tree)) :
    f.Removes t (f.onTrees t u ofReply operation)
      (f.turnoverOf u fun other => f.turnoverOf t (w other)) := by
  rw [onTrees, turnoverOf]
  cases held : f.trees[u]? with
  | none => exact h.removes_keeping t _
  | some other =>
    obtain ⟨d, shapeO⟩ := h u other held
    exact h.removes_onTree _ fun tree s shape => removes other tree d s shapeO shape

/-- A tree that is put into a register ends the one that was there. -/
theorem turns_put (h : f.WellLinked) (t : Nat) (tree : LinkedTree S α) :
    f.stock + tree.stock = (f.put t tree).state.stock + (f.put t tree).destroyed ∧
      ((f.put t tree).destroyed : Multiset α) = f.contentsAt t := by
  refine ⟨?_, (coe_payloadsOf _).trans (h.contentsAt t).symm⟩
  rw [put, coe_payloadsOf]
  exact (Registers.total_insert LinkedTree.stock f.trees t tree).symm

/-- A new tree adds its payloads and ends those of the tree whose place it takes. -/
theorem turns_putNew (h : f.WellLinked) (t : Nat) (tree : TreeId → LinkedTree S α) :
    f.Turns (f.putNew t tree) ⟨(tree f.nextId).stock, f.contentsAt t⟩ := by
  -- The counter of tree numbers is not among the payloads.
  have same : WellLinked { f with nextId := f.nextId + 1 } := h
  obtain ⟨balance, destroyed⟩ := turns_put same t (tree f.nextId)
  exact ⟨balance, destroyed⟩

/-- Moving a tree ends the one whose place it takes. -/
theorem turns_take (h : f.WellLinked) (t u : Nat) :
    f.Turns (f.step (.take t u)) (f.turnover (.take t u)) := by
  rw [step, turnover, turnoverOf]
  cases held : f.trees[t]? with
  | none => exact f.turns_keeping _
  | some tree =>
    obtain ⟨balance, destroyed⟩ := turns_put h u tree
    have there : (f.put u tree).state.trees[t]? = some tree := by
      rw [put, Registers.getElem?_insert, held]
      split <;> rfl
    -- The tree that was moved is replaced by one without nodes.
    have emptied := Registers.total_exchange (w := .empty α (f.put u tree).state.nextId)
      LinkedTree.stock there (by rw [LinkedTree.stock_empty, add_comm])
    refine ⟨add_right_cancel (b := tree.stock) ?_, destroyed⟩
    calc f.stock + 0 + tree.stock
        = (f.put u tree).state.stock + 0 + (f.put u tree).destroyed := by
          rw [add_zero, add_zero, balance]
      _ = _ := congrArg (· + ((f.put u tree).destroyed : Multiset α)) emptied
      _ = _ := add_right_comm _ _ _

/-- Swapping ends nothing. -/
theorem turns_swap (f : Forest S α) (t u : Nat) : f.Turns (f.step (.swap t u)) {} := by
  rw [step]
  split
  · next tree other heldT heldU =>
      have there : (f.trees.insert t other)[u]? = some other := by
        rw [Registers.getElem?_insert, heldU]
        split <;> rfl
      have first := Registers.total_exchange (w := other) _ heldT (add_comm tree.stock other.stock)
      have second := Registers.total_exchange (w := tree) _ there (add_comm other.stock tree.stock)
      refine ⟨add_right_cancel (b := other.stock) ?_, rfl⟩
      rw [add_zero]
      exact (first.trans second).trans (congrArg (· + _) (add_zero _).symm)
  · exact f.turns_keeping _

/-- Edits that take nodes out of a tree destroy their payloads. -/
theorem WellLinked.removes_step (h : f.WellLinked) {e : Edit Handle α}
    (removes : e.removes = true) : f.Removes e.register (f.step e) (f.turnover e) := by
  cases e with
  | assign t u => exact h.removes_onTrees _ fun _ _ _ _ shapeO shape => shape.removes_assign shapeO
  | merge t hd u =>
    exact h.removes_onTrees _ fun _ _ _ _ shapeO shape => shape.removes_merge shapeO hd
  | clear t =>
    exact h.removes_onTree (fun _ => .done) fun _ _ shape => shape.removes_clear
  | erase t hd => exact h.removes_onTree _ fun _ _ shape => shape.removes_erase hd
  | eraseChild t side hd =>
    exact h.removes_onTree _ fun _ _ shape => shape.removes_eraseChild side hd
  | reserve t side hd => exact h.removes_onTree _ fun _ _ shape => shape.removes_reserve side hd
  | _ => cases removes

/-- Every command makes and destroys the payloads that it is to make and to destroy. -/
theorem WellLinked.turns_step (h : f.WellLinked) (e : Edit Handle α) :
    f.Turns (f.step e) (f.turnover e) := by
  cases e with
  | create t =>
    have turns := turns_putNew h t (.empty α)
    rwa [LinkedTree.stock_empty] at turns
  | discard t =>
    refine ⟨?_, (coe_payloadsOf _).trans (h.contentsAt t).symm⟩
    rw [step, coe_payloadsOf]
    exact (add_zero _).trans (Registers.total_erase LinkedTree.stock f.trees t).symm
  | clone t u =>
    rw [step, turnover, turnoverOf]
    cases held : f.trees[u]? with
    | none => exact f.turns_keeping _
    | some other =>
      obtain ⟨d, shape⟩ := h u other held
      have copied := turns_putNew h t other.clone
      rwa [shape.stock_clone] at copied
  | subtree t u hd =>
    rw [step, turnover, turnoverOf]
    cases held : f.trees[u]? with
    | none => exact f.turns_keeping _
    | some other =>
      obtain ⟨d, shape⟩ := h u other held
      simp only [Option.elim_some, LinkedTree.turnoverAt]
      rcases resolved : other.resolve hd with e | ⟨k, node⟩
      · rw [LinkedTree.subtree, resolved]
        exact f.turns_keeping _
      · obtain ⟨tree, copied, stock⟩ := shape.exists_stock_subtree resolved f.nextId
        have placed := turns_putNew h t fun _ => tree
        rw [stock] at placed
        rw [copied]
        exact placed
  | take t u => exact turns_take h t u
  | swap t u => exact f.turns_swap t u
  | insert t splice hd v => exact turns_onTree _ fun tree _ => tree.turns_insert splice hd v
  | emplace t splice hd v =>
    exact turns_onTree _ fun tree _ => tree.turns_emplaceWatched splice hd v
  | insertChain t hd chain => exact turns_onTree _ fun tree _ => tree.turns_insertChain hd chain
  | setData t hd v => exact turns_onTree _ fun tree _ => tree.turns_setData hd v
  | assign | merge | clear | erase | eraseChild | reserve => exact (h.removes_step rfl).toTurns

omit [SlotMap S] in
/-- An operation on one register leaves the other registers alone. -/
theorem unchanged_onTree {r t : Nat} (apart : r ≠ t) (ofReply : ρ → Reply)
    (operation : LinkedTree S α → Outcome (LinkedTree S α) ρ α) :
    (f.onTree t ofReply operation).state.trees[r]? = f.trees[r]? := by
  cases held : f.trees[t]? with
  | none => rw [onTree, held]; rfl
  | some tree => rw [trees_onTree held, if_neg apart]

omit [SlotMap S] in
theorem unchanged_onTrees {r t : Nat} (apart : r ≠ t) (u : Nat) (ofReply : ρ → Reply)
    (operation : LinkedTree S α → LinkedTree S α → Outcome (LinkedTree S α) ρ α) :
    (f.onTrees t u ofReply operation).state.trees[r]? = f.trees[r]? := by
  rw [onTrees]
  split
  · rfl
  · exact unchanged_onTree apart ofReply _

theorem unchanged_putNew {r t : Nat} (apart : r ≠ t) (tree : TreeId → LinkedTree S α) :
    (f.putNew t tree).state.trees[r]? = f.trees[r]? :=
  (Registers.getElem?_insert f.trees t r _).trans (if_neg apart)

/-- A command leaves alone the registers that it is not about, those of donors among them. -/
theorem unchanged_step {e : Edit Handle α} {r : Nat} (apart : r ∉ e.changed) :
    (f.step e).state.trees[r]? = f.trees[r]? := by
  have other : r ≠ e.register := fun same => apart (same ▸ e.register_mem_changed)
  cases e with
  | create t => exact unchanged_putNew other _
  | discard t => exact (Registers.getElem?_erase f.trees t r).trans (if_neg other)
  | clone t u =>
    rw [step]
    split
    · rfl
    · exact unchanged_putNew other _
  | subtree t u h =>
    rw [step]
    split
    · rfl
    · split
      · rfl
      · exact unchanged_putNew other _
  | take t u =>
    have notU : r ≠ u := fun same => apart (by simp [Edit.changed, same])
    rw [step]
    split
    · rfl
    · simp only [put, Registers.getElem?_insert, if_neg notU]
      exact if_neg other
  | swap t u =>
    have notU : r ≠ u := fun same => apart (by simp [Edit.changed, same])
    rw [step]
    split
    · simp only [Outcome.state_keeping, Registers.getElem?_insert, if_neg notU]
      exact if_neg other
    · rfl
  | assign | merge => exact unchanged_onTrees other _ _ _
  | clear | insert | emplace | insertChain | erase | eraseChild | reserve | setData =>
    exact unchanged_onTree other _ _

/-- A run leaves alone the registers that none of its commands is about. -/
theorem unchanged_run {edits : List (Edit Handle α)} {r : Nat}
    (apart : ∀ e ∈ edits, r ∉ e.changed) : (f.run edits).trees[r]? = f.trees[r]? := by
  induction edits generalizing f with
  | nil => rfl
  | cons e rest ih =>
    have first : (f.step e).state.trees[r]? = f.trees[r]? :=
      unchanged_step (apart e List.mem_cons_self)
    rw [← first]
    exact ih fun e' mem => apart e' (List.mem_cons_of_mem e mem)

/-- What a reservation promotes stays as it is. -/
theorem WellLinked.exists_promoted (h : f.WellLinked) {t : Nat} {tree : LinkedTree S α}
    {hd : Handle} {k : Key} {node : Node α} (held : f.trees[t]? = some tree)
    (accepted : tree.resolve hd = .ok (k, node)) (side : Side) :
    ∃ tree', (f.step (.reserve t side hd)).state.trees[t]? = some tree' ∧
      tree'.below (node.child side) = tree.below (node.child side) := by
  obtain ⟨s, shape⟩ := h t tree held
  exact ⟨_, (trees_onTree held _ _ t).trans (if_pos rfl), shape.below_reserve accepted side⟩

/-! ## Conservation -/

/-- The payloads of a forest before and after one command. -/
structure Balances (f : Forest S α) (e : Edit Handle α) : Prop where
  /-- None is lost, and none is there twice. -/
  balance : f.held + (f.turnover e).made = (f.step e).state.held + (f.step e).destroyed
  /-- Those are destroyed whose end the command is, each of them once. -/
  destroyed : (f.step e).destroyed = (f.turnover e).ended
  /-- An edit that takes nodes out of a tree destroys the payloads of just these nodes. -/
  lost : e.removes = true → ∀ tree, f.trees[e.register]? = some tree →
    ∃ tree', (f.step e).state.trees[e.register]? = some tree' ∧
      (f.step e).destroyed = tree.lost tree'
  /-- What a reservation promotes keeps its nodes and its payloads. -/
  promoted : ∀ t side h tree key node, e = .reserve t side h → f.trees[t]? = some tree →
    tree.resolve h = .ok (key, node) →
      ∃ tree', (f.step e).state.trees[t]? = some tree' ∧
        tree'.below (node.child side) = tree.below (node.child side)
  /-- A tree that is only copied from stays as it is. -/
  unchanged : ∀ r, r ∉ e.changed → (f.step e).state.trees[r]? = f.trees[r]?

/-- Every command keeps its balance in a well-linked forest. -/
theorem WellLinked.balances (h : f.WellLinked) (e : Edit Handle α) : f.Balances e where
  balance := by
    rw [h.held, (wellLinked_step h e).held]
    exact (h.turns_step e).balance
  destroyed := (h.turns_step e).destroyed
  lost := fun removes => (h.removes_step removes).lost
  promoted := by
    rintro t side hd tree key node rfl held accepted
    exact h.exists_promoted held accepted side
  unchanged := fun _ => unchanged_step

def madeIn (f : Forest S α) : List (Edit Handle α) → Multiset α
  | [] => 0
  | e :: edits => (f.turnover e).made + madeIn (f.step e).state edits

def destroyedIn (f : Forest S α) : List (Edit Handle α) → Multiset α
  | [] => 0
  | e :: edits => (f.step e).destroyed + destroyedIn (f.step e).state edits

/-- What balances in every command balances in a run. -/
theorem WellLinked.balance_run (h : f.WellLinked) (edits : List (Edit Handle α)) :
    f.held + f.madeIn edits = (f.run edits).held + f.destroyedIn edits := by
  induction edits generalizing f with
  | nil => rfl
  | cons e edits ih =>
    rw [madeIn, destroyedIn, ← add_assoc, (h.balances e).balance]
    calc (f.step e).state.held + (f.step e).destroyed + (f.step e).state.madeIn edits
        = (f.step e).state.held + (f.step e).state.madeIn edits + (f.step e).destroyed :=
          add_right_comm _ _ _
      _ = (f.run (e :: edits)).held + (f.step e).state.destroyedIn edits + (f.step e).destroyed :=
          congrArg (· + _) (ih (wellLinked_step h e))
      _ = _ := by rw [add_assoc, add_comm (destroyedIn _ _)]

/-- Every command after the run balances, and so does the run itself once all trees go out of
use: each payload ever made is destroyed exactly once. -/
structure Conserved (S : Type → Type) [SlotMap S] (edits : List (Edit Handle α)) : Prop where
  step : ∀ e, (run ({} : Forest S α) edits).Balances e
  dropped : (run ({} : Forest S α) edits).payloads = (run ({} : Forest S α) edits).held
  whole : madeIn ({} : Forest S α) edits =
    destroyedIn ({} : Forest S α) edits + (run ({} : Forest S α) edits).payloads

/-- In every run, over any number of trees, payloads are conserved. -/
theorem conserved_of_run (edits : List (Edit Handle α)) : Conserved S edits where
  step := (wellLinked_run wellLinked_init edits).balances
  dropped := (coe_payloads _).trans (wellLinked_run wellLinked_init edits).held.symm
  whole := by
    have balance := (wellLinked_init (S := S)).balance_run edits
    rw [(wellLinked_run wellLinked_init edits).held, ← coe_payloads] at balance
    rw [add_comm (destroyedIn _ _), ← balance]
    exact (zero_add _).symm

end Forest

end Substrate
