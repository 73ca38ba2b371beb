import Substrate.Proofs.Tree.Coherence
import Substrate.Proofs.Tree.Tracking

/-!
# Substrate.Proofs.Tree.Simulation

Beside a forest runs the `Grove` of its nodes. `Related` ties the two by a list that keeps the
handle of every node ever born. A command keeps the tie and only adds handles to the list
(`related_step`), so one list serves a whole run (`exists_related_run`), as long as tree numbers do
not wrap around.
-/

namespace Substrate

variable {S : Type → Type} [SlotMap S] {α : Type}

namespace Forest

/-! ## Replies and tree numbers -/

def Reply.handle? : Reply → Option Handle
  | .handle h => some h
  | .built _ result => result.toOption
  | .done | .failed _ | .noTree => none

theorem Reply.handle?_ofHandle (result : Except TreeError Handle) :
    (ofHandle result).handle? = result.toOption := by
  cases result <;> rfl

theorem Reply.handle?_ofUnit (result : Except TreeError Unit) :
    (ofUnit result).handle? = none := by
  cases result <;> rfl

/-- The number of trees that are made in the course of some commands. -/
def treesMade (f : Forest S α) : List (Edit Handle α) → Nat
  | [] => 0
  | e :: rest =>
    let next := (f.step e).state
    (if next.nextId = f.nextId then 0 else 1) + next.treesMade rest

/-- Tree numbers do not run out in the course of some commands, from no tree on. They have 32 bits
and start at 1, and the number after the last one must be one, too. -/
def FewTrees (S : Type → Type) [SlotMap S] (edits : List (Edit Handle α)) : Prop :=
  treesMade ({} : Forest S α) edits < UInt32.size - 1

instance (edits : List (Edit Handle α)) : Decidable (FewTrees S edits) :=
  inferInstanceAs (Decidable (_ < _))

/-- The numbers suffice from the first state on. -/
theorem FewTrees.enough {edits : List (Edit Handle α)} (few : FewTrees S edits) :
    ({} : Forest S α).nextId.toNat + treesMade ({} : Forest S α) edits < UInt32.size := by
  change 1 + _ < _
  rw [FewTrees] at few
  omega

variable {f f' : Forest S α}

omit [SlotMap S] in
theorem nextId_onTree {ρ : Type} (f : Forest S α) (t : Nat) (ofReply : ρ → Reply)
    (operation : LinkedTree S α → Outcome (LinkedTree S α) ρ α) :
    (f.onTree t ofReply operation).state.nextId = f.nextId := by
  rw [onTree]
  split <;> rfl

omit [SlotMap S] in
theorem nextId_onTrees {ρ : Type} (f : Forest S α) (t u : Nat) (ofReply : ρ → Reply)
    (operation : LinkedTree S α → LinkedTree S α → Outcome (LinkedTree S α) ρ α) :
    (f.onTrees t u ofReply operation).state.nextId = f.nextId := by
  rw [onTrees]
  split
  · rfl
  · exact nextId_onTree _ _ _ _

/-- A command makes one tree at most. -/
theorem nextId_step (f : Forest S α) (e : Edit Handle α) :
    (f.step e).state.nextId = f.nextId ∨ (f.step e).state.nextId = f.nextId + 1 := by
  cases e with
  | create t => exact .inr rfl
  | discard t => exact .inl rfl
  | clone t u =>
    rw [step]
    split
    · exact .inl rfl
    · exact .inr rfl
  | subtree t u hd =>
    rw [step]
    split
    · exact .inl rfl
    · split
      · exact .inl rfl
      · exact .inr rfl
  | take t u =>
    rw [step]
    split
    · exact .inl rfl
    · exact .inr rfl
  | swap t u =>
    rw [step]
    split <;> exact .inl rfl
  | assign t u => exact .inl (nextId_onTrees f t u _ _)
  | merge t hd u => exact .inl (nextId_onTrees f t u _ _)
  | clear t => exact .inl (nextId_onTree f t _ _)
  | insert t splice hd v => exact .inl (nextId_onTree f t _ _)
  | emplace t splice hd v => exact .inl (nextId_onTree f t _ _)
  | insertChain t hd chain => exact .inl (nextId_onTree f t _ _)
  | erase t hd => exact .inl (nextId_onTree f t _ _)
  | eraseChild t side hd => exact .inl (nextId_onTree f t _ _)
  | reserve t side hd => exact .inl (nextId_onTree f t _ _)
  | setData t hd v => exact .inl (nextId_onTree f t _ _)

/-- While tree numbers do not run out, a command does not lower the next one. -/
theorem nextId_le_step {e : Edit Handle α} {rest : List (Edit Handle α)}
    (few : f.nextId.toNat + f.treesMade (e :: rest) < UInt32.size) :
    f.nextId ≤ (f.step e).state.nextId ∧
      (f.step e).state.nextId.toNat + (f.step e).state.treesMade rest < UInt32.size := by
  rw [treesMade] at few
  rw [UInt32.le_iff_toNat_le]
  by_cases same : (f.step e).state.nextId = f.nextId
  · simp only [same, if_true] at few ⊢
    omega
  · have next := (nextId_step f e).resolve_left same
    have number : (f.step e).state.nextId.toNat = (f.nextId.toNat + 1) % UInt32.size := by
      rw [next, UInt32.toNat_add]
      rfl
    simp only [if_neg same, UInt32.size] at few number ⊢
    omega

/-- Tree numbers that do not run out in a run do not run out in a later part of it. -/
theorem enough_of_run {past future : List (Edit Handle α)}
    (few : f.nextId.toNat + f.treesMade (past ++ future) < UInt32.size) :
    (f.run past).nextId.toNat + (f.run past).treesMade future < UInt32.size := by
  induction past generalizing f with
  | nil => exact few
  | cons e past ih => exact ih (nextId_le_step few).2

/-- Tree numbers grow in a run in which they do not run out. -/
theorem nextId_le_run {edits : List (Edit Handle α)}
    (few : f.nextId.toNat + f.treesMade edits < UInt32.size) :
    f.nextId ≤ (f.run edits).nextId := by
  induction edits generalizing f with
  | nil => exact UInt32.le_rfl
  | cons e edits ih =>
    obtain ⟨le, fewer⟩ := nextId_le_step few
    exact UInt32.le_trans le (ih fewer)

/-! ## Forests and groves -/

/-- Every register holds a tree and a shape that are alike, or neither. No two trees have one
number, and no tree and no handle has the number of the next tree. -/
structure Related (names : List Handle) (f : Forest S α) (g : Grove α) : Prop where
  born : g.born = names.length
  nodup : names.Nodup
  usable : ∀ h ∈ names, h.isUsable = true
  registers : ∀ t, Option.Rel (Tracks names) f.trees[t]? (g.shapes t)
  apart : ∀ (t u : Nat) (tree other : LinkedTree S α), f.trees[t]? = some tree →
    f.trees[u]? = some other → tree.id = other.id → t = u
  made : ∀ (t : Nat) (tree : LinkedTree S α), f.trees[t]? = some tree → tree.id < f.nextId
  issued : ∀ h ∈ names, h.tree < f.nextId

/-- A command did what its counterpart did, and answered the handle of the node answered. -/
def Agrees (names : List Handle) (o : Result S α) (og : Grove α × Option (Option Nat)) : Prop :=
  ∃ new, Related (names ++ new) o.state og.1 ∧ o.reply.handle?.map (refTo (names ++ new)) = og.2

variable {g g' : Grove α} {names : List Handle}

theorem related_init : Related [] ({} : Forest S α) {} where
  born := rfl
  nodup := List.nodup_nil
  usable := by simp
  registers := fun t => by
    simp only [Std.TreeMap.getElem?_emptyc]
    exact .none
  apart := by simp
  made := by simp
  issued := by simp

/-! ### What is in a register -/

namespace Related

/-- The shape beside a tree. -/
theorem exists_shape (rel : Related names f g) {t : Nat} {tree : LinkedTree S α}
    (held : f.trees[t]? = some tree) : ∃ s, g.shapes t = some s ∧ Tracks names tree s := by
  have here := rel.registers t
  rw [held] at here
  generalize g.shapes t = s at here
  cases here with
  | some tracks => exact ⟨_, rfl, tracks⟩

/-- A register without a tree has no shape. -/
theorem shape_eq_none (rel : Related names f g) {t : Nat} (free : f.trees[t]? = none) :
    g.shapes t = none := by
  have here := rel.registers t
  rw [free] at here
  generalize g.shapes t = s at here
  cases here
  rfl

/-- The tree beside a shape. -/
theorem exists_tree (rel : Related names f g) {t : Nat} {s : Shape (Nat × α)}
    (shape : g.shapes t = some s) : ∃ tree, f.trees[t]? = some tree ∧ Tracks names tree s := by
  have here := rel.registers t
  rw [shape] at here
  generalize f.trees[t]? = held at here
  cases here with
  | some tracks => exact ⟨_, rfl, tracks⟩

/-- The tree and the shape of one register are alike. -/
theorem tracks (rel : Related names f g) {t : Nat} {tree : LinkedTree S α} {s : Shape (Nat × α)}
    (held : f.trees[t]? = some tree) (shape : g.shapes t = some s) : Tracks names tree s := by
  obtain ⟨s', shape', tracks⟩ := rel.exists_shape held
  obtain rfl : s' = s := Option.some.inj (shape'.symm.trans shape)
  exact tracks

end Related

/-- A tree of another number stays alike to its shape when nodes are born elsewhere. -/
theorem tracks_append {new : List Handle} {tree : LinkedTree S α} {s : Shape (Nat × α)}
    (tracks : Tracks names tree s) (elsewhere : ∀ h ∈ new, h.tree ≠ tree.id) :
    Tracks (names ++ new) tree s where
  alike := by
    obtain ⟨c, shape, alike⟩ := tracks.alike
    exact ⟨c, shape, alike.mono fun _ _ => named_append⟩
  issued := by
    intro k mem
    rcases List.mem_append.1 mem with old | young
    · exact tracks.issued k old
    · exact absurd rfl (elsewhere _ young)

/-- The tree in register `t` is replaced by what an edit makes of a tree that no other register
holds. -/
theorem Related.set (rel : Related names f g) {t : Nat} {new : List Handle}
    {tree tree' : LinkedTree S α} {growth : Growth α} {answered : Option Handle}
    (follows : Follows names new tree tree' growth answered)
    (only : ∀ (u : Nat) (other : LinkedTree S α), f.trees[u]? = some other → other.id = tree.id →
      u = t)
    (next : f.nextId ≤ f'.nextId) (lt : tree.id < f'.nextId)
    (trees : ∀ u : Nat, f'.trees[u]? = if u = t then some tree' else f.trees[u]?)
    (shapes : ∀ u, g'.shapes u = if u = t then some growth.shape else g.shapes u)
    (born : g'.born = growth.born) : Related (names ++ new) f' g' where
  born := by
    rw [born, follows.born, List.length_append]
  nodup := follows.nodup
  usable := by
    intro h mem
    rcases List.mem_append.1 mem with old | young
    · exact rel.usable h old
    · obtain ⟨k, rfl⟩ := follows.own h young
      rfl
  registers := by
    intro u
    rw [trees, shapes]
    split
    · exact .some follows.tracks
    · next elsewhere =>
      cases held : f.trees[u]? with
      | none =>
        rw [rel.shape_eq_none held]
        exact .none
      | some other =>
        obtain ⟨s, shape, tracks⟩ := rel.exists_shape held
        rw [shape]
        refine .some (tracks_append tracks fun h mem same => elsewhere ?_)
        obtain ⟨k, rfl⟩ := follows.own h mem
        exact only u other held same.symm
  apart := by
    intro u v one two heldU heldV same
    rw [trees] at heldU heldV
    split at heldU
    · next hereU =>
      split at heldV
      · next hereV => exact hereU.trans hereV.symm
      · cases heldU
        rw [follows.id] at same
        rw [hereU]
        exact (only v two heldV same.symm).symm
    · split at heldV
      · next hereV =>
        cases heldV
        rw [follows.id] at same
        rw [hereV]
        exact only u one heldU same
      · exact rel.apart u v one two heldU heldV same
  made := by
    intro u one held
    rw [trees] at held
    split at held
    · cases held
      rw [follows.id]
      exact lt
    · exact UInt32.lt_of_lt_of_le (rel.made u one held) next
  issued := by
    intro h mem
    rcases List.mem_append.1 mem with old | young
    · exact UInt32.lt_of_lt_of_le (rel.issued h old) next
    · obtain ⟨k, rfl⟩ := follows.own h young
      exact lt

/-- Trees change registers or go out of use: register `t` gets what register `source t` held. -/
theorem Related.move (rel : Related names f g) (source : Nat → Option Nat)
    (distinct : ∀ t u v, source t = some v → source u = some v → t = u)
    (trees : ∀ t : Nat, f'.trees[t]? = (source t).bind fun u => f.trees[u]?)
    (shapes : ∀ t, g'.shapes t = (source t).bind g.shapes)
    (nextId : f'.nextId = f.nextId) (born : g'.born = g.born) : Related names f' g' where
  born := born.trans rel.born
  nodup := rel.nodup
  usable := rel.usable
  registers := by
    intro t
    rw [trees, shapes]
    cases source t with
    | none => exact .none
    | some u => exact rel.registers u
  apart := by
    intro t u tree other heldT heldU same
    rw [trees] at heldT heldU
    obtain ⟨v, fromT, heldV⟩ := Option.bind_eq_some_iff.1 heldT
    obtain ⟨w, fromU, heldW⟩ := Option.bind_eq_some_iff.1 heldU
    have one := rel.apart v w tree other heldV heldW same
    subst one
    exact distinct t u v fromT fromU
  made := by
    intro t tree held
    rw [trees] at held
    obtain ⟨v, -, heldV⟩ := Option.bind_eq_some_iff.1 held
    rw [nextId]
    exact rel.made v tree heldV
  issued := by
    rw [nextId]
    exact rel.issued

/-! ## Steps -/

namespace Related

/-- A command that does nothing and answers no handle agrees with one that does nothing. -/
theorem keeps (rel : Related names f g) {reply : Reply} (silent : reply.handle? = none) :
    Agrees names (.keeping reply f) (g, none) := by
  refine ⟨[], ?_, ?_⟩
  · rw [List.append_nil]
    exact rel
  · simp [Outcome.keeping, silent]

/-- An operation that follows its counterpart does so in a register. -/
theorem agrees_onTree {ρ : Type} (rel : Related names f g) (t : Nat) (ofReply : ρ → Reply)
    {operation : LinkedTree S α → Outcome (LinkedTree S α) ρ α}
    {edit : Shape (Nat × α) → Nat → Growth α}
    (follows : ∀ tree s, Tracks names tree s → ∃ new, Follows names new tree (operation tree).state
      (edit s names.length) (ofReply (operation tree).reply).handle?) :
    Agrees names (f.onTree t ofReply operation) (g.onShape t edit) := by
  rw [onTree, Grove.onShape]
  cases held : f.trees[t]? with
  | none =>
    rw [rel.shape_eq_none held]
    exact rel.keeps rfl
  | some tree =>
    obtain ⟨s, shape, tracks⟩ := rel.exists_shape held
    obtain ⟨new, step⟩ := follows tree s tracks
    rw [shape, rel.born]
    refine ⟨new, rel.set (t := t) step (fun u other heldU same => ?_) UInt32.le_rfl ?_ ?_ ?_ ?_,
      step.answer⟩
    · exact rel.apart u t other tree heldU held same
    · exact rel.made t tree held
    · exact fun u => Registers.getElem?_insert f.trees t u _
    · exact fun _ => rfl
    · rfl

theorem agrees_onTrees {ρ : Type} (rel : Related names f g) (t u : Nat) (ofReply : ρ → Reply)
    {operation : LinkedTree S α → LinkedTree S α → Outcome (LinkedTree S α) ρ α}
    (edit : Shape (Nat × α) → Shape (Nat × α) → Nat → Growth α)
    (follows : ∀ tree other s d, Tracks names tree s → Tracks names other d →
      ∃ new, Follows names new tree (operation tree other).state (edit d s names.length)
        (ofReply (operation tree other).reply).handle?) :
    Agrees names (f.onTrees t u ofReply operation)
      (match g.shapes u with
        | none => (g, none)
        | some d => g.onShape t (edit d)) := by
  rw [onTrees]
  cases held : f.trees[u]? with
  | none =>
    rw [rel.shape_eq_none held]
    exact rel.keeps rfl
  | some other =>
    obtain ⟨d, shape, tracks⟩ := rel.exists_shape held
    rw [shape]
    exact rel.agrees_onTree t ofReply fun tree s here => follows tree other s d here tracks

/-- No handle has the next tree number yet. -/
theorem unused (rel : Related names f g) : ∀ h ∈ names, h.tree ≠ f.nextId := fun h mem =>
  UInt32.ne_of_lt (rel.issued h mem)

/-- Register `t` gets a new tree under the next number. -/
theorem setNew (rel : Related names f g) (noWrap : f.nextId ≤ f.nextId + 1) {t : Nat}
    {new : List Handle} {tree : LinkedTree S α} {growth : Growth α} {answered : Option Handle}
    (follows : Follows names new (.empty α f.nextId) tree growth answered)
    (next : f'.nextId = f.nextId + 1)
    (trees : ∀ u : Nat, f'.trees[u]? = if u = t then some tree else f.trees[u]?)
    (shapes : ∀ u, g'.shapes u = if u = t then some growth.shape else g.shapes u)
    (born : g'.born = growth.born) : Related (names ++ new) f' g' := by
  have lt : f.nextId < f.nextId + 1 := by grind
  rw [← next] at noWrap lt
  refine rel.set follows (fun u other held same => ?_) noWrap lt trees shapes born
  exact absurd same (UInt32.ne_of_lt (rel.made u other held))

/-- A new tree that follows its counterpart goes into a register beside it. -/
theorem agrees_putNew (rel : Related names f g) (noWrap : f.nextId ≤ f.nextId + 1) (t : Nat)
    (tree : TreeId → LinkedTree S α) {growth : Growth α} {new : List Handle}
    (follows : Follows names new (.empty α f.nextId) (tree f.nextId) growth none) :
    Agrees names (f.putNew t tree) (g.set t (some growth.shape) growth.born, none) :=
  ⟨new, rel.setNew noWrap follows rfl (fun u => Registers.getElem?_insert f.trees t u _)
    (fun _ => rfl) rfl, rfl⟩

/-- Register `t` gets a copy of the tree in `u`. -/
theorem agrees_clone (rel : Related names f g) (t u : Nat)
    (noWrap : f.nextId ≤ (f.step (.clone t u)).state.nextId) :
    Agrees names (f.step (.clone t u)) (g.step (.clone t u)) := by
  cases held : f.trees[u]? with
  | none =>
    simp only [step, held, Grove.step, rel.shape_eq_none held]
    exact rel.keeps rfl
  | some other =>
    obtain ⟨d, shape, tracks⟩ := rel.exists_shape held
    obtain ⟨new, follows⟩ := follows_clone rel.nodup rel.unused tracks
    simp only [step, held] at noWrap
    simp only [step, held, Grove.step, shape, rel.born]
    exact rel.agrees_putNew noWrap t other.clone follows

/-- Register `t` gets a copy of the subtree that `hd` names, unless it names none. -/
theorem agrees_subtree (rel : Related names f g) (t u : Nat) (hd : Handle)
    (noWrap : f.nextId ≤ (f.step (.subtree t u hd)).state.nextId) :
    Agrees names (f.step (.subtree t u hd)) (g.step (.subtree t u (refTo names hd))) := by
  cases held : f.trees[u]? with
  | none =>
    simp only [step, held, Grove.step, rel.shape_eq_none held]
    exact rel.keeps rfl
  | some other =>
    obtain ⟨d, shape, tracks⟩ := rel.exists_shape held
    simp only [step, held] at noWrap
    simp only [step, held, Grove.step, shape, rel.born, Option.bind_some]
    rcases follows_subtree rel.nodup rel.unused tracks hd with ⟨e, refused, absent⟩ |
      ⟨tree, u, new, copied, sub, follows⟩
    · rw [refused, absent]
      exact rel.keeps rfl
    · rw [copied] at noWrap
      rw [copied, sub]
      exact rel.agrees_putNew noWrap t (fun _ => tree) follows

/-- The tree in `t` moves to `u`, and a new one takes its register. -/
theorem agrees_take (rel : Related names f g) (t u : Nat)
    (noWrap : f.nextId ≤ (f.step (.take t u)).state.nextId) :
    Agrees names (f.step (.take t u)) (g.step (.take t u)) := by
  cases held : f.trees[t]? with
  | none =>
    simp only [step, held, Grove.step, rel.shape_eq_none held]
    exact rel.keeps rfl
  | some tree =>
    obtain ⟨s, shape, -⟩ := rel.exists_shape held
    simp only [step, held, put] at noWrap
    simp only [step, held, Grove.step, shape, put]
    -- In between, register `t` holds nothing.
    have moved : Related names { f with trees := (f.trees.insert u tree).erase t }
        ((g.set u (some s) g.born).set t none g.born) := by
      refine rel.move (fun v => if v = t then none else if v = u then some t else some v) ?_ ?_ ?_
        rfl rfl
      · grind
      · intro v
        rw [Registers.getElem?_erase, Registers.getElem?_insert]
        split
        · rfl
        · split
          · exact held.symm
          · rfl
      · intro v
        simp only [Grove.set]
        split
        · rfl
        · split
          · exact shape.symm
          · rfl
    have fresh := (tracks_empty (S := S) (α := α) moved.unused).follows_refused moved.nodup
    refine ⟨[], moved.setNew (t := t) noWrap fresh rfl ?_ ?_ moved.born, rfl⟩
    · intro v
      rw [Registers.getElem?_insert, Registers.getElem?_erase]
      split <;> rfl
    · intro v
      simp only [Grove.set]
      split <;> rfl

/-- The trees in `t` and `u` change places, if both registers hold one. -/
theorem agrees_swap (rel : Related names f g) (t u : Nat) :
    Agrees names (f.step (.swap t u)) (g.step (.swap t u)) := by
  cases heldT : f.trees[t]? with
  | none =>
    simp only [step, heldT, Grove.step, rel.shape_eq_none heldT]
    exact rel.keeps rfl
  | some tree =>
    obtain ⟨s, shapeT, -⟩ := rel.exists_shape heldT
    cases heldU : f.trees[u]? with
    | none =>
      simp only [step, heldT, heldU, Grove.step, shapeT, rel.shape_eq_none heldU]
      exact rel.keeps rfl
    | some other =>
      obtain ⟨d, shapeU, -⟩ := rel.exists_shape heldU
      simp only [step, heldT, heldU, Grove.step, shapeT, shapeU]
      refine ⟨[], ?_, rfl⟩
      rw [List.append_nil]
      refine rel.move (fun v => if v = u then some t else if v = t then some u else some v)
        (by grind) ?_ ?_ rfl rfl
      · intro v
        simp only [Outcome.keeping, Registers.getElem?_insert]
        grind
      · intro v
        simp only [Grove.set]
        grind

/-- Register `t` holds nothing any more. -/
theorem agrees_discard (rel : Related names f g) (t : Nat) :
    Agrees names (f.step (.discard t)) (g.step (.discard t)) := by
  refine ⟨[], ?_, rfl⟩
  rw [List.append_nil]
  refine rel.move (fun v => if v = t then none else some v) (by grind) ?_ ?_ rfl rfl
  · intro v
    refine (Registers.getElem?_erase f.trees t v).trans ?_
    split <;> rfl
  · intro v
    simp only [Grove.step, Grove.set]
    split <;> rfl

end Related

/-- A command keeps forest and grove related. -/
theorem related_step (rel : Related names f g) (e : Edit Handle α)
    (noWrap : f.nextId ≤ (f.step e).state.nextId) :
    Agrees names (f.step e) (g.step (e.map (refTo names))) := by
  have nodup := rel.nodup
  cases e with
  | create t =>
    have made := rel.agrees_putNew noWrap t (.empty α)
      ((tracks_empty rel.unused).follows_refused nodup)
    rw [← rel.born] at made
    exact made
  | discard t => exact rel.agrees_discard t
  | clone t u => exact rel.agrees_clone t u noWrap
  | subtree t u hd => exact rel.agrees_subtree t u hd noWrap
  | take t u => exact rel.agrees_take t u noWrap
  | swap t u => exact rel.agrees_swap t u
  | assign t u =>
    exact rel.agrees_onTrees t u _ (fun d _ b => .copy b d.payloads)
      fun tree other s d here tracks => here.follows_assign nodup tracks
  | merge t hd u =>
    refine rel.agrees_onTrees t u _ (fun d s b => .merge s b (refTo names hd) d.payloads)
      fun tree other s d here tracks => ?_
    rw [Reply.handle?_ofHandle]
    exact here.follows_merge nodup hd tracks
  | clear t => exact rel.agrees_onTree t _ fun tree s here => ⟨[], here.follows_clear nodup⟩
  | insert t splice hd v =>
    refine rel.agrees_onTree t _ fun tree s here => ?_
    rw [Reply.handle?_ofHandle]
    exact here.follows_insert nodup splice hd v
  | emplace t splice hd v =>
    refine rel.agrees_onTree t _ fun tree s here => ?_
    rw [LinkedTree.emplaceWatched_eq]
    exact here.follows_insert nodup splice hd v
  | insertChain t hd chain =>
    refine rel.agrees_onTree t _ fun tree s here => ?_
    rw [Reply.handle?_ofHandle]
    exact here.follows_insertChain nodup hd chain
  | erase t hd =>
    refine rel.agrees_onTree t _ fun tree s here => ?_
    rw [Reply.handle?_ofHandle]
    exact here.follows_erase nodup hd
  | eraseChild t side hd =>
    refine rel.agrees_onTree t _ fun tree s here => ?_
    rw [Reply.handle?_ofHandle]
    exact here.follows_eraseChild nodup side hd
  | reserve t side hd =>
    refine rel.agrees_onTree t _ fun tree s here => ?_
    rw [Reply.handle?_ofHandle]
    exact here.follows_reserve nodup side hd
  | setData t hd v =>
    refine rel.agrees_onTree t _ fun tree s here => ?_
    rw [Reply.handle?_ofUnit]
    exact here.follows_setData nodup hd v

/-! ## Runs -/

theorem known_eq {known : List Handle} (rel : Related known f g) (first : known <+: names) :
    g.known names = known := by
  rw [Grove.known, rel.born]
  exact (List.prefix_iff_eq_take.1 first).symm

/-- One list of handles serves a whole run: its front part ties forest and grove in every state, and
every command answers by it. -/
theorem exists_related_run {known : List Handle} (rel : Related known f g)
    (edits : List (Edit Handle α)) (few : f.nextId.toNat + f.treesMade edits < UInt32.size) :
    ∃ names, known <+: names ∧ names.Nodup ∧ (∀ h ∈ names, h.isUsable = true) ∧
      ∀ past future, edits = past ++ future →
        Related ((g.run names past).known names) (f.run past) (g.run names past) ∧
        ∀ e rest, future = e :: rest →
          ((f.run past).step e).reply.handle?.map
              (refTo (((g.run names past).follow names e).1.known names)) =
            ((g.run names past).follow names e).2 := by
  induction edits generalizing f g known with
  | nil =>
    refine ⟨known, List.prefix_refl known, rel.nodup, rel.usable, fun past future split => ?_⟩
    obtain ⟨rfl, rfl⟩ := List.append_eq_nil_iff.1 split.symm
    refine ⟨?_, by simp⟩
    have same : ((g.run known []).known known) = known := known_eq rel (List.prefix_refl known)
    rw [same]
    exact rel
  | cons e edits ih =>
    obtain ⟨noWrap, fewer⟩ := nextId_le_step few
    obtain ⟨new, rel', answer⟩ := related_step rel e noWrap
    obtain ⟨names, first, nodup, usable, later⟩ := ih rel' fewer
    have start : known <+: names := (List.prefix_append known new).trans first
    have now : g.known names = known := known_eq rel start
    have follow : g.follow names e = g.step (e.map (refTo known)) := by
      rw [Grove.follow, now]
    refine ⟨names, start, nodup, usable, fun past future split => ?_⟩
    cases past with
    | nil =>
      subst split
      refine ⟨?_, ?_⟩
      · change Related (g.known names) f g
        rw [now]
        exact rel
      · rintro e' rest same
        obtain ⟨rfl, rfl⟩ := List.cons.inj same
        change (f.step e).reply.handle?.map (refTo ((g.follow names e).1.known names)) =
          (g.follow names e).2
        rw [follow, known_eq rel' first]
        exact answer
    | cons e' past =>
      obtain ⟨rfl, rfl⟩ := List.cons.inj split
      have rest := later past future rfl
      rw [← follow] at rest
      exact rest

/-- Forest and grove are related in every state of a run in which tree numbers do not run out. -/
theorem exists_related_of_few {edits : List (Edit Handle α)}
    (few : FewTrees S edits) :
    ∃ names, ∀ past future, edits = past ++ future →
      Related ((Grove.run {} names past).known names) (run ({} : Forest S α) past)
        (Grove.run {} names past) := by
  obtain ⟨names, -, -, -, always⟩ := exists_related_run related_init edits few.enough
  exact ⟨names, fun past future split => (always past future split).1⟩

end Forest

end Substrate
