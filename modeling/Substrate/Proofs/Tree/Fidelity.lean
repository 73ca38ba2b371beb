import Substrate.Proofs.Tree.Positions
import Substrate.Proofs.Tree.Refusal

/-!
# Substrate.Proofs.Tree.Fidelity

What copies show, and whose they are. A copy has the shape and the payloads of what was copied, and
the two read alike at every position (`Portrays`, `portrays_of_payloads`). It consists of new nodes:
a copy in a new tree has a number that no tree had before (`TakesNext`), and one that replaces the
contents of a tree keeps the number of that tree and none of its nodes (`Renews`). The source stays
the tree it was.

The main result is `faithfulCopies_of_run`, for all states that commands lead to.
-/

namespace Substrate

variable {S : Type → Type} [SlotMap S] {α : Type}

/-! ## Likeness -/

namespace LinkedTree

/-- `copy` shows what hangs at the handle `h` of `t`, the shape `u`. -/
structure Portrays (copy t : LinkedTree S α) (h : Handle) (u : Shape (Key × α)) : Prop where
  hosts : t.Hosts h u
  /-- The shape is the same and so are the payloads, position by position. -/
  shape : ∃ c, copy.HasShape c ∧ c.payloads = u.payloads
  /-- One way down reads one payload in both, or leads to no node in both. -/
  read : ∀ sides, copy.read copy.root sides = t.read h sides
  size : copy.size = u.size
  coherent : copy.Coherent
  isEmpty : copy.isEmpty = !h.isUsable
  /-- The root of the copy, if there is one, has no parent. -/
  parentless : copy.isEmpty = false → copy.parent copy.root = .ok (copy.handle none)

variable {t copy : LinkedTree S α} {h : Handle} {u c : Shape (Key × α)}

theorem HasShape.isEmpty (shape : t.HasShape c) : t.isEmpty = c.topKey.isNone := by
  rw [LinkedTree.isEmpty, shape.root]

/-- The root of a coherent tree has no parent. -/
theorem Coherent.parent_root (coherent : t.Coherent) (inhabited : t.isEmpty = false) :
    t.parent t.root = .ok (t.handle none) := by
  obtain ⟨k, root⟩ : ∃ k, t.rootKey = some k := by
    simpa [LinkedTree.isEmpty, Option.isSome_iff_exists] using inhabited
  obtain ⟨node, found, top⟩ := coherent.root k root
  rw [LinkedTree.root, root, LinkedTree.parent, resolve_handle found]
  exact congrArg (fun p => Except.ok (t.handle p)) top

/-- A tree with the payloads of a subtree portrays it. -/
theorem portrays_of_payloads (hosts : t.Hosts (t.handle u.topKey) u) (shape : copy.HasShape c)
    (same : c.payloads = u.payloads) : copy.Portrays t (t.handle u.topKey) u where
  hosts := hosts
  shape := ⟨c, shape, same⟩
  read := by
    intro sides
    obtain ⟨-, parent, hangs⟩ := hosts
    rw [shape.root_eq, read_of_hangs shape.hangs, read_of_hangs hangs, same]
  size := by
    rw [shape.size, ← c.size_payloads, same, u.size_payloads]
  coherent := shape.coherent
  isEmpty := by
    rw [shape.isEmpty]
    cases c <;> cases u <;> first | rfl | cases same
  parentless := shape.coherent.parent_root

/-- A tree with the same payloads in the same places portrays the whole of another one. -/
theorem portrays_root (whole : t.HasShape u) (shape : copy.HasShape c)
    (same : c.payloads = u.payloads) : copy.Portrays t t.root u := by
  have hosts := whole.hosts_root
  rw [whole.root_eq] at hosts ⊢
  exact portrays_of_payloads hosts shape same

end LinkedTree

/-! ## Copying commands -/

namespace Forest

/-- From `f` the command `e` put `copy` into register `a`, and changed no other register. The tree
`t` is still in register `r`. -/
structure Places (f : Forest S α) (e : Edit Handle α) (a r : Nat) (t copy : LinkedTree S α) :
    Prop where
  reply : (f.step e).reply = .done
  held : (f.step e).state.trees[a]? = some copy
  others : ∀ u : Nat, u ≠ a → (f.step e).state.trees[u]? = f.trees[u]?
  source : (f.step e).state.trees[r]? = some t

/-- The copy has the next number. -/
structure TakesNext (edits : List (Edit Handle α)) (e : Edit Handle α) (copy : LinkedTree S α) :
    Prop where
  id : copy.id = (run ({} : Forest S α) edits).nextId
  nextId : ((run ({} : Forest S α) edits).step e).state.nextId =
    (run ({} : Forest S α) edits).nextId + 1
  /-- No tree had it in any state before. -/
  fresh : FewTrees S edits → ∀ past future, edits = past ++ future →
    ∀ (u : Nat) (other : LinkedTree S α), (run {} past).trees[u]? = some other → other.id ≠ copy.id

/-- The copy is the tree `x` with other contents. -/
structure Renews (edits : List (Edit Handle α)) (e : Edit Handle α) (x copy : LinkedTree S α) :
    Prop where
  id : copy.id = x.id
  nextId : ((run ({} : Forest S α) edits).step e).state.nextId =
    (run ({} : Forest S α) edits).nextId
  /-- Every key that the tree issued finds nothing. -/
  stale : ∀ k, x.nodes.Issued k → copy.resolve (x.handle (some k)) = .error .staleNode
  /-- Every handle of the tree's number that was accepted in any state before is stale. -/
  expired : FewTrees S edits → ∀ past future, edits = past ++ future →
    ∀ (u : Nat) (other : LinkedTree S α) (h : Handle) (k : Key) (node : Node α),
      (run {} past).trees[u]? = some other → other.resolve h = .ok (k, node) → h.tree = x.id →
      copy.resolve h = .error .staleNode

/-- A copy and its source are different trees. -/
structure Estranged (edits : List (Edit Handle α)) (t copy : LinkedTree S α) : Prop where
  /-- The copy refuses every handle into a source of another number. -/
  foreign : copy.id ≠ t.id →
    ∀ k, copy.resolve (t.handle (some k)) = .error (.foreignNode copy.id t.id)
  distinct : FewTrees S edits → copy.id ≠ t.id

/-- What copies of the tree `t` in register `r` are like, after some commands. -/
structure FaithfulCopies (edits : List (Edit Handle α)) (r : Nat) (t : LinkedTree S α) : Prop where
  clone : ∀ a, a ≠ r → ∃ copy u, (run {} edits).Places (.clone a r) a r t copy ∧
    copy.Portrays t t.root u ∧ copy.size = t.size ∧ TakesNext edits (.clone a r) copy ∧
    Estranged edits t copy
  assign : ∀ a x, a ≠ r → (run {} edits).trees[a]? = some x →
    ∃ copy u, (run {} edits).Places (.assign a r) a r t copy ∧
      copy.Portrays t t.root u ∧ copy.size = t.size ∧ Renews edits (.assign a r) x copy ∧
      Estranged edits t copy
  subtree : ∀ a, a ≠ r → ∀ h k node, t.resolve h = .ok (k, node) →
    ∃ copy u, (run {} edits).Places (.subtree a r h) a r t copy ∧
      copy.Portrays t h u ∧ TakesNext edits (.subtree a r h) copy ∧ Estranged edits t copy

variable {f : Forest S α} {edits : List (Edit Handle α)} {e : Edit Handle α} {a r : Nat}
  {t x copy : LinkedTree S α}

/-- A command whose work is to put a tree into a register. -/
theorem places_of_insert (held : f.trees[r]? = some t) (other : a ≠ r)
    (reply : (f.step e).reply = .done)
    (trees : (f.step e).state.trees = f.trees.insert a copy) : f.Places e a r t copy where
  reply := reply
  held := by rw [trees, Registers.getElem?_insert, if_pos rfl]
  others := by
    intro u elsewhere
    rw [trees, Registers.getElem?_insert, if_neg elsewhere]
  source := by rw [trees, Registers.getElem?_insert, if_neg (Ne.symm other), held]

/-- No tree had the next number in any state before. -/
theorem ne_nextId_of_run (few : FewTrees S edits)
    {past future : List (Edit Handle α)} (split : edits = past ++ future) {u : Nat}
    {other : LinkedTree S α} (held : (run {} past).trees[u]? = some other) :
    other.id ≠ (run ({} : Forest S α) edits).nextId := by
  obtain ⟨names, always⟩ := exists_related_of_few few
  have made := (always past future split).made u other held
  have enough := few.enough
  rw [split] at enough
  have later := nextId_le_run (enough_of_run enough)
  rw [split, run_append]
  exact UInt32.ne_of_lt (UInt32.lt_of_lt_of_le made later)

/-- A handle that was accepted in any state before has a key that the tree of its number issued. -/
theorem issued_of_run (few : FewTrees S edits)
    (held : (run {} edits).trees[a]? = some x) {past future : List (Edit Handle α)}
    (split : edits = past ++ future) {u : Nat} {other : LinkedTree S α} {k : Key} {node : Node α}
    (heldU : (run {} past).trees[u]? = some other)
    (accepted : other.resolve (x.handle (some k)) = .ok (k, node)) : x.nodes.Issued k := by
  obtain ⟨names, always⟩ := exists_related_of_few few
  have before := always past future split
  have now := always edits [] (List.append_nil _).symm
  obtain ⟨s, -, tracksU⟩ := before.exists_shape heldU
  obtain ⟨d, -, tracksX⟩ := now.exists_shape held
  refine tracksX.issued k ?_
  rcases tracksU.cases before.nodup (x.handle (some k)) with
    ⟨e, refused, -⟩ | ⟨j, node', n, found, -, -, named⟩
  · rw [accepted] at refused
    cases refused
  · rw [accepted] at found
    obtain ⟨rfl, -⟩ := Prod.mk.inj (Except.ok.inj found)
    have known : other.handle (some k) ∈ (Grove.run {} names past).known names :=
      List.mem_of_getElem? named
    rw [← (LinkedTree.resolve_eq_ok_iff.1 accepted).1] at known
    -- What is known in the state before is known ever after.
    have grown : (Grove.run {} names past).born ≤ (Grove.run {} names edits).born := by
      rw [split, Grove.run_append]
      exact Grove.born_le_run _ names future
    exact List.take_subset_take_left names grown known

/-- Trees of different numbers refuse each other's handles. -/
theorem estranged_of_ne (distinct : FewTrees S edits → copy.id ≠ t.id) :
    Estranged edits t copy where
  foreign := fun other _ => LinkedTree.resolve_eq_error_iff.2 (.foreign rfl (Ne.symm other))
  distinct := distinct

section Copying

variable (held : (run {} edits).trees[r]? = some t)
include held

/-- A command that puts a new tree into a register. -/
theorem copies_of_putNew (other : a ≠ r) {tree : TreeId → LinkedTree S α}
    (step : (run {} edits).step e = (run {} edits).putNew a tree)
    (copies : tree (run ({} : Forest S α) edits).nextId = copy)
    (id : copy.id = (run ({} : Forest S α) edits).nextId) :
    (run {} edits).Places e a r t copy ∧ TakesNext edits e copy ∧ Estranged edits t copy := by
  have fresh : FewTrees S edits → ∀ past future, edits = past ++ future →
      ∀ (u : Nat) (one : LinkedTree S α), (run {} past).trees[u]? = some one →
        one.id ≠ copy.id := by
    intro few past future split u one heldU
    rw [id]
    exact ne_nextId_of_run few split heldU
  refine ⟨places_of_insert held other (by rw [step]; rfl) ?_, ⟨id, by rw [step]; rfl, fresh⟩, ?_⟩
  · rw [step, ← copies]
    rfl
  · exact estranged_of_ne fun few =>
      Ne.symm (fresh few edits [] (List.append_nil _).symm r t held)

/-- Cloning makes a faithful copy under the next number. -/
theorem exists_copy_of_clone (other : a ≠ r) :
    ∃ copy u, (run {} edits).Places (.clone a r) a r t copy ∧ copy.Portrays t t.root u ∧
      copy.size = t.size ∧ TakesNext edits (.clone a r) copy ∧ Estranged edits t copy := by
  obtain ⟨s, shape⟩ := wellLinked_run wellLinked_init edits r t held
  obtain ⟨c, same, shapeC, id⟩ :=
    LinkedTree.exists_hasShape_clone shape (run ({} : Forest S α) edits).nextId
  have step : (run {} edits).step (.clone a r) = (run {} edits).putNew a t.clone := by
    simp only [Forest.step, held]
  obtain ⟨places, next, estranged⟩ := copies_of_putNew held other step rfl id
  have portrays := LinkedTree.portrays_root shape shapeC same
  exact ⟨_, s, places, portrays, portrays.size.trans shape.size.symm, next, estranged⟩

/-- Copying a subtree makes a faithful copy of it under the next number. -/
theorem exists_copy_of_subtree (other : a ≠ r) {h : Handle} {k : Key} {node : Node α}
    (accepted : t.resolve h = .ok (k, node)) :
    ∃ copy u, (run {} edits).Places (.subtree a r h) a r t copy ∧ copy.Portrays t h u ∧
      TakesNext edits (.subtree a r h) copy ∧ Estranged edits t copy := by
  obtain ⟨s, shape⟩ := wellLinked_run wellLinked_init edits r t held
  obtain ⟨copy, u, c, copied, sub, same, shapeC, id⟩ :=
    shape.exists_hasShape_subtree accepted (run ({} : Forest S α) edits).nextId
  obtain ⟨C, l, r', at?⟩ := shape.exists_located accepted
  obtain rfl : .node (k, node.data) l r' = u := Option.some.inj (at?.sub?.symm.trans sub)
  have step : (run {} edits).step (.subtree a r h) = (run {} edits).putNew a fun _ => copy := by
    simp only [Forest.step, held, copied]
  obtain ⟨places, next, estranged⟩ := copies_of_putNew held other step rfl id
  obtain ⟨rfl, -⟩ := LinkedTree.resolve_eq_ok_iff.1 accepted
  have portrays := LinkedTree.portrays_of_payloads at?.hosts shapeC same
  exact ⟨copy, _, places, portrays, next, estranged⟩

/-- Assigning makes a faithful copy under the number of the tree assigned to. -/
theorem exists_copy_of_assign (other : a ≠ r) (heldX : (run {} edits).trees[a]? = some x) :
    ∃ copy u, (run {} edits).Places (.assign a r) a r t copy ∧ copy.Portrays t t.root u ∧
      copy.size = t.size ∧ Renews edits (.assign a r) x copy ∧ Estranged edits t copy := by
  obtain ⟨s, shape⟩ := wellLinked_run wellLinked_init edits r t held
  obtain ⟨c, same, new, shapeC, -, id⟩ := LinkedTree.exists_hasShape_assign shape x
  have trees : ((run {} edits).step (.assign a r)).state.trees =
      (run {} edits).trees.insert a (x.assign t).state := by
    simp only [Forest.step, onTrees, held, onTree, heldX]
  have reply : ((run ({} : Forest S α) edits).step (.assign a r)).reply = .done := by
    simp only [Forest.step, onTrees, held, onTree, heldX]
  have portrays := LinkedTree.portrays_root shape shapeC same
  -- All nodes of the copy are newer than the keys issued before.
  have stale : ∀ k, x.nodes.Issued k →
      (x.assign t).state.resolve (x.handle (some k)) = .error .staleNode := by
    intro k old
    refine LinkedTree.resolve_eq_error_iff.2 (.stale rfl id.symm ?_)
    refine Option.eq_none_iff_forall_ne_some.2 fun node found => ?_
    exact new k (shapeC.covers k node found) old
  refine ⟨_, s, places_of_insert held other reply trees, portrays,
    portrays.size.trans shape.size.symm, ⟨id, nextId_onTrees _ _ _ _ _, stale, ?_⟩, ?_⟩
  · intro few past future split u tree h k node heldU accepted own
    obtain ⟨rfl, -⟩ := LinkedTree.resolve_eq_ok_iff.1 accepted
    have number : tree.id = x.id := own
    have is : tree.handle (some k) = x.handle (some k) := by
      rw [LinkedTree.handle, LinkedTree.handle, number]
    rw [is] at accepted ⊢
    exact stale k (issued_of_run few heldX split heldU accepted)
  · exact estranged_of_ne fun few same =>
      other (apart_of_run few heldX held (id.symm.trans same))

end Copying

/-- In every state that commands lead to, copies of a tree are faithful. -/
theorem faithfulCopies_of_run (edits : List (Edit Handle α)) {r : Nat} {t : LinkedTree S α}
    (held : (run {} edits).trees[r]? = some t) : FaithfulCopies edits r t where
  clone := fun _ other => exists_copy_of_clone held other
  assign := fun _ _ other heldX => exists_copy_of_assign held other heldX
  subtree := fun _ other _ _ _ accepted => exists_copy_of_subtree held other accepted

/-- A tree of two nodes, and another tree to be replaced by a copy of it. -/
theorem faithfulCopies_of_two_nodes :
    let edits : List (Edit Handle Nat) := [.create 0, .insert 0 (.above .left) .null 7,
      .insert 0 (.below .right .left) ⟨some 0, 1⟩ 8, .create 1, .insert 1 (.above .left) .null 9]
    let t : LinkedTree Cells Nat :=
      ⟨⟨⟨#[some ⟨none, none, some 1, 7⟩, some ⟨some 0, none, none, 8⟩]⟩⟩, some 0, 1⟩
    (run {} edits).trees[0]? = some t ∧ t.resolve ⟨some 1, 1⟩ = .ok (1, ⟨some 0, none, none, 8⟩) ∧
      FewTrees Cells edits ∧ FaithfulCopies edits 0 t := by
  intro edits t
  have held : (run {} edits).trees[0]? = some t := rfl
  exact ⟨held, rfl, by decide, faithfulCopies_of_run edits held⟩

end Forest

end Substrate
