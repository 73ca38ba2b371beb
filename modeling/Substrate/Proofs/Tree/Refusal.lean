import Substrate.Proofs.Tree.Simulation

/-!
# Substrate.Proofs.Tree.Refusal

When operations at a handle fail, and what a failure costs. A tree refuses a handle for one of three
reasons, the first that applies (`Refuses`, `resolve_eq_error_iff`). Questions fail exactly with
that reason, and so do edits (`site_eq_error_iff`, `step_of_refused`, `step_of_accepted`), except
that a splice above no node gives an empty tree its first node. A command that fails leaves every
tree and the next tree number alone, runs no constructor, and costs at most the payload handed over.

The main result is `guarded_of_run`, for all states that commands lead to.
-/

namespace Substrate

variable {S : Type → Type} [SlotMap S] {α : Type}

/-! ## Refused handles -/

namespace LinkedTree

/-- The tree refuses the handle for this reason. A handle of another tree is refused as such even if
its node is gone. -/
inductive Refuses (t : LinkedTree S α) (h : Handle) : TreeError → Prop where
  /-- It denotes no node. -/
  | null (unusable : h.key = none) : Refuses t h .nullNode
  /-- It denotes a node of another tree. -/
  | foreign {k : Key} (usable : h.key = some k) (other : h.tree ≠ t.id) :
    Refuses t h (.foreignNode t.id h.tree)
  /-- It denotes a node that this tree no longer has. -/
  | stale {k : Key} (usable : h.key = some k) (own : h.tree = t.id)
    (gone : t.nodes.get? k = none) : Refuses t h .staleNode

/-- A splice above no node, in an empty tree. -/
def MakesFirst (t : LinkedTree S α) (h : Handle) : Splice → Prop
  | .above _ => t.isEmpty = true ∧ h.key = none
  | .below _ _ => False

variable {t : LinkedTree S α} {h : Handle} {e : TreeError}

/-- A handle fails to resolve with the reason for which the tree refuses it. -/
theorem resolve_eq_error_iff : t.resolve h = .error e ↔ t.Refuses h e := by
  obtain ⟨key, tree⟩ := h
  constructor
  · intro refused
    rw [resolve] at refused
    cases key with
    | none =>
      cases refused
      exact .null rfl
    | some k =>
      by_cases own : tree = t.id
      · cases found : t.nodes.get? k with
        | none =>
          simp only [own, found, if_true] at refused
          cases refused
          exact .stale rfl own found
        | some node => simp [own, found] at refused
      · simp only [own, if_false] at refused
        cases refused
        exact .foreign rfl own
  · intro refused
    cases refused with
    | null unusable => simp_all [resolve]
    | foreign usable other => simp_all [resolve]
    | stale usable own gone => simp_all [resolve]

theorem refuses_iff : (∃ e, t.Refuses h e) ↔ ¬ ∃ k node, t.resolve h = .ok (k, node) := by
  simp only [← resolve_eq_error_iff]
  rcases t.resolve_cases h with ⟨e, refused⟩ | ⟨k, node, accepted⟩
  · simp [refused]
  · simp [accepted]

/-- There is one reason for a refusal. -/
theorem Refuses.unique {e' : TreeError} (refused : t.Refuses h e) (refused' : t.Refuses h e') :
    e = e' := by
  rw [← resolve_eq_error_iff] at refused refused'
  exact Except.error.inj (refused.symm.trans refused')

/-- What is done with the node of a handle does not fail by itself. -/
theorem bind_resolve_eq_error_iff {β : Type} (f : Key × Node α → β) :
    (t.resolve h >>= fun found => pure (f found)) = .error e ↔ t.Refuses h e := by
  rw [← resolve_eq_error_iff]
  rcases t.resolve h with e' | found
  · exact Iff.of_eq (by simp [bind, Except.bind])
  · exact Iff.of_eq (by simp [bind, Except.bind, pure, Except.pure])

/-- A splice is refused with its handle, unless it makes the first node of the tree. -/
theorem site_eq_error_iff {splice : Splice} :
    t.site splice h = .error e ↔ t.Refuses h e ∧ ¬ t.MakesFirst h splice := by
  cases splice with
  | below side keep =>
    have checked := bind_resolve_eq_error_iff (t := t) (h := h) (e := e)
      fun found => Site.below found.1 side keep (found.2.child side)
    exact checked.trans (by simp [MakesFirst])
  | above keep =>
    have checked := bind_resolve_eq_error_iff (t := t) (h := h) (e := e)
      fun found => Site.above found.1 (t.placeOf found.1 found.2) keep
    rw [site, MakesFirst]
    by_cases first : t.isEmpty = true ∧ h.key = none
    · simp [first, Handle.isUsable]
    · have notFirst : (!h.isUsable && t.isEmpty) = false := by
        rw [Bool.eq_false_iff]
        intro taken
        simp only [Bool.and_eq_true, Bool.not_eq_true', Handle.isUsable,
          Option.isSome_eq_false_iff, Option.isNone_iff_eq_none] at taken
        exact first ⟨taken.2, taken.1⟩
      rw [notFirst]
      exact checked.trans (by simp [first])

/-- A refused splice neither hands its payload on nor runs its constructor, whatever that does. -/
theorem emplace_of_refused {m : Type → Type} [Monad m] {splice : Splice} (make : m α)
    (refused : t.Refuses h e) (notFirst : ¬ t.MakesFirst h splice) :
    t.emplace splice h make = pure (.keeping (.error e) t) := by
  rw [emplace, site_eq_error_iff.2 ⟨refused, notFirst⟩]

/-- A splice has a site at an accepted handle, and where it makes the first node. -/
theorem exists_site {splice : Splice}
    (accepted : (∃ k node, t.resolve h = .ok (k, node)) ∨ t.MakesFirst h splice) :
    ∃ site, t.site splice h = .ok site := by
  cases found : t.site splice h with
  | ok site => exact ⟨site, rfl⟩
  | error e =>
    obtain ⟨refused, notFirst⟩ := site_eq_error_iff.1 found
    exact absurd accepted (not_or.2 ⟨refuses_iff.1 ⟨e, refused⟩, notFirst⟩)

end LinkedTree

/-! ## Commands at a handle -/

namespace Forest

/-- No tree differs, nor the number of the next one. -/
structure Same (f f' : Forest S α) : Prop where
  trees : ∀ t : Nat, f'.trees[t]? = f.trees[t]?
  nextId : f'.nextId = f.nextId

namespace Reply

def error? : Reply → Option TreeError
  | failed e | built _ (.error e) => some e
  | done | handle _ | built _ (.ok _) | noTree => none

/-- The command did its work, and its constructor ran if it has one. -/
def Succeeds : Reply → Prop
  | done | handle _ | built true (.ok _) => True
  | failed _ | built _ (.error _) | built false (.ok _) | noTree => False

end Reply

namespace Edit

variable {ρ : Type}

/-- The register whose tree has to accept a handle, and the handle. A chain of insertions depends on
many handles and has none. -/
def checked? : Edit Handle α → Option (Nat × Handle)
  | subtree _ u h => some (u, h)
  | merge t h _ | insert t _ h _ | emplace t _ h _ => some (t, h)
  | erase t h | eraseChild t _ h | reserve t _ h | setData t h _ => some (t, h)
  | create _ | discard _ | clone _ _ | take _ _ | swap _ _ | assign _ _ | clear _ => none
  | insertChain _ _ _ => none

def donor? : Edit ρ α → Option Nat
  | merge _ _ u => some u
  | _ => none

def handed : Edit ρ α → List α
  | insert _ _ _ v => [v]
  | _ => []

/-- The answer to a refused handle. A constructor, if there is one, did not run. -/
def refusal (e : TreeError) : Edit ρ α → Reply
  | emplace _ _ _ _ => .built false (.error e)
  | _ => .failed e

/-- The command gives an empty tree its first node. -/
def MakesFirst (tree : LinkedTree S α) : Edit Handle α → Prop
  | insert _ splice h _ | emplace _ splice h _ => tree.MakesFirst h splice
  | _ => False

@[simp] theorem error?_refusal (e : TreeError) (edit : Edit ρ α) :
    (edit.refusal e).error? = some e := by
  cases edit <;> rfl

end Edit

variable {f : Forest S α} {r : Nat} {tree : LinkedTree S α} {h : Handle} {e : TreeError}
  {edit : Edit Handle α}

omit [SlotMap S] in
theorem same_refl (f : Forest S α) : f.Same f := ⟨fun _ => rfl, rfl⟩

omit [SlotMap S] in
theorem reply_onTree {ρ : Type} (held : f.trees[r]? = some tree) (ofReply : ρ → Reply)
    (operation : LinkedTree S α → Outcome (LinkedTree S α) ρ α) :
    (f.onTree r ofReply operation).reply = ofReply (operation tree).reply := by
  rw [onTree, held]

/-- A command failed at the cost of the given payloads, and changed nothing. -/
structure Fails (f : Forest S α) (o : Result S α) (reply : Reply) (cost : List α) : Prop where
  reply : o.reply = reply
  same : f.Same o.state
  destroyed : o.destroyed = cost

omit [SlotMap S] in
/-- An operation that leaves its tree alone leaves the forest alone. -/
theorem fails_onTree {ρ : Type} (held : f.trees[r]? = some tree) (ofReply : ρ → Reply)
    {operation : LinkedTree S α → Outcome (LinkedTree S α) ρ α} (reply : ρ) {cost : List α}
    (kept : operation tree = ⟨reply, tree, cost⟩) :
    f.Fails (f.onTree r ofReply operation) (ofReply reply) cost := by
  rw [onTree, held]
  simp only [kept]
  refine ⟨rfl, ⟨fun t => ?_, rfl⟩, rfl⟩
  rw [Registers.getElem?_insert]
  split
  · next here => rw [here, held]
  · rfl

/-- A command at a refused handle fails with the reason of the refusal. -/
theorem step_of_refused (held : f.trees[r]? = some tree) (checked : edit.checked? = some (r, h))
    (donated : ∀ u, edit.donor? = some u → ∃ other, f.trees[u]? = some other)
    (refused : tree.Refuses h e) (notFirst : ¬ edit.MakesFirst tree) :
    f.Fails (f.step edit) (edit.refusal e) edit.handed := by
  have unresolved := LinkedTree.resolve_eq_error_iff.2 refused
  cases edit with
  | subtree t u hd =>
    cases checked
    have none : tree.subtree h f.nextId = .error e := by rw [LinkedTree.subtree, unresolved]; rfl
    simp only [step, held, none]
    exact ⟨rfl, same_refl f, rfl⟩
  | merge t hd u =>
    cases checked
    obtain ⟨other, heldU⟩ := donated u rfl
    simp only [step, onTrees, heldU]
    exact fails_onTree held .ofHandle (.error e) (by rw [LinkedTree.merge, unresolved]; rfl)
  | insert t splice hd v =>
    cases checked
    have refusedSite := LinkedTree.site_eq_error_iff.2 ⟨refused, notFirst⟩
    exact fails_onTree held .ofHandle (.error e) (LinkedTree.insert_of_site_error refusedSite v)
  | emplace t splice hd v =>
    cases checked
    refine fails_onTree held id (.built false (.error e)) ?_
    rw [emplaceWatched, LinkedTree.emplace_of_refused _ refused notFirst]
    rfl
  | erase t hd =>
    cases checked
    exact fails_onTree held .ofHandle (.error e) (by rw [LinkedTree.erase, unresolved]; rfl)
  | eraseChild t side hd =>
    cases checked
    exact fails_onTree held .ofHandle (.error e) (by rw [LinkedTree.eraseChild, unresolved]; rfl)
  | reserve t side hd =>
    cases checked
    exact fails_onTree held .ofHandle (.error e) (by rw [LinkedTree.reserve, unresolved]; rfl)
  | setData t hd v =>
    cases checked
    exact fails_onTree held .ofUnit (.error e) (by rw [LinkedTree.setData, unresolved]; rfl)
  | _ => cases checked

theorem succeeds_ofHandle {result : Except TreeError Handle} (done : ∃ h, result = .ok h) :
    (Reply.ofHandle result).Succeeds := by
  obtain ⟨h, rfl⟩ := done
  trivial

/-- A command at an accepted handle succeeds, and so does one that makes a tree's first node. -/
theorem step_of_accepted (held : f.trees[r]? = some tree) (checked : edit.checked? = some (r, h))
    (donated : ∀ u, edit.donor? = some u → ∃ other, f.trees[u]? = some other)
    (accepted : (∃ k node, tree.resolve h = .ok (k, node)) ∨ edit.MakesFirst tree) :
    (f.step edit).reply.Succeeds := by
  cases edit with
  | subtree t u hd =>
    cases checked
    obtain ⟨k, node, resolved⟩ := accepted.resolve_right id
    have some : ∃ copy, tree.subtree h f.nextId = .ok copy := by
      rw [LinkedTree.subtree, resolved]
      exact ⟨_, rfl⟩
    obtain ⟨copy, copied⟩ := some
    simp only [step, held, copied]
    trivial
  | merge t hd u =>
    cases checked
    obtain ⟨k, node, resolved⟩ := accepted.resolve_right id
    obtain ⟨other, heldU⟩ := donated u rfl
    simp only [step, onTrees, heldU, reply_onTree held]
    refine succeeds_ofHandle ?_
    rw [LinkedTree.merge, resolved]
    exact ⟨_, rfl⟩
  | insert t splice hd v =>
    cases checked
    obtain ⟨site, found⟩ := LinkedTree.exists_site accepted
    simp only [step, reply_onTree held]
    refine succeeds_ofHandle ?_
    rw [LinkedTree.insert, found]
    exact ⟨_, rfl⟩
  | emplace t splice hd v =>
    cases checked
    obtain ⟨site, found⟩ := LinkedTree.exists_site accepted
    simp only [step, reply_onTree held, LinkedTree.emplaceWatched_eq, LinkedTree.insert, found]
    trivial
  | erase t hd =>
    cases checked
    obtain ⟨k, node, resolved⟩ := accepted.resolve_right id
    simp only [step, reply_onTree held]
    refine succeeds_ofHandle ?_
    simp only [LinkedTree.erase, resolved]
    cases tree.placeOf k node <;> exact ⟨_, rfl⟩
  | eraseChild t side hd =>
    cases checked
    obtain ⟨k, node, resolved⟩ := accepted.resolve_right id
    simp only [step, reply_onTree held]
    refine succeeds_ofHandle ?_
    simp only [LinkedTree.eraseChild, resolved]
    cases node.child side <;> exact ⟨_, rfl⟩
  | reserve t side hd =>
    cases checked
    obtain ⟨k, node, resolved⟩ := accepted.resolve_right id
    simp only [step, reply_onTree held]
    refine succeeds_ofHandle ?_
    rw [LinkedTree.reserve, resolved]
    exact ⟨_, rfl⟩
  | setData t hd v =>
    cases checked
    obtain ⟨k, node, resolved⟩ := accepted.resolve_right id
    simp only [step, reply_onTree held, LinkedTree.setData, resolved]
    trivial
  | _ => cases checked

/-! ## Verdicts on a handle -/

/-- A command at a handle fails exactly when the tree refuses the handle, with the reason of the
refusal, unless it makes the first node of the tree. -/
structure Decided (f : Forest S α) (tree : LinkedTree S α) (h : Handle) (edit : Edit Handle α) :
    Prop where
  fails_iff : ∀ e, (f.step edit).reply.error? = some e ↔
    tree.Refuses h e ∧ ¬ edit.MakesFirst tree
  succeeds : (f.step edit).reply.error? = none → (f.step edit).reply.Succeeds
  /-- A failure changes nothing and costs at most the payload handed over, once. -/
  atomic : ∀ e, (f.step edit).reply.error? = some e →
    f.Fails (f.step edit) (edit.refusal e) edit.handed

theorem Reply.Succeeds.error?_eq_none {reply : Reply} (done : reply.Succeeds) :
    reply.error? = none := by
  unfold Succeeds at done
  split at done <;> first | rfl | exact done.elim

/-- On a tree that is there, an edit fails exactly when its handle is refused. -/
theorem decided_of_held (held : f.trees[r]? = some tree) (checked : edit.checked? = some (r, h))
    (donated : ∀ u, edit.donor? = some u → ∃ other, f.trees[u]? = some other) :
    f.Decided tree h edit := by
  by_cases accepted : (∃ k node, tree.resolve h = .ok (k, node)) ∨ edit.MakesFirst tree
  · have done := step_of_accepted held checked donated accepted
    have silent := done.error?_eq_none
    refine ⟨fun e => ?_, fun _ => done, fun e answered => ?_⟩
    · rw [silent]
      constructor
      · intro answered
        cases answered
      · rintro ⟨refused, notFirst⟩
        exact absurd accepted (not_or.2 ⟨LinkedTree.refuses_iff.1 ⟨e, refused⟩, notFirst⟩)
    · rw [silent] at answered
      cases answered
  · obtain ⟨unresolved, notFirst⟩ := not_or.1 accepted
    obtain ⟨e, refused⟩ := LinkedTree.refuses_iff.2 unresolved
    have fails := step_of_refused held checked donated refused notFirst
    have answered : (f.step edit).reply.error? = some e := by
      rw [fails.reply, Edit.error?_refusal]
    refine ⟨fun e' => ?_, fun silent => ?_, fun e' answered' => ?_⟩
    · rw [answered, Option.some.injEq]
      constructor
      · rintro rfl
        exact ⟨refused, notFirst⟩
      · exact fun refused' => refused.unique refused'.1
    · rw [answered] at silent
      cases silent
    · obtain rfl : e = e' := Option.some.inj (answered.symm.trans answered')
      exact fails

/-- What the tree in register `r` makes of a handle, after some commands. -/
structure Guarded (edits : List (Edit Handle α)) (r : Nat) (tree : LinkedTree S α) (h : Handle) :
    Prop where
  /-- The tree refuses what it does not resolve, for one reason. -/
  refuses_iff : (∃ e, tree.Refuses h e) ↔ ¬ ∃ k node, tree.resolve h = .ok (k, node)
  unique : ∀ e e', tree.Refuses h e → tree.Refuses h e' → e = e'
  /-- A handle that some tree accepted once is stale in its own tree exactly when its node is in no
  tree any more. -/
  stale_iff : FewTrees S edits → ∀ past future, edits = past ++ future →
    (∃ (u : Nat) (other : LinkedTree S α) (k : Key) (node : Node α),
      (run {} past).trees[u]? = some other ∧ other.resolve h = .ok (k, node)) →
    h.tree = tree.id →
    (tree.Refuses h .staleNode ↔ ∀ (u : Nat) (other : LinkedTree S α) (k : Key) (node : Node α),
      (run {} edits).trees[u]? = some other → other.resolve h ≠ .ok (k, node))
  data : ∀ e, tree.data h = .error e ↔ tree.Refuses h e
  parent : ∀ e, tree.parent h = .error e ↔ tree.Refuses h e
  child : ∀ side e, tree.child side h = .error e ↔ tree.Refuses h e
  isRoot : ∀ e, tree.isRoot h = .error e ↔ tree.Refuses h e
  /-- No constructor runs at a refused handle, whatever it would do. -/
  uncalled : ∀ (m : Type → Type) [Monad m] (make : m α) splice e, tree.Refuses h e →
    ¬ tree.MakesFirst h splice → tree.emplace splice h make = pure (.keeping (.error e) tree)
  edit : ∀ edit, edit.checked? = some (r, h) →
    (∀ u, edit.donor? = some u → ∃ other : LinkedTree S α, (run {} edits).trees[u]? = some other) →
    (run {} edits).Decided tree h edit

/-- No two registers hold trees of one number, as long as tree numbers do not run out. -/
theorem apart_of_run {edits : List (Edit Handle α)} (few : FewTrees S edits)
    {t u : Nat} {tree other : LinkedTree S α} (heldT : (run {} edits).trees[t]? = some tree)
    (heldU : (run {} edits).trees[u]? = some other) (same : tree.id = other.id) : t = u := by
  obtain ⟨names, always⟩ := exists_related_of_few few
  exact (always edits [] (List.append_nil _).symm).apart t u tree other heldT heldU same

/-- In every state that commands lead to, operations at a handle fail exactly when the tree refuses
the handle, and a failure changes nothing. -/
theorem guarded_of_run (edits : List (Edit Handle α)) {r : Nat} {tree : LinkedTree S α}
    (held : (run {} edits).trees[r]? = some tree) (h : Handle) : Guarded edits r tree h where
  refuses_iff := LinkedTree.refuses_iff
  unique := fun _ _ => LinkedTree.Refuses.unique
  stale_iff := by
    intro few past future split met own
    constructor
    · intro refused u other k node heldU accepted
      -- The other tree has the number of this one, so it is this one.
      have number : other.id = h.tree :=
        (congrArg Handle.tree (LinkedTree.resolve_eq_ok_iff.1 accepted).1).symm
      obtain rfl : u = r := apart_of_run few heldU held (number.trans own)
      obtain rfl : other = tree := Option.some.inj (heldU.symm.trans held)
      exact LinkedTree.refuses_iff.1 ⟨_, refused⟩ ⟨k, node, accepted⟩
    · intro gone
      obtain ⟨e, refused⟩ := LinkedTree.refuses_iff.2 fun ⟨k, node, accepted⟩ =>
        gone r tree k node held accepted
      obtain ⟨u, other, k, node, -, accepted⟩ := met
      have usable : h.key = some k := by rw [(LinkedTree.resolve_eq_ok_iff.1 accepted).1]; rfl
      cases refused with
      | null unusable => rw [usable] at unusable; cases unusable
      | foreign _ other => exact absurd own other
      | stale usable own missing => exact .stale usable own missing
  data := fun _ => LinkedTree.bind_resolve_eq_error_iff _
  parent := fun _ => LinkedTree.bind_resolve_eq_error_iff _
  child := fun _ _ => LinkedTree.bind_resolve_eq_error_iff _
  isRoot := fun _ => LinkedTree.bind_resolve_eq_error_iff _
  uncalled := fun _ _ make _ _ => LinkedTree.emplace_of_refused make
  edit := fun _ => decided_of_held held

/-- An empty tree after its only node was erased: the handle of that node is stale, and the one that
the erasure answered still makes a first node. -/
theorem guarded_of_emptied_tree :
    let edits : List (Edit Handle Nat) :=
      [.create 0, .insert 0 (.above .left) .null 7, .erase 0 ⟨some 0, 1⟩]
    let tree : LinkedTree Cells Nat := ⟨⟨⟨#[none]⟩⟩, none, 1⟩
    (run {} edits).trees[0]? = some tree ∧ Guarded edits 0 tree ⟨some 0, 1⟩ ∧
      tree.Refuses ⟨some 0, 1⟩ .staleNode ∧ Guarded edits 0 tree ⟨none, 1⟩ ∧
      tree.MakesFirst ⟨none, 1⟩ (.above .left) := by
  intro edits tree
  have held : (run {} edits).trees[0]? = some tree := by
    let one : LinkedTree Cells Nat := ⟨⟨⟨#[some ⟨none, none, none, 7⟩]⟩⟩, some 0, 1⟩
    have emptied : (run {} edits).trees[0]? = some one.clear.state := rfl
    rw [emptied]
    simp [LinkedTree.clear, Arena.clear, SlotMap.clear, one, tree]
  exact ⟨held, guarded_of_run edits held _, .stale rfl rfl rfl, guarded_of_run edits held _,
    rfl, rfl⟩

end Forest

end Substrate
