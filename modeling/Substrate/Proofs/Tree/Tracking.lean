import Substrate.Proofs.Tree.Grove
import Substrate.Proofs.Tree.Splicing

/-!
# Substrate.Proofs.Tree.Tracking

One tree beside one shape of numbered nodes. A list `names` keeps the handle of every node, at the
place of its number. `Tracks` says that a tree and a shape are alike under these handles; then a
handle is accepted where its node is in the shape, and nowhere else (`Tracks.cases`).

`Follows` is the step lemma of an edit: the tree after it is alike to the shape after its
counterpart in `Growth`, once the handles of the new nodes are put at the end of the list, and the
answered handle is that of the answered node. There is one lemma for each edit: `follows_insert`,
`follows_insertChain`, `follows_erase`, `follows_eraseChild`, `follows_reserve`, `follows_setData`,
`follows_merge`, `follows_assign`, `follows_clear`.
-/

namespace Substrate

variable {S : Type → Type} [SlotMap S] {α : Type}

/-! ## Handles for numbers -/

/-- Node `n` has the handle of the key `k` of the tree `id`. -/
def Named (names : List Handle) (id : TreeId) (n : Nat) (k : Key) : Prop :=
  names[n]? = some ⟨some k, id⟩

section Named

variable {names : List Handle} {id : TreeId} {n : Nat} {k : Key}

theorem idxOf_eq_of_getElem? {h : Handle} (nodup : names.Nodup) (at? : names[n]? = some h) :
    names.idxOf h = n := by
  obtain ⟨lt, rfl⟩ := List.getElem?_eq_some_iff.1 at?
  exact nodup.idxOf_getElem n lt

/-- The handle of a node refers to that node. -/
theorem refTo_of_named (nodup : names.Nodup) (named : Named names id n k) :
    refTo names ⟨some k, id⟩ = some n := by
  rw [refTo, Option.map_some, idxOf_eq_of_getElem? nodup named]

/-- No two nodes have one handle, and no node has two. -/
theorem named_only (nodup : names.Nodup) (named : Named names id n k) (m : Nat) (j : Key)
    (other : Named names id m j) : m = n ↔ j = k := by
  constructor
  · rintro rfl
    have same := Option.some.inj (other.symm.trans named)
    simpa using same
  · rintro rfl
    rw [← idxOf_eq_of_getElem? nodup other, ← idxOf_eq_of_getElem? nodup named]

/-- A node keeps its handle when handles are added. -/
theorem named_append {new : List Handle} (named : Named names id n k) :
    Named (names ++ new) id n k := by
  have lt : n < names.length := (List.getElem?_eq_some_iff.1 named).1
  rw [Named, List.getElem?_append_left lt]
  exact named

omit [SlotMap S] in
/-- The handle that a tree answers refers to the node that goes with its key. -/
theorem refTo_handle {t : LinkedTree S α} {r : Option Nat} {key : Option Key} (nodup : names.Nodup)
    (rel : Option.Rel (Named names t.id) r key) : refTo names (t.handle key) = r := by
  cases rel with
  | none => rfl
  | some named => exact refTo_of_named nodup named

end Named

/-! ## Trees and shapes of numbered nodes -/

/-- The tree and the shape are alike under the handles of the nodes. The tree issued all keys that
handles of its number have. -/
structure Tracks (names : List Handle) (t : LinkedTree S α) (s : Shape (Nat × α)) : Prop where
  alike : ∃ c, t.HasShape c ∧ s.Alike (Named names t.id) c
  issued : ∀ k, (⟨some k, t.id⟩ : Handle) ∈ names → t.nodes.Issued k

/-- From the tree `t` to `t'` an edit did what its counterpart did to the shape. The nodes born have
the handles `new`, and the handle answered, if any, is that of the node answered. -/
structure Follows (names new : List Handle) (t t' : LinkedTree S α) (growth : Growth α)
    (answered : Option Handle) : Prop where
  tracks : Tracks (names ++ new) t' growth.shape
  born : growth.born = names.length + new.length
  nodup : (names ++ new).Nodup
  own : ∀ h ∈ new, ∃ k, h = t.handle (some k)
  id : t'.id = t.id
  answer : answered.map (refTo (names ++ new)) = growth.answer

def LinkedTree.handles (t : LinkedTree S α) (ks : List Key) : List Handle :=
  ks.map fun k => t.handle (some k)

variable {names : List Handle} {t t' : LinkedTree S α} {s s' : Shape (Nat × α)}
  {c c' : Shape (Key × α)} {ks : List Key} {hd : Handle}

omit [SlotMap S] in
/-- The new handles are those of the numbers that follow. -/
theorem named_handles {i : Nat} {k : Key} (at? : ks[i]? = some k) :
    Named (names ++ t.handles ks) t.id (names.length + i) k := by
  have later : names.length ≤ names.length + i := Nat.le_add_right _ _
  rw [Named, List.getElem?_append_right later, Nat.add_sub_cancel_left, LinkedTree.handles,
    List.getElem?_map, at?]
  rfl

omit [SlotMap S] in
/-- A shape is alike to one of new keys if its nodes are numbered in the order of the keys. -/
theorem alike_handles (t : LinkedTree S α) (names : List Handle) {donor : Shape α}
    (payloads : c.payloads = donor) :
    (donor.numberFrom names.length).Alike (Named (names ++ t.handles c.keys) t.id) c := by
  rw [← payloads]
  exact Shape.alike_numberFrom c names.length fun i k at? => named_handles at?

/-- The subtree at a node is alike to the one at its number. -/
theorem LinkedTree.Located.exists_alike_sub? {R : Nat → Key → Prop} {n : Nat} {k : Key}
    {node : Node α} {C : Context (Key × α)} {l r : Shape (Key × α)}
    (at? : t.Located c k node C l r) (alike : s.Alike R c)
    (only : ∀ m j, R m j → (m = n ↔ j = k)) :
    ∃ u, s.sub? n = some u ∧ u.Alike R (.node (k, node.data) l r) := by
  have subs := alike.sub? only
  rw [at?.sub?] at subs
  generalize s.sub? n = u at subs
  cases subs with
  | some piece => exact ⟨_, rfl, piece⟩

/-- One step after another. -/
theorem Follows.trans {new new' : List Handle} {t'' : LinkedTree S α} {growth growth' : Growth α}
    {answered answered' : Option Handle} (first : Follows names new t t' growth answered)
    (later : Follows (names ++ new) new' t' t'' growth' answered') :
    Follows names (new ++ new') t t'' growth' answered' where
  tracks := by
    rw [← List.append_assoc]
    exact later.tracks
  born := by
    rw [later.born, List.length_append, List.length_append, Nat.add_assoc]
  nodup := by
    rw [← List.append_assoc]
    exact later.nodup
  own := by
    intro h mem
    rcases List.mem_append.1 mem with old | young
    · exact first.own h old
    · obtain ⟨k, rfl⟩ := later.own h young
      exact ⟨k, by rw [LinkedTree.handle, LinkedTree.handle, first.id]⟩
  id := later.id.trans first.id
  answer := by
    rw [← List.append_assoc]
    exact later.answer

namespace Tracks

/-- Handles of keys that were never issued are new. -/
theorem nodup_handles (tracks : Tracks names t s) (nodup : names.Nodup) (nodupK : ks.Nodup)
    (fresh : ∀ k ∈ ks, ¬ t.nodes.Issued k) : (names ++ t.handles ks).Nodup := by
  rw [List.nodup_append]
  refine ⟨nodup, ?_, ?_⟩
  · refine List.pairwise_map.2 (nodupK.imp fun distinct same => distinct ?_)
    simpa [LinkedTree.handle] using same
  · rintro h old _ new rfl
    obtain ⟨k, mem, rfl⟩ := List.mem_map.1 new
    exact fresh k mem (tracks.issued k old)

/-- A handle is refused and refers to no node of the shape, or it is accepted and the handle of a
node of the shape. -/
theorem cases (tracks : Tracks names t s) (nodup : names.Nodup) (hd : Handle) :
    (∃ e, t.resolve hd = .error e ∧ ∀ n, refTo names hd = some n → n ∉ s.keys) ∨
      ∃ k node n, t.resolve hd = .ok (k, node) ∧ refTo names hd = some n ∧ n ∈ s.keys ∧
        Named names t.id n k := by
  obtain ⟨c, shape, alike⟩ := tracks.alike
  rcases t.resolve_cases hd with ⟨e, refused⟩ | ⟨k, node, accepted⟩
  · refine .inl ⟨e, refused, fun n ref mem => ?_⟩
    obtain ⟨k, memC, named⟩ := alike.exists_right mem
    have lt : n < names.length := (List.getElem?_eq_some_iff.1 named).1
    have own : t.handle (some k) = hd :=
      Option.some.inj (named.symm.trans (getElem?_of_refTo ref lt))
    obtain ⟨node, found⟩ := (shape.mem_iff k).1 memC
    have accepted := LinkedTree.resolve_eq_ok_iff.2 ⟨own.symm, found⟩
    rw [refused] at accepted
    cases accepted
  · obtain ⟨own, found⟩ := LinkedTree.resolve_eq_ok_iff.1 accepted
    obtain ⟨n, mem, named⟩ := alike.exists_left (shape.covers k node found)
    refine .inr ⟨k, node, n, accepted, ?_, mem, named⟩
    rw [own]
    exact refTo_of_named nodup named

/-! ## Steps -/

/-- An edit that leaves a tree of an alike shape, all of whose other handles are new, was a step. -/
theorem follows_of_shape (tracks : Tracks names t s) (nodup : names.Nodup) (ks : List Key)
    (nodupK : ks.Nodup)
    (fresh : ∀ k ∈ ks, ¬ t.nodes.Issued k) (shape : t'.HasShape c')
    (alike : s'.Alike (Named (names ++ t.handles ks) t.id) c') (mem : ∀ k ∈ ks, k ∈ c'.keys)
    (issued : ∀ k, t.nodes.Issued k → t'.nodes.Issued k) (id : t'.id = t.id)
    {answered : Option Handle} {answer : Option (Option Nat)}
    (answers : answered.map (refTo (names ++ t.handles ks)) = answer) :
    Follows names (t.handles ks) t t' ⟨s', names.length + ks.length, answer⟩ answered where
  tracks := by
    refine ⟨⟨c', shape, id ▸ alike⟩, fun k own => ?_⟩
    rw [id, List.mem_append] at own
    rcases own with old | new
    · exact issued k (tracks.issued k old)
    · obtain ⟨j, memK, same⟩ := List.mem_map.1 new
      obtain rfl : j = k := by simpa [LinkedTree.handle] using same
      exact shape.issued (mem j memK)
  born := by simp [LinkedTree.handles]
  nodup := tracks.nodup_handles nodup nodupK fresh
  own := by
    intro h new
    obtain ⟨k, -, rfl⟩ := List.mem_map.1 new
    exact ⟨k, rfl⟩
  id := id
  answer := answers

theorem follows_refused (tracks : Tracks names t s) (nodup : names.Nodup) :
    Follows names [] t t (.refused s names.length) none where
  tracks := by
    rw [List.append_nil]
    exact tracks
  born := rfl
  nodup := by
    rw [List.append_nil]
    exact nodup
  own := by simp
  id := rfl
  answer := rfl

/-- An accepted edit was a step if its counterpart makes an alike shape of the shape. -/
theorem follows_of_edited (tracks : Tracks names t s) (nodup : names.Nodup) (ks : List Key)
    (nodupK : ks.Nodup)
    (fresh : ∀ k ∈ ks, ¬ t.nodes.Issued k)
    {o : Outcome (LinkedTree S α) (Except TreeError Handle) α} {key : Option Key} {r : Option Nat}
    (edited : t.Edited o c' key)
    (alike : s'.Alike (Named (names ++ t.handles ks) t.id) c') (mem : ∀ k ∈ ks, k ∈ c'.keys)
    (answer : Option.Rel (Named (names ++ t.handles ks) t.id) r key) :
    Follows names (t.handles ks) t o.state ⟨s', names.length + ks.length, some r⟩
      o.reply.toOption := by
  refine tracks.follows_of_shape nodup ks nodupK fresh edited.shape alike mem edited.issued
    edited.id ?_
  rw [edited.reply]
  exact congrArg some (refTo_handle (tracks.nodup_handles nodup nodupK fresh) answer)

/-- An accepted edit without new nodes. -/
theorem follows_of_kept (tracks : Tracks names t s) (nodup : names.Nodup)
    {o : Outcome (LinkedTree S α) (Except TreeError Handle) α} {key : Option Key} {r : Option Nat}
    (edited : t.Edited o c' key) (alike : s'.Alike (Named names t.id) c')
    (answer : Option.Rel (Named names t.id) r key) :
    Follows names [] t o.state ⟨s', names.length, some r⟩ o.reply.toOption := by
  have same : names ++ t.handles [] = names := List.append_nil names
  refine tracks.follows_of_edited nodup [] List.nodup_nil (by simp) edited ?_ (by simp) ?_
  · rw [same]
    exact alike
  · rw [same]
    exact answer

/-! ## Edits that remove -/

theorem follows_erase (tracks : Tracks names t s) (nodup : names.Nodup) (hd : Handle) :
    ∃ new, Follows names new t (t.erase hd).state (.erase s names.length (refTo names hd))
      (t.erase hd).reply.toOption := by
  rw [Growth.erase]
  rcases tracks.cases nodup hd with ⟨e, refused, absent⟩ | ⟨k, node, n, accepted, ref, mem, named⟩
  · rw [LinkedTree.erase, refused, Growth.edit_of_not_mem absent]
    exact ⟨[], tracks.follows_refused nodup⟩
  · obtain ⟨c, shape, alike⟩ := tracks.alike
    have only := named_only nodup named
    have erased := alike.editAt only (fun _ _ => id) fun _ _ _ => Shape.Alike.nil
    rw [ref, Growth.edit_of_mem mem]
    exact ⟨[], tracks.follows_of_kept nodup (shape.edited_erase accepted) erased
      (alike.parentOf only)⟩

theorem follows_eraseChild (tracks : Tracks names t s) (nodup : names.Nodup) (side : Side)
    (hd : Handle) :
    ∃ new, Follows names new t (t.eraseChild side hd).state
      (.eraseChild s names.length side (refTo names hd)) (t.eraseChild side hd).reply.toOption := by
  rw [Growth.eraseChild]
  rcases tracks.cases nodup hd with ⟨e, refused, absent⟩ | ⟨k, node, n, accepted, ref, mem, named⟩
  · rw [LinkedTree.eraseChild, refused, Growth.edit_of_not_mem absent]
    exact ⟨[], tracks.follows_refused nodup⟩
  · obtain ⟨c, shape, alike⟩ := tracks.alike
    have only := named_only nodup named
    have erased := alike.editAt only (fun _ _ => id) fun _ _ piece => piece.setChild side .nil
    rw [ref, Growth.edit_of_mem mem]
    exact ⟨[], tracks.follows_of_kept nodup (shape.edited_eraseChild accepted side) erased
      (.some named)⟩

theorem follows_reserve (tracks : Tracks names t s) (nodup : names.Nodup) (side : Side)
    (hd : Handle) :
    ∃ new, Follows names new t (t.reserve side hd).state
      (.reserve s names.length side (refTo names hd)) (t.reserve side hd).reply.toOption := by
  rw [Growth.reserve]
  rcases tracks.cases nodup hd with ⟨e, refused, absent⟩ | ⟨k, node, n, accepted, ref, mem, named⟩
  · rw [LinkedTree.reserve, refused, Growth.edit_of_not_mem absent]
    exact ⟨[], tracks.follows_refused nodup⟩
  · obtain ⟨c, shape, alike⟩ := tracks.alike
    have only := named_only nodup named
    have promoted := alike.editAt only (fun _ _ => id) fun _ _ piece => piece.child side
    rw [ref, Growth.edit_of_mem mem]
    refine ⟨[], tracks.follows_of_kept nodup (shape.edited_reserve accepted side) promoted ?_⟩
    -- The node that moves up is the top of what hangs below the node.
    obtain ⟨C, l, r, at?⟩ := shape.exists_located accepted
    obtain ⟨u, sub, piece⟩ := at?.exists_alike_sub? alike only
    rw [at?.child side, Shape.move?, sub]
    exact (piece.child side).topKey

theorem follows_clear (tracks : Tracks names t s) (nodup : names.Nodup) :
    Follows names [] t t.clear.state (.refused .nil names.length) none := by
  exact tracks.follows_of_shape nodup [] List.nodup_nil (by simp)
    (LinkedTree.hasShape_clear t) .nil (by simp) (fun k => (Arena.issued_clear _ k).2) rfl rfl

theorem follows_setData (tracks : Tracks names t s) (nodup : names.Nodup) (hd : Handle) (v : α) :
    ∃ new, Follows names new t (t.setData hd v).state
      (.setData s names.length (refTo names hd) v) none := by
  rw [Growth.setData]
  rcases tracks.cases nodup hd with ⟨e, refused, absent⟩ | ⟨k, node, n, accepted, ref, mem, named⟩
  · rw [LinkedTree.setData, refused, Growth.edit_of_not_mem absent]
    exact ⟨[], tracks.follows_refused nodup⟩
  · obtain ⟨c, shape, alike⟩ := tracks.alike
    obtain ⟨shape', -, -, issued, id⟩ := shape.hasShape_setData accepted v
    have changed := alike.editAt (named_only nodup named) (fun _ _ => @named_append names _ _ _ [])
      fun _ _ piece => (piece.mono fun _ _ => named_append).setTop v
    rw [ref, Growth.edit_of_mem mem]
    exact ⟨_, tracks.follows_of_shape nodup [] List.nodup_nil (by simp) shape' changed
      (by simp) (fun k => (issued k).2) id rfl⟩

/-! ## Edits that add -/

/-- Inserting follows the insertion of the next number. -/
theorem follows_insert (tracks : Tracks names t s) (nodup : names.Nodup) (splice : Splice)
    (hd : Handle) (v : α) :
    ∃ new, Follows names new t (t.insert splice hd v).state
      (.insert s names.length splice (refTo names hd) v)
      (t.insert splice hd v).reply.toOption := by
  obtain ⟨c, shape, alike⟩ := tracks.alike
  have named : Named (names ++ t.handles [t.nodes.nextKey]) t.id names.length t.nodes.nextKey :=
    named_handles (i := 0) rfl
  rcases shape.insert_cases splice hd v with ⟨e, refused, notOk, notFirst⟩ |
    ⟨k, node, accepted, edited⟩ | ⟨keep, rfl, unusable, rfl, edited⟩
  · have absent : ∀ n, refTo names hd = some n → n ∉ s.keys := by
      rcases tracks.cases nodup hd with ⟨e, -, absent⟩ | ⟨k, node, n, accepted, -⟩
      · exact absent
      · exact absurd accepted (notOk k node)
    have notFirst' : refTo names hd = none → s = .nil → ∀ keep, splice ≠ .above keep := by
      rintro ref rfl
      cases alike
      exact notFirst (Option.map_eq_none_iff.1 ref) rfl
    rw [refused, Growth.insert_of_not_mem absent notFirst']
    exact ⟨[], tracks.follows_refused nodup⟩
  · rcases tracks.cases nodup hd with ⟨e, refused, -⟩ | ⟨k', node', n, accepted', ref, mem, named'⟩
    · rw [accepted] at refused
      cases refused
    · rw [accepted] at accepted'
      cases accepted'
      have spliced := alike.editAt (named_only nodup named') (fun _ _ => named_append)
        fun _ _ piece => (piece.mono fun _ _ => named_append).spliceTop splice named v
      rw [ref, Growth.insert_of_mem mem]
      obtain ⟨C, l, r, at?⟩ := shape.exists_located accepted
      refine ⟨_, tracks.follows_of_edited nodup [t.nodes.nextKey] (by simp) (by simp)
        edited spliced (fun j mem => at?.mem_keys_editAt ?_) (.some named)⟩
      rw [List.mem_singleton.1 mem]
      exact Shape.fst_mem_keys_spliceTop _ l r splice (t.nodes.nextKey, v)
  · cases alike
    rw [refTo, unusable]
    exact ⟨_, tracks.follows_of_edited nodup [t.nodes.nextKey] (by simp) (by simp) edited
      (.node named .nil .nil) (by simp) (.some named)⟩

/-- A chain of insertions follows its counterpart, wherever it breaks off. -/
theorem follows_insertChain (tracks : Tracks names t s) (nodup : names.Nodup) (hd : Handle)
    (chain : List (LinkedTree.Link α)) :
    ∃ new, Follows names new t (t.insertChain hd chain).state
      (.insertChain s names.length (refTo names hd) chain)
      (t.insertChain hd chain).reply.toOption := by
  induction chain generalizing names t s hd with
  | nil =>
    have same : names ++ [] = names := List.append_nil names
    refine ⟨[], ?_, rfl, ?_, by simp, rfl, ?_⟩
    · rw [same]
      exact tracks
    · rw [same]
      exact nodup
    · rw [same]
      rfl
  | cons link rest ih =>
    obtain ⟨new, first⟩ := tracks.follows_insert nodup link.splice hd link.payload
    obtain ⟨reply, state⟩ := LinkedTree.insertLink_eq t hd link
    rw [← reply, ← state] at first
    have answer := first.answer
    rw [Growth.insertChain, LinkedTree.insertChain]
    generalize t.insertLink hd link = o at first answer
    generalize Growth.insert s names.length link.splice (refTo names hd) link.payload = growth
      at first answer
    cases replied : o.reply with
    | error e =>
      rw [replied] at first answer
      have none : growth.answer = none := answer.symm
      simp only [none, replied]
      exact ⟨new, first⟩
    | ok next =>
      rw [replied] at answer
      have some : growth.answer = some (refTo (names ++ new) next) := answer.symm
      have born : growth.born = (names ++ new).length := by
        rw [first.born, List.length_append]
      obtain ⟨new', later⟩ := ih first.tracks first.nodup next
      simp only [some, born]
      exact ⟨new ++ new', first.trans later⟩

/-! ## Copies -/

/-- Merging follows the merge of the donor's payloads under new numbers. -/
theorem follows_merge (tracks : Tracks names t s) (nodup : names.Nodup) (hd : Handle)
    {other : LinkedTree S α} {d : Shape (Nat × α)} (donor : Tracks names other d) :
    ∃ new, Follows names new t (t.merge hd other).state
      (.merge s names.length (refTo names hd) d.payloads) (t.merge hd other).reply.toOption := by
  rw [Growth.merge]
  rcases tracks.cases nodup hd with ⟨e, refused, absent⟩ | ⟨k, node, n, accepted, ref, mem, named⟩
  · rw [LinkedTree.merge, refused, Growth.edit_of_not_mem absent]
    exact ⟨[], tracks.follows_refused nodup⟩
  · obtain ⟨c, shape, alike⟩ := tracks.alike
    obtain ⟨cd, shapeD, alikeD⟩ := donor.alike
    obtain ⟨u, payloads, fresh, edited⟩ := shape.edited_merge accepted shapeD
    have copied := alike_handles t names (payloads.trans alikeD.payloads.symm)
    have merged := alike.editAt (named_only nodup named) (fun _ _ => named_append)
      fun _ _ _ => copied
    have size : d.payloads.size = u.keys.length := by
      rw [Shape.length_keys, ← Shape.size_payloads u, payloads, alikeD.payloads]
    obtain ⟨C, l, r, at?⟩ := shape.exists_located accepted
    have nodupU : u.keys.Nodup := by
      have whole := edited.shape.nodup
      rw [at?.editAt] at whole
      exact (Context.nodup_keys_plug.1 whole).1
    rw [ref, Growth.edit_of_mem mem, size]
    exact ⟨_, tracks.follows_of_edited nodup u.keys nodupU fresh edited merged
      (fun j mem => at?.mem_keys_editAt mem) copied.topKey⟩

/-- A tree whose contents became a copy. -/
theorem follows_of_copy (tracks : Tracks names t s) (nodup : names.Nodup) {donor : Shape α}
    (payloads : c.payloads = donor) (fresh : ∀ k ∈ c.keys, ¬ t.nodes.Issued k)
    (shape : t'.HasShape c) (issued : ∀ k, t.nodes.Issued k → t'.nodes.Issued k)
    (id : t'.id = t.id) :
    Follows names (t.handles c.keys) t t' (.copy names.length donor) none := by
  have size : donor.size = c.keys.length := by
    rw [Shape.length_keys, ← Shape.size_payloads c, payloads]
  rw [Growth.copy, size]
  exact tracks.follows_of_shape nodup c.keys shape.nodup fresh shape
    (alike_handles t names payloads) (fun _ mem => mem) issued id rfl

theorem follows_assign (tracks : Tracks names t s) (nodup : names.Nodup) {other : LinkedTree S α}
    {d : Shape (Nat × α)} (donor : Tracks names other d) :
    ∃ new, Follows names new t (t.assign other).state (.copy names.length d.payloads) none := by
  obtain ⟨cd, shapeD, alikeD⟩ := donor.alike
  obtain ⟨c, payloads, fresh, shape, issued, id⟩ := LinkedTree.exists_hasShape_assign shapeD t
  exact ⟨_, tracks.follows_of_copy nodup (payloads.trans alikeD.payloads.symm) fresh shape issued
    id⟩

end Tracks

/-! ## Looks -/

namespace Tracks

/-- The root refers to the top of the shape. -/
theorem root (tracks : Tracks names t s) (nodup : names.Nodup) : refTo names t.root = s.topKey := by
  obtain ⟨c, shape, alike⟩ := tracks.alike
  rw [LinkedTree.root, shape.root]
  exact refTo_handle nodup alike.topKey

/-- A handle reads the payload of the node that it refers to. -/
theorem data (tracks : Tracks names t s) (nodup : names.Nodup) (hd : Handle) :
    (t.data hd).toOption = (refTo names hd).bind s.payload? := by
  rcases tracks.cases nodup hd with ⟨e, refused, absent⟩ | ⟨k, node, n, accepted, ref, mem, named⟩
  · have none : (refTo names hd).bind s.payload? = none := by
      cases ref : refTo names hd with
      | none => rfl
      | some n => rw [Option.bind_some, Shape.payload?, Shape.sub?_of_not_mem (absent n ref)]
    rw [LinkedTree.data, refused, none]
    rfl
  · obtain ⟨c, shape, alike⟩ := tracks.alike
    obtain ⟨C, l, r, at?⟩ := shape.exists_located accepted
    obtain ⟨u, sub, piece⟩ := at?.exists_alike_sub? alike (named_only nodup named)
    rw [LinkedTree.data, accepted, ref, Option.bind_some, Shape.payload?, sub]
    cases piece
    rfl

/-- A step from the node that a handle refers to answers the handle of the node where it leads. -/
theorem move (tracks : Tracks names t s) (nodup : names.Nodup) {hd : Handle} {n : Nat}
    (ref : refTo names hd = some n) (mem : n ∈ s.keys) (m : LinkedTree.Move) :
    (t.move hd m).toOption.map (refTo names) = some (s.move? n m) := by
  rcases tracks.cases nodup hd with ⟨e, -, absent⟩ | ⟨k, node, n', accepted, ref', -, named⟩
  · exact absurd mem (absent n ref)
  · obtain rfl : n' = n := Option.some.inj (ref'.symm.trans ref)
    obtain ⟨c, shape, alike⟩ := tracks.alike
    obtain ⟨C, l, r, at?⟩ := shape.exists_located accepted
    have only := named_only nodup named
    cases m with
    | up =>
      have above : c.parentOf k = node.parent := shape.parentOf_eq accepted
      rw [LinkedTree.move, LinkedTree.parent, accepted]
      exact congrArg some (refTo_handle nodup (above ▸ alike.parentOf only))
    | down side =>
      obtain ⟨u, sub, piece⟩ := at?.exists_alike_sub? alike only
      have tops := (piece.child side).topKey
      rw [← at?.child side] at tops
      rw [LinkedTree.move, LinkedTree.child, accepted, Shape.move?, sub]
      exact congrArg some (refTo_handle nodup tops)

end Tracks

/-! ## New trees -/

section New

variable {id : TreeId}

/-- A new tree under a number that no handle has. -/
theorem tracks_empty (unused : ∀ h ∈ names, h.tree ≠ id) :
    Tracks names (LinkedTree.empty α id : LinkedTree S α) .nil where
  alike := ⟨.nil, LinkedTree.hasShape_empty id, .nil⟩
  issued := fun _ mem => absurd rfl (unused _ mem)

theorem follows_clone (nodup : names.Nodup) (unused : ∀ h ∈ names, h.tree ≠ id)
    {other : LinkedTree S α} {d : Shape (Nat × α)} (donor : Tracks names other d) :
    ∃ new, Follows names new (LinkedTree.empty α id) (other.clone id)
      (.copy names.length d.payloads) none :=
  (tracks_empty unused).follows_assign nodup donor

/-- A subtree is copied exactly where the handle is that of a node of the shape. -/
theorem follows_subtree (nodup : names.Nodup) (unused : ∀ h ∈ names, h.tree ≠ id)
    {other : LinkedTree S α} {d : Shape (Nat × α)} (donor : Tracks names other d) (hd : Handle) :
    (∃ e, other.subtree hd id = .error e ∧ (refTo names hd).bind d.sub? = none) ∨
      ∃ tree u new, other.subtree hd id = .ok tree ∧ (refTo names hd).bind d.sub? = some u ∧
        Follows names new (LinkedTree.empty α id) tree (.copy names.length u.payloads) none := by
  rcases donor.cases nodup hd with ⟨e, refused, absent⟩ | ⟨k, node, n, accepted, ref, mem, named⟩
  · refine .inl ⟨e, ?_, ?_⟩
    · rw [LinkedTree.subtree, refused]
      rfl
    · cases ref : refTo names hd with
      | none => rfl
      | some n => exact Shape.sub?_of_not_mem (absent n ref)
  · obtain ⟨cd, shapeD, alikeD⟩ := donor.alike
    obtain ⟨tree, u', c, copied, sub, payloads, shape, is⟩ :=
      shapeD.exists_hasShape_subtree accepted id
    have subs := alikeD.sub? (named_only nodup named)
    rw [sub] at subs
    generalize found : d.sub? n = u at subs
    cases subs with
    | @some u _ piece =>
      refine .inr ⟨tree, u, _, copied, ?_, (tracks_empty unused).follows_of_copy nodup
        (payloads.trans piece.payloads.symm) (fun k _ => Arena.not_issued_empty k) shape
        (fun k issued => (Arena.not_issued_empty k issued).elim) is⟩
      rw [ref]
      exact found

end New

end Substrate
