import Substrate.Proofs.Tree.Coherence

/-!
# Substrate.Proofs.Tree.Iteration

A cursor meets what a recursive walk meets. Its pending keys are the tops of pieces that hang apart
from each other and that it has not met yet, so it *owes* their payloads, piece by piece
(`Cursor.Owes`). One call of `next` pays the first of them (`Cursor.Owes.next`), and owes the rest;
a pending key without a node does not occur (`Cursor.Owes.exists_get?`). The recursive walk goes by
handles alone (`LinkedTree.Recites`), and each step of it resolves anew.

The main result is `iterates_of_run`, for all states that commands lead to.
-/

namespace Substrate

variable {S : Type → Type} [SlotMap S] {α σ : Type}

/-! ## Loops -/

namespace Cursor

/-- A loop over what a cursor yields. The body turns one state into another, and goes on or leaves;
the loop ends too when a call yields nothing. -/
inductive Loop (body : α → σ → ForInStep σ) : Cursor S α → σ → σ → Prop where
  | ended {c : Cursor S α} {x : σ} (nothing : c.next.1 = none) : Loop body c x x
  | broke {c : Cursor S α} {v : α} {x y : σ} (yielded : c.next.1 = some v)
      (left : body v x = .done y) : Loop body c x y
  | went {c : Cursor S α} {v : α} {x y z : σ} (yielded : c.next.1 = some v)
      (on : body v x = .yield y) (rest : Loop body c.next.2 y z) : Loop body c x z

/-! ## What a cursor owes -/

/-- From the pending keys of a walk, the payloads `vs` are still to come. -/
inductive Owes (nodes : Arena S (Node α)) : List Key → List α → Prop where
  | nothing : Owes nodes [] []
  | piece {parent : Option Key} {s : Shape (Key × α)} {rest : List Key} {vs : List α}
      (hangs : Hangs nodes parent s) (later : Owes nodes rest vs) :
      Owes nodes (s.topKey.toList ++ rest) (s.preorder.map Prod.snd ++ vs)

variable {nodes : Arena S (Node α)} {pending : List Key} {vs : List α} {c : Cursor S α}

/-- Every pending key has a node. -/
theorem Owes.exists_get? (owes : Owes nodes pending vs) :
    ∀ k ∈ pending, ∃ node, nodes.get? k = some node := by
  induction owes with
  | nothing => simp
  | piece hangs later ih =>
    intro k mem
    rcases List.mem_append.1 mem with here | inRest
    · exact get?_of_hangs hangs (Shape.topKey_mem (Option.mem_toList.1 here))
    · exact ih k inRest

/-- A call pays the first payload, and owes the others. -/
theorem Owes.next (owes : Owes c.nodes c.pending vs) :
    c.next.1 = vs.head? ∧ Owes c.next.2.nodes c.next.2.pending vs.tail := by
  obtain ⟨nodes, pending⟩ := c
  replace owes : Owes nodes pending vs := owes
  induction owes with
  | nothing => exact ⟨rfl, .nothing⟩
  | @piece parent s rest vs hangs later ih =>
    cases s with
    | nil => exact ih
    | node x l r =>
      obtain ⟨top, left, right⟩ := hangs
      have below := Owes.piece left (.piece right later)
      simp only [Cursor.next, Shape.topKey_node, Option.toList_some, top, Shape.preorder,
        List.map_cons, List.map_append, List.cons_append, List.head?_cons, List.tail_cons,
        List.append_assoc, true_and]
      exact below

/-- An iterator does not touch the nodes. -/
theorem nodes_next (c : Cursor S α) : c.next.2.nodes = c.nodes := by
  unfold Cursor.next
  split
  · rfl
  · split <;> rfl

theorem nodes_after (c : Cursor S α) (n : Nat) : (c.after n).nodes = c.nodes := by
  induction n generalizing c with
  | zero => rfl
  | succ n ih => rw [after, ih, nodes_next]

/-- After some calls, so many payloads are paid. -/
theorem Owes.after (owes : Owes c.nodes c.pending vs) (n : Nat) :
    Owes c.nodes (c.after n).pending (vs.drop n) := by
  induction n generalizing c vs with
  | zero => exact owes
  | succ n ih =>
    have rest := ih owes.next.2
    rwa [nodes_next, List.drop_tail] at rest

/-- A loop over a cursor is a loop over what the cursor owes. -/
theorem Owes.loop_iff (owes : Owes c.nodes c.pending vs) (body : α → σ → ForInStep σ) (x y : σ) :
    Loop body c x y ↔ y = Id.run (forIn vs x fun v x => pure (body v x)) := by
  constructor
  · intro loop
    induction loop generalizing vs with
    | ended nothing =>
      rw [owes.next.1, List.head?_eq_none_iff] at nothing
      subst nothing
      rfl
    | @broke c v x y yielded left =>
      obtain ⟨rest, rfl⟩ := List.head?_eq_some_iff.1 (owes.next.1.symm.trans yielded)
      simp [left]
    | @went c v x y z yielded on _ ih =>
      obtain ⟨rest, rfl⟩ := List.head?_eq_some_iff.1 (owes.next.1.symm.trans yielded)
      rw [ih owes.next.2]
      simp [on]
  · rintro rfl
    induction vs generalizing c x with
    | nil => exact .ended owes.next.1
    | cons v vs ih =>
      obtain ⟨yielded, rest⟩ := owes.next
      cases step : body v x with
      | done y => simpa [step] using Loop.broke yielded step
      | yield y => simpa [step] using Loop.went yielded step (ih rest y)

end Cursor

namespace LinkedTree

/-! ## Recursive walks -/

/-- A walk by handles: the payload of a node, then what comes on its left, and what on its right.
Where there is no node, nothing comes. -/
inductive Recites (t : LinkedTree S α) : Handle → List α → Prop where
  | absent {h : Handle} (unusable : h.isUsable = false) : t.Recites h []
  | node {h l r : Handle} {v : α} {vs ws : List α} (data : t.data h = .ok v)
      (left : t.child .left h = .ok l) (right : t.child .right h = .ok r)
      (before : t.Recites l vs) (behind : t.Recites r ws) : t.Recites h (v :: (vs ++ ws))

/-- Walking over a tree one payload at a time. -/
structure Iterates (t : LinkedTree S α) : Prop where
  /-- The calls yield the payloads in turn, and nothing after the last one. -/
  next : ∀ n, (t.cursor.after n).next.1 = t.toList[n]?
  /-- No pending key is ever without a node. -/
  pending : ∀ n, ∀ k ∈ (t.cursor.after n).pending, ∃ node, t.nodes.get? k = some node
  /-- A loop over the tree comes to an end, and is a loop over the payloads. -/
  loop : ∀ {σ : Type} (body : α → σ → ForInStep σ) (x y : σ),
    t.cursor.Loop body x y ↔ y = Id.run (forIn t.toList x fun v x => pure (body v x))
  /-- The recursive walk from the root gives the same payloads. -/
  recites : ∀ vs, t.Recites t.root vs ↔ vs = t.toList
  /-- They are the payloads of all nodes, each of them taken once. -/
  once : ∃ hs : List Handle, hs.Nodup ∧ (∀ h, h ∈ hs ↔ ∃ k node, t.resolve h = .ok (k, node)) ∧
    hs.map t.data = t.toList.map .ok
  length : t.toList.length = t.size
  empty_iff : t.toList = [] ↔ t.isEmpty = true

variable {t : LinkedTree S α} {s : Shape (Key × α)} {h : Handle} {vs ws : List α}

theorem data_of_unusable (unusable : h.isUsable = false) : t.data h = .error .nullNode := by
  obtain ⟨key, tree⟩ := h
  cases key with
  | none => rfl
  | some key => cases unusable

/-- A walk by handles gives one list of payloads. -/
theorem Recites.unique (walk : t.Recites h vs) (walk' : t.Recites h ws) : vs = ws := by
  induction walk generalizing ws with
  | absent unusable =>
    cases walk' with
    | absent => rfl
    | node data => cases (data_of_unusable unusable).symm.trans data
  | node data left right _ _ ihl ihr =>
    cases walk' with
    | absent unusable => cases (data_of_unusable unusable).symm.trans data
    | node data' left' right' before behind =>
      cases data.symm.trans data'
      cases left.symm.trans left'
      cases right.symm.trans right'
      rw [ihl before, ihr behind]

/-- A walk by handles over a hanging piece gives its payloads in pre-order. -/
theorem recites_of_hangs {parent : Option Key} (hangs : Hangs t.nodes parent s) :
    t.Recites (t.handle s.topKey) (s.preorder.map Prod.snd) := by
  induction s generalizing parent with
  | nil => exact .absent rfl
  | node x l r ihl ihr =>
    obtain ⟨top, left, right⟩ := hangs
    have here := resolve_handle top
    rw [Shape.preorder, List.map_cons, List.map_append]
    refine .node ?_ ?_ ?_ (ihl left) (ihr right)
    · rw [Shape.topKey_node, LinkedTree.data, here]; rfl
    · rw [Shape.topKey_node, LinkedTree.child, here]; rfl
    · rw [Shape.topKey_node, LinkedTree.child, here]; rfl

/-- The iterator yields the payloads that the recursive walk lists. -/
theorem toList_eq_listing (t : LinkedTree S α) : t.toList = t.listing.map Prod.snd := by
  rw [toList, LinkedTree.listing, List.map_map]
  rfl

theorem HasShape.toList (shape : t.HasShape s) : t.toList = s.preorder.map Prod.snd := by
  rw [toList_eq_listing, shape.listing]

theorem HasShape.owes (shape : t.HasShape s) : Cursor.Owes t.nodes t.cursor.pending t.toList := by
  have whole := Cursor.Owes.piece shape.hangs .nothing
  rwa [List.append_nil, List.append_nil, ← shape.toList, ← shape.root] at whole

/-- The payload that a hanging piece gives a name is that of the node. -/
theorem get?_of_mem_preorder {nodes : Arena S (Node α)} {parent : Option Key}
    (hangs : Hangs nodes parent s) {x : Key × α} (mem : x ∈ s.preorder) :
    ∃ node, nodes.get? x.1 = some node ∧ node.data = x.2 := by
  rw [← payloads_entries hangs] at mem
  obtain ⟨⟨k, node⟩, inside, rfl⟩ := List.mem_map.1 mem
  exact ⟨node, (mem_entries.1 inside).2, rfl⟩

/-- The handles of the nodes, each once, read what the iterator yields. -/
theorem HasShape.exists_handles (shape : t.HasShape s) :
    ∃ hs : List Handle, hs.Nodup ∧ (∀ h, h ∈ hs ↔ ∃ k node, t.resolve h = .ok (k, node)) ∧
      hs.map t.data = t.toList.map .ok := by
  refine ⟨s.keys.map fun k => t.handle (some k), ?_, fun h => ?_, ?_⟩
  · refine List.Pairwise.map _ (fun j k ne same => ne ?_) shape.nodup
    exact Option.some.inj (congrArg Handle.key same)
  · simp only [List.mem_map, shape.mem_iff, resolve_eq_ok_iff]
    constructor
    · rintro ⟨k, ⟨node, found⟩, rfl⟩
      exact ⟨k, node, rfl, found⟩
    · rintro ⟨k, node, rfl, found⟩
      exact ⟨k, ⟨node, found⟩, rfl⟩
  · rw [shape.toList, Shape.keys, List.map_map, List.map_map, List.map_map]
    refine List.map_congr_left fun x mem => ?_
    obtain ⟨node, found, data⟩ := get?_of_mem_preorder shape.hangs mem
    have here := resolve_handle found
    show t.data (t.handle (some x.1)) = .ok x.2
    rw [LinkedTree.data, here, ← data]
    rfl

/-- On a tree with a shape, the iterator does all that `Iterates` says. -/
theorem HasShape.iterates (shape : t.HasShape s) : t.Iterates where
  next := by
    intro n
    have owes : Cursor.Owes (t.cursor.after n).nodes (t.cursor.after n).pending (t.toList.drop n) :=
      Cursor.nodes_after t.cursor n ▸ shape.owes.after (c := t.cursor) n
    rw [owes.next.1, List.head?_drop]
  pending := fun n => (shape.owes.after (c := t.cursor) n).exists_get?
  loop := fun body x y => shape.owes.loop_iff (c := t.cursor) body x y
  recites := by
    intro vs
    have walk := recites_of_hangs shape.hangs
    rw [← shape.root_eq, ← shape.toList] at walk
    constructor
    · exact fun walk' => walk'.unique walk
    · rintro rfl
      exact walk
  once := shape.exists_handles
  length := by rw [shape.toList, List.length_map, Shape.length_preorder, shape.size]
  empty_iff := by
    rw [← List.length_eq_zero_iff, shape.toList, List.length_map, Shape.length_preorder,
      ← shape.size, shape.empty_iff, isEmpty, Option.isNone_iff_eq_none]

/-! ## The whole walk, call by call -/

/-- The walk within a number of steps yields what as many calls of `next` yield. -/
theorem walkNodes_eq_take (nodes : Arena S (Node α)) (steps : Nat) (pending : List Key)
    (seen : List (Key × Node α)) :
    (walkNodes nodes steps pending seen).map (·.2.data) =
      seen.reverse.map (·.2.data) ++ Cursor.take ⟨nodes, pending⟩ steps := by
  induction steps generalizing pending seen with
  | zero => simp [walkNodes, Cursor.take]
  | succ steps ih =>
    cases pending with
    | nil => simp [walkNodes, Cursor.take, Cursor.next]
    | cons key rest =>
      cases found : nodes.get? key with
      | none => simp [walkNodes, Cursor.take, Cursor.next, found]
      | some node =>
        rw [walkNodes, found]
        simp only [ih]
        simp [Cursor.take, Cursor.next, found]

/-- The payloads of any tree are what as many calls yield as the tree has nodes. -/
theorem toList_eq_take (t : LinkedTree S α) : t.toList = t.cursor.take t.size := by
  have walk := walkNodes_eq_take t.nodes t.size t.rootKey.toList []
  exact walk

end LinkedTree

namespace Forest

/-- In every state that commands lead to, the cursor of a tree yields the payload of every node
once, in the order of the recursive walk. -/
theorem iterates_of_run (edits : List (Edit Handle α)) {r : Nat} {t : LinkedTree S α}
    (held : (run {} edits).trees[r]? = some t) : t.Iterates := by
  obtain ⟨s, shape⟩ := wellLinked_run wellLinked_init edits r t held
  exact shape.iterates

/-- A left child with a child of its own, and a right one that was there before them. -/
theorem iterates_of_two_children :
    let edits : List (Edit Handle Nat) := [.create 0, .insert 0 (.above .left) .null 7,
      .insert 0 (.below .right .left) ⟨some 0, 1⟩ 9, .insert 0 (.below .left .left) ⟨some 0, 1⟩ 8,
      .insert 0 (.below .right .left) ⟨some 2, 1⟩ 4]
    let t : LinkedTree Cells Nat :=
      ⟨⟨⟨#[some ⟨none, some 2, some 1, 7⟩, some ⟨some 0, none, none, 9⟩,
        some ⟨some 0, none, some 3, 8⟩, some ⟨some 2, none, none, 4⟩]⟩⟩, some 0, 1⟩
    (run {} edits).trees[0]? = some t ∧ t.toList = [7, 8, 4, 9] ∧ t.Iterates := by
  intro edits t
  have held : (run {} edits).trees[0]? = some t := rfl
  exact ⟨held, rfl, iterates_of_run edits held⟩

end Forest

end Substrate
