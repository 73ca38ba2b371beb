import Substrate.Proofs.Tree.Whole

/-!
# Substrate.Proofs.Tree.Copying

What copying adds to an arena. The loop over pairs of a node and its copy does what the recursion
`LinkedTree.copyBelow` does: both children of a node get their copies first, then everything below
the right one is copied, then everything below the left one (`copyPending_append`). `Copied` says
what comes out: a shape of the same payloads, all of whose names are new, and every old node as it
was (`copied_copySubtree`, `copied_copyTree`).
-/

namespace Substrate

variable {S : Type → Type} [SlotMap S] {α : Type}

/-- A copy of which only the top is there, under the name `copy`. -/
def Shape.stub (copy : Key) : Shape (Key × α) → Shape (Key × α)
  | nil => nil
  | node x _ _ => node (copy, x.2) nil nil

/-- A stub has one name at most, the one on top. -/
theorem Shape.mem_keys_stub {copy k : Key} {s : Shape (Key × α)} :
    k ∈ (s.stub copy).keys ↔ (s.stub copy).topKey = some k := by
  cases s with
  | nil => simp [stub]
  | node x l r => simp [stub, eq_comm]

theorem Shape.eq_of_topKey_stub {copy k : Key} {s : Shape (Key × α)}
    (top : (s.stub copy).topKey = some k) : k = copy := by
  cases s with
  | nil => cases top
  | node x l r => exact (Option.some.inj top).symm

namespace LinkedTree

/-! ## The recursion behind the loop -/

/-- Copies the top of `s` to one side of the node `copy`. -/
def bud (t : LinkedTree S α) (copy : Key) (side : Side) : Shape (Key × α) → LinkedTree S α
  | .nil => t
  | .node x _ _ =>
    (t.addNode ⟨none, none, none, x.2⟩).setChild copy side (some t.nodes.nextKey)

/-- Copies everything below the top of `s`, whose copy is the node `copy`. -/
def copyBelow (t : LinkedTree S α) (copy : Key) : Shape (Key × α) → LinkedTree S α
  | .nil => t
  | .node _ l r =>
    let budded := t.bud copy .left l
    ((budded.bud copy .right r).copyBelow budded.nodes.nextKey r).copyBelow t.nodes.nextKey l

/-- One step of the loop copies the child on one side and makes it pending. -/
theorem copyChild_eq {source : Arena S (Node α)} {parent : Option Key} {s : Shape (Key × α)}
    (hangs : Hangs source parent s) (t : LinkedTree S α) (pending : List (Key × Key)) (copy : Key)
    (side : Side) :
    copyChild source t pending copy side s.topKey =
      (t.bud copy side s, (s.topKey.map (·, t.nodes.nextKey)).toList ++ pending) := by
  cases s with
  | nil => rfl
  | node x l r => simp [copyChild, hangs.1, bud]

/-- The loop copies what is below the first pending pair before it goes on. -/
theorem copyPending_append {source : Arena S (Node α)} {parent : Option Key} {s : Shape (Key × α)}
    (hangs : Hangs source parent s) (steps : Nat) (t : LinkedTree S α) (copy : Key)
    (rest : List (Key × Key)) :
    copyPending source (s.size + steps) t ((s.topKey.map (·, copy)).toList ++ rest) =
      copyPending source steps (t.copyBelow copy s) rest := by
  induction s generalizing parent steps t copy rest with
  | nil => simp [Shape.size, copyBelow]
  | node x l r ihl ihr =>
    obtain ⟨top, left, right⟩ := hangs
    have count : (Shape.node x l r).size + steps = (r.size + (l.size + steps)) + 1 := by
      simp only [Shape.size]
      omega
    rw [count]
    simp only [Shape.topKey_node, Option.map_some, Option.toList_some, List.singleton_append,
      copyPending, top, copyChild_eq left, copyChild_eq right]
    rw [ihr right, ihl left, copyBelow]

/-! ## What the recursion adds -/

/-- From `t` to `t'` a loose shape `c` came to hang below `parent`. It has the payloads of `s` and
the names issued since, and the old nodes are as they were, except those named in `c`. -/
structure Grown (t t' : LinkedTree S α) (parent : Option Key) (s c : Shape (Key × α)) : Prop where
  payloads : c.payloads = s.payloads
  hangs : Hangs t'.nodes parent c
  nodup : c.keys.Nodup
  issued : ∀ k, t.nodes.Issued k → t'.nodes.Issued k
  new_iff : ∀ k, ¬ t.nodes.Issued k → (k ∈ c.keys ↔ t'.nodes.Issued k)
  kept : ∀ k, t.nodes.Issued k → k ∉ c.keys → t'.nodes.get? k = t.nodes.get? k
  rootKey : t'.rootKey = t.rootKey
  id : t'.id = t.id

section Bud

variable {t : LinkedTree S α} {copy : Key} (side : Side) (s : Shape (Key × α))

/-- The copy of the top, if there is one, takes a key that was never issued. -/
theorem issued_bud (t : LinkedTree S α) (copy k : Key) : (t.bud copy side s).nodes.Issued k ↔
    (s.stub t.nodes.nextKey).topKey = some k ∨ t.nodes.Issued k := by
  cases s with
  | nil => simp [bud, Shape.stub]
  | node x l r =>
    exact (issued_setPlace _ (.child copy side) _ _).trans (by simp [Shape.stub, eq_comm])

/-- Copying the child on one side links the copy of the parent to it. -/
theorem get?_bud_self {node : Node α} (found : t.nodes.get? copy = some node)
    (free : node.child side = none) :
    (t.bud copy side s).nodes.get? copy =
      some (node.setChild side (s.stub t.nodes.nextKey).topKey) := by
  cases s with
  | nil =>
    obtain ⟨parent, left, right, data⟩ := node
    rw [bud, found]
    cases side <;> cases free <;> rfl
  | node x l r =>
    have other : ¬ copy = t.nodes.nextKey := Arena.ne_nextKey (Arena.issued_of_get? found)
    simp [bud, get?_setChild, Arena.get?_insert, found, other, Ne.symm other, Shape.stub]

theorem get?_bud_of_ne {k : Key} (other : k ≠ copy) (old : t.nodes.Issued k) :
    (t.bud copy side s).nodes.get? k = t.nodes.get? k := by
  cases s with
  | nil => rfl
  | node x l r =>
    refine (get?_setPlace_of_ne (.child copy side) ?_ ?_).trans ?_
    · simpa [Place.parent?] using Ne.symm other
    · simpa using Ne.symm (Arena.ne_nextKey old)
    · rw [nodes_addNode, Arena.get?_insert, if_neg (Arena.ne_nextKey old)]

/-- The copy of the child hangs below the copy of its parent. -/
theorem hangs_bud (old : t.nodes.Issued copy) :
    Hangs (t.bud copy side s).nodes (some copy) (s.stub t.nodes.nextKey) := by
  cases s with
  | nil => trivial
  | node x l r =>
    have other : t.nodes.nextKey ≠ copy := (Arena.ne_nextKey old).symm
    refine ⟨?_, trivial, trivial⟩
    simp [bud, get?_setChild, other]

@[simp] theorem rootKey_bud : (t.bud copy side s).rootKey = t.rootKey := by
  cases s <;> rfl

@[simp] theorem id_bud : (t.bud copy side s).id = t.id := by
  cases s <;> simp [bud, addNode]

end Bud

/-- Copying what is below a node turns the stub of a copy into the whole copy. -/
theorem exists_grown_copyBelow {t : LinkedTree S α} {parent : Option Key} {copy : Key}
    {s : Shape (Key × α)} (hangs : Hangs t.nodes parent (s.stub copy)) :
    ∃ c, c.topKey = (s.stub copy).topKey ∧
      (∀ k, t.nodes.Issued k → (k ∈ c.keys ↔ k ∈ (s.stub copy).keys)) ∧
      Grown t (t.copyBelow copy s) parent s c := by
  induction s generalizing t parent copy with
  | nil =>
    refine ⟨.nil, rfl, fun _ _ => Iff.rfl, ?_⟩
    exact ⟨rfl, trivial, List.nodup_nil, fun _ old => old, fun k new => by simp [copyBelow, new],
      fun _ _ _ => rfl, rfl, rfl⟩
  | node x l r ihl ihr =>
    have found : t.nodes.get? copy = some ⟨parent, none, none, x.2⟩ := hangs.1
    have old := Arena.issued_of_get? found
    -- The tops of both children come first.
    have budL := get?_bud_self .left l found rfl
    have issuedL := issued_bud .left l t copy
    have hangsL := hangs_bud .left l old
    have keptL := @get?_bud_of_ne S _ α t copy .left l
    have freshL : ∀ k, (l.stub t.nodes.nextKey).topKey = some k → ¬ t.nodes.Issued k :=
      fun k top => by rw [Shape.eq_of_topKey_stub top]; exact Arena.not_issued_nextKey _
    generalize t₁def : t.bud copy .left l = t₁ at budL issuedL hangsL keptL
    have old₁ : t₁.nodes.Issued copy := (issuedL copy).2 (.inr old)
    have budR := get?_bud_self .right r budL rfl
    have issuedR := issued_bud .right r t₁ copy
    have hangsR := hangs_bud .right r old₁
    have keptR := @get?_bud_of_ne S _ α t₁ copy .right r
    have freshR : ∀ k, (r.stub t₁.nodes.nextKey).topKey = some k → ¬ t₁.nodes.Issued k :=
      fun k top => by rw [Shape.eq_of_topKey_stub top]; exact Arena.not_issued_nextKey _
    generalize t₂def : t₁.bud copy .right r = t₂ at budR issuedR hangsR keptR
    -- Everything below the right child is copied before everything below the left one.
    obtain ⟨r', topR, oldR, grownR⟩ := ihr hangsR
    generalize t₃def : t₂.copyBelow t₁.nodes.nextKey r = t₃ at grownR
    have monoR := grownR.issued
    have newR := grownR.new_iff
    simp only [Shape.mem_keys_stub] at oldR
    have hangsL₃ : Hangs t₃.nodes (some copy) (l.stub t.nodes.nextKey) := by
      refine (hangs_congr fun k mem => ?_).2 hangsL
      rw [Shape.mem_keys_stub] at mem
      rw [grownR.kept k (by grind) (by grind), keptR (by grind) (by grind)]
    obtain ⟨l', topL, oldL, grownL⟩ := ihl hangsL₃
    generalize t₄def : t₃.copyBelow t.nodes.nextKey l = t₄ at grownL
    have monoL := grownL.issued
    have newL := grownL.new_iff
    simp only [Shape.mem_keys_stub] at oldL
    have copied : t.copyBelow copy (.node x l r) = t₄ := by
      rw [copyBelow, t₁def, t₂def, t₃def, t₄def]
    -- Which names are where.
    have inL : ∀ k, k ∈ l'.keys ↔ (l.stub t.nodes.nextKey).topKey = some k ∨
        (¬ t₃.nodes.Issued k ∧ t₄.nodes.Issued k) := by grind
    have inR : ∀ k, k ∈ r'.keys ↔ (r.stub t₁.nodes.nextKey).topKey = some k ∨
        (¬ t₂.nodes.Issued k ∧ t₃.nodes.Issued k) := by grind
    have apart : ∀ k, k ∈ r'.keys → k ∉ l'.keys := by grind
    have copyL : copy ∉ l'.keys := by grind
    have copyR : copy ∉ r'.keys := by grind
    refine ⟨.node (copy, x.2) l' r', rfl, ?_, ?_⟩
    · intro k issued
      have notL : k ∉ l'.keys := by grind
      have notR : k ∉ r'.keys := by grind
      simp [Shape.stub, notL, notR]
    rw [copied]
    refine ⟨?_, ⟨?_, grownL.hangs, ?_⟩, ?_, by grind, ?_, ?_, ?_, ?_⟩
    · rw [Shape.payloads, Shape.payloads, grownL.payloads, grownR.payloads]
    · rw [grownL.kept copy (by grind) copyL, grownR.kept copy (by grind) copyR, budR, topL, topR]
      rfl
    · refine (hangs_congr fun k mem => ?_).2 grownR.hangs
      exact grownL.kept k (by grind) (apart k mem)
    · rw [Shape.keys_node, List.nodup_cons, List.nodup_append, List.mem_append, not_or]
      refine ⟨⟨copyL, copyR⟩, grownL.nodup, grownR.nodup, ?_⟩
      rintro k memL j memR rfl
      exact apart k memR memL
    · intro k new
      rw [Shape.keys_node, List.mem_cons, List.mem_append, inL, inR]
      grind
    · intro k issued absent
      rw [Shape.keys_node, List.mem_cons, List.mem_append, not_or, not_or] at absent
      rw [grownL.kept k (by grind) absent.2.1, grownR.kept k (by grind) absent.2.2,
        keptR absent.1 (by grind), keptL absent.1 issued]
    · rw [grownL.rootKey, grownR.rootKey, ← t₂def, rootKey_bud, ← t₁def, rootKey_bud]
    · rw [grownL.id, grownR.id, ← t₂def, id_bud, ← t₁def, id_bud]

/-! ## Copies of subtrees and of trees -/

/-- From `t` to `t'` a loose copy `c` of `s` was added: all its names are new, and there are no
other new ones. -/
structure Copied (t t' : LinkedTree S α) (parent : Option Key) (s c : Shape (Key × α)) : Prop where
  payloads : c.payloads = s.payloads
  hangs : Hangs t'.nodes parent c
  nodup : c.keys.Nodup
  mem_iff : ∀ k, k ∈ c.keys ↔ ¬ t.nodes.Issued k ∧ t'.nodes.Issued k
  issued : ∀ k, t.nodes.Issued k → t'.nodes.Issued k
  kept : ∀ k, t.nodes.Issued k → t'.nodes.get? k = t.nodes.get? k
  rootKey : t'.rootKey = t.rootKey
  id : t'.id = t.id

/-- The loop does to the copy of the top what the recursion does. -/
theorem copySubtree_eq {source : Arena S (Node α)} {parent : Option Key} {s : Shape (Key × α)}
    (hangs : Hangs source parent s) (nodup : s.keys.Nodup) (t : LinkedTree S α)
    (above : Option Key) {key : Key} {node : Node α} (top : s.topKey = some key) :
    t.copySubtree source above key node =
      (t.addNode ⟨above, none, none, node.data⟩).copyBelow t.nodes.nextKey s := by
  obtain ⟨spare, enough⟩ := Nat.exists_eq_add_of_le (size_le_of_hangs hangs nodup)
  have loop := copyPending_append hangs spare (t.addNode ⟨above, none, none, node.data⟩)
    t.nodes.nextKey []
  rw [top, ← enough] at loop
  refine loop.trans ?_
  cases spare <;> rfl

/-- The loop copies what hangs at a node, under names that were never issued. -/
theorem exists_copied_copySubtree {source : Arena S (Node α)} {parent : Option Key}
    {s : Shape (Key × α)} (hangs : Hangs source parent s) (nodup : s.keys.Nodup)
    (t : LinkedTree S α) (above : Option Key) {key : Key} {node : Node α}
    (top : s.topKey = some key) (found : source.get? key = some node) :
    ∃ c, c.topKey = some t.nodes.nextKey ∧
      Copied t (t.copySubtree source above key node) above s c := by
  cases s with
  | nil => simp at top
  | node x l r =>
    obtain rfl : x.1 = key := Option.some.inj top
    have data : node.data = x.2 := by
      rw [hangs.1] at found
      rw [← Option.some.inj found]
    rw [copySubtree_eq hangs nodup t above top, data]
    generalize added : t.addNode ⟨above, none, none, x.2⟩ = t₁
    have issued : ∀ k, t₁.nodes.Issued k ↔ k = t.nodes.nextKey ∨ t.nodes.Issued k := by
      simp [← added]
    have stub : Hangs t₁.nodes above ((Shape.node x l r).stub t.nodes.nextKey) := by
      refine ⟨?_, trivial, trivial⟩
      simp [← added]
    obtain ⟨c, topC, old, grown⟩ := exists_grown_copyBelow stub
    have fresh := t.nodes.not_issued_nextKey
    have inC : ∀ k, k ∈ c.keys ↔ ¬ t.nodes.Issued k ∧
        (t₁.copyBelow t.nodes.nextKey (.node x l r)).nodes.Issued k := by
      intro k
      have mono := grown.issued k
      have mem_stub : k ∈ ((Shape.node x l r).stub t.nodes.nextKey).keys ↔ k = t.nodes.nextKey := by
        simp [Shape.stub]
      by_cases here : t₁.nodes.Issued k
      · rw [old k here, mem_stub]
        grind
      · rw [grown.new_iff k here]
        grind
    refine ⟨c, topC, grown.payloads, grown.hangs, grown.nodup, inC, fun k issued' => ?_,
      fun k issued' => ?_, ?_, ?_⟩
    · exact grown.issued k ((issued k).2 (.inr issued'))
    · rw [grown.kept k ((issued k).2 (.inr issued')) (fun mem => ((inC k).1 mem).1 issued'),
        ← added, nodes_addNode, Arena.get?_insert, if_neg (Arena.ne_nextKey issued')]
    · rw [grown.rootKey, ← added, addNode]
    · rw [grown.id, ← added, addNode]

/-- Copying a whole tree adds a loose copy of its shape. -/
theorem exists_copied_copyTree {other : LinkedTree S α} {s : Shape (Key × α)}
    (h : other.HasShape s) (t : LinkedTree S α) :
    ∃ c, (t.copyTree other).1 = c.topKey ∧ Copied t (t.copyTree other).2 none s c := by
  rw [copyTree, h.root]
  cases s with
  | nil =>
    exact ⟨.nil, rfl, rfl, trivial, List.nodup_nil, fun k => by simp, fun _ old => old,
      fun _ _ => rfl, rfl, rfl⟩
  | node x l r =>
    have found := h.hangs.1
    obtain ⟨c, topC, copied⟩ := exists_copied_copySubtree h.hangs h.nodup t none rfl found
    simp only [Shape.topKey_node, found]
    exact ⟨c, topC.symm, copied⟩

/-- A copy that is all a tree has makes the tree, once its top is the root. -/
theorem Copied.hasShape {t t' : LinkedTree S α} {s c : Shape (Key × α)}
    (copied : Copied t t' none s c) (bare : ∀ k, t.nodes.get? k = none) :
    { t' with rootKey := c.topKey }.HasShape c where
  root := rfl
  hangs := copied.hangs
  nodup := copied.nodup
  covers := by
    intro k node found
    refine (copied.mem_iff k).2 ⟨fun old => ?_, Arena.issued_of_get? found⟩
    have kept := copied.kept k old
    rw [bare k] at kept
    exact absurd found (by simp [kept])

/-- Assigning replaces the contents by nodes of new names. -/
theorem exists_hasShape_assign {other : LinkedTree S α} {d : Shape (Key × α)}
    (h : other.HasShape d) (t : LinkedTree S α) :
    ∃ c, c.payloads = d.payloads ∧ (∀ j ∈ c.keys, ¬ t.nodes.Issued j) ∧
      (t.assign other).state.HasShape c ∧
      (∀ k, t.nodes.Issued k → (t.assign other).state.nodes.Issued k) ∧
      (t.assign other).state.id = t.id := by
  obtain ⟨c, root, copied⟩ := exists_copied_copyTree h t.clear.state
  have cleared : ∀ k, t.clear.state.nodes.Issued k ↔ t.nodes.Issued k := Arena.issued_clear _
  have shape := copied.hasShape fun k => Arena.get?_clear _ _
  have fresh : ∀ j ∈ c.keys, ¬ t.nodes.Issued j := fun j mem issued =>
    ((copied.mem_iff j).1 mem).1 ((cleared j).2 issued)
  have issued : ∀ k, t.nodes.Issued k → (t.clear.state.copyTree other).2.nodes.Issued k :=
    fun k old => copied.issued k ((cleared k).2 old)
  have id := copied.id
  rw [assign]
  rcases pair : t.clear.state.copyTree other with ⟨top, grown⟩
  rw [pair] at root shape issued id
  obtain rfl : top = c.topKey := root
  exact ⟨c, copied.payloads, fresh, shape, issued, id⟩

/-- A clone has the payloads of the tree in the same places, and the number it was given. -/
theorem exists_hasShape_clone {d : Shape (Key × α)} {t : LinkedTree S α} (h : t.HasShape d)
    (id : TreeId) :
    ∃ c, c.payloads = d.payloads ∧ (t.clone id).HasShape c ∧ (t.clone id).id = id := by
  obtain ⟨c, payloads, -, shape, -, same⟩ := exists_hasShape_assign h (empty α id)
  exact ⟨c, payloads, shape, same⟩

end LinkedTree

end Substrate
