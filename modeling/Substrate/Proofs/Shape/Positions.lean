import Substrate.Proofs.Shape.Alike

/-!
# Substrate.Proofs.Shape.Positions

Positions in shapes, told by the sides on the way down. Names play no part in them: a context and a
filling can be recovered from the payloads of the whole (`exists_plug_of_payloads`). A name that
comes once has one position (`eq_of_keyAt?`). Post-order meets a part of the context, then the
filling, then the rest of the context (`postorder_plug`), and so does pre-order (`preorder_plug`).
-/

namespace Substrate

variable {κ α β : Type}

namespace Shape

/-- What is in the node at the end of a way down from the top node. -/
def at? : Shape β → List Side → Option β
  | nil, _ => none
  | node x _ _, [] => some x
  | node _ l _, .left :: rest => l.at? rest
  | node _ _ r, .right :: rest => r.at? rest

theorem at?_cons (x : β) (l r : Shape β) (side : Side) (rest : List Side) :
    (node x l r).at? (side :: rest) = ((node x l r).child side).at? rest := by
  cases side <;> rfl

/-- What hangs alone below a node comes just after it in pre-order, on either side. -/
theorem preorder_hang_nil (x : β) (side : Side) (s : Shape β) :
    (hang x side s nil).preorder = x :: s.preorder := by
  cases side <;> simp [hang, preorder]

theorem payloads_hang (x : κ × α) (side : Side) (s other : Shape (κ × α)) :
    (hang x side s other).payloads = hang x.2 side s.payloads other.payloads := by
  cases side <;> rfl

/-- Shapes of the same payloads have a top node both or neither. -/
theorem exists_topKey_of_payloads {s u : Shape (κ × α)} {k : κ} (same : s.payloads = u.payloads)
    (top : u.topKey = some k) : ∃ j, s.topKey = some j := by
  cases u with
  | nil => cases top
  | node x l r =>
    cases s with
    | nil => cases same
    | node y l' r' => exact ⟨y.1, rfl⟩

/-- A shape whose payloads hang something on a side does so itself. -/
theorem exists_hang_of_payloads {s : Shape (κ × α)} {v : α} {side : Side} {u w : Shape α}
    (same : s.payloads = hang v side u w) :
    ∃ x u' w', s = hang x side u' w' ∧ x.2 = v ∧ u'.payloads = u ∧ w'.payloads = w := by
  cases s with
  | nil => cases side <;> simp [payloads, hang] at same
  | node x l r =>
    cases side with
    | left =>
      simp only [payloads, hang, node.injEq] at same
      exact ⟨x, l, r, rfl, same.1, same.2.1, same.2.2⟩
    | right =>
      simp only [payloads, hang, node.injEq] at same
      exact ⟨x, r, l, rfl, same.1, same.2.2, same.2.1⟩

/-! ## Names at positions -/

def keyAt? (s : Shape (κ × α)) (sides : List Side) : Option κ := (s.at? sides).map Prod.fst

@[simp] theorem keyAt?_nil (sides : List Side) : (nil : Shape (κ × α)).keyAt? sides = none := by
  cases sides <;> rfl

/-- A position below a node is one in the subtree on its first side. -/
theorem keyAt?_cons (x : κ × α) (l r : Shape (κ × α)) (side : Side) (rest : List Side) :
    (node x l r).keyAt? (side :: rest) = ((node x l r).child side).keyAt? rest := by
  rw [keyAt?, at?_cons, keyAt?]

/-- Every name stands at some position. -/
theorem mem_keys_iff_exists_keyAt? {s : Shape (κ × α)} {k : κ} :
    k ∈ s.keys ↔ ∃ sides, s.keyAt? sides = some k := by
  induction s with
  | nil => simp
  | node x l r ihl ihr =>
    rw [keys_node, List.mem_cons, List.mem_append, ihl, ihr]
    constructor
    · rintro (rfl | ⟨sides, here⟩ | ⟨sides, here⟩)
      · exact ⟨[], rfl⟩
      · exact ⟨.left :: sides, here⟩
      · exact ⟨.right :: sides, here⟩
    · rintro ⟨_ | ⟨_ | _, sides⟩, here⟩
      · exact .inl (Option.some.inj here).symm
      · exact .inr (.inl ⟨sides, here⟩)
      · exact .inr (.inr ⟨sides, here⟩)

/-- A name that comes once stands in one position. -/
theorem eq_of_keyAt? {s : Shape (κ × α)} (nodup : s.keys.Nodup) {k : κ} {sides sides' : List Side}
    (first : s.keyAt? sides = some k) (second : s.keyAt? sides' = some k) : sides = sides' := by
  induction s generalizing sides sides' with
  | nil => simp at first
  | node x l r ihl ihr =>
    rw [keys_node, List.nodup_cons, List.mem_append, not_or, List.nodup_append] at nodup
    obtain ⟨⟨notL, notR⟩, nodupL, nodupR, apart⟩ := nodup
    have notBelow : ∀ side rest, (node x l r).keyAt? (side :: rest) ≠ some x.1 := by
      intro side rest here
      cases side with
      | left => exact notL (mem_keys_iff_exists_keyAt?.2 ⟨rest, here⟩)
      | right => exact notR (mem_keys_iff_exists_keyAt?.2 ⟨rest, here⟩)
    have oneSide : ∀ {p q}, l.keyAt? p = some k → r.keyAt? q ≠ some k := fun inL inR =>
      apart k (mem_keys_iff_exists_keyAt?.2 ⟨_, inL⟩) k (mem_keys_iff_exists_keyAt?.2 ⟨_, inR⟩) rfl
    cases sides with
    | nil =>
      obtain rfl : x.1 = k := Option.some.inj first
      cases sides' with
      | nil => rfl
      | cons side q => exact absurd second (notBelow side q)
    | cons side p =>
      cases sides' with
      | nil =>
        obtain rfl : x.1 = k := Option.some.inj second
        exact absurd first (notBelow side p)
      | cons side' q =>
        cases side with
        | left =>
          cases side' with
          | left => exact congrArg _ (ihl nodupL first second)
          | right => exact absurd second (oneSide first)
        | right =>
          cases side' with
          | left => exact absurd first (oneSide second)
          | right => exact congrArg _ (ihr nodupR first second)

/-- If each name stands in one position, none comes twice. -/
theorem nodup_keys_of_keyAt? {s : Shape (κ × α)} (one : ∀ k sides sides',
    s.keyAt? sides = some k → s.keyAt? sides' = some k → sides = sides') : s.keys.Nodup := by
  induction s with
  | nil => exact List.nodup_nil
  | node x l r ihl ihr =>
    rw [keys_node, List.nodup_cons, List.mem_append, not_or, List.nodup_append]
    simp only [mem_keys_iff_exists_keyAt?]
    refine ⟨⟨?_, ?_⟩, ihl fun k p q first second => ?_, ihr fun k p q first second => ?_, ?_⟩
    · rintro ⟨p, below⟩
      cases one x.1 [] (.left :: p) rfl below
    · rintro ⟨p, below⟩
      cases one x.1 [] (.right :: p) rfl below
    · exact List.tail_eq_of_cons_eq (one k (.left :: p) (.left :: q) first second)
    · exact List.tail_eq_of_cons_eq (one k (.right :: p) (.right :: q) first second)
    · rintro k ⟨p, inL⟩ _ ⟨q, inR⟩ rfl
      cases one k (.left :: p) (.right :: q) inL inR

end Shape

namespace Context

def payloads (C : Context (κ × α)) : Context α :=
  C.map fun f => ⟨f.side, f.label.2, f.sibling.payloads⟩

/-- Leaving out the names and plugging a context can change places. -/
theorem payloads_plug (C : Context (κ × α)) (s : Shape (κ × α)) :
    (C.plug s).payloads = C.payloads.plug s.payloads := by
  induction C generalizing s with
  | nil => rfl
  | cons f C ih => rw [plug, ih, Shape.payloads_hang]; rfl

/-- What the payloads of a shape make of a context and its filling, the shape does itself. -/
theorem exists_plug_of_payloads {D : Context α} {d : Shape α} {s : Shape (κ × α)}
    (same : s.payloads = D.plug d) :
    ∃ (C : Context (κ × α)) (u : Shape (κ × α)),
      s = C.plug u ∧ C.payloads = D ∧ u.payloads = d := by
  induction D generalizing d with
  | nil => exact ⟨[], s, rfl, rfl, same⟩
  | cons f D ih =>
    obtain ⟨C, w, rfl, rest, filling⟩ := ih same
    obtain ⟨x, u, sibling, rfl, label, inner, beside⟩ := Shape.exists_hang_of_payloads filling
    refine ⟨⟨f.side, x, sibling⟩ :: C, u, rfl, ?_, inner⟩
    rw [payloads, List.map_cons, ← payloads, rest, label, beside]

/-! ## Around a place in post-order -/

variable {C : Context β}

/-- What post-order meets before the place. -/
def before : Context β → List β
  | [] => []
  | ⟨.left, _, _⟩ :: C => before C
  | ⟨.right, _, sibling⟩ :: C => before C ++ sibling.postorder

/-- What post-order meets after the place. -/
def after : Context β → List β
  | [] => []
  | ⟨.left, label, sibling⟩ :: C => sibling.postorder ++ label :: after C
  | ⟨.right, label, _⟩ :: C => label :: after C

/-- In post-order, a piece stands between what is before it and what is after it. -/
theorem postorder_plug (C : Context β) (s : Shape β) :
    (plug C s).postorder = C.before ++ s.postorder ++ C.after := by
  induction C generalizing s with
  | nil => simp [plug, before, after]
  | cons f C ih =>
    obtain ⟨side, label, sibling⟩ := f
    rw [plug, ih]
    cases side <;> simp [before, after, Shape.hang, Shape.postorder]

/-! ## Around a place in pre-order -/

/-- What pre-order meets before the place. -/
def ahead : Context β → List β
  | [] => []
  | ⟨.left, label, _⟩ :: C => ahead C ++ [label]
  | ⟨.right, label, sibling⟩ :: C => ahead C ++ label :: sibling.preorder

/-- What pre-order meets after the place. -/
def behind : Context β → List β
  | [] => []
  | ⟨.left, _, sibling⟩ :: C => sibling.preorder ++ behind C
  | ⟨.right, _, _⟩ :: C => behind C

/-- In pre-order, a piece stands between what is ahead of it and what is behind it. -/
theorem preorder_plug (C : Context β) (s : Shape β) :
    (plug C s).preorder = C.ahead ++ s.preorder ++ C.behind := by
  induction C generalizing s with
  | nil => simp [plug, ahead, behind]
  | cons f C ih =>
    obtain ⟨side, label, sibling⟩ := f
    rw [plug, ih]
    cases side <;> simp [ahead, behind, Shape.hang, Shape.preorder]

/-! ## Sizes -/

/-- The context has as many nodes as post-order meets around the place. -/
theorem size_plug (C : Context β) (s : Shape β) :
    (plug C s).size = C.before.length + s.size + C.after.length := by
  rw [← Shape.length_postorder, postorder_plug, List.length_append, List.length_append,
    Shape.length_postorder]

end Context

end Substrate
