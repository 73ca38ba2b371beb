import Substrate.Tree.Shape

/-!
# Substrate.Proofs.Shape.Named

Shapes whose nodes carry a name beside their payload, and places in them.

A place is a *context*: the frames on the way up from it, the innermost first. Every name of a
shape stands at the hole of one context (`exists_plug`), and what an edit at a name does is to
change the subtree in that hole (`editAt_plug`). Names stay apart along the way: the names of a
filled context are those of the context and of the filling (`keys_plug_perm`).
-/

namespace Substrate

/-! ## Shapes -/

namespace Shape

variable {κ α β : Type}

def keys (s : Shape (κ × α)) : List κ := s.preorder.map Prod.fst

def payloads : Shape (κ × α) → Shape α
  | nil => nil
  | node x l r => node x.2 l.payloads r.payloads

/-- The name of the top node. -/
def topKey : Shape (κ × α) → Option κ
  | nil => none
  | node x _ _ => some x.1

def child : Shape β → Side → Shape β
  | nil, _ => nil
  | node _ l _, .left => l
  | node _ _ r, .right => r

def setChild : Shape β → Side → Shape β → Shape β
  | nil, _, _ => nil
  | node x _ r, .left, c => node x c r
  | node x l _, .right, c => node x l c

/-- A node with `s` on one side and `other` on the other. -/
def hang (x : β) (side : Side) (s other : Shape β) : Shape β :=
  match side with
  | .left => node x s other
  | .right => node x other s

@[simp] theorem keys_nil : (nil : Shape (κ × α)).keys = [] := rfl

@[simp] theorem keys_node (x : κ × α) (l r : Shape (κ × α)) :
    (node x l r).keys = x.1 :: (l.keys ++ r.keys) := by
  simp [keys, preorder]

@[simp] theorem topKey_nil : (nil : Shape (κ × α)).topKey = none := rfl

@[simp] theorem topKey_node (x : κ × α) (l r : Shape (κ × α)) :
    (node x l r).topKey = some x.1 := rfl

@[simp] theorem topKey_hang (x : κ × α) (side : Side) (s other : Shape (κ × α)) :
    (hang x side s other).topKey = some x.1 := by
  cases side <;> rfl

@[simp] theorem child_hang (x : β) (side : Side) (s other : Shape β) :
    (hang x side s other).child side = s := by
  cases side <;> rfl

@[simp] theorem child_hang_opposite (x : β) (side : Side) (s other : Shape β) :
    (hang x side s other).child side.opposite = other := by
  cases side <;> rfl

theorem size_hang (x : β) (side : Side) (s other : Shape β) :
    (hang x side s other).size = s.size + (1 + other.size) := by
  cases side with
  | left => rw [hang, size]; omega
  | right => rw [hang, size]; omega

@[simp] theorem setChild_hang (x : β) (side : Side) (s other c : Shape β) :
    (hang x side s other).setChild side c = hang x side c other := by
  cases side <;> rfl

/-- Either side of a node can be taken for the one that something hangs on. -/
theorem node_eq_hang (x : β) (l r : Shape β) (side : Side) :
    node x l r = hang x side ((node x l r).child side) ((node x l r).child side.opposite) := by
  cases side <;> rfl

/-- A hanging shape has the names of its top and of both sides. -/
theorem keys_hang_perm (x : κ × α) (side : Side) (s other : Shape (κ × α)) :
    (hang x side s other).keys.Perm (x.1 :: (s.keys ++ other.keys)) := by
  cases side with
  | left => rw [hang, keys_node]
  | right => rw [hang, keys_node]; exact (List.perm_append_comm).cons _

/-- What goes when a node and what hangs on its other side do. -/
theorem mem_keys_hang_and_not_mem_iff {x : κ × α} {side : Side} {s other : Shape (κ × α)} {k : κ}
    (nodup : (hang x side s other).keys.Nodup) :
    k ∈ (hang x side s other).keys ∧ k ∉ s.keys ↔ k = x.1 ∨ k ∈ other.keys := by
  have perm := keys_hang_perm x side s other
  rw [perm.nodup_iff, List.nodup_cons, List.mem_append, List.nodup_append] at nodup
  rw [perm.mem_iff, List.mem_cons, List.mem_append]
  grind

theorem length_keys (s : Shape (κ × α)) : s.keys.length = s.size := by
  rw [keys, List.length_map, length_preorder]

/-- The top is one of the names. -/
theorem topKey_mem {s : Shape (κ × α)} {k : κ} (top : s.topKey = some k) : k ∈ s.keys := by
  cases s with
  | nil => simp at top
  | node x l r => simp_all

theorem eq_nil_of_topKey {s : Shape (κ × α)} (top : s.topKey = none) : s = nil := by
  cases s with
  | nil => rfl
  | node x l r => simp at top

end Shape

/-! ## Contexts -/

/-- One step up from a subtree: the side it hangs on, the node above, and what hangs on the other
side of that node. -/
structure Frame (β : Type) where
  side : Side
  label : β
  sibling : Shape β

/-- The frames from a place up to the root, the innermost first. -/
abbrev Context (β : Type) := List (Frame β)

namespace Context

variable {κ α β : Type}

def plug : Context β → Shape β → Shape β
  | [], s => s
  | f :: C, s => plug C (.hang f.label f.side s f.sibling)

def keys (C : Context (κ × α)) : List κ := C.flatMap fun f => f.label.1 :: f.sibling.keys

/-- The name of the node above the place. -/
def above (C : Context (κ × α)) : Option κ := C.head?.map (·.label.1)

@[simp] theorem keys_empty : keys ([] : Context (κ × α)) = [] := rfl

@[simp] theorem keys_cons (f : Frame (κ × α)) (C : Context (κ × α)) :
    keys (f :: C) = f.label.1 :: (f.sibling.keys ++ keys C) := by
  simp [keys]

theorem keys_append (C D : Context (κ × α)) : keys (C ++ D) = keys C ++ keys D :=
  List.flatMap_append

@[simp] theorem above_nil : above ([] : Context (κ × α)) = none := rfl

@[simp] theorem above_cons (f : Frame (κ × α)) (C : Context (κ × α)) :
    above (f :: C) = some f.label.1 := rfl

/-- The node above a place is one of those around it. -/
theorem above_mem {C : Context (κ × α)} {k : κ} (h : above C = some k) : k ∈ keys C := by
  cases C with
  | nil => simp at h
  | cons f C => simp_all

/-- A context is plugged from the inside to the outside. -/
theorem plug_append (C D : Context β) (s : Shape β) : plug (C ++ D) s = plug D (plug C s) := by
  induction C generalizing s with
  | nil => rfl
  | cons f C ih => exact ih _

/-- A filled context has the names of the filling and those around it. -/
theorem keys_plug_perm (C : Context (κ × α)) (s : Shape (κ × α)) :
    (plug C s).keys.Perm (s.keys ++ keys C) := by
  induction C generalizing s with
  | nil => simp [plug]
  | cons f C ih =>
    have hung := Shape.keys_hang_perm f.label f.side s f.sibling
    have moved : (f.label.1 :: (s.keys ++ f.sibling.keys) ++ keys C).Perm
        (s.keys ++ keys (f :: C)) := by
      rw [keys_cons, List.cons_append, List.append_assoc]
      exact List.perm_middle.symm
    exact (ih _).trans ((hung.append_right _).trans moved)

/-- A plugged context has the names of the piece and of what is around it. -/
theorem mem_keys_plug {C : Context (κ × α)} {s : Shape (κ × α)} {k : κ} :
    k ∈ (plug C s).keys ↔ k ∈ s.keys ∨ k ∈ keys C := by
  rw [(keys_plug_perm C s).mem_iff, List.mem_append]

/-- No name is there twice if none is in the piece, around it, or in both. -/
theorem nodup_keys_plug {C : Context (κ × α)} {s : Shape (κ × α)} :
    (plug C s).keys.Nodup ↔
      s.keys.Nodup ∧ (keys C).Nodup ∧ ∀ k ∈ s.keys, k ∉ keys C := by
  rw [(keys_plug_perm C s).nodup_iff, List.nodup_append]
  constructor
  · rintro ⟨hs, hC, apart⟩
    exact ⟨hs, hC, fun k inS inC => apart k inS k inC rfl⟩
  · rintro ⟨hs, hC, apart⟩
    exact ⟨hs, hC, fun k inS j inC same => apart k inS (same ▸ inC)⟩

/-- Every name of a shape stands at some place. -/
theorem exists_plug {k : κ} {s : Shape (κ × α)} (mem : k ∈ s.keys) :
    ∃ (C : Context (κ × α)) (v : α) (l r : Shape (κ × α)), s = plug C (.node (k, v) l r) := by
  induction s with
  | nil => simp at mem
  | node x l r ihl ihr =>
    rw [Shape.keys_node, List.mem_cons, List.mem_append] at mem
    rcases mem with rfl | inL | inR
    · exact ⟨[], x.2, l, r, rfl⟩
    · obtain ⟨C, v, l', r', rfl⟩ := ihl inL
      exact ⟨C ++ [⟨.left, x, r⟩], v, l', r', by rw [plug_append]; rfl⟩
    · obtain ⟨C, v, l', r', rfl⟩ := ihr inR
      exact ⟨C ++ [⟨.right, x, l⟩], v, l', r', by rw [plug_append]; rfl⟩

end Context

/-! ## Edits at a name -/

namespace Shape

variable {κ α : Type} [DecidableEq κ]

/-- The shape with `f` applied to the subtree whose top node is named `k`. -/
def editAt (k : κ) (f : Shape (κ × α) → Shape (κ × α)) : Shape (κ × α) → Shape (κ × α)
  | nil => nil
  | node x l r => if x.1 = k then f (node x l r) else node x (editAt k f l) (editAt k f r)

/-- The shape with a new node spliced in at its top node. -/
def spliceTop (splice : Splice) (new : κ × α) (s : Shape (κ × α)) : Shape (κ × α) :=
  match splice with
  | .above keep => hang new keep s nil
  | .below side keep => s.setChild side (hang new keep (s.child side) nil)

def setTop (v : α) : Shape (κ × α) → Shape (κ × α)
  | nil => nil
  | node x l r => node (x.1, v) l r

/-- The subtree whose top node is named `k`. -/
def sub? (k : κ) : Shape (κ × α) → Option (Shape (κ × α))
  | nil => none
  | node x l r => if x.1 = k then some (node x l r) else (sub? k l).or (sub? k r)

/-- The name of the node above the one named `k`. -/
def parentOf (k : κ) : Shape (κ × α) → Option κ
  | nil => none
  | node x l r =>
    if l.topKey = some k ∨ r.topKey = some k then some x.1 else (parentOf k l).or (parentOf k r)

theorem editAt_of_topKey {k : κ} {s : Shape (κ × α)} (f : Shape (κ × α) → Shape (κ × α))
    (top : s.topKey = some k) : s.editAt k f = f s := by
  cases s with
  | nil => cases top
  | node x l r =>
    obtain rfl : x.1 = k := Option.some.inj top
    rw [editAt, if_pos rfl]

/-- An edit at no name of the shape changes nothing. -/
theorem editAt_of_not_mem {k : κ} {s : Shape (κ × α)} (f : Shape (κ × α) → Shape (κ × α))
    (absent : k ∉ s.keys) : s.editAt k f = s := by
  induction s with
  | nil => rfl
  | node x l r ihl ihr =>
    rw [keys_node, List.mem_cons, List.mem_append, not_or, not_or] at absent
    rw [editAt, if_neg (Ne.symm absent.1), ihl absent.2.1, ihr absent.2.2]

theorem sub?_of_not_mem {k : κ} {s : Shape (κ × α)} (absent : k ∉ s.keys) : s.sub? k = none := by
  induction s with
  | nil => rfl
  | node x l r ihl ihr =>
    rw [keys_node, List.mem_cons, List.mem_append, not_or, not_or] at absent
    rw [sub?, if_neg (Ne.symm absent.1), ihl absent.2.1, ihr absent.2.2]
    rfl

theorem parentOf_of_not_mem {k : κ} {s : Shape (κ × α)} (absent : k ∉ s.keys) :
    s.parentOf k = none := by
  induction s with
  | nil => rfl
  | node x l r ihl ihr =>
    rw [keys_node, List.mem_cons, List.mem_append, not_or, not_or] at absent
    have notTop : ¬ (l.topKey = some k ∨ r.topKey = some k) := by
      rintro (top | top)
      · exact absent.2.1 (topKey_mem top)
      · exact absent.2.2 (topKey_mem top)
    rw [parentOf, if_neg notTop, ihl absent.2.1, ihr absent.2.2]
    rfl

end Shape

namespace Context

variable {κ α : Type} [DecidableEq κ]

/-- An edit at a name changes what stands at the name's place, and nothing around it. -/
theorem editAt_plug {C : Context (κ × α)} {k : κ} {s : Shape (κ × α)}
    (f : Shape (κ × α) → Shape (κ × α)) (outside : k ∉ keys C) :
    (plug C s).editAt k f = plug C (s.editAt k f) := by
  induction C generalizing s with
  | nil => rfl
  | cons e C ih =>
    rw [keys_cons, List.mem_cons, List.mem_append, not_or, not_or] at outside
    rw [plug, ih outside.2.2, plug]
    congr 1
    have sibling := Shape.editAt_of_not_mem f outside.2.1
    cases side : e.side <;>
      simp only [Shape.hang, Shape.editAt, if_neg (Ne.symm outside.1), sibling]

/-- The subtree at the top of a piece is the piece, if its name is not around it. -/
theorem sub?_plug {C : Context (κ × α)} {k : κ} {v : α} {l r : Shape (κ × α)}
    (outside : k ∉ keys C) :
    (plug C (.node (k, v) l r)).sub? k = some (.node (k, v) l r) := by
  suffices ∀ s : Shape (κ × α), s.sub? k = some (.node (k, v) l r) →
      (plug C s).sub? k = some (.node (k, v) l r) from this _ (by simp [Shape.sub?])
  induction C with
  | nil => exact fun s found => found
  | cons e C ih =>
    rw [keys_cons, List.mem_cons, List.mem_append, not_or, not_or] at outside
    intro s found
    refine ih outside.2.2 _ ?_
    have sibling := Shape.sub?_of_not_mem outside.2.1
    cases side : e.side <;>
      simp only [Shape.hang, Shape.sub?, if_neg (Ne.symm outside.1), sibling, found,
        Option.or_none, Option.none_or]

/-- The parent of a name is found where the name is, unless the name is on top. -/
theorem parentOf_plug_of_below {C : Context (κ × α)} {k : κ} {s : Shape (κ × α)}
    (below : s.topKey ≠ some k) (outside : k ∉ keys C) :
    (plug C s).parentOf k = s.parentOf k := by
  induction C generalizing s with
  | nil => rfl
  | cons e C ih =>
    rw [keys_cons, List.mem_cons, List.mem_append, not_or, not_or] at outside
    have other : e.label.1 ≠ k := Ne.symm outside.1
    rw [plug, ih (by simpa using other) outside.2.2]
    have notSibling : e.sibling.topKey ≠ some k := fun top => outside.2.1 (Shape.topKey_mem top)
    have sibling := Shape.parentOf_of_not_mem outside.2.1
    cases side : e.side <;>
      simp [Shape.hang, Shape.parentOf, below, notSibling, sibling]

/-- The node above a place is the parent of what stands there. -/
theorem parentOf_plug {C : Context (κ × α)} {k : κ} {v : α} {l r : Shape (κ × α)}
    (nodup : (plug C (.node (k, v) l r)).keys.Nodup) :
    (plug C (.node (k, v) l r)).parentOf k = above C := by
  rw [nodup_keys_plug, Shape.keys_node, List.nodup_cons] at nodup
  obtain ⟨⟨notBelow, -⟩, -, apart⟩ := nodup
  have outside := apart k List.mem_cons_self
  cases C with
  | nil =>
    rw [List.mem_append, not_or] at notBelow
    have notL : l.topKey ≠ some k := fun top => notBelow.1 (Shape.topKey_mem top)
    have notR : r.topKey ≠ some k := fun top => notBelow.2 (Shape.topKey_mem top)
    simp [plug, Shape.parentOf, notL, notR, Shape.parentOf_of_not_mem notBelow.1,
      Shape.parentOf_of_not_mem notBelow.2]
  | cons e C =>
    rw [keys_cons, List.mem_cons, List.mem_append, not_or, not_or] at outside
    rw [plug, parentOf_plug_of_below (by simpa using Ne.symm outside.1) outside.2.2, above_cons]
    cases side : e.side <;> simp [Shape.hang, Shape.parentOf]

end Context

end Substrate
