import Substrate.Proofs.Shape.Named

/-!
# Substrate.Proofs.Shape.Alike

Shapes that differ in their names alone. `Alike R s c` relates two shapes of the same outline and
the same payloads whose names correspond by `R`. Where `R` pairs each name with one other, edits at
corresponding names keep shapes alike (`Alike.editAt`), and looking around in them meets
corresponding names (`Alike.topKey`, `Alike.sub?`, `Alike.parentOf`).

`numberFrom` names the nodes of a plain shape by numbers in pre-order.
-/

namespace Substrate

namespace Shape

variable {κ κ' α : Type}

/-- The same outline and payloads, under names that correspond. -/
inductive Alike (R : κ → κ' → Prop) : Shape (κ × α) → Shape (κ' × α) → Prop where
  | nil : Alike R nil nil
  | node {n : κ} {k : κ'} {v : α} {l r : Shape (κ × α)} {l' r' : Shape (κ' × α)} (name : R n k)
    (left : Alike R l l') (right : Alike R r r') : Alike R (node (n, v) l r) (node (k, v) l' r')

variable {R R' : κ → κ' → Prop} {s : Shape (κ × α)} {c : Shape (κ' × α)}

namespace Alike

theorem mono (h : Alike R s c) (weaker : ∀ n k, R n k → R' n k) : Alike R' s c := by
  induction h with
  | nil => exact .nil
  | node name _ _ ihl ihr => exact .node (weaker _ _ name) ihl ihr

/-- Alike shapes have the same payloads in the same places. -/
theorem payloads (h : Alike R s c) : s.payloads = c.payloads := by
  induction h with
  | nil => rfl
  | node _ _ _ ihl ihr => rw [Shape.payloads, Shape.payloads, ihl, ihr]

theorem topKey (h : Alike R s c) : Option.Rel R s.topKey c.topKey := by
  cases h with
  | nil => exact .none
  | node name _ _ => exact .some name

theorem topKey_eq_iff {n : κ} {k : κ'} (h : Alike R s c)
    (only : ∀ m j, R m j → (m = n ↔ j = k)) :
    s.topKey = some n ↔ c.topKey = some k := by
  cases h with
  | nil => simp
  | node name _ _ => simpa using only _ _ name

/-- Each name on the left corresponds to one on the right. -/
theorem exists_right (h : Alike R s c) {n : κ} (mem : n ∈ s.keys) : ∃ k ∈ c.keys, R n k := by
  induction h with
  | nil => simp at mem
  | node name _ _ ihl ihr =>
    rw [keys_node, List.mem_cons, List.mem_append] at mem
    rcases mem with rfl | inL | inR
    · exact ⟨_, by simp, name⟩
    · obtain ⟨k, mem, named⟩ := ihl inL
      exact ⟨k, by simp [mem], named⟩
    · obtain ⟨k, mem, named⟩ := ihr inR
      exact ⟨k, by simp [mem], named⟩

theorem exists_left (h : Alike R s c) {k : κ'} (mem : k ∈ c.keys) : ∃ n ∈ s.keys, R n k := by
  induction h with
  | nil => simp at mem
  | node name _ _ ihl ihr =>
    rw [keys_node, List.mem_cons, List.mem_append] at mem
    rcases mem with rfl | inL | inR
    · exact ⟨_, by simp, name⟩
    · obtain ⟨n, mem, named⟩ := ihl inL
      exact ⟨n, by simp [mem], named⟩
    · obtain ⟨n, mem, named⟩ := ihr inR
      exact ⟨n, by simp [mem], named⟩

/-- Different names stay different. -/
theorem nodup_keys (h : Alike R s c) (one : ∀ n k j, R n k → R n j → k = j)
    (nodup : c.keys.Nodup) : s.keys.Nodup := by
  induction h with
  | nil => exact List.nodup_nil
  | @node n k v l r l' r' name left right ihl ihr =>
    rw [keys_node, List.nodup_cons, List.nodup_append, List.mem_append, not_or] at nodup ⊢
    obtain ⟨⟨notL, notR⟩, nodupL, nodupR, apart⟩ := nodup
    refine ⟨⟨fun mem => ?_, fun mem => ?_⟩, ihl nodupL, ihr nodupR, ?_⟩
    · obtain ⟨j, inL, name'⟩ := left.exists_right mem
      exact notL (one n k j name name' ▸ inL)
    · obtain ⟨j, inR, name'⟩ := right.exists_right mem
      exact notR (one n k j name name' ▸ inR)
    · rintro m inL _ inR rfl
      obtain ⟨i, inL', nameL⟩ := left.exists_right inL
      obtain ⟨j, inR', nameR⟩ := right.exists_right inR
      exact apart i inL' j inR' (one m i j nameL nameR)

/-! ## Pieces -/

theorem child (h : Alike R s c) (side : Side) : Alike R (s.child side) (c.child side) := by
  cases h with
  | nil => exact .nil
  | node _ left right =>
    cases side
    · exact left
    · exact right

/-- Alike shapes stay alike when alike pieces are put in on the same side. -/
theorem setChild (h : Alike R s c) (side : Side) {u : Shape (κ × α)} {d : Shape (κ' × α)}
    (piece : Alike R u d) : Alike R (s.setChild side u) (c.setChild side d) := by
  cases h with
  | nil => exact .nil
  | node name left right =>
    cases side
    · exact .node name piece right
    · exact .node name left piece

theorem hang (h : Alike R s c) {n : κ} {k : κ'} (name : R n k) (v : α) (side : Side) :
    Alike R (.hang (n, v) side s .nil) (.hang (k, v) side c .nil) := by
  cases side
  · exact .node name h .nil
  · exact .node name .nil h

/-- Alike shapes stay alike when corresponding nodes are spliced in. -/
theorem spliceTop (h : Alike R s c) (splice : Splice) {n : κ} {k : κ'} (name : R n k) (v : α) :
    Alike R (s.spliceTop splice (n, v)) (c.spliceTop splice (k, v)) := by
  cases splice with
  | above keep => exact h.hang name v keep
  | below side keep => exact h.setChild side ((h.child side).hang name v keep)

theorem setTop (h : Alike R s c) (v : α) : Alike R (s.setTop v) (c.setTop v) := by
  cases h with
  | nil => exact .nil
  | node name left right => exact .node name left right

end Alike

/-! ## Edits and looks at corresponding names -/

section Names

variable [DecidableEq κ] [DecidableEq κ'] {n : κ} {k : κ'}

/-- Edits at corresponding names keep shapes alike. -/
theorem Alike.editAt (h : Alike R s c) (only : ∀ m j, R m j → (m = n ↔ j = k))
    (weaker : ∀ m j, R m j → R' m j) {f : Shape (κ × α) → Shape (κ × α)}
    {g : Shape (κ' × α) → Shape (κ' × α)} (edit : ∀ u d, Alike R u d → Alike R' (f u) (g d)) :
    Alike R' (s.editAt n f) (c.editAt k g) := by
  induction h with
  | nil => exact .nil
  | @node m j v l r l' r' name left right ihl ihr =>
    rw [Shape.editAt, Shape.editAt]
    by_cases here : m = n
    · rw [if_pos here, if_pos ((only m j name).1 here)]
      exact edit _ _ (.node name left right)
    · rw [if_neg here, if_neg fun there => here ((only m j name).2 there)]
      exact .node (weaker m j name) ihl ihr

/-- The subtrees at corresponding names are alike. -/
theorem Alike.sub? (h : Alike R s c) (only : ∀ m j, R m j → (m = n ↔ j = k)) :
    Option.Rel (Alike R) (s.sub? n) (c.sub? k) := by
  induction h with
  | nil => exact .none
  | @node m j v l r l' r' name left right ihl ihr =>
    rw [Shape.sub?, Shape.sub?]
    by_cases here : m = n
    · rw [if_pos here, if_pos ((only m j name).1 here)]
      exact .some (.node name left right)
    · rw [if_neg here, if_neg fun there => here ((only m j name).2 there)]
      generalize l.sub? n = a at ihl
      generalize l'.sub? k = b at ihl
      cases ihl with
      | none => exact ihr
      | some piece => exact .some piece

/-- The nodes above corresponding names correspond. -/
theorem Alike.parentOf (h : Alike R s c) (only : ∀ m j, R m j → (m = n ↔ j = k)) :
    Option.Rel R (s.parentOf n) (c.parentOf k) := by
  induction h with
  | nil => exact .none
  | @node m j v l r l' r' name left right ihl ihr =>
    have tops : (l.topKey = some n ∨ r.topKey = some n) ↔
        (l'.topKey = some k ∨ r'.topKey = some k) :=
      or_congr (left.topKey_eq_iff only) (right.topKey_eq_iff only)
    rw [Shape.parentOf, Shape.parentOf]
    by_cases below : l.topKey = some n ∨ r.topKey = some n
    · rw [if_pos below, if_pos (tops.1 below)]
      exact .some name
    · rw [if_neg below, if_neg fun there => below (tops.2 there)]
      generalize l.parentOf n = a at ihl
      generalize l'.parentOf k = b at ihl
      cases ihl with
      | none => exact ihr
      | some name => exact .some name

/-- What holds of all nodes, and of all nodes of an edited piece, holds after the edit. -/
theorem forall_mem_editAt {P : κ × α → Prop} {f : Shape (κ × α) → Shape (κ × α)}
    (edit : ∀ u : Shape (κ × α), u.topKey = some n → (∀ x ∈ u.preorder, P x) →
      ∀ x ∈ (f u).preorder, P x)
    (all : ∀ x ∈ s.preorder, P x) : ∀ x ∈ (s.editAt n f).preorder, P x := by
  induction s with
  | nil => exact all
  | node y l r ihl ihr =>
    rw [editAt]
    split
    · next here => exact edit _ (congrArg some here) all
    · simp only [preorder, List.mem_cons, List.mem_append] at all ⊢
      rintro x (rfl | inL | inR)
      · exact all _ (.inl rfl)
      · exact ihl (fun x mem => all x (.inr (.inl mem))) x inL
      · exact ihr (fun x mem => all x (.inr (.inr mem))) x inR

/-- A subtree has nodes of the whole only. -/
theorem mem_of_sub? {u : Shape (κ × α)} (found : s.sub? n = some u) :
    ∀ x ∈ u.preorder, x ∈ s.preorder := by
  induction s with
  | nil => cases found
  | node y l r ihl ihr =>
    rw [sub?] at found
    split at found
    · cases found
      exact fun x mem => mem
    · intro x mem
      rw [preorder, List.mem_cons, List.mem_append]
      rcases Option.or_eq_some_iff.1 found with inL | ⟨-, inR⟩
      · exact .inr (.inl (ihl inL x mem))
      · exact .inr (.inr (ihr inR x mem))

theorem topKey_of_sub? {u : Shape (κ × α)} (found : s.sub? n = some u) : u.topKey = some n := by
  induction s with
  | nil => cases found
  | node y l r ihl ihr =>
    rw [sub?] at found
    split at found
    · next here =>
      cases found
      exact congrArg some here
    · rcases Option.or_eq_some_iff.1 found with inL | ⟨-, inR⟩
      · exact ihl inL
      · exact ihr inR

end Names

/-! ## Nodes of pieces -/

theorem mem_keys_of_mem {x : κ × α} (mem : x ∈ s.preorder) : x.1 ∈ s.keys :=
  List.mem_map_of_mem mem

theorem exists_mem_of_mem_keys {n : κ} (mem : n ∈ s.keys) : ∃ v, (n, v) ∈ s.preorder := by
  obtain ⟨x, here, rfl⟩ := List.mem_map.1 mem
  exact ⟨x.2, here⟩

/-- A name has one payload. -/
theorem payload_unique (nodup : s.keys.Nodup) {n : κ} {v w : α} (first : (n, v) ∈ s.preorder)
    (second : (n, w) ∈ s.preorder) : v = w := by
  obtain ⟨i, lt, atI⟩ := List.mem_iff_getElem.1 first
  obtain ⟨j, lt', atJ⟩ := List.mem_iff_getElem.1 second
  have keyI : s.keys[i]? = some n := by simp [keys, lt, atI]
  have keyJ : s.keys[j]? = some n := by simp [keys, lt', atJ]
  have ltK : i < s.keys.length := by simpa [keys] using lt
  have same : i = j := (List.getElem?_inj ltK nodup).1 (keyI.trans keyJ.symm)
  subst same
  exact congrArg Prod.snd (atI.symm.trans atJ)

theorem mem_of_mem_child {s : Shape α} {side : Side} {x : α} (mem : x ∈ (s.child side).preorder) :
    x ∈ s.preorder := by
  cases s with
  | nil => simp [child, preorder] at mem
  | node y l r => cases side <;> simp_all [child, preorder]

/-- After a side was replaced, every node was there or is in the new piece. -/
theorem mem_of_mem_setChild {s u : Shape α} {side : Side} {x : α}
    (mem : x ∈ (s.setChild side u).preorder) : x ∈ s.preorder ∨ x ∈ u.preorder := by
  cases s with
  | nil => simp [setChild, preorder] at mem
  | node y l r => cases side <;> simp_all [setChild, preorder] <;> grind

/-- After a splice, every node was there or is the new one. -/
theorem mem_of_mem_spliceTop {s : Shape (κ × α)} {splice : Splice} {new x : κ × α}
    (mem : x ∈ (s.spliceTop splice new).preorder) : x ∈ s.preorder ∨ x = new := by
  have hung : ∀ (u : Shape (κ × α)) (side : Side), x ∈ (hang new side u nil).preorder →
      x ∈ u.preorder ∨ x = new := by
    intro u side mem
    cases side <;> simp [hang, preorder] at mem <;> exact mem.symm
  cases splice with
  | above keep => exact hung s keep mem
  | below side keep =>
    rcases mem_of_mem_setChild mem with old | piece
    · exact .inl old
    · exact (hung _ keep piece).imp_left mem_of_mem_child

theorem mem_of_mem_setTop {s : Shape (κ × α)} {v : α} {x : κ × α}
    (mem : x ∈ (s.setTop v).preorder) : x ∈ s.preorder ∨ s.topKey = some x.1 ∧ x.2 = v := by
  cases s with
  | nil => exact .inl mem
  | node y l r =>
    rw [setTop, preorder, List.mem_cons] at mem
    rcases mem with rfl | below
    · exact .inr ⟨rfl, rfl⟩
    · exact .inl (List.mem_cons_of_mem _ below)

/-- A node that was spliced in is there. -/
theorem fst_mem_keys_spliceTop (x : κ × α) (l r : Shape (κ × α)) (splice : Splice) (new : κ × α) :
    new.1 ∈ ((node x l r).spliceTop splice new).keys := by
  cases splice with
  | above keep => exact topKey_mem (topKey_hang new keep _ _)
  | below side keep =>
    have here : new.1 ∈ (hang new keep ((node x l r).child side) nil).keys :=
      topKey_mem (topKey_hang new keep _ _)
    cases side <;> simp [spliceTop, setChild, here]

/-! ## Numbers for names -/

/-- Names the nodes in pre-order, from `b` on. -/
def numberFrom (b : Nat) : Shape α → Shape (Nat × α)
  | nil => nil
  | node v l r => node (b, v) (l.numberFrom (b + 1)) (r.numberFrom (b + 1 + l.size))

/-- The numbers given to a shape follow each other in pre-order. -/
theorem keys_numberFrom (b : Nat) (s : Shape α) : (s.numberFrom b).keys = List.range' b s.size := by
  induction s generalizing b with
  | nil => rfl
  | node v l r ihl ihr =>
    rw [numberFrom, keys_node, ihl, ihr, size, List.range'_succ, List.range'_append_1]

theorem size_payloads (s : Shape (κ × α)) : s.payloads.size = s.size := by
  induction s with
  | nil => rfl
  | node x l r ihl ihr => rw [payloads, size, size, ihl, ihr]

/-- A shape is like its payloads under numbers if the numbers correspond to its names in
pre-order. -/
theorem alike_numberFrom {R : Nat → κ → Prop} (c : Shape (κ × α)) (b : Nat)
    (named : ∀ i k, c.keys[i]? = some k → R (b + i) k) :
    Alike R (c.payloads.numberFrom b) c := by
  induction c generalizing b with
  | nil => exact .nil
  | node x l r ihl ihr =>
    simp only [keys_node] at named
    have left : ∀ i k, l.keys[i]? = some k → R (b + 1 + i) k := by
      intro i k at?
      have lt : i < l.keys.length := (List.getElem?_eq_some_iff.1 at?).1
      have here := named (i + 1) k
      rw [List.getElem?_cons_succ, List.getElem?_append_left lt] at here
      have number : b + 1 + i = b + (i + 1) := by omega
      rw [number]
      exact here at?
    have right : ∀ i k, r.keys[i]? = some k → R (b + 1 + l.payloads.size + i) k := by
      intro i k at?
      have here := named (l.keys.length + i + 1) k
      rw [List.getElem?_cons_succ, List.getElem?_append_right (Nat.le_add_right _ _),
        Nat.add_sub_cancel_left] at here
      have number : b + 1 + l.payloads.size + i = b + (l.keys.length + i + 1) := by
        rw [size_payloads, length_keys]
        omega
      rw [number]
      exact here at?
    exact .node (named 0 x.1 rfl) (ihl (b + 1) left) (ihr _ right)

end Shape

end Substrate
