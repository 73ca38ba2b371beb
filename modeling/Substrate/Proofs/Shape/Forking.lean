import Substrate.Proofs.Shape.Named

/-!
# Substrate.Proofs.Shape.Forking

Two places in a shape, neither inside the other. The ways down to them part at one node, a *fork*,
whose two sides lead on to one place each. With one of them filled, a fork is a context around the
other (`Fork.plug_around`), and the two places play the same part (`Fork.plug_swap`). Of two names
in a shape, either one is in the subtree at the other or a fork holds them apart
(`Shape.encloses_or_forks`).
-/

namespace Substrate

variable {κ α β : Type}

theorem Side.opposite_opposite (side : Side) : side.opposite.opposite = side := by
  cases side <;> rfl

theorem Shape.hang_opposite (x : β) (side : Side) (s other : Shape β) :
    Shape.hang x side.opposite s other = .hang x side other s := by
  cases side <;> rfl

/-- A node with a context on each side: the first on side `side`, the second on the other. -/
structure Fork (β : Type) where
  outer : Context β
  label : β
  side : Side
  first : Context β
  second : Context β

namespace Fork

/-- The shape with `u` at the first place and `w` at the second. -/
def plug (F : Fork β) (u w : Shape β) : Shape β :=
  F.outer.plug (.hang F.label F.side (F.first.plug u) (F.second.plug w))

/-- What is around the first place, with `w` at the second. -/
def around (F : Fork β) (w : Shape β) : Context β :=
  F.first ++ ⟨F.side, F.label, F.second.plug w⟩ :: F.outer

/-- The fork with its places called the other way round. -/
def swap (F : Fork β) : Fork β := ⟨F.outer, F.label, F.side.opposite, F.second, F.first⟩

/-- The name of the node above the first place. -/
def above (F : Fork (κ × α)) : Option κ := F.first.above.or (some F.label.1)

def keys (F : Fork (κ × α)) : List κ :=
  F.first.keys ++ F.label.1 :: (F.second.keys ++ F.outer.keys)

theorem plug_swap (F : Fork β) (u w : Shape β) : F.swap.plug w u = F.plug u w := by
  rw [plug, swap, Shape.hang_opposite, plug]

theorem mem_keys_swap {F : Fork (κ × α)} {k : κ} : k ∈ F.swap.keys ↔ k ∈ F.keys := by
  simp only [keys, swap, List.mem_append, List.mem_cons]
  constructor <;> rintro (first | here | second | outer) <;> simp [*]

theorem swap_swap (F : Fork β) : F.swap.swap = F := by
  rw [swap, swap, Side.opposite_opposite]

/-- Plugging one place at a time fills a fork. -/
theorem plug_around (F : Fork β) (u w : Shape β) : (F.around w).plug u = F.plug u w := by
  rw [around, Context.plug_append, Context.plug, plug]

/-- What is above one place does not depend on the other. -/
theorem above_around (F : Fork (κ × α)) (w : Shape (κ × α)) : (F.around w).above = F.above := by
  rw [around, above]
  cases F.first <;> rfl

theorem above_mem {F : Fork (κ × α)} {k : κ} (above : F.above = some k) : k ∈ F.keys := by
  rw [keys, List.mem_append, List.mem_cons]
  rw [Fork.above, Option.or_eq_some_iff] at above
  rcases above with first | ⟨-, here⟩
  · exact .inl (Context.above_mem first)
  · exact .inr (.inl (Option.some.inj here).symm)

theorem keys_around_perm (F : Fork (κ × α)) (w : Shape (κ × α)) :
    (F.around w).keys.Perm (w.keys ++ F.keys) := by
  have split : (F.around w).keys =
      F.first.keys ++ F.label.1 :: ((F.second.plug w).keys ++ F.outer.keys) := by
    rw [around, Context.keys_append, Context.keys_cons]
  have filled := (F.second.keys_plug_perm w).append_right F.outer.keys
  rw [List.append_assoc] at filled
  have moved := ((filled.cons F.label.1).trans List.perm_middle.symm).append_left F.first.keys
  rw [split]
  exact moved.trans (List.perm_append_comm_assoc _ _ _)

/-- A filled fork has the names of both pieces and of what is around them. -/
theorem keys_plug_perm (F : Fork (κ × α)) (u w : Shape (κ × α)) :
    (F.plug u w).keys.Perm ((u.keys ++ w.keys) ++ F.keys) := by
  rw [← plug_around, List.append_assoc]
  exact ((F.around w).keys_plug_perm u).trans ((F.keys_around_perm w).append_left _)

end Fork

namespace Shape

/-- The name `j` is in the subtree at the name `k`. -/
def Encloses (s : Shape (κ × α)) (k j : κ) : Prop :=
  ∃ (C : Context (κ × α)) (u : Shape (κ × α)), s = C.plug u ∧ u.topKey = some k ∧ j ∈ u.keys

/-- A fork holds the names `k` and `j` apart. -/
def Forks (s : Shape (κ × α)) (k j : κ) : Prop :=
  ∃ (F : Fork (κ × α)) (u w : Shape (κ × α)), s = F.plug u w ∧ u.topKey = some k ∧
    w.topKey = some j

variable {s : Shape (κ × α)} {k j : κ}

/-- What encloses in a piece does so in the whole. -/
theorem Encloses.hang (h : s.Encloses k j) (f : Frame (κ × α)) :
    (Shape.hang f.label f.side s f.sibling).Encloses k j := by
  obtain ⟨C, u, rfl, top, mem⟩ := h
  exact ⟨C ++ [f], u, by rw [Context.plug_append]; rfl, top, mem⟩

theorem Forks.hang (h : s.Forks k j) (f : Frame (κ × α)) :
    (Shape.hang f.label f.side s f.sibling).Forks k j := by
  obtain ⟨F, u, w, rfl, topU, topW⟩ := h
  refine ⟨{ F with outer := F.outer ++ [f] }, u, w, ?_, topU, topW⟩
  rw [Fork.plug, Fork.plug, Context.plug_append]
  rfl

/-- Names on different sides of a node are held apart by that node. -/
theorem forks_hang (x : κ × α) (side : Side) {l r : Shape (κ × α)} (memK : k ∈ l.keys)
    (memJ : j ∈ r.keys) : (Shape.hang x side l r).Forks k j := by
  obtain ⟨C, v, l₁, l₂, rfl⟩ := Context.exists_plug memK
  obtain ⟨D, w, r₁, r₂, rfl⟩ := Context.exists_plug memJ
  exact ⟨⟨[], x, side, C, D⟩, _, _, rfl, rfl, rfl⟩

/-- Of two names, one is in the subtree at the other, or a fork holds the two apart. -/
theorem encloses_or_forks (memK : k ∈ s.keys) (memJ : j ∈ s.keys) :
    s.Encloses k j ∨ s.Encloses j k ∨ s.Forks k j := by
  induction s with
  | nil => simp at memK
  | node x l r ihl ihr =>
    have deeper : ∀ (f : Frame (κ × α)) (u : Shape (κ × α)),
        u.Encloses k j ∨ u.Encloses j k ∨ u.Forks k j →
        (Shape.hang f.label f.side u f.sibling).Encloses k j ∨
          (Shape.hang f.label f.side u f.sibling).Encloses j k ∨
          (Shape.hang f.label f.side u f.sibling).Forks k j :=
      fun f u => Or.imp (·.hang f) (Or.imp (·.hang f) (·.hang f))
    by_cases topK : x.1 = k
    · exact .inl ⟨[], .node x l r, rfl, congrArg some topK, memJ⟩
    by_cases topJ : x.1 = j
    · exact .inr (.inl ⟨[], .node x l r, rfl, congrArg some topJ, memK⟩)
    rw [keys_node, List.mem_cons, List.mem_append] at memK memJ
    rcases memK.resolve_left (Ne.symm topK) with lK | rK <;>
      rcases memJ.resolve_left (Ne.symm topJ) with lJ | rJ
    · exact deeper ⟨.left, x, r⟩ l (ihl lK lJ)
    · exact .inr (.inr (forks_hang x .left lK rJ))
    · exact .inr (.inr (forks_hang x .right rK lJ))
    · exact deeper ⟨.right, x, l⟩ r (ihr rK rJ)

end Shape

end Substrate
