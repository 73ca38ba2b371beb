import Substrate.Proofs.Shape.Alike
import Substrate.Tree.Forest

/-!
# Substrate.Proofs.Tree.Grove

A forest without handles and links: plain shapes whose nodes carry numbers. A node gets the next
number when it is born and keeps it wherever it moves; no number is given twice. Commands refer to
nodes by number, or to none, and answer the number of a node, or none.

`Grove.step` is what every command means for the nodes. Nodes in the shapes after a step were there
before it, or are new (`keeps_step`); so a node that is gone stays gone (`absent_run`), and one that
is there keeps its payload until a command replaces it (`holds_of_run`).
-/

namespace Substrate

/-- Shapes of numbered nodes by register, and the number of the next node. -/
structure Grove (α : Type) where
  shapes : Nat → Option (Shape (Nat × α)) := fun _ => none
  born : Nat := 0

/-- What a command makes of one shape: the shape after it, the number of the next node, and the
node or the absent node that it answers, if it answers any. -/
structure Growth (α : Type) where
  shape : Shape (Nat × α)
  born : Nat
  answer : Option (Option Nat)

/-- How a handle refers to a node, where `names` holds the handles of the nodes by number: to none
if it denotes none, and by a number that no node has if it is not in the list. -/
def refTo (names : List Handle) (h : Handle) : Option Nat := h.key.map fun _ => names.idxOf h

/-- The node that a handle refers to, if any, has that handle. -/
theorem getElem?_of_refTo {names : List Handle} {h : Handle} {n : Nat}
    (ref : refTo names h = some n) (lt : n < names.length) : names[n]? = some h := by
  obtain ⟨key, -, is⟩ := Option.map_eq_some_iff.1 ref
  have mem : names.idxOf h < names.length := is ▸ lt
  subst is
  rw [List.getElem?_eq_getElem mem, List.getElem_idxOf mem]

variable {α : Type}

/-! ## Looks at one shape -/

namespace Shape

def payload? (s : Shape (Nat × α)) (n : Nat) : Option α :=
  match s.sub? n with
  | some (node x _ _) => some x.2
  | _ => none

def move? (s : Shape (Nat × α)) (n : Nat) : LinkedTree.Move → Option Nat
  | .up => s.parentOf n
  | .down side => (s.sub? n).bind fun u => (u.child side).topKey

/-- A payload is read off a node that is there. -/
theorem mem_of_payload? {s : Shape (Nat × α)} {n : Nat} {v : α} (found : s.payload? n = some v) :
    (n, v) ∈ s.preorder := by
  rw [payload?] at found
  split at found
  · next x l r sub =>
    have name : x.1 = n := Option.some.inj (topKey_of_sub? sub)
    have payload : x.2 = v := Option.some.inj found
    subst name
    subst payload
    exact mem_of_sub? sub x (by simp [preorder])
  · cases found

end Shape

/-! ## Edits of one shape -/

namespace Growth

def refused (s : Shape (Nat × α)) (b : Nat) : Growth α := ⟨s, b, none⟩

/-- Changes what stands at a node of the shape, using up `used` numbers. -/
def edit (s : Shape (Nat × α)) (b : Nat) (r : Option Nat)
    (f : Shape (Nat × α) → Shape (Nat × α)) (used : Nat) (answer : Nat → Option (Option Nat)) :
    Growth α :=
  match r with
  | none => refused s b
  | some n => if n ∈ s.keys then ⟨s.editAt n f, b + used, answer n⟩ else refused s b

/-- Splices in a node. A shape without nodes takes its first one where no node is named. -/
def insert (s : Shape (Nat × α)) (b : Nat) (splice : Splice) (r : Option Nat) (v : α) :
    Growth α :=
  match s, r, splice with
  | .nil, none, .above _ => ⟨.node (b, v) .nil .nil, b + 1, some (some b)⟩
  | s, r, splice => edit s b r (·.spliceTop splice (b, v)) 1 fun _ => some (some b)

/-- Splices in a chain of nodes, each at the one before. -/
def insertChain (s : Shape (Nat × α)) (b : Nat) (r : Option Nat) :
    List (LinkedTree.Link α) → Growth α
  | [] => ⟨s, b, some r⟩
  | link :: rest =>
    let first := insert s b link.splice r link.payload
    match first.answer with
    | none => first
    | some next => insertChain first.shape first.born next rest

/-- Removes a node with all below it: the node above. -/
def erase (s : Shape (Nat × α)) (b : Nat) (r : Option Nat) : Growth α :=
  edit s b r (fun _ => .nil) 0 fun n => some (s.parentOf n)

/-- Removes all below one side of a node: the node. -/
def eraseChild (s : Shape (Nat × α)) (b : Nat) (side : Side) (r : Option Nat) : Growth α :=
  edit s b r (·.setChild side .nil) 0 fun n => some (some n)

/-- Puts what is below one side of a node into its place: the top of that. -/
def reserve (s : Shape (Nat × α)) (b : Nat) (side : Side) (r : Option Nat) : Growth α :=
  edit s b r (·.child side) 0 fun n => some (s.move? n (.down side))

def setData (s : Shape (Nat × α)) (b : Nat) (r : Option Nat) (v : α) : Growth α :=
  edit s b r (·.setTop v) 0 fun _ => none

/-- Puts a copy of a shape into the place of a node: the top of the copy. -/
def merge (s : Shape (Nat × α)) (b : Nat) (r : Option Nat) (donor : Shape α) : Growth α :=
  edit s b r (fun _ => donor.numberFrom b) donor.size fun _ => some (donor.numberFrom b).topKey

def copy (b : Nat) (donor : Shape α) : Growth α :=
  ⟨donor.numberFrom b, b + donor.size, none⟩

section Accepted

variable {s : Shape (Nat × α)} {b : Nat} {r : Option Nat}

theorem edit_of_mem {n : Nat} (mem : n ∈ s.keys) (f : Shape (Nat × α) → Shape (Nat × α))
    (used : Nat) (answer : Nat → Option (Option Nat)) :
    edit s b (some n) f used answer = ⟨s.editAt n f, b + used, answer n⟩ :=
  if_pos mem

/-- An edit at no node of the shape is refused. -/
theorem edit_of_not_mem (absent : ∀ n, r = some n → n ∉ s.keys)
    (f : Shape (Nat × α) → Shape (Nat × α)) (used : Nat) (answer : Nat → Option (Option Nat)) :
    edit s b r f used answer = refused s b := by
  cases r with
  | none => rfl
  | some n => exact if_neg (absent n rfl)

/-- An insertion at a node of the shape splices the next number in there. -/
theorem insert_of_mem {n : Nat} (mem : n ∈ s.keys) (splice : Splice) (v : α) :
    insert s b splice (some n) v =
      ⟨s.editAt n (·.spliceTop splice (b, v)), b + 1, some (some b)⟩ := by
  cases s with
  | nil => simp at mem
  | node x l r =>
    exact edit_of_mem (b := b) mem (·.spliceTop splice (b, v)) 1 fun _ => some (some b)

theorem insert_of_not_mem (absent : ∀ n, r = some n → n ∉ s.keys) {splice : Splice}
    (notFirst : r = none → s = .nil → ∀ keep, splice ≠ .above keep) (v : α) :
    insert s b splice r v = refused s b := by
  unfold insert
  split
  · exact absurd rfl (notFirst rfl rfl _)
  · exact edit_of_not_mem absent _ _ _

end Accepted

/-- The nodes of the shape afterwards were in it before, with the payloads they have, or are new.
Only the payload of the node `changed` may be another one. -/
structure Keeps (s : Shape (Nat × α)) (b : Nat) (changed : Option (Nat × α)) (o : Growth α) :
    Prop where
  old : ∀ x ∈ o.shape.preorder, x ∈ s.preorder ∨ b ≤ x.1 ∨ x.1 ∈ s.keys ∧ changed = some x
  born_le : b ≤ o.born

variable {s : Shape (Nat × α)} {b : Nat} {changed : Option (Nat × α)}

theorem keeps_refused : Keeps s b changed (refused s b) := ⟨fun _ mem => .inl mem, Nat.le_refl b⟩

/-- An edit keeps the nodes if what it makes of the subtree does. -/
theorem keeps_edit (r : Option Nat) {f : Shape (Nat × α) → Shape (Nat × α)} (used : Nat)
    (answer : Nat → Option (Option Nat))
    (f_old : ∀ u : Shape (Nat × α), u.topKey = r → ∀ x ∈ (f u).preorder,
      x ∈ u.preorder ∨ b ≤ x.1 ∨ r = some x.1 ∧ changed = some x) :
    Keeps s b changed (edit s b r f used answer) := by
  unfold edit
  split
  · exact keeps_refused
  · next n =>
    split
    · next mem =>
      refine ⟨?_, Nat.le_add_right b used⟩
      refine Shape.forall_mem_editAt (fun u top all x inPiece => ?_) fun x inShape => .inl inShape
      rcases f_old u top x inPiece with old | new | ⟨here, is⟩
      · exact all x old
      · exact .inr (.inl new)
      · cases here
        exact .inr (.inr ⟨mem, is⟩)
    · exact keeps_refused

theorem keeps_copy (b : Nat) (donor : Shape α) : Keeps s b changed (copy b donor) := by
  refine ⟨fun x mem => .inr (.inl ?_), Nat.le_add_right b _⟩
  have key := Shape.mem_keys_of_mem mem
  rw [copy, Shape.keys_numberFrom] at key
  exact (List.mem_range'_1.1 key).1

/-- An insertion adds one new node to those that were there. -/
theorem keeps_insert (splice : Splice) (r : Option Nat) (v : α) :
    Keeps s b changed (insert s b splice r v) := by
  unfold insert
  split
  · refine ⟨fun x mem => .inr (.inl ?_), Nat.le_succ b⟩
    obtain rfl : x = (b, v) := by simpa [Shape.preorder] using mem
    exact Nat.le_refl b
  · refine keeps_edit _ 1 _ fun u _ x mem => ?_
    rcases Shape.mem_of_mem_spliceTop mem with old | rfl
    · exact .inl old
    · exact .inr (.inl (Nat.le_refl b))

/-- What two edits keep, one after the other keeps. -/
theorem Keeps.trans {o o' : Growth α} (first : Keeps s b none o)
    (later : Keeps o.shape o.born none o') : Keeps s b none o' where
  old := by
    intro x mem
    rcases later.old x mem with old | new | ⟨-, changed⟩
    · exact first.old x old
    · exact .inr (.inl (Nat.le_trans first.born_le new))
    · cases changed
  born_le := Nat.le_trans first.born_le later.born_le

/-- A chain of insertions adds new nodes only. -/
theorem keeps_insertChain (r : Option Nat) (chain : List (LinkedTree.Link α)) :
    Keeps s b none (insertChain s b r chain) := by
  induction chain generalizing s b r with
  | nil => exact ⟨fun _ mem => .inl mem, Nat.le_refl b⟩
  | cons link rest ih =>
    have first : Keeps s b none (insert s b link.splice r link.payload) :=
      keeps_insert link.splice r link.payload
    rw [insertChain]
    split
    · exact first
    · next next _ => exact first.trans (ih next)

theorem keeps_erase (r : Option Nat) : Keeps s b changed (erase s b r) :=
  keeps_edit r 0 _ fun _ _ _ mem => absurd mem (by simp [Shape.preorder])

theorem keeps_eraseChild (side : Side) (r : Option Nat) :
    Keeps s b changed (eraseChild s b side r) :=
  keeps_edit r 0 _ fun _ _ _ mem =>
    .inl ((Shape.mem_of_mem_setChild mem).resolve_right (by simp [Shape.preorder]))

theorem keeps_reserve (side : Side) (r : Option Nat) : Keeps s b changed (reserve s b side r) :=
  keeps_edit r 0 _ fun _ _ _ mem => .inl (Shape.mem_of_mem_child mem)

/-- Only the node whose payload is set may change. -/
theorem keeps_setData (r : Option Nat) (v : α) :
    Keeps s b (r.map (·, v)) (setData s b r v) := by
  refine keeps_edit r 0 _ fun u top x mem => ?_
  rcases Shape.mem_of_mem_setTop mem with old | ⟨here, payload⟩
  · exact .inl old
  · have ref : r = some x.1 := top.symm.trans here
    refine .inr (.inr ⟨ref, ?_⟩)
    rw [ref, ← payload]
    rfl

theorem keeps_merge (r : Option Nat) (donor : Shape α) : Keeps s b changed (merge s b r donor) := by
  refine keeps_edit r donor.size _ fun u _ x mem => ?_
  have copied : Keeps u b none (copy b donor) := keeps_copy b donor
  rcases copied.old x mem with old | new | ⟨-, changed⟩
  · exact .inl old
  · exact .inr (.inl new)
  · cases changed

end Growth

/-! ## Commands -/

namespace Grove

def set (g : Grove α) (t : Nat) (s : Option (Shape (Nat × α))) (born : Nat) : Grove α :=
  ⟨fun u => if u = t then s else g.shapes u, born⟩

def onShape (g : Grove α) (t : Nat) (edit : Shape (Nat × α) → Nat → Growth α) :
    Grove α × Option (Option Nat) :=
  match g.shapes t with
  | none => (g, none)
  | some s => (g.set t (some (edit s g.born).shape) (edit s g.born).born, (edit s g.born).answer)

/-- Runs one command. The answer is a node or the absent node, if the command answers any. -/
def step (g : Grove α) : Forest.Edit (Option Nat) α → Grove α × Option (Option Nat)
  | .create t => (g.set t (some .nil) g.born, none)
  | .discard t => (g.set t none g.born, none)
  | .clone t u =>
    match g.shapes u with
    | none => (g, none)
    | some donor =>
      let copy := Growth.copy g.born donor.payloads
      (g.set t (some copy.shape) copy.born, none)
  | .subtree t u r =>
    match (g.shapes u).bind fun s => r.bind s.sub? with
    | none => (g, none)
    | some donor =>
      let copy := Growth.copy g.born donor.payloads
      (g.set t (some copy.shape) copy.born, none)
  | .take t u =>
    match g.shapes t with
    | none => (g, none)
    | some s => ((g.set u (some s) g.born).set t (some .nil) g.born, none)
  | .swap t u =>
    match g.shapes t, g.shapes u with
    | some s, some other => ((g.set t (some other) g.born).set u (some s) g.born, none)
    | _, _ => (g, none)
  | .assign t u =>
    match g.shapes u with
    | none => (g, none)
    | some donor => g.onShape t fun _ b => .copy b donor.payloads
  | .merge t r u =>
    match g.shapes u with
    | none => (g, none)
    | some donor => g.onShape t fun s b => .merge s b r donor.payloads
  | .clear t => g.onShape t fun _ b => .refused .nil b
  | .insert t splice r v | .emplace t splice r v => g.onShape t fun s b => .insert s b splice r v
  | .insertChain t r chain => g.onShape t fun s b => .insertChain s b r chain
  | .erase t r => g.onShape t fun s b => .erase s b r
  | .eraseChild t side r => g.onShape t fun s b => .eraseChild s b side r
  | .reserve t side r => g.onShape t fun s b => .reserve s b side r
  | .setData t r v => g.onShape t fun s b => .setData s b r v

/-- The handles of the nodes born so far, where `names` holds those of later ones, too. -/
def known (g : Grove α) (names : List Handle) : List Handle := names.take g.born

/-- Runs one command that is given by handles. -/
def follow (g : Grove α) (names : List Handle) (e : Forest.Edit Handle α) :
    Grove α × Option (Option Nat) :=
  g.step (e.map (refTo (g.known names)))

/-- The grove after some commands that are given by handles. -/
def run (g : Grove α) (names : List Handle) (edits : List (Forest.Edit Handle α)) : Grove α :=
  edits.foldl (fun g e => (g.follow names e).1) g

theorem run_append (g : Grove α) (names : List Handle)
    (past between : List (Forest.Edit Handle α)) :
    g.run names (past ++ between) = (g.run names past).run names between :=
  List.foldl_append

/-- The node whose payload a command replaces, with the new payload. -/
def replaced : Forest.Edit (Option Nat) α → Option (Nat × α)
  | .setData _ r v => r.map (·, v)
  | _ => none

/-! ## Nodes of a grove -/

/-- Node `x.1` is in a register, with the payload `x.2`. -/
def Holds (g : Grove α) (x : Nat × α) : Prop := ∃ t s, g.shapes t = some s ∧ x ∈ s.preorder

/-- Node `n` is in no register. -/
def Absent (g : Grove α) (n : Nat) : Prop := ∀ v, ¬ g.Holds (n, v)

/-- The nodes afterwards were there before, with the payloads they have, or are new. Only the
payload of the node `changed` may be another one. -/
structure Keeps (g : Grove α) (changed : Option (Nat × α)) (g' : Grove α) : Prop where
  old : ∀ x, g'.Holds x → g.Holds x ∨ g.born ≤ x.1 ∨ (∃ v, g.Holds (x.1, v)) ∧ changed = some x
  born_le : g.born ≤ g'.born

variable {g : Grove α} {changed : Option (Nat × α)} {n : Nat}

theorem keeps_refl (g : Grove α) : g.Keeps changed g := ⟨fun _ => .inl, Nat.le_refl _⟩

/-- A register gets a shape of nodes that are somewhere, or new. -/
theorem Keeps.set {g' : Grove α} (keeps : g.Keeps changed g') {s : Option (Shape (Nat × α))}
    (old : ∀ u, s = some u → ∀ x ∈ u.preorder,
      g.Holds x ∨ g.born ≤ x.1 ∨ (∃ v, g.Holds (x.1, v)) ∧ changed = some x)
    (t : Nat) {born : Nat} (born_le : g.born ≤ born) : g.Keeps changed (g'.set t s born) where
  old := by
    rintro x ⟨u, s', held, mem⟩
    simp only [Grove.set] at held
    split at held
    · exact old s' held x mem
    · exact keeps.old x ⟨u, s', held, mem⟩
  born_le := born_le

/-- A register that gets a copy gets new nodes only. -/
theorem keeps_setCopy (t : Nat) (donor : Shape α) :
    g.Keeps changed (g.set t (some (Growth.copy g.born donor).shape) (g.born + donor.size)) := by
  refine (keeps_refl g).set ?_ t (Nat.le_add_right _ _)
  rintro u ⟨rfl⟩ x mem
  have copied : Growth.Keeps .nil g.born none (.copy g.born donor) :=
    Growth.keeps_copy g.born donor
  rcases copied.old x mem with old | new | ⟨-, changed⟩
  · simp [Shape.preorder] at old
  · exact .inr (.inl new)
  · cases changed

/-- An edit that keeps the nodes of a shape does so in a register. -/
theorem keeps_onShape (t : Nat) {edit : Shape (Nat × α) → Nat → Growth α}
    (keeps : ∀ s b, Growth.Keeps s b changed (edit s b)) :
    g.Keeps changed (g.onShape t edit).1 := by
  unfold onShape
  split
  · exact keeps_refl g
  · next s held =>
    have here := keeps s g.born
    refine (keeps_refl g).set ?_ t here.born_le
    rintro u ⟨rfl⟩ x mem
    rcases here.old x mem with old | new | ⟨key, is⟩
    · exact .inl ⟨t, s, held, old⟩
    · exact .inr (.inl new)
    · obtain ⟨v, was⟩ := Shape.exists_mem_of_mem_keys key
      exact .inr (.inr ⟨⟨v, t, s, held, was⟩, is⟩)

/-- A command neither brings back a node that is gone nor changes a payload, unless told to. -/
theorem keeps_step (g : Grove α) (e : Forest.Edit (Option Nat) α) :
    g.Keeps (replaced e) (g.step e).1 := by
  have bare : ∀ u : Shape (Nat × α), some .nil = some u → ∀ x ∈ u.preorder,
      g.Holds x ∨ g.born ≤ x.1 ∨ (∃ v, g.Holds (x.1, v)) ∧ replaced e = some x := by
    rintro u ⟨rfl⟩ x mem
    simp [Shape.preorder] at mem
  have moved : ∀ {t : Nat} {s : Shape (Nat × α)}, g.shapes t = some s →
      ∀ u, some s = some u → ∀ x ∈ u.preorder,
        g.Holds x ∨ g.born ≤ x.1 ∨ (∃ v, g.Holds (x.1, v)) ∧ replaced e = some x := by
    rintro t s held _ ⟨rfl⟩ x mem
    exact .inl ⟨t, s, held, mem⟩
  cases e with
  | create t => exact (keeps_refl g).set bare t (Nat.le_refl _)
  | discard t => exact (keeps_refl g).set (by simp) t (Nat.le_refl _)
  | clone t u =>
    rw [step]
    split
    · exact keeps_refl g
    · exact keeps_setCopy t _
  | subtree t u r =>
    rw [step]
    split
    · exact keeps_refl g
    · exact keeps_setCopy t _
  | take t u =>
    rw [step]
    split
    · exact keeps_refl g
    · next s held =>
      exact ((keeps_refl g).set (moved held) u (Nat.le_refl _)).set bare t (Nat.le_refl _)
  | swap t u =>
    rw [step]
    split
    · next s other heldT heldU =>
      have first := (keeps_refl g).set (moved heldU) t (Nat.le_refl _)
      exact first.set (moved heldT) u (Nat.le_refl _)
    · exact keeps_refl g
  | assign t u =>
    rw [step]
    split
    · exact keeps_refl g
    · exact keeps_onShape t fun _ b => Growth.keeps_copy b _
  | merge t r u =>
    rw [step]
    split
    · exact keeps_refl g
    · exact keeps_onShape t fun _ _ => Growth.keeps_merge r _
  | clear t =>
    refine keeps_onShape t fun s b => ⟨fun x mem => ?_, Nat.le_refl b⟩
    simp [Growth.refused, Shape.preorder] at mem
  | insert t splice r v => exact keeps_onShape t fun _ _ => Growth.keeps_insert splice r v
  | emplace t splice r v => exact keeps_onShape t fun _ _ => Growth.keeps_insert splice r v
  | insertChain t r chain => exact keeps_onShape t fun _ _ => Growth.keeps_insertChain r chain
  | erase t r => exact keeps_onShape t fun _ _ => Growth.keeps_erase r
  | eraseChild t side r => exact keeps_onShape t fun _ _ => Growth.keeps_eraseChild side r
  | reserve t side r => exact keeps_onShape t fun _ _ => Growth.keeps_reserve side r
  | setData t r v => exact keeps_onShape t fun _ _ => Growth.keeps_setData r v

/-- A node that is gone stays away, as no number is given out twice. -/
theorem absent_step (absent : g.Absent n) (old : n < g.born) (e : Forest.Edit (Option Nat) α) :
    (g.step e).1.Absent n := by
  intro v held
  rcases (keeps_step g e).old _ held with was | new | ⟨⟨w, was⟩, -⟩
  · exact absent v was
  · exact Nat.not_lt.2 new old
  · exact absent w was

theorem born_le_run (g : Grove α) (names : List Handle) (edits : List (Forest.Edit Handle α)) :
    g.born ≤ (g.run names edits).born := by
  induction edits generalizing g with
  | nil => exact Nat.le_refl _
  | cons e edits ih => exact Nat.le_trans (keeps_step g _).born_le (ih _)

/-- A node that is gone stays gone. -/
theorem absent_run (absent : g.Absent n) (old : n < g.born) (names : List Handle)
    (edits : List (Forest.Edit Handle α)) : (g.run names edits).Absent n := by
  induction edits generalizing g with
  | nil => exact absent
  | cons e edits ih =>
    exact ih (absent_step absent old _) (Nat.lt_of_lt_of_le old (keeps_step g _).born_le)

/-- The handle of a node born is among those known. -/
theorem known_of_lt {names : List Handle} {h : Handle} (at? : names[n]? = some h)
    (lt : n < g.born) : (g.known names)[n]? = some h := by
  rw [known, List.getElem?_take_of_lt lt]
  exact at?

/-- A payload that is there after a run was there before, unless the run has a command to replace
it. -/
theorem holds_of_run {x : Nat × α} {names : List Handle} {h : Handle}
    (at? : names[x.1]? = some h) (old : x.1 < g.born) {edits : List (Forest.Edit Handle α)}
    (untouched : ∀ e ∈ edits, ∀ t v, e ≠ .setData t h v)
    (after : (g.run names edits).Holds x) : g.Holds x := by
  induction edits generalizing g with
  | nil => exact after
  | cons e edits ih =>
    have keeps := keeps_step g (e.map (refTo (g.known names)))
    have rest := ih (Nat.lt_of_lt_of_le old keeps.born_le)
      (fun e mem => untouched e (List.mem_cons_of_mem _ mem)) after
    rcases keeps.old x rest with held | new | ⟨-, is⟩
    · exact held
    · exact absurd old (Nat.not_lt.2 new)
    · cases e with
      | setData t h' v =>
        obtain ⟨n, ref, rfl⟩ := Option.map_eq_some_iff.1 is
        have here := known_of_lt at? old
        have lt : n < (g.known names).length := (List.getElem?_eq_some_iff.1 here).1
        have same : h' = h := Option.some.inj ((getElem?_of_refTo ref lt).symm.trans here)
        exact absurd rfl (same ▸ untouched _ List.mem_cons_self t v)
      | _ => cases is

end Grove

end Substrate
