import Substrate.Proofs.Tree.Simulation

/-!
# Substrate.Proofs.Tree.Handles

A handle is one node's for ever. The main result is `exists_faithfulRun`: in every state of a run,
the handle of a node is accepted by the tree that holds the node and by no other, reads the node's
payload, and is the one that every operation answers for the node; and once the node is gone, no
tree ever accepts it again. What the nodes of a state are, and what has become of them, is what the
`Grove` of the run says.
-/

namespace Substrate

variable {S : Type → Type} [SlotMap S] {α : Type}

namespace Forest

variable {f : Forest S α} {g : Grove α} {names : List Handle}

/-! ## Faithful handles -/

/-- A command answers the handle of a node where its counterpart answers the node, a handle that
denotes no node where that answers none, and no handle where that has no answer. -/
structure Answers (names : List Handle) (reply : Option Handle) (answer : Option (Option Nat)) :
    Prop where
  node : ∀ n h, names[n]? = some h → (reply = some h ↔ answer = some (some n))
  absent : (∃ h, reply = some h ∧ h.isUsable = false) ↔ answer = some none
  silent : reply = none ↔ answer = none

/-- Handles and nodes are tied in one state: `names` holds the handles of the nodes born so far. -/
structure Faithful (names : List Handle) (f : Forest S α) (g : Grove α) : Prop where
  /-- Every node born has a handle. -/
  length : names.length = g.born
  /-- A register holds a tree where it holds a shape. -/
  occupied : ∀ t : Nat, (∃ tree, f.trees[t]? = some tree) ↔ ∃ s, g.shapes t = some s
  /-- A tree accepts the handles of its own nodes and no others. -/
  resolves : ∀ (t : Nat) tree s n h, f.trees[t]? = some tree → g.shapes t = some s →
    names[n]? = some h → ((∃ k node, tree.resolve h = .ok (k, node)) ↔ n ∈ s.keys)
  /-- A node is in one tree at most. -/
  single : ∀ t u s d n, g.shapes t = some s → g.shapes u = some d → n ∈ s.keys → n ∈ d.keys →
    t = u
  /-- It is there once. -/
  once : ∀ t s, g.shapes t = some s → s.keys.Nodup
  /-- A handle reads the payload of its node. -/
  data : ∀ (t : Nat) tree s n h, f.trees[t]? = some tree → g.shapes t = some s →
    names[n]? = some h → (tree.data h).toOption = s.payload? n
  /-- The root is answered by its handle. -/
  root : ∀ (t : Nat) tree s, f.trees[t]? = some tree → g.shapes t = some s →
    Answers names (some tree.root) (some s.topKey)
  /-- The nodes around a node are answered by their handles. -/
  move : ∀ (t : Nat) tree s n h m, f.trees[t]? = some tree → g.shapes t = some s →
    names[n]? = some h → n ∈ s.keys → Answers names (tree.move h m).toOption (some (s.move? n m))

/-- A handle refers to the node at whose place it is listed. -/
theorem refTo_of_getElem? (nodup : names.Nodup) {n : Nat} {h : Handle} (usable : h.isUsable = true)
    (at? : names[n]? = some h) : refTo names h = some n := by
  obtain ⟨k, key⟩ := Option.isSome_iff_exists.1 usable
  rw [refTo, key, Option.map_some, idxOf_eq_of_getElem? nodup at?]

/-- Replies that refer to the nodes answered are answers by handles. -/
theorem answers_of_refs (nodup : names.Nodup) (usable : ∀ h ∈ names, h.isUsable = true)
    {reply : Option Handle} {answer : Option (Option Nat)}
    (refs : reply.map (refTo names) = answer) : Answers names reply answer := by
  subst refs
  constructor
  · intro n h at?
    constructor
    · rintro rfl
      have ref := refTo_of_getElem? nodup (usable h (List.mem_of_getElem? at?)) at?
      exact congrArg some ref
    · intro answered
      obtain ⟨h', rfl, ref⟩ := Option.map_eq_some_iff.1 answered
      have lt : n < names.length := (List.getElem?_eq_some_iff.1 at?).1
      exact (getElem?_of_refTo ref lt).symm.trans at?
  · constructor
    · rintro ⟨h, rfl, unusable⟩
      have none : h.key = none := by simpa [Handle.isUsable] using unusable
      simp [refTo, none]
    · intro answered
      obtain ⟨h, rfl, ref⟩ := Option.map_eq_some_iff.1 answered
      have none : h.key = none := Option.map_eq_none_iff.1 ref
      exact ⟨h, rfl, by simp [Handle.isUsable, none]⟩
  · exact Option.map_eq_none_iff.symm

theorem Related.refTo_eq (rel : Related names f g) {n : Nat} {h : Handle}
    (at? : names[n]? = some h) : refTo names h = some n :=
  refTo_of_getElem? rel.nodup (rel.usable h (List.mem_of_getElem? at?)) at?

/-- Related forests and groves have faithful handles. -/
theorem Related.faithful (rel : Related names f g) : Faithful names f g where
  length := rel.born.symm
  occupied := by
    intro t
    constructor
    · rintro ⟨tree, held⟩
      obtain ⟨s, shape, -⟩ := rel.exists_shape held
      exact ⟨s, shape⟩
    · rintro ⟨s, shape⟩
      obtain ⟨tree, held, -⟩ := rel.exists_tree shape
      exact ⟨tree, held⟩
  resolves := by
    intro t tree s n h held shape at?
    have tracks := rel.tracks held shape
    have ref := rel.refTo_eq at?
    rcases tracks.cases rel.nodup h with
      ⟨e, refused, absent⟩ | ⟨k, node, n', accepted, ref', mem, -⟩
    · simp [refused, absent n ref]
    · obtain rfl : n' = n := Option.some.inj (ref'.symm.trans ref)
      exact ⟨fun _ => mem, fun _ => ⟨k, node, accepted⟩⟩
  single := by
    intro t u s d n shapeT shapeU memT memU
    obtain ⟨tree, heldT, tracksT⟩ := rel.exists_tree shapeT
    obtain ⟨other, heldU, tracksU⟩ := rel.exists_tree shapeU
    -- The handle of the node carries the number of both trees.
    obtain ⟨c, -, alikeT⟩ := tracksT.alike
    obtain ⟨c', -, alikeU⟩ := tracksU.alike
    obtain ⟨k, -, namedT⟩ := alikeT.exists_right memT
    obtain ⟨j, -, namedU⟩ := alikeU.exists_right memU
    have same := congrArg Handle.tree (Option.some.inj (namedT.symm.trans namedU))
    exact rel.apart t u tree other heldT heldU same
  once := by
    intro t s shape
    obtain ⟨tree, -, tracks⟩ := rel.exists_tree shape
    obtain ⟨c, whole, alike⟩ := tracks.alike
    refine alike.nodup_keys (fun n k j first second => ?_) whole.nodup
    simpa using Option.some.inj (first.symm.trans second)
  data := by
    intro t tree s n h held shape at?
    have tracks := rel.tracks held shape
    have ref := rel.refTo_eq at?
    rw [tracks.data rel.nodup, ref, Option.bind_some]
  root := by
    intro t tree s held shape
    have root := (rel.tracks held shape).root rel.nodup
    exact answers_of_refs rel.nodup rel.usable (congrArg some root)
  move := by
    intro t tree s n h m held shape at? mem
    have tracks := rel.tracks held shape
    have ref := rel.refTo_eq at?
    exact answers_of_refs rel.nodup rel.usable (tracks.move rel.nodup ref mem m)

/-- `names` holds the handles of the nodes in every state of a run. -/
structure FaithfulRun (S : Type → Type) [SlotMap S] (names : List Handle)
    (edits : List (Edit Handle α)) : Prop where
  /-- No two nodes have one handle. -/
  nodup : names.Nodup
  usable : ∀ h ∈ names, h.isUsable = true
  state : ∀ past future, edits = past ++ future →
    Faithful ((Grove.run {} names past).known names) (run ({} : Forest S α) past)
      (Grove.run {} names past)
  /-- The next command answers nodes by their handles. -/
  reply : ∀ past e future, edits = past ++ e :: future →
    Answers ((Grove.run {} names (past ++ [e])).known names)
      ((run ({} : Forest S α) past).step e).reply.handle?
      ((Grove.run {} names past).follow names e).2
  /-- A handle reads the same payload for as long as no command replaces it, in any tree. -/
  steady : ∀ past between future n h, edits = past ++ between ++ future →
    n < (Grove.run {} names past).born → names[n]? = some h →
    (∀ e ∈ between, ∀ t v, e ≠ .setData t h v) →
    ∀ (t u : Nat) (tree later : LinkedTree S α) v w, (run {} past).trees[t]? = some tree →
      (run {} (past ++ between)).trees[u]? = some later → tree.data h = .ok v →
      later.data h = .ok w → v = w
  /-- No tree accepts the handle of a node that is gone, after any further commands. -/
  gone : ∀ past between future n h, edits = past ++ between ++ future →
    n < (Grove.run {} names past).born → (Grove.run {} names past).Absent n →
    names[n]? = some h → ∀ (t : Nat) (tree : LinkedTree S α), 
    (run {} (past ++ between)).trees[t]? = some tree → ∀ k node, tree.resolve h ≠ .ok (k, node)

/-- Whatever commands are run, in any order and with any handles: as long as tree numbers do not run
out, handles and nodes stay tied. -/
theorem exists_faithfulRun (edits : List (Edit Handle α)) (few : FewTrees S edits) :
    ∃ names, FaithfulRun S names edits := by
  obtain ⟨names, -, nodup, usable, always⟩ := exists_related_run related_init edits few.enough
  have state : ∀ past future, edits = past ++ future →
      Faithful ((Grove.run {} names past).known names) (run ({} : Forest S α) past)
        (Grove.run {} names past) :=
    fun past future split => (always past future split).1.faithful
  refine ⟨names, nodup, usable, state, ?_, ?_, ?_⟩
  · intro past e future split
    have refs := (always past (e :: future) split).2 e future rfl
    have after : Grove.run {} names (past ++ [e]) =
        ((Grove.run {} names past).follow names e).1 := by
      simp [Grove.run]
    rw [after]
    have sub : (((Grove.run {} names past).follow names e).1.known names).Sublist names :=
      List.take_sublist _ _
    exact answers_of_refs (nodup.sublist sub) (fun h mem => usable h (sub.subset mem)) refs
  · intro past between future n h split old at? untouched t u tree later v w heldT heldU readT readU
    have before := state past (between ++ future) (split.trans (List.append_assoc _ _ _))
    have after := state (past ++ between) future split
    obtain ⟨s, shapeT⟩ := (before.occupied t).1 ⟨tree, heldT⟩
    obtain ⟨d, shapeU⟩ := (after.occupied u).1 ⟨later, heldU⟩
    have grown : n < (Grove.run {} names (past ++ between)).born := by
      rw [Grove.run_append]
      exact Nat.lt_of_lt_of_le old (Grove.born_le_run _ names between)
    have first := before.data t tree s n h heldT shapeT (Grove.known_of_lt at? old)
    have second := after.data u later d n h heldU shapeU (Grove.known_of_lt at? grown)
    rw [readT] at first
    rw [readU] at second
    have memV : (n, v) ∈ s.preorder := Shape.mem_of_payload? first.symm
    have memW : (n, w) ∈ d.preorder := Shape.mem_of_payload? second.symm
    -- The payload read later was there before, in the same register as the one read then.
    have held : (Grove.run {} names past).Holds (n, w) := by
      refine Grove.holds_of_run (h := h) at? old untouched ?_
      rw [← Grove.run_append]
      exact ⟨u, d, shapeU, memW⟩
    obtain ⟨t', s', shape', memW'⟩ := held
    have keyV := Shape.mem_keys_of_mem memV
    have keyW := Shape.mem_keys_of_mem memW'
    obtain rfl : t' = t := before.single t' t s' s n shape' shapeT keyW keyV
    obtain rfl : s' = s := Option.some.inj (shape'.symm.trans shapeT)
    exact Shape.payload_unique (before.once t' s' shape') memV memW'
  · intro past between future n h split old absent at? t tree held k node accepted
    have gone := Grove.absent_run absent old names between
    rw [← Grove.run_append] at gone
    have grown : n < (Grove.run {} names (past ++ between)).born := by
      rw [Grove.run_append]
      exact Nat.lt_of_lt_of_le old (Grove.born_le_run _ names between)
    have faithful := state (past ++ between) future split
    obtain ⟨s, shape⟩ := (faithful.occupied t).1 ⟨tree, held⟩
    have here := Grove.known_of_lt at? grown
    have key := (faithful.resolves t tree s n h held shape here).1 ⟨k, node, accepted⟩
    obtain ⟨v, mem⟩ := Shape.exists_mem_of_mem_keys key
    exact gone v ⟨t, s, shape, mem⟩

/-- A tree moves, its old register gets a copy of it, and then the moved tree goes out of use. -/
theorem exists_faithfulRun_of_moved_tree :
    let edits : List (Edit Handle Nat) := [.create 0, .insert 0 (.above .left) .null 7,
      .insert 0 (.below .left .left) ⟨some 0, 1⟩ 8, .take 0 1, .clone 0 1,
      .setData 1 ⟨some 0, 1⟩ 9, .discard 1]
    FewTrees Cells edits ∧ ∃ names, FaithfulRun Cells names edits := by
  constructor
  · decide
  · exact exists_faithfulRun _ (by decide)

end Forest

end Substrate
