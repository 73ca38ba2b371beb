import Substrate.Proofs.Collector.Conservation
import Substrate.Proofs.Collector.Staging
import Substrate.Proofs.Session.Assembly

/-!
# Substrate.Proofs.Session.Build

Building `(a - b) * (a + b)` from leaves that are staged in a pool. The four leaves are made from
pooled slots first and from the supply after that; all of them are copied into the tree, withdrawn
from the collector and freed, so that the collector has nothing left to sweep. The objects that
lived before stay as they are, and the pool has the slots of the leaves on top of those that it did
not need (`Builds`). Building fails with the supply alone (`Accounted.builds`).

The main result is `builds_of_run`, for a pool that was used in any way before.
-/

namespace Substrate

variable {β : Type} [Backing β]

namespace Session

def leaves (a b : Int) : List Term := [.number a, .number b, .number a, .number b]

def expression (a b : Int) : Shape Term := product (.number a) (.number b) (.number a) (.number b)

end Session

namespace Custody

open Session

/-- What building tree number `id` comes to in the state `k`: the leaves are staged in `slots`,
retired, and `built` is the outcome of it all. The slots in `outside` were out before the pool was
made. -/
structure Builds (k : Custody Term β) (outside : List Slot) (a b : Int) (slots : List Slot)
    (tree : LinkedTree Cells Term)
    (staged : Outcome (Staging Term β) (Except Failure (List Slot)) Term)
    (retired : Outcome (Staging Term β) (Except Failure Unit) Term)
    (built : Outcome (Pool Term β) (Except Failure (LinkedTree Cells Term)) Term) : Prop where
  /-- All leaves are made and taken up by the collector, in slots that no live object has. -/
  staged_ok : staged.reply = .ok slots
  length_slots : slots.length = 4
  nodup_slots : slots.Nodup
  fresh : ∀ s ∈ slots, s ∉ k.liveSlots
  contents : slots.map staged.state.pool.read = (leaves a b).map some
  /-- All of them are withdrawn and freed, each once, and nothing is left for a sweep. -/
  retired_ok : retired.reply = .ok ()
  freed : retired.destroyed = leaves a b
  sweep : retired.state.collector.sweep = []
  /-- The tree is the expression, and nothing is destroyed on the way but the leaves. -/
  reply : built.reply = .ok tree
  destroyed : built.destroyed = leaves a b
  shape : ∃ s, tree.HasShape s ∧ s.payloads = expression a b
  size : tree.size = 7
  /-- The objects that lived before hold what they held. -/
  untouched : ∀ s ∈ k.liveSlots, built.state.read s = k.pool.read s
  /-- Pooled slots are used first, and all slots of the leaves are pooled in the end. -/
  reused : slots.take k.pool.pooled.length = k.pool.pooled.take 4
  pooled : built.state.pooled = slots.reverse ++ k.pool.pooled.drop 4
  length_pooled : built.state.pooled.length = max k.pool.pooled.length 4
  /-- No slot is lost, and none is in two hands. -/
  safe : Safe { k with pool := built.state } outside
  conserves : Conserves { k with pool := built.state } defaultPoolCapacity outside

variable {k : Custody Term β} {n : Nat} {outside slots : List Slot} {a b : Int}

/-- Once the leaves are staged, assembled and retired, only the collector has to go. -/
theorem build_of_retired {pool : Pool Term β} {id : TreeId} {tree : LinkedTree Cells Term}
    {staged : Outcome (Staging Term β) (Except Failure (List Slot)) Term}
    {retired : Outcome (Staging Term β) (Except Failure Unit) Term}
    (stage_eq : (Staging.start pool).stage (leaves a b) = staged)
    (retire_eq : staged.state.retire slots = retired) (ok : staged.reply = .ok slots)
    (kept : staged.destroyed = [])
    (assembled : assemble id (slots.filterMap staged.state.pool.read) = .keeping (.ok ()) tree)
    (done : retired.reply = .ok ())
    (abandoned : retired.state.abandon = .keeping () retired.state.pool) :
    build pool id a b = ⟨.ok tree, retired.state.pool, retired.destroyed⟩ := by
  rw [leaves] at stage_eq
  simp only [build, stage_eq, ok, assembled, retire_eq, done, finish, abandoned, kept,
    Outcome.reply_keeping, Outcome.state_keeping, Outcome.destroyed_keeping, List.nil_append,
    List.append_nil]

/-- A failure of the supply ends a construction, and what was staged is swept. -/
theorem build_of_refused {pool : Pool Term β} {e : Failure}
    (failed : ((Staging.start pool).stage (leaves a b)).reply = .error e) (id : TreeId) :
    (build pool id a b).reply = .error e := by
  rw [leaves] at failed
  simp only [build, failed, finish]

variable [LawfulBacking β]

/-- Once the leaves are staged, nothing can fail. -/
theorem Accounted.exists_builds_of_staged (h : k.Accounted n outside)
    (fits : k.pool.Fits Term.layout defaultPoolCapacity) (id : TreeId)
    {staged : Outcome (Staging Term β) (Except Failure (List Slot)) Term}
    (stage_eq : (Staging.start k.pool).stage (leaves a b) = staged)
    (stages : (Staging.start k.pool).Stages (leaves a b) [] (k.liveSlots ++ outside) slots staged)
    (ok : staged.reply = .ok slots) (kept : staged.destroyed = []) (length : slots.length = 4) :
    ∃ tree, k.Builds outside a b slots tree staged (staged.state.retire slots)
      (build k.pool id a b) := by
  have contents : slots.map staged.state.pool.read = (leaves a b).map some := by
    rw [stages.contents, length]
    rfl
  have read : slots.filterMap staged.state.pool.read = leaves a b := by
    rw [stages.payloads, length]
    rfl
  obtain ⟨tree, s, assembled, shape, payloads⟩ := exists_assembled id (.number a) (.number b)
    (.number a) (.number b)
  -- All of the staged slots are retired.
  have guards : staged.state.Guards (slots ++ []) (k.liveSlots ++ outside) := by
    have guards := stages.guards
    rw [List.append_nil] at guards ⊢
    exact guards.congr slots.reverse_perm
  have retires := guards.retires
  have abandoned := retires.guards.abandon_of_nil
  have build_eq := build_of_retired stage_eq rfl ok kept (by rw [read]; exact assembled)
    retires.reply abandoned
  have unused := guards.nodup
  have fits' := retires.fits (stages.fits fits)
  have left : staged.state.pool.pooled = k.pool.pooled.drop 4 := by
    rw [stages.pooled, length]
    rfl
  -- The pool has room for the slots of all leaves, since at least as many are out.
  have room : slots.length + staged.state.pool.pooled.length ≤ staged.state.pool.capacity := by
    have capacity : staged.state.pool.capacity = 64 := (stages.fits fits).capacity_eq
    have le : k.pool.pooled.length ≤ 64 := fits.le
    rw [capacity, left, List.length_drop, length]
    omega
  have pooled := retires.pooled room
  rw [left] at pooled
  have untouched : ∀ s ∈ k.liveSlots, (staged.state.retire slots).state.pool.read s =
      k.pool.read s := by
    intro s live
    rw [retires.kept]
    exact stages.kept s (List.mem_append_right _ (List.mem_append_left _ live))
  have accounted := h.withPool retires.guards.stores fun s live => by
    rw [untouched s live]
    exact h.held s live
  refine ⟨tree, ?_⟩
  rw [build_eq]
  constructor
  case staged_ok => exact ok
  case length_slots => exact length
  case nodup_slots =>
    rw [List.append_nil] at unused
    exact (List.nodup_append.1 unused).1
  case fresh =>
    intro s mem live
    rw [List.append_nil] at unused
    exact (List.nodup_append.1 unused).2.2 s mem s (List.mem_append_left _ live) rfl
  case contents => exact contents
  case retired_ok => exact retires.reply
  case freed => rw [retires.destroyed, read]
  case sweep => exact retires.guards.sweep_perm.eq_nil
  case reply => rfl
  case destroyed => exact retires.destroyed.trans read
  case shape => exact ⟨s, shape, payloads⟩
  case size =>
    rw [shape.size, ← Shape.size_payloads, payloads]
    rfl
  case untouched => exact untouched
  case reused =>
    rw [← length]
    exact stages.reused
  case pooled => exact pooled
  case length_pooled =>
    show (staged.state.retire slots).state.pool.pooled.length = _
    rw [pooled, List.length_append, List.length_reverse, List.length_drop, length]
    omega
  case safe => exact accounted.safe
  case conserves => exact accounted.conserves fits'

/-- Building comes through where the supply grants the requests that the pool cannot meet, and else
fails with what the supply answers. -/
theorem Accounted.builds (h : k.Accounted n outside)
    (fits : k.pool.Fits Term.layout defaultPoolCapacity) (id : TreeId) (a b : Int) :
    (Backing.Grants Term.layout k.pool.backing (4 - k.pool.pooled.length) →
      ∃ slots tree, k.Builds outside a b slots tree ((Staging.start k.pool).stage (leaves a b))
        (((Staging.start k.pool).stage (leaves a b)).state.retire slots) (build k.pool id a b)) ∧
      ∀ e, (build k.pool id a b).reply = .error e → ∃ refusal, e = .allocation refusal := by
  obtain ⟨slots, stages⟩ := (Staging.guards_start h.stores).exists_stages (leaves a b)
  have granted : Backing.Grants Term.layout k.pool.backing (4 - k.pool.pooled.length) →
      slots.length = 4 := by
    rw [← fits.layout_eq]
    exact stages.length_eq
  rcases stages.answer with ⟨ok, length, kept⟩ | ⟨e, v, failed, next, -⟩
  · obtain ⟨tree, builds⟩ := h.exists_builds_of_staged fits id rfl stages ok kept length
    refine ⟨fun _ => ⟨slots, tree, builds⟩, fun e failed => ?_⟩
    cases builds.reply.symm.trans failed
  · have ended := build_of_refused failed id
    refine ⟨fun grants => ?_, fun e' failed' => ⟨e, ?_⟩⟩
    · rw [granted grants] at next
      cases next
    · exact Except.error.inj (failed'.symm.trans ended)

/-- Whatever was made and freed in a pool of terms before: where the supply grants the requests that
the pooled slots cannot meet, building `(a - b) * (a + b)` comes through and leaks nothing; and it
never fails but with what the supply answers. -/
theorem builds_of_run {backing : β} {pool : Pool Term β}
    (nodup : (Backing.allocated backing).Nodup)
    (created : Pool.create Term Term.layout defaultPoolCapacity backing = .ok pool)
    (commands : List (Command Term)) (id : TreeId) (a b : Int) :
    let k := (ofPool pool).after 0 commands
    (Backing.Grants Term.layout k.pool.backing (4 - k.pool.pooled.length) →
      ∃ slots tree, k.Builds (Backing.allocated backing) a b slots tree
        ((Staging.start k.pool).stage (leaves a b))
        (((Staging.start k.pool).stage (leaves a b)).state.retire slots) (build k.pool id a b)) ∧
      ∀ e, (build k.pool id a b).reply = .error e → ∃ refusal, e = .allocation refusal := by
  have start := accounted_ofPool (Pool.stores_create rfl nodup created)
  have fits := fits_after start (Pool.fits_create created) commands
  exact (accounted_after start commands).builds fits id a b

/-- A new pool of terms over the endless supply: half of its slots are laid in. -/
def newPool : Pool Term Rationed where
  layout := Term.layout
  capacity := 64
  pooled := (List.range' 1 32).reverse
  backing := {
    attempts := 32
    issued := 32
    inUse := (List.range' 1 32).reverse
    inUse_le := by decide }
  contents := ∅

theorem create_newPool :
    Pool.create Term Term.layout defaultPoolCapacity Rationed.endless = .ok newPool := rfl

set_option maxRecDepth 2000 in
/-- A pool of which 30 terms were taken and one came back: of the four leaves, three take the slots
that are still pooled, and one a slot from the supply. -/
theorem builds_of_used_pool :
    let commands : List (Command Term) :=
      List.replicate 30 (.alloc (.number 0)) ++ [.free (some 4)]
    let k := (ofPool newPool).after 0 commands
    (Backing.allocated Rationed.endless).Nodup ∧
      Pool.create Term Term.layout defaultPoolCapacity Rationed.endless = .ok newPool ∧
      k.pool.pooled = [28, 2, 1] ∧
      Backing.Grants Term.layout k.pool.backing (4 - k.pool.pooled.length) ∧
      ∃ slots tree, k.Builds [] 7 3 slots tree ((Staging.start k.pool).stage (leaves 7 3))
        (((Staging.start k.pool).stage (leaves 7 3)).state.retire slots) (build k.pool 1 7 3) := by
  intro commands k
  have grants : Backing.Grants Term.layout k.pool.backing (4 - k.pool.pooled.length) :=
    Rationed.grants_of_unlimited (by decide +kernel) (by decide +kernel) _ _
  refine ⟨List.nodup_nil, create_newPool, by decide +kernel, grants, ?_⟩
  exact (builds_of_run List.nodup_nil create_newPool commands 1 7 3).1 grants

end Custody

end Substrate
