import Substrate.Failure
import Substrate.Pool.Basic

/-!
# Substrate.Collector.Staging

Construction in several steps that leaks nothing. Objects are *staged*: each is made from a pool
and added to a collector. When the result has an owner they are *retired*: each is withdrawn from
the collector and freed. Whichever step fails, *abandoning* the collector frees what is pending.
-/

namespace Substrate

/-- A pool, and the collector that guards the objects staged from it. -/
structure Staging (α β : Type) where
  pool : Pool α β
  collector : Collector

namespace Staging

variable {α β : Type} [Backing β]

/-- A pool under a new collector. -/
def start (pool : Pool α β) : Staging α β := ⟨pool, .ofLayout pool.layout⟩

/-- Stages payloads one after another, up to the first failure: the slots of the objects. -/
def stage (s : Staging α β) :
    List α → Outcome (Staging α β) (Except Failure (List Slot)) α
  | [] => .keeping (.ok []) s
  | v :: vs =>
    let made := s.pool.alloc v
    match made.reply with
    | .error e => ⟨.error (.allocation e), { s with pool := made.state }, made.destroyed⟩
    | .ok slot =>
      match s.collector.add slot with
      | .error e => ⟨.error (.collector e), { s with pool := made.state }, made.destroyed⟩
      | .ok collector =>
        let rest := stage ⟨made.state, collector⟩ vs
        ⟨rest.reply.map (slot :: ·), rest.state, made.destroyed ++ rest.destroyed⟩

/-- Withdraws and frees objects one after another, up to the first refusal. -/
def retire (s : Staging α β) : List Slot → Outcome (Staging α β) (Except Failure Unit) α
  | [] => .keeping (.ok ()) s
  | slot :: slots =>
    match s.collector.remove slot with
    | .error e => .keeping (.error (.collector e)) s
    | .ok collector =>
      let freed := s.pool.free slot
      let rest := retire ⟨freed.state, collector⟩ slots
      ⟨rest.reply, rest.state, freed.destroyed ++ rest.destroyed⟩

/-- Takes the collector out of use: the pool after everything pending was freed. -/
def abandon (s : Staging α β) : Outcome (Pool α β) Unit α := s.pool.freeAll s.collector.sweep

end Staging

end Substrate
