import Substrate.Text.Rendering

/-!
# Substrate.Tree.Error

Why a tree does not accept a handle.
-/

namespace Substrate

/-- The number of a tree. Handles carry it, so a tree knows its own handles. -/
abbrev TreeId := UInt32

/-- A handle denotes no node, or a node that is gone, or a node of another tree. -/
inductive TreeError where
  | nullNode
  | staleNode
  | foreignNode (expected found : TreeId)
  deriving Repr, DecidableEq

namespace TreeError

/-- The text for a reader. -/
def message : TreeError → String
  | nullNode => "null node: handle is not usable"
  | staleNode => "stale node: handle outlived its node"
  | foreignNode expected found => s!"handle belongs to tree {found}, not tree {expected}"

/-- The name of the cause with its data. -/
def rendering : TreeError → Text.Rendering
  | nullNode => .record "NullNode" []
  | staleNode => .record "StaleNode" []
  | foreignNode expected found =>
    .record "ForeignNode"
      [("expected", .atom (toString expected)), ("found", .atom (toString found))]

end TreeError

end Substrate
