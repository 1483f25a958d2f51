/-!
# Decisions

A `Decision` is a step taken for a type or one of its members: what was decided and the rule that decided it.
`Decision.message` is its line in the log. An empty member name stands for the type itself, and an empty reason
is left out.

A `Ruled` outcome comes with the name of its rule.
-/

set_option autoImplicit false

namespace WireBridge

structure Decision where
  member : Option String
  step : String
  outcome : String
  reason : String
  deriving DecidableEq, Repr

namespace Decision

/-- The type or member that a decision is about. -/
def place (type : String) (d : Decision) : String :=
  match d.member with
  | some m => if m = "" then type else type ++ "." ++ m
  | none => type

def message (type : String) (d : Decision) : String :=
  d.place type ++ ": " ++ d.step ++ " -> " ++ d.outcome ++ if d.reason = "" then "" else " (" ++ d.reason ++ ")"

end Decision

/-- An outcome and the name of the rule that led to it. -/
structure Ruled (α : Type) where
  outcome : α
  rule : String
  deriving DecidableEq, Repr

end WireBridge
