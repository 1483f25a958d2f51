/-!
# Findings with a place

A `Located` finding stands at a path such as `Record.field`, once one is known. An empty path is no place.

* `atPath` : the finding at a path, unless it has a place already;
* `text` : the message with the path before it.
-/

set_option autoImplicit false

namespace WireBridge

structure Located (α : Type) where
  content : α
  path : Option String
  deriving DecidableEq, Repr

namespace Located

variable {α β : Type}

/-- A finding without a place. -/
def nowhere (a : α) : Located α := ⟨a, none⟩

def isPlaced (e : Located α) : Bool := e.path.any (· ≠ "")

/-- The finding at a path, unless it has a place already. -/
def atPath (e : Located α) (path : String) : Located α := if e.isPlaced then e else ⟨e.content, some path⟩

def map (f : α → β) (e : Located α) : Located β := ⟨f e.content, e.path⟩

/-- The message of a finding, after its path. -/
def text (message : α → String) (e : Located α) : String :=
  match e.path with
  | some p => if p ≠ "" then p ++ ": " ++ message e.content else message e.content
  | none => message e.content

end Located

end WireBridge
