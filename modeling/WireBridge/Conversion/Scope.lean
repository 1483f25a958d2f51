import WireBridge.Settings
import WireBridge.Shape.Classify

/-!
# Names in generated code

A `Scope` holds what the names of types stand for: the declared types, and the helpers module, where an enum that
is not declared is looked up.
-/

set_option autoImplicit false

namespace WireBridge

structure Scope where
  symbols : Symbols
  helpers : Option Value

namespace Scope

def of (symbols : Symbols) (settings : Settings) : Scope := ⟨symbols, settings.helpers⟩

/-- The class of an enum that is not declared. -/
def externalEnum (scope : Scope) (name : String) : Except ConfigError String :=
  match scope.helpers with
  | some h => .ok (h.plain ++ "." ++ name)
  | none => problem (.enumWithoutHelpers name)

def isRecord (scope : Scope) (name : String) : Bool := (scope.symbols.record? name).isSome

end Scope

/-- A type of the wire module. -/
def wireTypeText (name : String) : String := "_wire." ++ name

end WireBridge
