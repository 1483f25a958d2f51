import WireBridge.Descriptor.Field

/-!
# Descriptors of enums

`EnumDecl.describe` is the descriptor of an enum. Its variants have no directives and there is one at least; a
problem with a variant stands at the variant and any other at the enum.
-/

set_option autoImplicit false

namespace WireBridge

structure EnumDescriptor where
  name : String
  wireName : String
  variants : List String
  comment : Option String
  deriving DecidableEq, Repr

namespace EnumDecl

variable (e : EnumDecl Value)

/-- The problem of a variant that has a directive. -/
def variantFault? (v : VariantDecl Value) : Option ConfigError :=
  v.directives.head?.map fun d => (Located.nowhere (.variantDirective d.name)).atPath s!"{e.name}.{v.name}"

def readWireName : Except ConfigError String := do
  Directive.checkAll .enum e.directives
  if let some fault := e.variants.findSome? e.variantFault? then throw fault
  if e.variants.isEmpty then problem .emptyEnum
  WireBridge.readWireName e.directives e.name

/-- The descriptor of an enum. -/
def describe : Except ConfigError EnumDescriptor := do
  let wireName ← placedAt e.name e.readWireName
  return { name := e.name, wireName, variants := e.variants.map (·.name), comment := e.comment }

end EnumDecl

end WireBridge
