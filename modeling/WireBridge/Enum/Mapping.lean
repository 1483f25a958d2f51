import WireBridge.Decision.Basic
import WireBridge.Descriptor.Enum
import WireBridge.Naming

/-!
# Variant names on the wire

An `EnumMapping` holds the variants of an enum in order, each with the names it may have on the wire.

* `fromWireTable` : every wire name with its variant, in the order in which the names are met; of several variants
  with one wire name the first has it;
* `resolveWire`, `candidates?` : the variant of a wire name, and the wire names of a variant.
-/

set_option autoImplicit false

namespace WireBridge

structure EnumMapping where
  name : String
  wireName : String
  variants : List (String × List String)
  deriving DecidableEq, Repr

namespace EnumMapping

/-- The mapping of an enum, by the names that its variants are known under. -/
def of (name wireName : String) (variants : List String) : EnumMapping :=
  ⟨name, wireName, variants.map fun v => (v, candidateNames name v)⟩

/-- A table with one more entry, unless it has the key already. -/
def addEntry (table : List (String × String)) (entry : String × String) : List (String × String) :=
  if (table.lookup entry.1).isSome then table else table ++ [entry]

/-- All wire names with their variants, also those that an earlier variant has. -/
def wireNames (m : EnumMapping) : List (String × String) :=
  m.variants.flatMap fun (variant, names) => names.map fun n => (n, variant)

def fromWireTable (m : EnumMapping) : List (String × String) := m.wireNames.foldl addEntry []

def resolveWire (m : EnumMapping) (wireName : String) : Option String := m.fromWireTable.lookup wireName

def candidates? (m : EnumMapping) (variant : String) : Option (List String) := m.variants.lookup variant

/-- The decisions about the wire names of the variants. -/
def decisions (m : EnumMapping) : List Decision :=
  m.variants.map fun (variant, names) => ⟨some variant, "wire names", ", ".intercalate names, ""⟩

end EnumMapping

def EnumDescriptor.mapping (d : EnumDescriptor) : EnumMapping := .of d.name d.wireName d.variants

end WireBridge
