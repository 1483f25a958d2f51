import WireBridge.Definition.Basic
import WireBridge.Problem

/-!
# Settings of one generation run

`Settings.ofOptions` takes each setting from what is given explicitly, else from the options of the definition
file, of which the last one counts. A wire module has to be named; without a helpers module, functions are named
with their module and undeclared enums cannot be resolved.
-/

set_option autoImplicit false

namespace WireBridge

/-- The modules that generated code refers to. An option may set one to a number, which stands as its text. -/
structure Settings where
  wireModule : Value
  helpers : Option Value
  runtimeImport : String
  deriving DecidableEq, Repr

/-- The module that generated code takes its support functions from. -/
def defaultRuntime : String := "wiremap.runtime"

/-- The value of an option; of several settings the last. -/
def optionValue? (options : List (OptionDecl Value)) (name : String) : Option Value :=
  ((options.filter fun o => o.name = name).getLast?.map (·.value)).filter (· ≠ .null)

/-- An explicit setting, unless it is left out or empty, before the option. -/
def chosen? (explicit option : Option Value) : Option Value := (explicit.filter Value.isPresent) <|> option

namespace Settings

def ofOptions (options : List (OptionDecl Value)) (runtimeImport : String) (wireModule helpers : Option Value) :
    Except ConfigError Settings :=
  match (chosen? wireModule (optionValue? options "wireModule")).filter Value.isPresent with
  | some m => .ok ⟨m, chosen? helpers (optionValue? options "helpers"), runtimeImport⟩
  | none => problem .noWireModule

end Settings

end WireBridge
