import WireBridge.Output.Module

/-!
# Generation of a module

`generate` takes definitions to the text of a module. Strict generation refuses definitions
with a problem and reports all of them; otherwise the types that fail are left out, with a note for each.
-/

set_option autoImplicit false

namespace WireBridge

/-- Why no module is generated. -/
inductive GenerationFault
  | configuration (error : ConfigError)
  | failedTypes (errors : List ConfigError)
  | unorderedModules

/-- The message about all types that failed. -/
def failureMessage (errors : List String) : String :=
  toString errors.length ++ " type(s) could not be generated:\n" ++ Text.joinLines (errors.map ("  " ++ ·))

structure GenerationRequest where
  runtimeImport : String
  wireModule : Option Value
  helpers : Option Value
  strict : Bool
  deriving DecidableEq, Repr

/-- The notes about the types that are left out. -/
def skipNotes (errors : List ConfigError) : List LogEntry :=
  errors.map fun e => .note ("skipped " ++ ConfigError.text e)

/-- A generated module and the assembly that it is written from. -/
structure Generated where
  text : String
  assembly : Assembly

namespace Generated

/-- The notes about the types that are left out. -/
def skipped (g : Generated) : List LogEntry := skipNotes g.assembly.errors

/-- The log of the generation. -/
def log (g : Generated) : List LogEntry := g.assembly.log ++ g.skipped

end Generated

/-- The module of some definitions. -/
def generate (d : Definitions Value) (request : GenerationRequest) : Except GenerationFault Generated := do
  let settings ←
    (Settings.ofOptions d.options request.runtimeImport request.wireModule request.helpers).mapError .configuration
  let a := assemble d settings
  if request.strict && !a.errors.isEmpty then throw (.failedTypes a.errors)
  match a.modules? with
  | some modules => return ⟨moduleText a modules, a⟩
  | none => throw .unorderedModules

end WireBridge
