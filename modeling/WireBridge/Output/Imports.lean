import WireBridge.Assembly.Basic

/-!
# Imports of a generated module

`Assembly.modules?` are the modules that generated code names functions of: the helpers module, if it is not
empty, and the modules of all references of the surviving records, each once and in order of texts. Texts and
numbers have no common order, so a number cannot stand beside another module.
-/

set_option autoImplicit false

namespace WireBridge

/-- All references of a planned field. -/
def FieldPlan.references (p : FieldPlan) : List FunctionRef :=
  let f := p.descriptor
  [p.absence.function, f.default.bind (·.function), f.expectation.function, f.custom.bind (·.fromWire),
    f.custom.bind (·.toWire)].filterMap id

/-- All references of a planned record. -/
def RecordPlan.references (p : RecordPlan) : List FunctionRef :=
  [p.descriptor.errorType, p.descriptor.errorFunction].filterMap id ++ p.fields.flatMap (·.references)

namespace Assembly

/-- The modules that generated code refers to, with repetitions. -/
def referencedModules (a : Assembly) : List Value :=
  (a.settings.helpers.filter Value.isPresent).toList ++ a.records.flatMap fun r => r.references.map (·.module)

end Assembly

/-- The text of a module that is named by a text. -/
def Value.text? : Value → Option String
  | .text s => some s
  | _ => none

/-- Modules in order, each once; none if a number stands beside another module. -/
def orderModules? (modules : List Value) : Option (List String) :=
  match modules.mapM Value.text? with
  | some texts => some (Text.sortTexts texts.eraseDups)
  | none =>
    match modules with
    | [] => some []
    | m :: rest => if rest.all (· = m) then some [m.plain] else none

def Assembly.modules? (a : Assembly) : Option (List String) := orderModules? a.referencedModules

end WireBridge
