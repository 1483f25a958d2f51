import WireBridge.Conversion.Fields
import WireBridge.Enum.Mapping

/-!
# Plans of types

A plan holds every decision about a type and the code generated for it. `RecordDecl.plan` and `EnumDecl.plan` plan
one declared type; a record stops at the first problem of one of its fields.

`RecordDecl.decisions` are the decisions taken on the way, up to the problem if there is one.
-/

set_option autoImplicit false

namespace WireBridge

/-- The plan of a field. `initial` is its default in the native class. -/
structure FieldPlan where
  descriptor : FieldDescriptor
  absence : Absence
  strategy : Strategy
  artifact : Artifact
  type : NativeType
  initial : Option NativeDefault
  deriving Repr

namespace FieldPlan

def nativeType (p : FieldPlan) : String := p.type.text

def default (p : FieldPlan) : Option String := p.initial.map NativeDefault.text

end FieldPlan

/-- The plan of a record. `errorClass` is what reading it from the wire may raise, none where only the error
functions of fields decide, and `generatedError` tells whether the class is generated too. -/
structure RecordPlan where
  descriptor : RecordDescriptor
  fields : List FieldPlan
  fallible : Bool
  errorClass : Option String
  generatedError : Bool
  deriving Repr

namespace RecordPlan

def name (p : RecordPlan) : String := p.descriptor.name

/-- The fields that have a wire counterpart. -/
def wireFields (p : RecordPlan) : List FieldPlan := p.fields.filter (·.artifact.toWire.isSome)

end RecordPlan

structure EnumPlan where
  descriptor : EnumDescriptor
  mapping : EnumMapping
  deriving DecidableEq, Repr

def EnumPlan.name (p : EnumPlan) : String := p.descriptor.name

/-! ## Planning -/

def EnumDecl.plan (e : EnumDecl Value) : Except ConfigError EnumPlan := do
  let d ← e.describe
  return ⟨d, d.mapping⟩

section Fields

variable (scope : Scope) (r : RecordDescriptor) (f : FieldDescriptor)

/-- The plan of a field, whose code is made by `code` from its strategy and absence. -/
def planWith (code : Strategy → Absence → Except ConfigError Artifact) : Except ConfigError FieldPlan := do
  let absence := (← resolveAbsence f r).outcome
  let strategy := (resolveStrategy f absence).outcome
  let artifact ← code strategy absence
  let type ← NativeType.ofShape scope f.shape
  return ⟨f, absence, strategy, artifact, type, ← NativeDefault.ofField scope f⟩

/-- The plan of a field of a record, whose problems stand at the field. -/
def planField : Except ConfigError FieldPlan :=
  placedAt (r.name ++ "." ++ f.nativeName) (planWith scope r f fun s a => convertField scope f s a r)

/-- The plan of the field of a newtype. -/
def planWrapped : Except ConfigError FieldPlan :=
  placedAt (r.name ++ "." ++ f.nativeName) (planWith scope r f fun _ _ => wrapField scope f)

end Fields

/-- The plan of a record whose fields are planned. -/
def RecordPlan.ofFields (r : RecordDescriptor) (fields : List FieldPlan) : RecordPlan :=
  let fallible := fields.any (·.artifact.fallible)
  let generated := fallible && fields.any (·.absence.usesGeneratedError)
  let raises := generated || fallible && r.errorType.isSome
  ⟨r, fields, fallible, if raises then some r.errorClass else none, generated⟩

/-- The plan of a record that is described. -/
def RecordDescriptor.plan (r : RecordDescriptor) (scope : Scope) : Except ConfigError RecordPlan :=
  match r.fields with
  | [] => .error ⟨.emptyRecord, some r.name⟩
  | f :: _ =>
    if r.newtype then (planWrapped scope r f).map fun p => ⟨r, [p], false, none, false⟩
    else (r.fields.mapM (planField scope r)).map (.ofFields r)

def RecordDecl.plan (d : RecordDecl Value) (scope : Scope) : Except ConfigError RecordPlan := do
  (← d.describe scope.symbols scope.helpers).plan scope

/-! ## Decisions on the way -/

/-- The decisions about the absence and the strategy of a field. -/
def conversionDecisions (r : RecordDescriptor) (f : FieldDescriptor) : List Decision :=
  match resolveAbsence f r with
  | .ok a => [a.absenceDecision f.nativeName, (resolveStrategy f a.outcome).strategyDecision f.nativeName]
  | .error _ => []

def fieldDecisions (r : RecordDescriptor) (f : FieldDescriptor) : List Decision :=
  ⟨some f.nativeName, "shape", f.shape.text, ""⟩ ::
    ⟨some f.nativeName, "wire optional", (Value.boolean f.wireOptional).plain, ""⟩ :: conversionDecisions r f

/-- The decisions about fields up to the first that cannot be planned. -/
def decisionsUpTo (scope : Scope) (r : RecordDescriptor) : List FieldDescriptor → List Decision
  | [] => []
  | f :: fs =>
    fieldDecisions r f ++
      match planField scope r f with
      | .ok _ => decisionsUpTo scope r fs
      | .error _ => []

def RecordPlan.decision (p : RecordPlan) : Decision :=
  ⟨none, "fallible", (Value.boolean p.fallible).plain, p.errorClass.getD ""⟩

def RecordDescriptor.decisions (r : RecordDescriptor) (scope : Scope) : List Decision :=
  match r.fields with
  | [] => []
  | f :: _ =>
    if r.newtype then conversionDecisions r f
    else
      decisionsUpTo scope r r.fields ++
        match r.plan scope with
        | .ok p => [p.decision]
        | .error _ => []

/-- The decisions about a record; none where it cannot be described. -/
def RecordDecl.decisions (d : RecordDecl Value) (scope : Scope) : List Decision :=
  match d.describe scope.symbols scope.helpers with
  | .ok r => r.decisions scope
  | .error _ => []

/-- The decisions about an enum; none where it cannot be described. -/
def EnumDecl.decisions (e : EnumDecl Value) : List Decision :=
  match e.plan with
  | .ok p => p.mapping.decisions
  | .error _ => []

end WireBridge
