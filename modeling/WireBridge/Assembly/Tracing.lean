import WireBridge.Assembly.Basic

/-!
# Assembly as it logs

The run of an assembly under a trace setting. A stage that decides something about a type is handed a `Tracer` of the
type, which logs a decision at once if the setting selects the type, and else does nothing.

* `Logging`, `Run` : computations that log, and those that may stop at a problem as well. What was logged before the
  problem stays;
* `RecordDecl.run`, `EnumDecl.run` : planning one declared type;
* `Logging.caught` : the run of a type within that of the assembly, which notes a problem and goes on;
* `tracedAssembly` : the assembly under a setting, with the log that it left.
-/

set_option autoImplicit false

namespace WireBridge

/-! ## Logging -/

/-- A computation that adds to a log. -/
abbrev Logging := StateM (List LogEntry)

/-- A logging computation that may stop at a problem. -/
abbrev Run := ExceptT ConfigError Logging

namespace Logging

def emit (e : LogEntry) : Logging Unit := modify (· ++ [e])

variable {α : Type}

/-- The outcome of a type of some kind. A problem is noted, and stands at the type if it has no place yet. -/
def caught (kind name : String) (x : Run α) : Logging (Except ConfigError α) := do
  match ← x.run with
  | .ok a => return .ok a
  | .error e =>
    emit (.note (kind ++ " " ++ name ++ " failed: " ++ ConfigError.text e))
    return .error (e.atPath name)

end Logging

namespace Run

variable {α : Type}

/-- A stage that logs nothing. -/
def ofExcept (x : Except ConfigError α) : Run α := ExceptT.mk (pure x)

/-- Places the problem of a run that has no place yet. -/
def placedAt (path : String) (x : Run α) : Run α := ExceptT.mk do return WireBridge.placedAt path (← x.run)

end Run

/-! ## Types -/

/-- What logs the decisions about a type. -/
structure Tracer where
  type : String
  enabled : Bool

namespace Tracer

/-- The tracer of a type under some trace patterns. -/
def ofType (patterns : List String) (type : String) : Tracer := ⟨type, isTraced patterns type⟩

variable (t : Tracer)

def decision (d : Decision) : Run Unit :=
  if t.enabled then ExceptT.lift (Logging.emit (.decision t.type d)) else pure ()

section Fields

variable (scope : Scope) (r : RecordDescriptor) (f : FieldDescriptor)

def absence : Run Absence := do
  let a ← .ofExcept (resolveAbsence f r)
  t.decision (a.absenceDecision f.nativeName)
  return a.outcome

def strategy (a : Absence) : Run Strategy := do
  let s := resolveStrategy f a
  t.decision (s.strategyDecision f.nativeName)
  return s.outcome

/-- The plan of a field, whose code is made by `code` from its strategy and absence. -/
def planWith (code : Strategy → Absence → Except ConfigError Artifact) : Run FieldPlan := do
  let absence ← t.absence r f
  let strategy ← t.strategy f absence
  let artifact ← .ofExcept (code strategy absence)
  let type ← .ofExcept (NativeType.ofShape scope f.shape)
  return ⟨f, absence, strategy, artifact, type, ← .ofExcept (NativeDefault.ofField scope f)⟩

/-- The plan of a field of a record. -/
def planField : Run FieldPlan :=
  .placedAt (r.name ++ "." ++ f.nativeName) do
    t.decision ⟨some f.nativeName, "shape", f.shape.text, ""⟩
    t.decision ⟨some f.nativeName, "wire optional", (Value.boolean f.wireOptional).plain, ""⟩
    t.planWith scope r f fun s a => convertField scope f s a r

/-- The plan of the field of a newtype. -/
def planWrapped : Run FieldPlan :=
  .placedAt (r.name ++ "." ++ f.nativeName) (t.planWith scope r f fun _ _ => wrapField scope f)

/-- The plan of a record that is described. -/
def planRecord : Run RecordPlan :=
  match r.fields with
  | [] => .ofExcept (.error ⟨.emptyRecord, some r.name⟩)
  | f :: _ =>
    if r.newtype then do
      let p ← t.planWrapped scope r f
      return ⟨r, [p], false, none, false⟩
    else do
      let p := RecordPlan.ofFields r (← r.fields.mapM (t.planField scope r))
      t.decision p.decision
      return p

end Fields

end Tracer

def RecordDecl.run (d : RecordDecl Value) (patterns : List String) (scope : Scope) : Run RecordPlan := do
  let t := Tracer.ofType patterns d.name
  let r ← .ofExcept (d.describe scope.symbols scope.helpers)
  t.planRecord scope r

def EnumDecl.run (e : EnumDecl Value) (patterns : List String) : Run EnumPlan := do
  let d ← .ofExcept e.describe
  let t := Tracer.ofType patterns e.name
  d.mapping.decisions.forM t.decision
  return ⟨d, d.mapping⟩

/-! ## All types -/

/-- The run of an assembly. What was logged is not yet part of the result. -/
def assembleLogging (patterns : List String) (d : Definitions Value) (settings : Settings) : Logging Assembly := do
  let symbols := Symbols.ofDefinitions d
  let enumOutcomes ← d.enums.mapM fun e => Logging.caught "enum" e.name (e.run patterns)
  let recordOutcomes ← d.records.mapM fun r => Logging.caught "record" r.name (r.run patterns (.of symbols settings))
  let enums := enumOutcomes.filterMap (·.toOption)
  let planned := recordOutcomes.filterMap (·.toOption)
  let (records, dropped) := dropDependents (failedTypes symbols planned enums) planned
  dropped.forM fun x => Logging.emit (.note x.note)
  let errors := enumOutcomes.filterMap fault? ++ recordOutcomes.filterMap fault? ++ dropped.map (·.error)
  Logging.emit (.note (summary records.length enums.length errors.length))
  return { settings, records, enums, errors, log := [] }

/-- The assembly under a trace setting. -/
def tracedAssembly (setting : Option String) (d : Definitions Value) (settings : Settings) : Assembly :=
  let (a, log) := (assembleLogging (tracePatterns setting) d settings).run []
  { a with log }

end WireBridge
