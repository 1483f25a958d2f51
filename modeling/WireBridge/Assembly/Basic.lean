import WireBridge.Assembly.Dependents
import WireBridge.Decision.Selection

/-!
# Assembly of all types

`assemble` plans every declared type of a definition file, collects the problems of those that fail, and drops
their dependents. What is left can be rendered; problems are in the order in which they are found.

The log of an assembly is complete: `LogEntry.shown` selects the lines that some trace patterns let through, where
the notes of the assembly itself always pass.
-/

set_option autoImplicit false

namespace WireBridge

inductive LogEntry
  | decision (type : String) (d : Decision)
  | note (text : String)
  deriving DecidableEq, Repr

namespace LogEntry

def isShown (patterns : List String) : LogEntry → Bool
  | decision type _ => isTraced patterns type
  | note _ => true

def text : LogEntry → String
  | decision type d => d.message type
  | note s => s

/-- The lines of a log under some trace patterns. -/
def shown (patterns : List String) (log : List LogEntry) : List String :=
  (log.filter (isShown patterns)).map text

end LogEntry

structure Assembly where
  settings : Settings
  records : List RecordPlan
  enums : List EnumPlan
  errors : List ConfigError
  log : List LogEntry

/-- What planning one declared type came to. -/
structure Attempt (α : Type) where
  name : String
  decisions : List Decision
  result : Except ConfigError α

namespace Attempt

variable {α : Type} (a : Attempt α)

def plan? : Option α := a.result.toOption

/-- The problem of an attempt, at its type if it has no place yet. -/
def error? : Option ConfigError :=
  match a.result with
  | .ok _ => none
  | .error e => some (e.atPath a.name)

/-- The log of an attempt at a type of some kind. -/
def log (kind : String) : List LogEntry :=
  a.decisions.map (.decision a.name) ++
    match a.result with
    | .ok _ => []
    | .error e => [.note (kind ++ " " ++ a.name ++ " failed: " ++ ConfigError.text e)]

end Attempt

def attemptEnum (e : EnumDecl Value) : Attempt EnumPlan := ⟨e.name, e.decisions, e.plan⟩

def attemptRecord (scope : Scope) (r : RecordDecl Value) : Attempt RecordPlan :=
  ⟨r.name, r.decisions scope, r.plan scope⟩

/-- The declared types that have no plan. -/
def failedTypes (symbols : Symbols) (records : List RecordPlan) (enums : List EnumPlan) : List String :=
  symbols.names.filter (· ∉ records.map (·.name) ++ enums.map (·.name))

def summary (records enums errors : Nat) : String :=
  s!"assembled {records} records and {enums} enums, {errors} failed"

/-- The plans of all types that can be generated. -/
def assemble (d : Definitions Value) (settings : Settings) : Assembly :=
  let symbols := Symbols.ofDefinitions d
  let enumAttempts := d.enums.map attemptEnum
  let recordAttempts := d.records.map (attemptRecord (.of symbols settings))
  let enums := enumAttempts.filterMap (·.plan?)
  let planned := recordAttempts.filterMap (·.plan?)
  let (records, dropped) := dropDependents (failedTypes symbols planned enums) planned
  let errors := enumAttempts.filterMap (·.error?) ++ recordAttempts.filterMap (·.error?) ++ dropped.map (·.error)
  let log := enumAttempts.flatMap (·.log "enum") ++ recordAttempts.flatMap (·.log "record") ++
    dropped.map (fun x => .note x.note) ++ [.note (summary records.length enums.length errors.length)]
  { settings, records, enums, errors, log }

end WireBridge
