import WireBridge.Decision.Basic
import WireBridge.Descriptor.Record

/-!
# Absent wire values

An `Absence` says what happens where the wire value of a field is missing: nothing special, a panic, an error, or
a default. `resolveAbsence` takes the first of five rules that applies to a field of a record:

1. the field has a default;
2. the record has an error type and does not ignore the field: the field's error function, else the record's,
   and a problem if there is neither;
3. the field expects presence and panics;
4. the field expects presence with an error, by the same functions or by an error of the record's own;
5. the field has both conversion functions and is neither a primitive nor an optional: a panic.
-/

set_option autoImplicit false

namespace WireBridge

inductive AbsenceKind
  | unhandled
  | panic
  | error
  | default
  deriving DecidableEq, Repr

def AbsenceKind.name : AbsenceKind → String
  | unhandled => "none"
  | panic => "panic"
  | error => "error"
  | default => "default"

/-- What happens where a wire value is missing. The function builds the error from the wire name, or the default;
without one it is the error of the record or the default of the type. -/
structure Absence where
  kind : AbsenceKind
  function : Option FunctionRef
  deriving DecidableEq, Repr

namespace Absence

def unhandled : Absence := ⟨.unhandled, none⟩

/-- The error is raised in a class that is generated for the record. -/
def usesGeneratedError (a : Absence) : Bool := a.kind = .error && a.function.isNone

def text (a : Absence) : String :=
  match a.kind with
  | .error => "error(" ++ (a.function.map FunctionRef.text).getD "generated" ++ ")"
  | .default => "default(" ++ (a.function.map FunctionRef.text).getD "type default" ++ ")"
  | kind => kind.name

end Absence

/-- A rule for the absence of a field within its record, if it applies. -/
abbrev AbsenceRule := FieldDescriptor → RecordDescriptor → Except ConfigError (Option Absence)

/-- The function that builds the error of a field. -/
def errorFunction? (f : FieldDescriptor) (r : RecordDescriptor) : Option FunctionRef :=
  f.expectation.function <|> r.errorFunction

namespace AbsenceRule

def byDefault : AbsenceRule := fun f _ => return f.default.map fun d => ⟨.default, d.function⟩

def byErrorType : AbsenceRule := fun f r =>
  match r.errorType with
  | none => return none
  | some e =>
    if f.ignored then return none
    else
      match errorFunction? f r with
      | some g => return some ⟨.error, some g⟩
      | none => problem (.fieldWithoutErrorFunction e)

def byPanic : AbsenceRule := fun f _ => return if f.expectation.panic then some ⟨.panic, none⟩ else none

def byError : AbsenceRule := fun f r =>
  return if f.expectation.error then some ⟨.error, errorFunction? f r⟩ else none

def byCustom : AbsenceRule := fun f _ =>
  return if f.custom.any (·.complete) && !f.shape.isPrimitive && !f.shape.isOptional then some ⟨.panic, none⟩ else none

end AbsenceRule

/-- The rules by name; the first that applies decides. -/
def absenceRules : List (String × AbsenceRule) :=
  [("default", .byDefault), ("record error type", .byErrorType), ("expect(panic)", .byPanic),
    ("expect(error)", .byError), ("custom conversion", .byCustom)]

/-- The outcome of the first of some rules that applies. -/
def firstAbsence (f : FieldDescriptor) (r : RecordDescriptor) :
    List (String × AbsenceRule) → Except ConfigError (Ruled Absence)
  | [] => return ⟨.unhandled, "no rule matched"⟩
  | (name, rule) :: rules => do
    match ← rule f r with
    | some a => return ⟨a, name⟩
    | none => firstAbsence f r rules

/-- What happens where the wire value of a field of a record is missing. -/
def resolveAbsence (f : FieldDescriptor) (r : RecordDescriptor) : Except ConfigError (Ruled Absence) :=
  firstAbsence f r absenceRules

def Ruled.absenceDecision (member : String) (a : Ruled Absence) : Decision :=
  ⟨some member, "error mode", a.outcome.text, a.rule⟩

end WireBridge
