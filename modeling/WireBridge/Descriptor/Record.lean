import WireBridge.Descriptor.Field
import WireBridge.Text.Order

/-!
# Descriptors of records

`RecordDecl.describe` is the descriptor of a record: its own directives first, then its fields in order. A problem
stands at the record, or at the field where it was found.

A record with an error type needs an error function wherever a field may raise that type: one for the whole
record, or one on every field that is neither ignored nor filled by a default. The check is made when all fields
have been read (`errorFunctionFault?`).
-/

set_option autoImplicit false

namespace WireBridge

structure RecordDescriptor where
  name : String
  wireName : String
  fields : List FieldDescriptor
  errorType : Option FunctionRef
  errorFunction : Option FunctionRef
  newtype : Bool
  comment : Option String
  deriving Repr

/-- What the directives of a record say. -/
structure RecordHead where
  wireName : String
  errorType : Option FunctionRef
  errorFunction : Option FunctionRef
  /-- The names of the fields that the record ignores. -/
  ignored : List String
  deriving DecidableEq, Repr

namespace RecordDecl

variable (r : RecordDecl Value)

def readHead (helpers : Option Value) : Except ConfigError RecordHead := do
  Directive.checkAll .record r.directives
  let wireName ← readWireName r.directives r.name
  let errorType ← given? r.directives "error_type" (·.reference helpers)
  let errorFunction ← given? r.directives "error_fn" (·.reference helpers)
  let ignored ← given? r.directives "ignore" (·.values 1 none)
  let ignored := (ignored.getD []).map Value.plain
  if r.newtype && (errorType.isSome || errorFunction.isSome || !ignored.isEmpty) then problem .newtypeDirective
  return { wireName, errorType, errorFunction, ignored }

/-- The first name, in order of texts, that a record ignores and does not have. -/
def unknownIgnored? (ignored : List String) : Option String :=
  (Text.sortTexts (ignored.filter (· ∉ r.fields.map (·.name)))).head?

def describeFields (symbols : Symbols) (helpers : Option Value) (ignored : List String) :
    Except ConfigError (List FieldDescriptor) :=
  r.fields.mapM fun f => placedAt s!"{r.name}.{f.name}" (f.describe symbols helpers (ignored.contains f.name))

end RecordDecl

/-- The field may raise the error type of its record and names no function that builds the error. -/
def FieldDescriptor.lacksErrorFunction (f : FieldDescriptor) : Bool :=
  !f.ignored && f.default.isNone && f.expectation.function.isNone

/-- What is missing where a record has an error type and no error function. -/
def errorFunctionFault? (record : String) (head : RecordHead) (fields : List FieldDescriptor) : Option ConfigError :=
  match head.errorType, head.errorFunction with
  | some e, none =>
    if fields.all (·.expectation.function.isNone) then some ⟨.noErrorFunction e, some record⟩
    else
      (fields.find? (·.lacksErrorFunction)).map fun f =>
        ⟨.fieldWithoutErrorFunction e, some s!"{record}.{f.nativeName}"⟩
  | _, _ => none

/-- The descriptor of a record. -/
def RecordDecl.describe (r : RecordDecl Value) (symbols : Symbols) (helpers : Option Value) :
    Except ConfigError RecordDescriptor := do
  let head ← placedAt r.name (r.readHead helpers)
  if let some n := r.unknownIgnored? head.ignored then throw ⟨.unknownIgnored n, some r.name⟩
  let fields ← r.describeFields symbols helpers head.ignored
  if let some e := errorFunctionFault? r.name head fields then throw e
  return {
    name := r.name
    wireName := head.wireName
    fields
    errorType := head.errorType
    errorFunction := head.errorFunction
    newtype := r.newtype
    comment := r.comment }

end WireBridge
