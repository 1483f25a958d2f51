import WireBridge.Located
import WireBridge.Reference
import WireBridge.Shape.Basic

/-!
# Problems of a configuration

A `Problem` is a reason why the conversion of a type cannot be generated, and `Problem.message` its wording.
A `ConfigError` is a problem with the path of the type or member where it was found.

A message may show values of the definitions, which have to be such as can be written out (`Problem.message?`).
-/

set_option autoImplicit false

namespace WireBridge

/-- What a directive is attached to. -/
inductive DirectiveHost
  | field
  | record
  | enum
  deriving DecidableEq, Repr

def DirectiveHost.name : DirectiveHost → String
  | field => "field"
  | record => "record"
  | enum => "enum"

inductive Problem
  /-- A directive that its host does not have. -/
  | unknownDirective (host : DirectiveHost) (name : String)
  | repeatedDirective (name : String)
  | namedArgument (directive argument : String)
  /-- Fewer or more arguments than a directive takes. -/
  | argumentCount (directive : String) (least : Nat) (most : Option Nat) (given : Nat)
  | noName (directive : String) (given : Value)
  | noIdentifier (directive : String) (given : Value)
  | noFlag (directive : String) (given : Value)
  | badReference (fault : ReferenceFault) (given : Value)
  | optionalAndRequired
  | transparentAndCustom
  | unknownExpectation (given : Value)
  | keyWithoutMap (shape : Shape)
  /-- A newtype has a directive other than its name on the wire. -/
  | newtypeDirective
  | unknownIgnored (field : String)
  /-- A record with an error type names no error function at all. -/
  | noErrorFunction (errorType : FunctionRef)
  /-- A field that may raise the error type of its record has no error function. -/
  | fieldWithoutErrorFunction (errorType : FunctionRef)
  | variantDirective (name : String)
  | emptyEnum
  | emptyRecord
  /-- An enum of the helpers module, which is not configured. -/
  | enumWithoutHelpers (name : String)
  | noTypeDefault (name : String)
  | undeclared (name : String)
  | notSingleField (shape : Shape)
  /-- A field is keyed by an attribute of its values but holds no map. -/
  | keyedWithoutMap (shape : Shape)
  /-- A field is converted by functions of its own but names none. -/
  | customWithoutFunctions
  | dependsOnFailed (name : String)
  | noWireModule
  deriving DecidableEq, Repr

namespace Problem

/-- A number of arguments in words. -/
def countText (n : Nat) : String := s!"{n} argument" ++ if n = 1 then "" else "s"

/-- The numbers of arguments from `least` to `most` in words. -/
def expectedText (least : Nat) : Option Nat → String
  | some most => if least = most then countText least else s!"{least} to {most} arguments"
  | none => s!"at least {countText least}"

def message : Problem → String
  | unknownDirective host n => s!"Unknown {host.name} annotation @{n}"
  | repeatedDirective n => s!"@{n} given more than once"
  | namedArgument d a => s!"@{d} does not take named arguments, got {a}="
  | argumentCount d least most given => s!"@{d} takes {expectedText least most}, got {given}"
  | noName d v => s!"@{d} expects a name, got {v.literal}"
  | noIdentifier d v => s!"@{d} expects an identifier, got {v.literal}"
  | noFlag d v => s!"@{d} expects true or false, got {v.literal}"
  | badReference .malformed v => s!"Malformed function reference {v.literal}"
  | badReference .withoutModule v =>
    s!"Function reference {v.literal} has no module and no helpers module is configured"
  | optionalAndRequired => "@optional and @required are mutually exclusive"
  | transparentAndCustom => "@transparent cannot be combined with @from_fn/@to_fn"
  | unknownExpectation v => s!"@expect takes error or panic, got {v.literal}"
  | keyWithoutMap s => s!"@key requires a dict field, not {s.text}"
  | newtypeDirective => "newtype records only accept @rename"
  | unknownIgnored f => s!"@ignore names unknown field {Text.quoted f}"
  | noErrorFunction e => s!"@error_type {e.text} needs an @error_fn, on the record or on a field"
  | fieldWithoutErrorFunction e => s!"@error_type {e.text} needs an @error_fn, on the record or on the field"
  | variantDirective n => s!"Unknown variant annotation @{n}"
  | emptyEnum => "enum has no variants"
  | emptyRecord => "record has no fields"
  | enumWithoutHelpers n => s!"@enum type {n} is not declared and no helpers module is configured"
  | noTypeDefault n => s!"{n} has no type default; name a function with @default(\"...\")"
  | undeclared n => s!"{n} is not declared; declare it or convert it with @from_fn/@to_fn"
  | notSingleField s => s!"@transparent requires a declared single-field record, not {s.text}"
  | keyedWithoutMap s => s!"{s.text} has no values to key"
  | customWithoutFunctions => "no conversion functions are given"
  | dependsOnFailed n => s!"uses {n}, which could not be generated"
  | noWireModule => "No wire module configured; set wireModule in options"

/-- The values that are written out in the message. -/
def shown : Problem → List Value
  | noName _ v | noIdentifier _ v | noFlag _ v | badReference _ v | unknownExpectation v => [v]
  | noErrorFunction e | fieldWithoutErrorFunction e => [e.module]
  | _ => []

/-- The message, if all that it shows can be written out. -/
def message? (p : Problem) : Option String := if p.shown.all Value.isPrintable then some p.message else none

end Problem

/-- A problem and the path of the type or member that has it. -/
abbrev ConfigError := Located Problem

namespace ConfigError

def text (e : ConfigError) : String := Located.text Problem.message e

end ConfigError

/-- Places every problem of a computation that has no place yet. -/
def placedAt {α : Type} (path : String) (x : Except ConfigError α) : Except ConfigError α :=
  x.mapError (·.atPath path)

/-- The problem that a computation stops with. -/
def fault? {α : Type} : Except ConfigError α → Option ConfigError
  | .ok _ => none
  | .error e => some e

/-- A computation stops with a problem that has no place yet. -/
def problem {α : Type} (p : Problem) : Except ConfigError α := .error (.nowhere p)

end WireBridge
