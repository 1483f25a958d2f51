import WireBridge.Definition.Basic
import WireBridge.Problem

/-!
# Reading directives

* `Directive.checkAll` : every directive of a host is one that the host has, and none is given twice;
* `Directive.values` : the unnamed arguments of a directive, whose number has to fit;
* `nameValue`, `identifierValue`, `flagValue`, `reference` : the one argument of a directive as a name, an
  identifier, a flag (set if no argument is given), or a reference to a function.

Where a directive has two faults, a named argument comes before a wrong number, and both before a wrong value.
-/

set_option autoImplicit false

namespace WireBridge

def fieldDirectives : List String :=
  ["rename", "transparent", "optional", "required", "default", "expect", "error_fn", "from_fn", "to_fn", "ignore",
    "enum", "key"]

def recordDirectives : List String := ["rename", "error_type", "error_fn", "ignore"]

def enumDirectives : List String := ["rename"]

def DirectiveHost.directives : DirectiveHost → List String
  | field => fieldDirectives
  | record => recordDirectives
  | enum => enumDirectives

namespace Directive

/-- The first directive that the host does not have or that repeats one of `seen` or an earlier one. -/
def firstFault? (host : DirectiveHost) (seen : List String) : List (Directive Value) → Option Problem
  | [] => none
  | d :: ds =>
    if d.name ∉ host.directives then some (.unknownDirective host d.name)
    else if d.name ∈ seen then some (.repeatedDirective d.name)
    else firstFault? host (d.name :: seen) ds

def checkAll (host : DirectiveHost) (ds : List (Directive Value)) : Except ConfigError Unit :=
  match firstFault? host [] ds with
  | some p => problem p
  | none => .ok ()

/-- The unnamed arguments of a directive, `least` to `most` of them. -/
def values (d : Directive Value) (least : Nat) (most : Option Nat) : Except ConfigError (List Value) :=
  let vs := d.arguments.map (·.value)
  match d.arguments.findSome? (·.name) with
  | some n => problem (.namedArgument d.name n)
  | none =>
    if vs.length < least || most.any (· < vs.length) then problem (.argumentCount d.name least most vs.length)
    else .ok vs

/-- The only argument of a directive, as a name that is not empty. -/
def nameValue (d : Directive Value) : Except ConfigError String := do
  match ← d.values 1 (some 1) with
  | [.text s] => if s = "" then problem (.noName d.name (.text s)) else return s
  | [v] => problem (.noName d.name v)
  | vs => problem (.argumentCount d.name 1 (some 1) vs.length)

/-- The only argument of a directive, as an identifier, which one line feed may follow. -/
def identifierValue (d : Directive Value) : Except ConfigError String := do
  let s ← d.nameValue
  if Text.isIdentifier (Text.dropFinalNewline s.toList) then return s else problem (.noIdentifier d.name (.text s))

def trueValues : List Value := [.text "true", .text "True", .integer 1]

def falseValues : List Value := [.text "false", .text "False", .integer 0]

/-- The argument of a directive as a flag. -/
def flagValue (d : Directive Value) : Except ConfigError Bool := do
  match ← d.values 0 (some 1) with
  | [] => return true
  | v :: _ =>
    if trueValues.any v.same then return true
    else if falseValues.any v.same then return false
    else problem (.noFlag d.name v)

/-- A directive that takes no argument. -/
def bare (d : Directive Value) : Except ConfigError Unit := do
  let _ ← d.values 0 (some 0)

end Directive

/-- The reference that a value stands for. -/
def referenceOf (helpers : Option Value) (v : Value) : Except ConfigError FunctionRef :=
  match FunctionRef.ofValue helpers v with
  | .ok r => .ok r
  | .error f => problem (.badReference f v)

/-- The only argument of a directive, as a reference to a function. -/
def Directive.reference (helpers : Option Value) (d : Directive Value) : Except ConfigError FunctionRef := do
  referenceOf helpers (.text (← d.nameValue))

/-- The directive of a name. -/
def directive? (ds : List (Directive Value)) (name : String) : Option (Directive Value) :=
  ds.find? fun d => d.name = name

/-- What a directive says, if it is given. -/
def given? {α : Type} (ds : List (Directive Value)) (name : String) (read : Directive Value → Except ConfigError α) :
    Except ConfigError (Option α) :=
  (directive? ds name).mapM read

/-- A directive is given. -/
def isGiven (ds : List (Directive Value)) (name : String) : Bool := (directive? ds name).isSome

end WireBridge
