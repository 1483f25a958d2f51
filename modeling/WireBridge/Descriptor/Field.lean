import WireBridge.Descriptor.Directives
import WireBridge.Settings
import WireBridge.Shape.Classify

/-!
# Descriptors of fields

A `FieldDescriptor` holds all that the directives of a field say, read once. Every later stage works from
descriptors and looks at no directive, apart from the search for type defaults.

* `Shape.wireOptional` : whether the wire counterpart of a field can be absent. An explicit setting decides; an
  optional can be absent and a collection cannot; a field that is expected or has a default can; primitives,
  enums, transparent fields and newtypes cannot; anything else can;
* `FieldDecl.describe` : the descriptor of a field, or the first problem in the order in which the directives
  are read: exclusive directives, optionality, default, expectation, error function, conversion functions,
  bare directives, key, name on the wire.
-/

set_option autoImplicit false

namespace WireBridge

/-- A default for an absent value; without a function it is the default of the type. -/
structure DefaultFill where
  function : Option FunctionRef
  deriving DecidableEq, Repr

/-- What a field asks for where its value is absent. -/
structure Expectation where
  panic : Bool
  error : Bool
  function : Option FunctionRef
  deriving DecidableEq, Repr

/-- Presence is expected by the field itself. -/
def Expectation.explicit (e : Expectation) : Bool := e.panic || e.error

/-- Functions in place of the structural conversion of a field, one for each direction. -/
structure CustomFunctions where
  fromWire : Option FunctionRef
  toWire : Option FunctionRef
  deriving DecidableEq, Repr

def CustomFunctions.complete (c : CustomFunctions) : Bool := c.fromWire.isSome && c.toWire.isSome

structure FieldDescriptor where
  nativeName : String
  wireName : String
  type : TypeExpr
  shape : Shape
  wireOptional : Bool
  ignored : Bool
  default : Option DefaultFill
  expectation : Expectation
  custom : Option CustomFunctions
  collection : Option CollectionKind
  transparent : Bool
  key : Option String
  explicitOptionality : Option Bool
  deriving Repr

/-- What else bears on the optionality of a field on the wire. -/
structure OptionalityCase where
  explicit : Option Bool
  expects : Bool
  hasDefault : Bool
  transparent : Bool
  deriving DecidableEq, Repr

def isNewtype (symbols : Symbols) : Shape → Bool
  | .custom n => (symbols.record? n).any (·.newtype)
  | _ => false

/-- The wire counterpart of a field of this shape can be absent. -/
def Shape.wireOptional (symbols : Symbols) (shape : Shape) (c : OptionalityCase) : Bool :=
  match c.explicit with
  | some b => b
  | none =>
    shape.isOptional ||
      !shape.isCollection &&
        (c.expects || c.hasDefault ||
          !(shape.isPrimitive || shape.isEnum || c.transparent || isNewtype symbols shape))

/-! ## Reading the directives of a field -/

section Read

variable (helpers : Option Value) (ds : List (Directive Value))

def checkExclusive : Except ConfigError Unit := do
  if isGiven ds "optional" && isGiven ds "required" then problem .optionalAndRequired
  if isGiven ds "transparent" && (isGiven ds "from_fn" || isGiven ds "to_fn") then problem .transparentAndCustom

/-- The optionality that a field sets itself. -/
def readOptionality : Except ConfigError (Option Bool) := do
  match ← given? ds "optional" Directive.flagValue with
  | some b => return some b
  | none => return (← given? ds "required" Directive.bare).map fun _ => false

def readDefault : Except ConfigError (Option DefaultFill) :=
  given? ds "default" fun d => do
    match ← d.values 0 (some 1) with
    | [] => return ⟨none⟩
    | v :: _ => return ⟨some (← referenceOf helpers v)⟩

/-- Whether a panic and whether an error is expected; a bare expectation is one of an error. -/
def readExpectation : Except ConfigError (Bool × Bool) := do
  match ← given? ds "expect" (·.values 0 (some 1)) with
  | none => return (false, false)
  | some vs =>
    let kind := vs.headD (.text "error")
    if kind = .text "panic" then return (true, false)
    else if kind = .text "error" then return (false, true)
    else problem (.unknownExpectation kind)

def readCustom : Except ConfigError (Option CustomFunctions) := do
  let fromWire ← given? ds "from_fn" (·.reference helpers)
  let toWire ← given? ds "to_fn" (·.reference helpers)
  return if isGiven ds "from_fn" || isGiven ds "to_fn" then some ⟨fromWire, toWire⟩ else none

def checkBare : Except ConfigError Unit :=
  ["transparent", "ignore", "enum"].forM fun name => do
    let _ ← given? ds name Directive.bare

/-- The attribute that keys a map. -/
def readKey (shape : Shape) : Except ConfigError (Option String) :=
  given? ds "key" fun d => do
    let key ← d.identifierValue
    if !shape.unwrapped.isMap then problem (.keyWithoutMap shape)
    return key

def readWireName (name : String) : Except ConfigError String := do
  return (← given? ds "rename" Directive.nameValue).getD name

end Read

/-- The descriptor of a field, which its record may ignore. -/
def FieldDecl.describe (f : FieldDecl Value) (symbols : Symbols) (helpers : Option Value) (bulkIgnored : Bool) :
    Except ConfigError FieldDescriptor := do
  let ds := f.directives
  Directive.checkAll .field ds
  checkExclusive ds
  let optionality ← readOptionality ds
  let default ← readDefault helpers ds
  let (panic, error) ← readExpectation ds
  let function ← given? ds "error_fn" (·.reference helpers)
  let expectation : Expectation := ⟨panic, error, function⟩
  let custom ← readCustom helpers ds
  checkBare ds
  let transparent := isGiven ds "transparent"
  let shape := f.type.shape symbols (isGiven ds "enum")
  let key ← readKey ds shape
  return {
    nativeName := f.name
    wireName := ← readWireName ds f.name
    type := f.type
    shape
    wireOptional := shape.wireOptional symbols ⟨optionality, expectation.explicit, default.isSome, transparent⟩
    ignored := isGiven ds "ignore" || bulkIgnored
    default
    expectation
    custom
    collection := shape.unwrapped.collection?
    transparent
    key
    explicitOptionality := optionality }

end WireBridge
