import WireBridge.Code.Block
import WireBridge.Conversion.Native
import WireBridge.Conversion.Values
import WireBridge.Decision.Strategy

/-!
# Conversion of fields

`convertField` builds both directions of a field by its strategy: a block that binds the local variable of the
field from the object `wire`, and an expression of the object `native` for the wire counterpart, if there is one.
`wrapField` does so for the field of a newtype, where the wire value is the object `wire` itself.

* `missingAction` : what is done where the wire value is missing;
* `enforcesPresence` : the absence of a field is handled. A native optional takes a missing value as it is, unless
  presence is expected or a default is given;
* a collection is missing when it is empty if it is expected, or if it is an optional with a default; without
  either, an empty one takes the place of a missing one.
-/

set_option autoImplicit false

namespace WireBridge

/-- Generated code for one field. -/
structure Artifact where
  nativeName : String
  wireName : String
  fromWire : Block
  /-- The wire counterpart; an ignored field has none. -/
  toWire : Option Expr
  fallible : Bool
  deriving DecidableEq, Repr

/-- The local variable of a field. -/
def localName (nativeName : String) : String := nativeName ++ "_"

def Artifact.localName (a : Artifact) : String := WireBridge.localName a.nativeName

/-- The error class of a record: the one it names, else one of its own. -/
def RecordDescriptor.errorClass (r : RecordDescriptor) : String :=
  match r.errorType with
  | some e => e.expression
  | none => r.name ++ "ConversionError"

namespace FieldDescriptor

variable (f : FieldDescriptor)

def localName : String := WireBridge.localName f.nativeName

/-- The field of the wire object. -/
def wireSource : Expr := .source ("wire." ++ f.wireName)

/-- The field of the native object. -/
def nativeSource : Expr := .source ("native." ++ f.nativeName)

end FieldDescriptor

/-! ## Absence -/

/-- The default of a field: of a default absence first, then of the field, then of its type. -/
def DefaultValue.ofField (scope : Scope) (f : FieldDescriptor) (a : Absence) : Except ConfigError DefaultValue :=
  let resolved := if a.kind = .default then a.function else none
  match resolved <|> f.default.bind (·.function) with
  | some g => return call g
  | none => ofShape scope f.shape

def defaultValue (scope : Scope) (f : FieldDescriptor) (a : Absence) : Except ConfigError String :=
  (DefaultValue.ofField scope f a).map DefaultValue.text

/-- What is done where the wire value of a field is missing. -/
def missingAction (scope : Scope) (f : FieldDescriptor) (a : Absence) (r : RecordDescriptor) :
    Except ConfigError MissingAction :=
  match a.kind with
  | .default => return .fill f.localName (← DefaultValue.ofField scope f a)
  | .panic => return .raise (.missing f.wireName)
  | .error =>
    match a.function with
    | none => return .raise (.ofClass r.errorClass f.wireName)
    | some g => return .raise (.built g f.wireName r.errorType)
  | .unhandled => return .raise (.absent f.wireName)

/-- The absence of the wire value of a field is handled. -/
def enforcesPresence (f : FieldDescriptor) (a : Absence) : Bool :=
  f.wireOptional && a.kind ≠ .unhandled && (a.kind = .default || !f.shape.isOptional || f.expectation.explicit)

/-- A conversion behind an absence test. -/
def guard (scope : Scope) (f : FieldDescriptor) (a : Absence) (r : RecordDescriptor) (test : AbsenceTest)
    (present : Expr) : Except ConfigError Block := do
  return .guarded test (← missingAction scope f a r) f.localName present

/-- A conversion behind an absence test where absence is handled, and outright elsewhere. -/
def guardIfEnforced (scope : Scope) (f : FieldDescriptor) (a : Absence) (r : RecordDescriptor) (present : Expr)
    (otherwise : Except ConfigError Block) : Except ConfigError Block :=
  if enforcesPresence f a then guard scope f a r (.isNone f.wireSource) present else otherwise

/-! ## Strategies -/

/-- A block and the wire counterpart of a field. -/
abbrev Directions := Except ConfigError (Block × Option Expr)

section Strategies

variable (scope : Scope) (f : FieldDescriptor) (s : Strategy) (a : Absence) (r : RecordDescriptor)

def convertIgnored : Directions := do
  return (.fill f.localName (← DefaultValue.ofField scope f .unhandled), none)

def convertCustom : Directions := do
  match f.custom with
  | none => problem .customWithoutFunctions
  | some c =>
    let present ← match c.fromWire with
      | some g => pure (.call g.expression [] f.wireSource)
      | none => fromWire scope f.shape f.wireSource 0
    let block ← guardIfEnforced scope f a r present (return .bind f.localName present)
    let counterpart ← match c.toWire with
      | some g => pure (.call g.expression [] f.nativeSource)
      | none => toWire scope f.shape f.nativeSource 0
    return (block, some counterpart)

/-- The record that a transparent field stands for, its only field and the shape of that. -/
def transparentTarget : Except ConfigError (String × String × Shape) :=
  let record? := match f.shape.unwrapped with
    | .custom n => scope.symbols.record? n
    | _ => none
  match record? with
  | some record =>
    match record.fields with
    | [inner] => return (record.name, inner.name, inner.shape scope.symbols)
    | _ => problem (.notSingleField f.shape)
  | none => problem (.notSingleField f.shape)

def convertTransparent : Directions := do
  let (type, innerName, inner) ← transparentTarget scope f
  let wrapped := Expr.construct type innerName (← fromWire scope inner f.wireSource 0)
  let block ← guardIfEnforced scope f a r wrapped
    (if f.shape.isOptional then return .bind f.localName (.unlessNone f.wireSource wrapped)
    else if f.wireOptional then guard scope f .unhandled r (.isNone f.wireSource) wrapped
    else return .bind f.localName wrapped)
  let unwrapped ← toWire scope inner (.source ("native." ++ f.nativeName ++ "." ++ innerName)) 0
  return (block, some (if f.shape.isOptional then .unlessNone f.nativeSource unwrapped else unwrapped))

/-- The shape of a collection that an optional may hold. -/
def collectionShape : Shape := if f.shape.isOptionalCollection then f.shape.unwrapped else f.shape

def collectionFromWire (e : Expr) : Except ConfigError Expr :=
  match f.key with
  | some k => keyedFromWire scope (collectionShape f) k e
  | none => fromWire scope (collectionShape f) e 0

def collectionToWire : Except ConfigError Expr :=
  match f.key with
  | some _ => keyedToWire scope (collectionShape f) f.nativeSource
  | none => toWire scope (collectionShape f) f.nativeSource 0

def collectionBlock : Except ConfigError Block := do
  let optional := f.shape.isOptionalCollection
  if s.withError then guard scope f a r (.isEmpty f.wireSource) (← collectionFromWire scope f f.wireSource)
  else if a.kind = .default then
    let test := if optional then .isEmpty f.wireSource else .isNone f.wireSource
    guard scope f a r test (← collectionFromWire scope f f.wireSource)
  else if optional then
    return .bind f.localName (.whenHeld (← collectionFromWire scope f f.wireSource) f.wireSource .nothing)
  else if (collectionShape f).isMap && f.key.isNone then
    return .bind f.localName (← collectionFromWire scope f (.parens (.orEmpty f.wireSource .map)))
  else return .bind f.localName (← collectionFromWire scope f (.orEmpty f.wireSource .tuple))

def convertCollection : Directions := do
  let counterpart ← collectionToWire scope f
  let block ← collectionBlock scope f s a r
  if f.shape.isOptionalCollection then
    return (block, some (.whenHeld counterpart f.nativeSource (if f.wireOptional then .nothing else .list)))
  else return (block, some counterpart)

def convertOptionOrDefault : Directions := do
  let block ←
    match f.shape with
    | .optional inner => do
      let present ← fromWire scope inner f.wireSource 0
      guardIfEnforced scope f a r present
        (return .bind f.localName (if inner.isVerbatim then f.wireSource else .unlessNone f.wireSource present))
    | shape => do
      let present ← fromWire scope shape f.wireSource 0
      guardIfEnforced scope f a r present (return .bind f.localName present)
  return (block, some (← toWire scope f.shape f.nativeSource 0))

def convertDirect : Directions := do
  let present ← fromWire scope f.shape f.wireSource 0
  let block ←
    if f.wireOptional then guard scope f a r (.isNone f.wireSource) present
    else pure (.bind f.localName present)
  return (block, some (← toWire scope f.shape f.nativeSource 0))

/-- Both directions of a field by its strategy. -/
def directions : Directions :=
  match s.kind with
  | .ignore => convertIgnored scope f
  | .custom => convertCustom scope f a r
  | .transparent => convertTransparent scope f a r
  | .collection => convertCollection scope f s a r
  | .optionOrDefault => convertOptionOrDefault scope f a r
  | .direct => convertDirect scope f a r

/-- Generated code for a field of a record. -/
def convertField : Except ConfigError Artifact := do
  let (block, counterpart) ← directions scope f s a r
  return ⟨f.nativeName, f.wireName, block, counterpart, a.kind = .error⟩

/-- Generated code for the field of a newtype. -/
def wrapField : Except ConfigError Artifact := do
  let wrapped ← fromWire scope f.shape (.source "wire") 0
  return ⟨f.nativeName, f.wireName, .value wrapped, some (← toWire scope f.shape f.nativeSource 0), false⟩

end Strategies

end WireBridge
