/-!
# Error classes of generated code

`ErrorClass` are the classes that errors of a conversion may have, in a hierarchy (`parent?`), and a `RaisedValue`
is an error of one of them, or of a class of its own directly below one. `checkError` ensures that an error
function has built an error of the class that its record declares.
-/

set_option autoImplicit false

namespace WireBridge

inductive ErrorClass
  | missingField
  | conversion
  | enumDrift
  | panic
  | configuration
  | validation
  | runtime
  | value
  deriving DecidableEq, Repr

namespace ErrorClass

def all : List ErrorClass :=
  [missingField, conversion, enumDrift, panic, configuration, validation, runtime, value]

def name : ErrorClass → String
  | missingField => "MissingFieldError"
  | conversion => "ConversionError"
  | enumDrift => "EnumDriftError"
  | panic => "ConversionPanic"
  | configuration => "ConfigurationError"
  | validation => "ValidationError"
  | runtime => "RuntimeError"
  | value => "ValueError"

def ofName? (n : String) : Option ErrorClass := all.find? (·.name == n)

/-- The class directly above. -/
def parent? : ErrorClass → Option ErrorClass
  | missingField => some conversion
  | conversion => some runtime
  | enumDrift => some panic
  | panic => some runtime
  | configuration => some runtime
  | validation => some runtime
  | runtime => none
  | value => none

/-- The class and all above it; the hierarchy is three classes deep. -/
def ancestors (c : ErrorClass) : List ErrorClass :=
  let parent := c.parent?
  c :: (parent.toList ++ (parent.bind parent?).toList)

def isBelow (c d : ErrorClass) : Bool := c.ancestors.contains d

end ErrorClass

/-- An error: its class or the class above its own, the name of its own class, and what it was built from. -/
structure RaisedValue where
  base : ErrorClass
  subclass : Option String
  argument : String
  deriving DecidableEq, Repr

namespace RaisedValue

variable (e : RaisedValue)

def className : String := e.subclass.getD e.base.name

/-- The field that a missing value was expected in. -/
def field? : Option String := if e.base.isBelow .missingField then some e.argument else none

def text : String := if e.base.isBelow .missingField then "Missing required field: " ++ e.argument else e.argument

/-- The complaint about an error that is not of the expected class. -/
def checkError (expected : ErrorClass) : Except String Unit :=
  if e.base.isBelow expected then .ok ()
  else .error ("error function returned " ++ e.className ++ ", expected " ++ expected.name)

end RaisedValue

end WireBridge
