import WireBridge.Reference
import WireBridge.Shape.Basic

/-!
# Native types and defaults in generated code

The types and defaults of native fields as trees, whose names of types are kept apart from the text around them:

* `NativeType` : a type of the generated language. The class of a type that the definitions name is `named`, one of
  another module is `imported`;
* `DefaultValue` : an expression that stands for a missing value;
* `NativeDefault` : the right-hand side of a field in the native class. A value that may be changed is built anew for
  every object, a container by the function of its own.
-/

set_option autoImplicit false

namespace WireBridge

/-- The container of a sequence. -/
def SequenceKind.container : SequenceKind → String := SequenceKind.name

inductive NativeType
  | builtIn (p : Primitive)
  | named (type : String)
  | imported (path : String)
  | optional (inner : NativeType)
  | sequence (kind : SequenceKind) (element : NativeType)
  | map (key value : NativeType)
  deriving DecidableEq, Repr

def NativeType.text : NativeType → String
  | builtIn p => p.nativeType
  | named type => type
  | imported path => path
  | optional t => t.text ++ " | None"
  | sequence k t => k.container ++ "[" ++ t.text ++ "]"
  | map k v => "dict[" ++ k.text ++ ", " ++ v.text ++ "]"

inductive DefaultValue
  | constant (p : Primitive)
  | nothing
  | emptySequence (kind : SequenceKind)
  | emptyMap
  /-- The first variant of an enum. -/
  | firstOf (enum : NativeType)
  /-- An object of a class, all of whose fields have defaults. -/
  | new (type : NativeType)
  | call (function : FunctionRef)
  deriving DecidableEq, Repr

def DefaultValue.text : DefaultValue → String
  | constant p => p.default
  | nothing => "None"
  | emptySequence .list => "[]"
  | emptySequence .set => "set()"
  | emptySequence .deque => "deque()"
  | emptyMap => "\x7b\x7d"
  | firstOf enum => "next(iter(" ++ enum.text ++ "))"
  | new type => type.text ++ "()"
  | call function => function.expression ++ "()"

/-- The function that builds an empty container, by the expression of the container. -/
def containerFactory? (value : String) : Option String :=
  [("[]", "list"), ("\x7b\x7d", "dict"), ("set()", "set"), ("deque()", "deque")].lookup value

/-- A default that is built anew for every value. -/
def builtDefault (factory : String) : String := "_field(default_factory=" ++ factory ++ ")"

inductive NativeDefault
  /-- The function of a default. -/
  | builtBy (function : FunctionRef)
  | value (v : DefaultValue)
  | builtAnew (v : DefaultValue)
  deriving DecidableEq, Repr

def NativeDefault.text : NativeDefault → String
  | builtBy function => builtDefault function.expression
  | value v => v.text
  | builtAnew v => builtDefault ((containerFactory? v.text).getD ("lambda: " ++ v.text))

end WireBridge
