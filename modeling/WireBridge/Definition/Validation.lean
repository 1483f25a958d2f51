import WireBridge.Definition.Basic

/-!
# Validation of definitions

`Definitions.fault?` is the first fault of a list of definitions, in the order: type names, enums, records,
options. A name may not be given twice where names have to differ and may not be a reserved word of the
generated language; a type has to be well formed; an option has to be known and given once.
`Definitions.validate` refuses definitions with a fault.
-/

set_option autoImplicit false

namespace WireBridge

/-- The words of the generated language that cannot be names. -/
def reservedWords : List String :=
  ["False", "None", "True", "and", "as", "assert", "async", "await", "break", "class", "continue", "def", "del",
    "elif", "else", "except", "finally", "for", "from", "global", "if", "import", "in", "is", "lambda", "nonlocal",
    "not", "or", "pass", "raise", "return", "try", "while", "with", "yield"]

/-- The number of arguments of a generic type. -/
def genericArity? (name : String) : Option Nat :=
  [("optional", 1), ("list", 1), ("set", 1), ("deque", 1), ("dict", 2)].lookup name

def knownOptions : List String := ["wireModule", "helpers"]

/-- What is wrong with a list of definitions. `owner` is a type and `place` a field with its type. -/
inductive ValidationFault
  | repeatedType (name : String)
  | reservedType (name : String)
  | repeatedMember (owner member : String)
  | reservedMember (owner member : String)
  | unknownGeneric (place name : String)
  | wrongArity (place name : String) (arity given : Nat)
  | missingArguments (place name : String)
  | unknownOption (name : String)
  | repeatedOption (name : String)
  deriving DecidableEq, Repr

namespace ValidationFault

def message : ValidationFault → String
  | repeatedType n => s!"{n} is declared more than once"
  | reservedType n => s!"{n} is a Python keyword and cannot name a type"
  | repeatedMember o m => s!"{o}.{m} is declared more than once"
  | reservedMember o m => s!"{o}.{m}: {m} is a Python keyword"
  | unknownGeneric p n => s!"{p}: unknown generic type {n}"
  | wrongArity p n arity given =>
    let plural := if arity = 1 then "" else "s"
    s!"{p}: {n} takes {arity} type argument{plural}, got {given}"
  | missingArguments p n => s!"{p}: {n} requires type arguments"
  | unknownOption n => s!"Unknown option {n}"
  | repeatedOption n => s!"Option {n} is set more than once"

end ValidationFault

open ValidationFault

/-- The first type name that repeats one of `seen` or an earlier one, or is reserved. -/
def typeNameFault? (seen : List String) : List String → Option ValidationFault
  | [] => none
  | n :: rest =>
    if n ∈ seen then some (repeatedType n)
    else if n ∈ reservedWords then some (reservedType n)
    else typeNameFault? (n :: seen) rest

/-- The fault of one of the members `all` of a type. -/
def memberFault? (owner : String) (all : List String) (member : String) : Option ValidationFault :=
  if 1 < all.count member then some (repeatedMember owner member)
  else if member ∈ reservedWords then some (reservedMember owner member)
  else none

mutual

/-- The first fault of a type, outside in. -/
def TypeExpr.fault? (place : String) : TypeExpr → Option ValidationFault
  | .mk n as w =>
    if w then none
    else if as.isEmpty then (genericArity? n).map fun _ => missingArguments place n
    else
      match genericArity? n with
      | none => some (unknownGeneric place n)
      | some arity =>
        if arity ≠ as.length then some (wrongArity place n arity as.length) else TypeExpr.firstFault? place as

def TypeExpr.firstFault? (place : String) : List TypeExpr → Option ValidationFault
  | [] => none
  | t :: ts => TypeExpr.fault? place t <|> TypeExpr.firstFault? place ts

end

variable {V : Type}

def EnumDecl.fault? (e : EnumDecl V) : Option ValidationFault :=
  let names := e.variants.map (·.name)
  names.findSome? (memberFault? e.name names)

def RecordDecl.fault? (r : RecordDecl V) : Option ValidationFault :=
  let names := r.fields.map (·.name)
  r.fields.findSome? fun f => memberFault? r.name names f.name <|> f.type.fault? s!"{r.name}.{f.name}"

def optionFault? (all : List String) (name : String) : Option ValidationFault :=
  if name ∉ knownOptions then some (unknownOption name)
  else if 1 < all.count name then some (repeatedOption name)
  else none

namespace Definitions

/-- The first fault of a list of definitions. -/
def fault? (d : Definitions V) : Option ValidationFault :=
  let optionNames := d.options.map (·.name)
  typeNameFault? [] d.typeNames <|> d.enums.findSome? (·.fault?) <|> d.records.findSome? (·.fault?) <|>
    optionNames.findSome? (optionFault? optionNames)

def validate (d : Definitions V) : Except ValidationFault Unit :=
  match d.fault? with
  | some f => .error f
  | none => .ok ()

end Definitions

end WireBridge
