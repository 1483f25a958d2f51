import WireBridge.Output.Imports
import WireBridge.Text.Lines

/-!
# Text of a generated module

`moduleText` writes the plans of all types as one module of the generated language: the imports, the class, name
tables and functions of every enum, and the class, error class and functions of every record. Definitions stand
two empty lines apart.
-/

set_option autoImplicit false

namespace WireBridge

/-- A text between the marks of a long literal, ended by the literal's own marks. -/
def docstring (s : String) : String := "\"\"\"" ++ s ++ "\"\"\""

def margin (lines : List String) : List String := indent 1 lines

def spacing : List String := ["", ""]

def headerLines (settings : Settings) (modules : List String) : List String :=
  [docstring "Wire conversions generated by wiremap. Do not edit.", "", "from __future__ import annotations", "",
    "from collections import deque", "from dataclasses import dataclass",
    "from dataclasses import field as _field", "from enum import Enum, auto", "",
    "import " ++ settings.wireModule.plain ++ " as _wire"] ++
  modules.map ("import " ++ ·) ++
  ["from " ++ settings.runtimeImport ++ " import ("] ++
  margin ["ConversionPanic,", "MissingFieldError,", "check_error,", "enum_from_wire,", "enum_to_wire,",
    "match_from_wire,", "match_to_wire,"] ++
  [")"]

/-- The doc comment of a class, if there is one. -/
def commentLines (comment : Option String) : List String :=
  match comment with
  | some c => if c = "" then [] else ["    " ++ docstring (Text.hang 4 c), ""]
  | none => []

/-! ## Enums -/

/-- The name table of an enum in one direction. -/
def tableName (type direction : String) : String := "_" ++ upperCase (snakeCase type) ++ "_" ++ direction

def fromWireTableName (type : String) : String := tableName type "FROM_WIRE"

def toWireTableName (type : String) : String := tableName type "TO_WIRE"

/-- Some texts as a tuple of literals. -/
def tupleText (ts : List String) : String := "(" ++ ", ".intercalate (ts.map Text.quoted) ++ ")"

def enumClassLines (p : EnumPlan) : List String :=
  ["class " ++ p.name ++ "(Enum):"] ++ commentLines p.descriptor.comment ++
    p.descriptor.variants.map fun v => "    " ++ v ++ " = auto()"

def enumTableLines (p : EnumPlan) : List String :=
  [fromWireTableName p.name ++ " = \x7b"] ++
  (p.mapping.fromWireTable.map fun (n, v) => "    " ++ Text.quoted n ++ ": " ++ p.name ++ "." ++ v ++ ",") ++
  ["\x7d", toWireTableName p.name ++ " = \x7b"] ++
  (p.mapping.variants.map fun (v, ns) => "    " ++ p.name ++ "." ++ v ++ ": " ++ tupleText ns ++ ",") ++
  ["\x7d"]

def enumFunctionLines (p : EnumPlan) : List String :=
  let wire := p.mapping.wireName
  ["def " ++ fromWireFunction p.name ++ "(value) -> " ++ p.name ++ ":",
    "    " ++ docstring ("Convert a wire " ++ wire ++ " value to " ++ p.name ++ "."),
    "    return match_from_wire(",
    "        " ++ fromWireTableName p.name ++ ", " ++ wireTypeText wire ++ ", value, \"" ++ p.name ++ "\"",
    "    )"] ++
  spacing ++
  ["def " ++ toWireFunction p.name ++ "(variant: " ++ p.name ++ "):",
    "    " ++ docstring ("Convert " ++ p.name ++ " to its wire " ++ wire ++ " value."),
    "    return match_to_wire(" ++ wireTypeText wire ++ ", " ++ toWireTableName p.name ++ "[variant], variant)"]

def enumLines (p : EnumPlan) : List String :=
  spacing ++ enumClassLines p ++ spacing ++ enumTableLines p ++ spacing ++ enumFunctionLines p

/-! ## Records -/

/-- A field of a native class. -/
def fieldLine (p : FieldPlan) : String :=
  "    " ++ p.descriptor.nativeName ++ ": " ++ p.nativeType ++
    match p.default with
    | some d => " = " ++ d
    | none => ""

def classLines (decorator : String) (p : RecordPlan) : List String :=
  [decorator, "class " ++ p.name ++ ":"] ++ commentLines p.descriptor.comment ++ p.fields.map fieldLine

def newtypeLines (p : RecordPlan) : List String :=
  let wrapped := p.fields.flatMap (·.artifact.fromWire.lines)
  let unwrapped := p.fields.filterMap (·.artifact.toWire)
  spacing ++ classLines "@dataclass" p ++ spacing ++
  ["def " ++ fromWireFunction p.name ++ "(wire) -> " ++ p.name ++ ":",
    "    " ++ docstring ("Wrap a wire value in " ++ p.name ++ "."),
    "    return " ++ p.name ++ "(" ++ wrapped.headD "" ++ ")"] ++
  spacing ++
  ["def " ++ toWireFunction p.name ++ "(native: " ++ p.name ++ "):",
    "    " ++ docstring ("Unwrap " ++ p.name ++ " to its wire value."),
    "    return " ++ (unwrapped.map Expr.text).headD "None"]

def errorClassLines (p : RecordPlan) : List String :=
  if p.generatedError then
    spacing ++
    ["class " ++ p.errorClass.getD "" ++ "(MissingFieldError):",
      "    " ++ docstring ("Raised when a required field is missing from a wire " ++ p.descriptor.wireName ++ ".")]
  else []

def fromWireLines (p : RecordPlan) : List String :=
  let subject := "Convert a wire " ++ p.descriptor.wireName ++ " to " ++ p.name ++ "."
  let documentation :=
    match p.errorClass with
    | some e =>
      ["    \"\"\"" ++ subject, "", "    Raises:", "        " ++ e ++ ": a required wire field is missing.",
        "    \"\"\""]
    | none => ["    " ++ docstring subject]
  ["def " ++ fromWireFunction p.name ++ "(wire: " ++ wireTypeText p.descriptor.wireName ++ ") -> " ++ p.name ++ ":"] ++
  documentation ++
  (p.fields.flatMap fun f => f.artifact.fromWire.lines.map ("    " ++ ·)) ++
  ["    return " ++ p.name ++ "("] ++
  (p.fields.map fun f => "        " ++ f.descriptor.nativeName ++ "=" ++ f.artifact.localName ++ ",") ++
  ["    )"]

def toWireLines (p : RecordPlan) : List String :=
  let type := wireTypeText p.descriptor.wireName
  let counterpart (f : FieldPlan) : Option String :=
    f.artifact.toWire.map fun e => "        " ++ f.artifact.wireName ++ "=" ++ e.text ++ ","
  ["def " ++ toWireFunction p.name ++ "(native: " ++ p.name ++ ") -> " ++ type ++ ":",
    "    " ++ docstring ("Convert " ++ p.name ++ " to a wire " ++ p.descriptor.wireName ++ "."),
    "    return " ++ type ++ "("] ++
  p.fields.filterMap counterpart ++
  ["    )"]

def recordLines (p : RecordPlan) : List String :=
  if p.descriptor.newtype then newtypeLines p
  else
    spacing ++ classLines "@dataclass(kw_only=True)" p ++ errorClassLines p ++ spacing ++ fromWireLines p ++
      spacing ++ toWireLines p

/-! ## Modules -/

/-- The text of a module for some plans, which imports some modules. -/
def moduleText (a : Assembly) (modules : List String) : String :=
  let lines := headerLines a.settings modules ++ a.enums.flatMap enumLines ++ a.records.flatMap recordLines
  Text.joinLines lines ++ "\n"

end WireBridge
