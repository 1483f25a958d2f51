import WireBridge.Definition.Parser
import WireBridge.Definition.Validation
import WireBridge.Text.Escape

/-!
# Reading a definition file

`Definitions.parse` reads a text: the grammar first, then every literal in the order of the text, then
validation. A `ReadError` says which of the three failed.

* `Position.before` : the line and column of the text that is left where the grammar could not go on; lines
  end at line feeds and both count from one;
* `Literal.evaluate` : the value of a literal, which is a `LiteralValue`. A number with a point or a power of ten is a
  double, any other an integer of at most `maxDigits` digits. A text is a list of code points;
* `Definitions.ofText` : what is read, with every text as the characters that its code points are the numbers of
  (`LiteralValue.narrow`). The later stages have no other texts, so a text with a surrogate is given up here.
-/

set_option autoImplicit false

namespace WireBridge

/-- A place in a text, by line and column. -/
structure Position where
  line : Nat
  column : Nat
  deriving DecidableEq, Repr

/-- The place after a text. -/
def Position.after (s : List Char) : Position :=
  ⟨s.count '\n' + 1, (s.reverse.takeWhile (· ≠ '\n')).length + 1⟩

/-- The place in a text where `rest` is left of it. -/
def Position.before (text rest : List Char) : Position := .after (text.take (text.length - rest.length))

/-- A literal that has no value. -/
inductive LiteralFault
  | malformedText
  | oversizedNumber
  /-- The value is a text that is not made of characters. -/
  | surrogate
  deriving DecidableEq, Repr

inductive ReadError
  /-- The text cannot go on at this place. -/
  | unexpected (place : Position)
  /-- The text ends before a definition does. -/
  | unfinished
  | literal (fault : LiteralFault)
  | invalid (fault : ValidationFault)
  deriving DecidableEq, Repr

def LiteralFault.message : LiteralFault → String
  | malformedText => "A text holds a malformed escape"
  | oversizedNumber => "An integer has too many digits"
  | surrogate => "A text holds a surrogate"

def ReadError.message : ReadError → String
  | unexpected p => s!"Unexpected text at line {p.line}, column {p.column}"
  | unfinished => "The text ends within a definition"
  | literal f => f.message
  | invalid f => f.message

/-- The value of a literal. -/
inductive LiteralValue
  | text (points : List Text.CodePoint)
  | integer (n : Int)
  | double (d : Binary64)
  deriving DecidableEq, Repr

/-- The value with a text as its characters. -/
def LiteralValue.narrow : LiteralValue → Except LiteralFault Value
  | text points =>
    match Text.characters? points with
    | some s => .ok (.text (String.ofList s))
    | none => .error .surrogate
  | integer n => .ok (.integer n)
  | double d => .ok (.double d)

namespace Literal

def isDoubleMark (c : Char) : Bool := c = '.' || c = 'e' || c = 'E'

/-- The value of a number as it is written. -/
def numberValue (lexeme : List Char) : Except LiteralFault LiteralValue :=
  if lexeme.any isDoubleMark then
    .ok (.double ((Binary64.ofText? (String.ofList lexeme)).getD .nan))
  else if maxDigits < (lexeme.filter Char.isDigit).length then .error .oversizedNumber
  else .ok (.integer ((Decimal.int? lexeme).getD 0))

def evaluate : Literal → Except LiteralFault LiteralValue
  | quoted body =>
    match Text.decodeEscapes body with
    | some points => .ok (.text points)
    | none => .error .malformedText
  | number lexeme => numberValue lexeme
  | symbol n => .ok (.text (n.toList.map Text.codePoint))

end Literal

/-- The first place where a text leaves the grammar. -/
def syntaxError (text rest : List Char) : ReadError :=
  if rest.isEmpty then .unfinished else .unexpected (.before text rest)

namespace Definitions

/-- The definitions of a text by grammar and literals alone. -/
def unvalidated (text : List Char) : Except ReadError (Definitions LiteralValue) := do
  let items ← (parseItems text).mapError (syntaxError text)
  let items ← (items.mapM (Item.mapM Literal.evaluate)).mapError .literal
  return ofItems items

/-- The definitions of a text. -/
def parse (s : String) : Except ReadError (Definitions LiteralValue) := do
  let d ← unvalidated s.toList
  d.validate.mapError .invalid
  return d

/-- The definitions of a text whose literals are made of characters. -/
def ofText (s : String) : Except ReadError (Definitions Value) := do
  (← parse s).mapM LiteralValue.narrow |>.mapError .literal

end Definitions

end WireBridge
