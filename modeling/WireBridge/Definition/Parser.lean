import WireBridge.Definition.Basic
import WireBridge.Definition.Terminal
import WireBridge.Text.Blank
import WireBridge.Text.Lines

/-!
# The grammar of definition files

`parseItems` reads a text as a list of items whose values are still the literals of the text.

    options    :  options { (doc? name = literal)* }
    enum       :  doc? directive* enum name { (doc? name directive*)* }
    record     :  doc? directive* struct name { (doc? name : type directive*)* }
    newtype    :  doc? directive* struct name ( type )
    type       :  wire (. name)+  |  name [ type (, type)* ]  |  name
    directive  :  @ name (( (argument (, argument)*)? ))?
    argument   :  name = literal  |  literal
    literal    :  quoted  |  number  |  name

Layout may stand before every terminal. The text decides after at most one terminal which rule applies, so the
parser never goes back; it stops where no rule can go on and reports the text that is left there.
-/

set_option autoImplicit false

namespace WireBridge

/-- A value as it is written: a quoted text without its marks, a number, or a bare name. -/
inductive Literal
  | quoted (body : List Char)
  | number (lexeme : List Char)
  | symbol (name : String)
  deriving DecidableEq, Repr

/-- A parser takes a text to a result and the text that is left, or stops at a text. -/
abbrev Parser : Type → Type := StateT (List Char) (Except (List Char))

namespace Parser

variable {α : Type}

/-- The text that is left, after layout. -/
def upcoming : Parser (List Char) := fun s => .ok (Terminal.afterLayout s, s)

/-- Layout and a terminal. -/
def token (read : List Char → Option (α × List Char)) : Parser α := fun s =>
  match read (Terminal.afterLayout s) with
  | some r => .ok r
  | none => .error (Terminal.afterLayout s)

def mark (c : Char) : Parser Unit := token (Terminal.mark? c)

def keyword (word : String) : Parser Unit := token (Terminal.keyword? word.toList)

def name : Parser String := String.ofList <$> token Terminal.name?

/-- At most `n` results, as long as the text that is left starts one. -/
def upTo (starts : List Char → Bool) (p : Parser α) : Nat → Parser (List α)
  | 0 => return []
  | n + 1 => do
    if starts (← upcoming) then
      let a ← p
      let as ← upTo starts p n
      return a :: as
    else return []

/-- Results as long as the text that is left starts one; each takes a character at least. -/
def many (starts : List Char → Bool) (p : Parser α) : Parser (List α) := do
  upTo starts p (← get).length

def startsWith (c : Char) (s : List Char) : Bool := s.head? = some c

/-- Some text is left, and not the mark that closes a block. -/
def notAt (c : Char) (s : List Char) : Bool := s.head? ≠ some c

/-- One or more results with commas between them. -/
def commaSeparated (p : Parser α) : Parser (List α) := do
  let first ← p
  let more ← many (startsWith ',') (do mark ','; p)
  return first :: more

/-! ## Comments and directives -/

def docLine : Parser String := do
  return String.ofList (Text.strip (← token Terminal.doc?))

/-- The doc comments before a definition, one line each. -/
def comment : Parser (Option String) := do
  let lines ← many Terminal.startsDoc docLine
  return if lines.isEmpty then none else some (Text.joinLines lines)

def literalToken? (s : List Char) : Option (Literal × List Char) :=
  ((Terminal.quoted? s).map fun (body, rest) => (.quoted body, rest)) <|>
    ((Terminal.number? s).map fun (lexeme, rest) => (.number lexeme, rest)) <|>
      (Terminal.name? s).map fun (n, rest) => (.symbol (String.ofList n), rest)

def literal : Parser Literal := token literalToken?

/-- A literal, or a name and the literal given under it. -/
def argument : Parser (Argument Literal) := do
  let first ← literal
  match first with
  | .symbol n =>
    if startsWith '=' (← upcoming) then
      mark '='
      return ⟨some n, ← literal⟩
    else return ⟨none, first⟩
  | _ => return ⟨none, first⟩

def arguments : Parser (List (Argument Literal)) := do
  if startsWith '(' (← upcoming) then
    mark '('
    let args ← if startsWith ')' (← upcoming) then pure [] else commaSeparated argument
    mark ')'
    return args
  else return []

def directive : Parser (Directive Literal) := do
  mark '@'
  let n ← name
  return ⟨n, ← arguments⟩

def directives : Parser (List (Directive Literal)) := many (startsWith '@') directive

/-! ## Types -/

/-- The word for the wire module and the point after it. -/
def startsWireType (s : List Char) : Bool :=
  match Terminal.keyword? "wire".toList s with
  | some (_, rest) => startsWith '.' (Terminal.afterLayout rest)
  | none => false

def wireType : Parser TypeExpr := do
  keyword "wire"
  let path ← many (startsWith '.') (do mark '.'; name)
  return .mk (".".intercalate path) [] true

/-- A type whose brackets nest less than `depth` deep. -/
def typeWithin : (depth : Nat) → Parser TypeExpr
  | 0 => fun s => .error (Terminal.afterLayout s)
  | depth + 1 => do
    if startsWireType (← upcoming) then wireType
    else
      let n ← name
      if startsWith '[' (← upcoming) then
        mark '['
        let args ← commaSeparated (typeWithin depth)
        mark ']'
        return .mk n args false
      else return .named n

/-- A type; its brackets nest less deep than the text is long. -/
def type : Parser TypeExpr := do typeWithin ((← get).length + 1)

/-! ## Items -/

def variant : Parser (VariantDecl Literal) := do
  let c ← comment
  let n ← name
  return ⟨n, c, ← directives⟩

def field : Parser (FieldDecl Literal) := do
  let c ← comment
  let n ← name
  mark ':'
  let t ← type
  return ⟨n, t, c, ← directives⟩

def option : Parser (OptionDecl Literal) := do
  let c ← comment
  let n ← name
  mark '='
  return ⟨n, ← literal, c⟩

/-- Entries between braces. -/
def block (entry : Parser α) : Parser (List α) := do
  mark '\x7b'
  let entries ← many (notAt '\x7d') entry
  mark '\x7d'
  return entries

/-- The field that a newtype wraps. -/
def wrapped (t : TypeExpr) : FieldDecl Literal := ⟨"value", t, none, []⟩

/-- The rest of an enum or a record, after its comment and directives. -/
def declaration (c : Option String) (as : List (Directive Literal)) : Parser (Item Literal) := do
  if (Terminal.keyword? "enum".toList (← upcoming)).isSome then
    keyword "enum"
    let n ← name
    return .enum ⟨n, ← block variant, c, as⟩
  else
    keyword "struct"
    let n ← name
    if startsWith '(' (← upcoming) then
      mark '('
      let t ← type
      mark ')'
      return .record ⟨n, [wrapped t], c, as, true⟩
    else return .record ⟨n, ← block field, c, as, false⟩

def item : Parser (Item Literal) := do
  if (Terminal.keyword? "options".toList (← upcoming)).isSome then
    keyword "options"
    return .options (← block option)
  else
    let c ← comment
    let as ← directives
    declaration c as

def items : Parser (List (Item Literal)) := many (fun s => !s.isEmpty) item

end Parser

/-- The items of a text, or the text that is left where no rule can go on. -/
def parseItems (s : List Char) : Except (List Char) (List (Item Literal)) := (Parser.items.run s).map (·.1)

end WireBridge
