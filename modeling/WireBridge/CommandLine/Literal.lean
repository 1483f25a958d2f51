import WireBridge.CommandLine.Literal.Token
import WireBridge.Text.Blank
import WireBridge.Text.Word

/-!
# Written values

The values that a tag handler is called with: numbers, also complex ones as a sum, texts, constants, and tuples, sets
and dictionaries of values. A value may be a key, or an element of a set, unless it can change.

* `LiteralReader` : the brackets that are open, and the values that have been read in each;
* `isWritten` : a text is a value, or several with commas between them;
* `isReadableCall` : a text is what a handler is called with: a name, a name and values in parentheses, or a value.
-/

set_option autoImplicit false

namespace WireBridge

/-- What matters of a value for the values around it. -/
inductive LiteralKind
  | number (imaginary signed : Bool)
  /-- A value that may be a key. -/
  | lasting
  /-- A value that may be no key. -/
  | changing
  /-- The name `set`, which is a value only with parentheses behind it. -/
  | setName
  deriving DecidableEq, Repr

/-- A value that may be an element of a set, or a key. -/
def LiteralKind.isKey : LiteralKind → Bool
  | .number _ _ => true
  | .lasting => true
  | .changing => false
  | .setName => false

/-- How far a value has been read. -/
inductive LiteralState
  | nothing
  /-- A sign without its number. -/
  | sign
  /-- A number and a sign without the imaginary number of a sum. -/
  | sum
  /-- A text, which another may continue. -/
  | text (bytes : Bool)
  | value (k : LiteralKind)
  deriving DecidableEq, Repr

inductive LiteralBracket
  /-- No bracket: the whole text. -/
  | whole
  | paren
  | brace
  /-- The parentheses behind `set`. -/
  | call
  deriving DecidableEq, Repr

/-- What has been read inside a bracket. -/
structure LiteralFrame where
  bracket : LiteralBracket
  /-- Whether all values that a comma follows may be keys; none before the first comma. -/
  keys : Option Bool
  /-- The brace holds a dictionary. -/
  isDictionary : Bool
  /-- A key waits for its value. -/
  hasKey : Bool
  state : LiteralState
  deriving DecidableEq, Repr

namespace LiteralFrame

def opening (b : LiteralBracket) : LiteralFrame := ⟨b, none, false, false, .nothing⟩

/-- The value that has been read, if it is complete. -/
def value? (f : LiteralFrame) : Option LiteralKind :=
  match f.state with
  | .text _ => some .lasting
  | .value k => some k
  | _ => none

/-- The frame with one more value. -/
def addValue (f : LiteralFrame) (k : LiteralKind) : Option LiteralFrame :=
  match f.state, k with
  | .nothing, k => some { f with state := .value k }
  | .sign, .number imaginary false => some { f with state := .value (.number imaginary true) }
  | .sum, .number true false => some { f with state := .value .lasting }
  | _, _ => none

def addText (f : LiteralFrame) (bytes : Bool) : Option LiteralFrame :=
  match f.state with
  | .nothing => some { f with state := .text bytes }
  | .text b => if b = bytes then some f else none
  | _ => none

def addSign (f : LiteralFrame) : Option LiteralFrame :=
  match f.state with
  | .nothing => some { f with state := .sign }
  | .value (.number false _) => some { f with state := .sum }
  | _ => none

/-- The frame with its value as an element: in a set it may be a key, in a dictionary a key stands before it. -/
def addElement (f : LiteralFrame) : Option LiteralFrame := do
  let k ← f.value?
  if k = .setName ∨ f.bracket = .call ∨ f.isDictionary ≠ f.hasKey then none
  else if f.bracket = .brace ∧ !f.isDictionary ∧ !k.isKey then none
  else some { f with keys := some (f.keys.getD true && k.isKey), hasKey := false, state := .nothing }

/-- The frame with its value as a key. -/
def addKey (f : LiteralFrame) : Option LiteralFrame := do
  let k ← f.value?
  if f.bracket ≠ .brace ∨ f.hasKey ∨ !k.isKey ∨ (f.keys.isSome ∧ !f.isDictionary) then none
  else some { f with isDictionary := true, hasKey := true, state := .nothing }

/-- The value of a bracket that is closed, or of the whole text. -/
def close? (f : LiteralFrame) : Option LiteralKind :=
  match f.bracket, f.state, f.keys with
  | .call, .nothing, none => some .changing
  | .paren, .nothing, none => some .lasting
  | .brace, .nothing, none => if f.hasKey then none else some .changing
  | .whole, .nothing, none => none
  | .paren, .nothing, some keys => some (if keys then .lasting else .changing)
  | .whole, .nothing, some _ => some .lasting
  | .brace, .nothing, some _ => if f.hasKey then none else some .changing
  | .paren, _, none => f.value?
  | .call, _, _ => none
  | .brace, _, _ => f.addElement.map fun _ => .changing
  | _, _, _ => f.addElement.bind fun f => f.keys.map fun keys => if keys then .lasting else .changing

end LiteralFrame

/-- The brackets that are open, the innermost first. -/
abbrev LiteralReader := List LiteralFrame

namespace LiteralReader

/-- The number of brackets that may be open. -/
def maxDepth : Nat := 200

/-- The reader with one more bracket. -/
def enter (r : LiteralReader) (b : LiteralBracket) : Option LiteralReader :=
  if r.length ≤ maxDepth then some (.opening b :: r) else none

/-- The reader after the end of a bracket, one of those that the end may belong to. -/
def leave (r : LiteralReader) (brackets : List LiteralBracket) : Option LiteralReader :=
  match r with
  | f :: outer :: rest =>
    if brackets.contains f.bracket then f.close?.bind fun k => (outer.addValue k).map (· :: rest) else none
  | _ => none

def openParen (r : LiteralReader) : Option LiteralReader :=
  match r with
  | f :: rest =>
    if f.state = .value .setName then enter ({ f with state := .nothing } :: rest) .call else enter r .paren
  | [] => none

/-- The reader with a change of the innermost frame. -/
def update (r : LiteralReader) (change : LiteralFrame → Option LiteralFrame) : Option LiteralReader :=
  match r with
  | f :: rest => (change f).map (· :: rest)
  | [] => none

/-- The reader after a token. Lines end freely inside brackets only. -/
def step (r : LiteralReader) : LiteralToken → Option LiteralReader
  | .number imaginary => r.update (·.addValue (.number imaginary false))
  | .text bytes => r.update (·.addText bytes)
  | .constant => r.update (·.addValue .lasting)
  | .setName => r.update (·.addValue .setName)
  | .openParen => r.openParen
  | .openBrace => r.enter .brace
  | .closeParen => r.leave [.paren, .call]
  | .closeBrace => r.leave [.brace]
  | .comma => r.update (·.addElement)
  | .colon => r.update (·.addKey)
  | .sign => r.update (·.addSign)
  | .lineEnd => if 1 < r.length then some r else none

end LiteralReader

/-- The tokens without the line ends around them. -/
def trimLineEnds (tokens : List LiteralToken) : List LiteralToken :=
  let trim (ts : List LiteralToken) := ts.dropWhile (· = .lineEnd)
  (trim (trim tokens).reverse).reverse

/-- Whether a text is a value, or several with commas between them. -/
def isWritten (s : List Char) : Bool :=
  match LiteralToken.ofText? s with
  | none => false
  | some tokens =>
    match (trimLineEnds tokens).foldlM LiteralReader.step [.opening .whole] with
    | some [f] => f.close?.isSome
    | _ => false

def isHandlerChar (c : Char) : Bool := Text.isWordChar c || c = '.'

/-- The values of a call without the name before them; a name alone is called without values. -/
def callValues (s : List Char) : List Char :=
  let values := s.dropWhile isHandlerChar
  if values = [] then ['(', ')']
  else if values.head? = some '(' && values.getLast? = some ')' && !values.contains '\n' then values
  else s

def isReadableCall (s : List Char) : Bool := isWritten (callValues (Text.strip s))

end WireBridge
