import WireBridge.Text.Escape
import WireBridge.Text.Lines

/-!
# Tokens of written values

The marks that values are written with, for the values of a tag handler. Only what matters for their form is kept: of
a number, whether it is imaginary, and of a text, whether it is one of bytes.

* `LiteralToken.ofText?` : the tokens of a text; none where a token is malformed.
-/

set_option autoImplicit false

namespace WireBridge

inductive LiteralToken
  | number (imaginary : Bool)
  | text (bytes : Bool)
  /-- `None`, `True`, `False` or three points. -/
  | constant
  /-- The name `set`, which makes the empty set. -/
  | setName
  | openParen
  | closeParen
  | openBrace
  | closeBrace
  | comma
  | colon
  | sign
  | lineEnd
  deriving DecidableEq, Repr

namespace LiteralToken

/-! ## Numbers -/

/-- The digits at the start of a text, with single underscores before some, and the rest. -/
def digitsAfter (isDigit : Char → Bool) : List Char → List Char × List Char
  | [] => ([], [])
  | [c] => if isDigit c then ([c], []) else ([], [c])
  | c :: d :: rest =>
    if isDigit c then
      let (ds, after) := digitsAfter isDigit (d :: rest)
      (c :: ds, after)
    else if c = '_' && isDigit d then
      let (ds, after) := digitsAfter isDigit rest
      (d :: ds, after)
    else ([], c :: d :: rest)

/-- The digits at the start of a text, the first of them without an underscore. -/
def digits (isDigit : Char → Bool) (s : List Char) : List Char × List Char :=
  if s.head?.any isDigit then digitsAfter isDigit s else ([], s)

/-- The digits of the base that a letter behind a zero stands for. -/
def baseDigit? (letter : Char) : Option (Char → Bool) :=
  if letter = 'x' ∨ letter = 'X' then some fun c => (Text.hexDigit? c).isSome
  else if letter = 'o' ∨ letter = 'O' then some Text.isOctalDigit
  else if letter = 'b' ∨ letter = 'B' then some fun c => c = '0' || c = '1'
  else none

/-- A text behind the exponent that it begins with, if any. -/
def afterExponent? (s : List Char) : Option (List Char) :=
  match s with
  | [] => none
  | c :: rest =>
    if c = 'e' ∨ c = 'E' then
      let unsigned := if rest.head? = some '+' ∨ rest.head? = some '-' then rest.drop 1 else rest
      match digits Char.isDigit unsigned with
      | ([], _) => none
      | (_, after) => some after
    else none

/-- The number in base ten at the start of a text, whether it is imaginary, and the rest. -/
def decimal? (s : List Char) : Option (Bool × List Char) :=
  let (whole, afterWhole) := digits Char.isDigit s
  let hasPoint := afterWhole.head? = some '.'
  let (places, afterPlaces) := if hasPoint then digits Char.isDigit (afterWhole.drop 1) else ([], afterWhole)
  let exponent := afterExponent? afterPlaces
  let rest := exponent.getD afterPlaces
  if whole = [] ∧ places = [] then none
  else if rest.head? = some 'j' ∨ rest.head? = some 'J' then some (true, rest.drop 1)
  else if !hasPoint ∧ exponent = none ∧ whole.head? = some '0' ∧ whole.any (· ≠ '0') then none
  else some (false, rest)

def isNameChar (c : Char) : Bool := c.isAlphanum || c = '_' || 128 ≤ c.toNat

/-- The number at the start of a text; no name may follow it at once. -/
def number? (s : List Char) : Option (LiteralToken × List Char) := do
  let (imaginary, rest) ←
    match s with
    | '0' :: letter :: rest =>
      match baseDigit? letter with
      | some isDigit =>
        match digitsAfter isDigit rest with
        | ([], _) => none
        | (_, after) => some (false, after)
      | none => decimal? s
    | _ => decimal? s
  if rest.head?.any isNameChar then none else some (number imaginary, rest)

/-! ## Texts -/

/-- The text up to the quotation mark that ends it, or to three of them, and the rest. -/
def untilQuote? (quote : Char) (long : Bool) : List Char → Option (List Char × List Char)
  | [] => none
  | [c] => if c = quote && !long then some ([], []) else none
  | c :: d :: rest =>
    if c = '\\' then (untilQuote? quote long rest).map fun (s, after) => (c :: d :: s, after)
    else if c = quote && !long then some ([], d :: rest)
    else if c = quote && d = quote && rest.head? = some quote then some ([], rest.drop 1)
    else if c = '\n' && !long then none
    else (untilQuote? quote long (d :: rest)).map fun (s, after) => (c :: s, after)

/-- Whether as many hexadecimal digits begin a text, of a number that is a code point. -/
def hasCode (n : Nat) (s : List Char) : Bool :=
  (s.take n).length = n && (Text.hexNumber? (s.take n)).any (· ≤ 0x10FFFF)

/-- Whether all escapes of a text are well formed. -/
def escapesFit (bytes : Bool) : List Char → Bool
  | [] => true
  | [_] => true
  | c :: d :: rest =>
    if c ≠ '\\' then escapesFit bytes (d :: rest)
    else if d = 'x' then hasCode 2 rest && escapesFit bytes rest
    else if bytes then escapesFit bytes rest
    else if d = 'u' then hasCode 4 rest && escapesFit bytes rest
    else if d = 'U' then hasCode 8 rest && escapesFit bytes rest
    else (d ≠ 'N' || (Text.namedEscape? rest).isSome) && escapesFit bytes rest

/-- The text behind letters that say how it is written: `r` keeps its escapes, and `b` makes it one of bytes. -/
def textAfter? (letters : String) (quote : Char) (s : List Char) : Option (LiteralToken × List Char) := do
  let keeps := ["r", "br", "rb"].contains letters
  let bytes := ["b", "br", "rb"].contains letters
  let long := s.head? = some quote && (s.drop 1).head? = some quote
  let (body, rest) ← untilQuote? quote long (if long then s.drop 2 else s)
  if (keeps || escapesFit bytes body) && (!bytes || body.all (·.toNat < 128)) then some (text bytes, rest) else none

/-! ## Tokens -/

def named? (name : String) : Option LiteralToken :=
  if ["None", "True", "False"].contains name then some constant
  else if name = "set" then some setName
  else none

def mark? : Char → Option LiteralToken
  | '(' => some openParen
  | ')' => some closeParen
  | '{' => some openBrace
  | '}' => some closeBrace
  | ',' => some comma
  | ':' => some colon
  | '+' => some sign
  | '-' => some sign
  | '\n' => some lineEnd
  | _ => none

/-- The token of a word, or of a text in quotation marks that a word stands before. -/
def word? (s : List Char) : Option (LiteralToken × List Char) :=
  let word := s.takeWhile isNameChar
  match s.dropWhile isNameChar with
  | [] => (named? (String.ofList word)).map (·, [])
  | c :: rest =>
    let letters := String.ofList (word.map Char.toLower)
    if (c = '"' ∨ c = '\'') ∧ ["", "r", "u", "b", "br", "rb"].contains letters then textAfter? letters c rest
    else (named? (String.ofList word)).map (·, c :: rest)

/-- The token at the start of a text, if a space or a comment does not begin it, and the rest. -/
def next? (s : List Char) : Option (Option LiteralToken × List Char) :=
  match s with
  | [] => none
  | c :: rest =>
    if c = ' ' ∨ c = '\t' ∨ c = '\x0c' then some (none, rest)
    else if c = '#' then some (none, rest.dropWhile (· ≠ '\n'))
    else if c = '\\' then if rest.head? = some '\n' then some (none, rest.drop 1) else none
    else if c = '.' ∧ rest.take 2 = ['.', '.'] then some (some constant, rest.drop 2)
    else
      match mark? c with
      | some token => some (some token, rest)
      | none =>
        ((if c.isDigit ∨ c = '.' then number? s else word? s).map fun (token, rest) => (some token, rest))

/-- The tokens of a text. -/
def scan? (s : List Char) : Option (List LiteralToken) :=
  if s = [] then some []
  else
    match next? s with
    | some (token, rest) => if _h : rest.length < s.length then (scan? rest).map (token.toList ++ ·) else none
    | none => none
termination_by s.length

/-- The tokens of a text, whose lines may end in any way. -/
def ofText? (s : List Char) : Option (List LiteralToken) := scan? (Text.unifyLineEnds s)

end LiteralToken

end WireBridge
