import WireBridge.Text.Identifier

/-!
# Terminals of definition files

A terminal is read where the grammar expects it and takes its longest match there.

* `afterLayout` : the text after white space and comments, where a comment runs from a `#` that no other `#`
  follows to the end of its line;
* `name?`, `number?`, `quoted?`, `doc?` : a terminal at the start of a text and what follows it;
* `mark?`, `keyword?` : a punctuation mark and a fixed word; the word need not end there.

A quoted text ends at the first quotation mark that no backslash escapes and stays on one line.
-/

set_option autoImplicit false

namespace WireBridge.Terminal

/-! ## Layout -/

def isSpace (c : Char) : Bool := c = ' ' || c = '\t' || c = '\x0c' || c = '\r' || c = '\n'

/-- The text after layout, where a comment is open at its start iff `inComment`. -/
def skipLayout (inComment : Bool) : List Char → List Char
  | [] => []
  | c :: rest =>
    if inComment then skipLayout (c != '\n') rest
    else if isSpace c then skipLayout false rest
    else if c = '#' && rest.head? != some '#' then skipLayout true rest
    else c :: rest

def afterLayout (s : List Char) : List Char := skipLayout false s

/-! ## Words and marks -/

def mark? (m : Char) : List Char → Option (Unit × List Char)
  | [] => none
  | c :: rest => if c = m then some ((), rest) else none

/-- The text after a fixed word at its start. -/
def keyword? (word : List Char) (s : List Char) : Option (Unit × List Char) :=
  if s.take word.length = word then some ((), s.drop word.length) else none

def name? : List Char → Option (List Char × List Char)
  | [] => none
  | c :: rest =>
    if Text.isNameStart c then some (c :: rest.takeWhile Text.isNameChar, rest.dropWhile Text.isNameChar)
    else none

/-! ## Numbers -/

/-- The power of ten at the start of a text, empty if none is complete. -/
def exponentPart (s : List Char) : List Char :=
  match s with
  | [] => []
  | c :: rest =>
    if c = 'e' || c = 'E' then
      let sign := (rest.take 1).filter fun d => d = '+' || d = '-'
      let digits := (rest.drop sign.length).takeWhile Char.isDigit
      if digits.isEmpty then [] else c :: sign ++ digits
    else []

/-- The point and the places at the start of a text, which need a digit before or after the point. -/
def fractionPart (hasWhole : Bool) (s : List Char) : List Char :=
  match s with
  | '.' :: rest =>
    let places := rest.takeWhile Char.isDigit
    if hasWhole || !places.isEmpty then '.' :: places else []
  | _ => []

/-- The longest number at the start of a text. -/
def numberLexeme (s : List Char) : List Char :=
  let sign := (s.take 1).filter fun c => c = '+' || c = '-'
  let unsigned := s.drop sign.length
  let whole := unsigned.takeWhile Char.isDigit
  let fraction := fractionPart (!whole.isEmpty) (unsigned.drop whole.length)
  let digits := whole ++ fraction
  if digits.isEmpty then [] else sign ++ digits ++ exponentPart (unsigned.drop digits.length)

def number? (s : List Char) : Option (List Char × List Char) :=
  let lexeme := numberLexeme s
  if lexeme.isEmpty then none else some (lexeme, s.drop lexeme.length)

/-! ## Quoted texts and doc comments -/

/-- The text up to the closing quotation mark, and what follows the mark. -/
def quotedBody (escaped : Bool) : List Char → Option (List Char × List Char)
  | [] => none
  | c :: rest =>
    if c = '\n' then none
    else if c = '"' && !escaped then some ([], rest)
    else (quotedBody (c = '\\' && !escaped) rest).map fun (body, after) => (c :: body, after)

def quoted? : List Char → Option (List Char × List Char)
  | '"' :: rest => quotedBody false rest
  | _ => none

/-- A doc comment begins here. -/
def startsDoc : List Char → Bool
  | '#' :: '#' :: _ => true
  | _ => false

/-- The text of a doc comment, to the end of its line. -/
def doc? : List Char → Option (List Char × List Char)
  | '#' :: '#' :: rest => some (rest.takeWhile (· ≠ '\n'), rest.dropWhile (· ≠ '\n'))
  | _ => none

end WireBridge.Terminal
