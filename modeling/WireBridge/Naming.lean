import WireBridge.Text.Casing

/-!
# Derived names

* `snakeCase` : a type name in snake case, for the functions of a type. A word starts at a capital after a small
  letter or digit, and at the last of several capitals when a small letter follows (`HTTPRequest` is
  `http_request`);
* `screamingSnake` : a variant name in capitals, where every capital after the first character starts a word;
* `candidateNames` : the names a variant may have on the wire, in the order in which they are tried;
* `fromWireFunction`, `toWireFunction` : the functions of a declared type.
-/

set_option autoImplicit false

namespace WireBridge

namespace Naming

def isSmallOrDigit (c : Char) : Bool := c.isLower || c.isDigit

/-- A word starts at `c`, between `before` and `after`. -/
def startsWord (before : Option Char) (c : Char) (after : Option Char) : Bool :=
  c.isUpper && (before.any isSmallOrDigit || before.any Char.isUpper && after.any Char.isLower)

/-- The text with an underscore before every word but the first. -/
def separateWords (before : Option Char) : List Char → List Char
  | [] => []
  | c :: rest =>
    let tail := c :: separateWords (some c) rest
    if startsWord before c rest.head? then '_' :: tail else tail

def snakeChars (s : List Char) : List Char := Text.lower (separateWords none s)

/-- One character of a screaming name, with an underscore before it if it starts a word. -/
def screamChar (c : Char) : List Char := (if Text.isCapital c then ['_'] else []) ++ Text.upperChar c

def screamingChars : List Char → List Char
  | [] => []
  | c :: rest => Text.upperChar c ++ rest.flatMap screamChar

end Naming

def snakeCase (name : String) : String := String.ofList (Naming.snakeChars name.toList)

def screamingSnake (name : String) : String := String.ofList (Naming.screamingChars name.toList)

def upperCase (name : String) : String := String.ofList (Text.upper name.toList)

/-- The variant under its own name, and in capitals after the name of its enum. -/
def candidateNames (enum variant : String) : List String :=
  [variant, upperCase enum ++ "_" ++ screamingSnake variant]

/-- The function that reads a declared type from the wire. -/
def fromWireFunction (type : String) : String := snakeCase type ++ "_from_wire"

/-- The function that writes a declared type to the wire. -/
def toWireFunction (type : String) : String := snakeCase type ++ "_to_wire"

end WireBridge
