/-!
# Identifiers

* `isNameStart`, `isNameChar` : the ASCII characters that may begin and continue a name;
* `isIdentifier`, `isDotted` : a name, and names joined by points;
* `dropFinalNewline` : a text without one line feed at its end, which a reference may carry.
-/

set_option autoImplicit false

namespace WireBridge.Text

def isNameStart (c : Char) : Bool := c.isAlpha || c = '_'

def isNameChar (c : Char) : Bool := c.isAlphanum || c = '_'

/-- A letter or underscore, then letters, digits and underscores. -/
def isIdentifier : List Char → Bool
  | [] => false
  | c :: rest => isNameStart c && rest.all isNameChar

/-- The parts of a text between its marks `mark`; a text without one is its only part. -/
def splitAt (mark : Char) : List Char → List (List Char)
  | [] => [[]]
  | c :: rest =>
    if c = mark then [] :: splitAt mark rest
    else
      match splitAt mark rest with
      | [] => [[c]]
      | part :: parts => (c :: part) :: parts

/-- Identifiers joined by points. -/
def isDotted (s : List Char) : Bool := (splitAt '.' s).all isIdentifier

def dropFinalNewline (s : List Char) : List Char :=
  if s.getLast? = some '\n' then s.dropLast else s

end WireBridge.Text
