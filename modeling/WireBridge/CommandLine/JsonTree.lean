import WireBridge.Code.Block
import WireBridge.Text.Quoted
import WireBridge.Value

/-!
# JSON

`JsonTree.lines` writes a tree out with an indentation of two columns a level. Texts hold ASCII alone: any other
character is written by the numbers of its UTF-16 units.
-/

set_option autoImplicit false

namespace WireBridge

inductive JsonTree
  | scalar (v : Value)
  | list (items : List JsonTree)
  | object (members : List (String × JsonTree))

namespace JsonTree

def text (s : String) : JsonTree := scalar (.text s)

def flag (b : Bool) : JsonTree := scalar (.boolean b)

def textOrNull (s : Option String) : JsonTree := scalar ((s.map .text).getD .null)

/-- The units of a character in UTF-16. -/
def units (c : Char) : List Nat :=
  let n := c.toNat
  if n < 0x10000 then [n] else [0xD800 + (n - 0x10000) / 0x400, 0xDC00 + (n - 0x10000) % 0x400]

/-- The controls that have an escape of one letter, with it. -/
def letterEscapes : List (Nat × Char) := [(8, 'b'), (9, 't'), (10, 'n'), (12, 'f'), (13, 'r'), (34, '"'), (92, '\\')]

def escapedChar (c : Char) : List Char :=
  match letterEscapes.lookup c.toNat with
  | some letter => ['\\', letter]
  | none =>
    if 32 ≤ c.toNat && c.toNat < 127 then [c]
    else (units c).flatMap fun u => '\\' :: 'u' :: Text.hexDigits 4 u

def quoted (s : String) : String := String.ofList ('"' :: s.toList.flatMap escapedChar ++ ['"'])

def doubleText (d : Binary64) : String :=
  [("inf", "Infinity"), ("-inf", "-Infinity"), ("nan", "NaN")].lookup d.text |>.getD d.text

def scalarText : Value → String
  | .text s => quoted s
  | .integer n => toString n
  | .double d => doubleText d
  | .boolean b => if b then "true" else "false"
  | .null => "null"

/-- Lines moved one level to the right. -/
def inner (lines : List String) : List String := lines.map ("  " ++ ·)

/-- The last of some lines with a comma after it. -/
def withComma : List String → List String
  | [] => []
  | [line] => [line ++ ","]
  | line :: lines => line :: withComma lines

/-- The lines of several items, with a comma after each but the last. -/
def separated : List (List String) → List String
  | [] => []
  | [item] => item
  | item :: items => withComma item ++ separated items

/-- The first of some lines behind the name of a member. -/
def member (name : String) : List String → List String
  | [] => []
  | line :: lines => (quoted name ++ ": " ++ line) :: lines

mutual

def lines : JsonTree → List String
  | scalar v => [scalarText v]
  | list [] => ["[]"]
  | list (item :: items) => "[" :: inner (separated (itemLines (item :: items))) ++ ["]"]
  | object [] => ["\x7b\x7d"]
  | object (m :: ms) => "\x7b" :: inner (separated (memberLines (m :: ms))) ++ ["\x7d"]

def itemLines : List JsonTree → List (List String)
  | [] => []
  | item :: items => item.lines :: itemLines items

def memberLines : List (String × JsonTree) → List (List String)
  | [] => []
  | (name, tree) :: members => member name tree.lines :: memberLines members

end

end JsonTree

end WireBridge
