import WireBridge.Text.Printable

/-!
# Quoted texts

`quoted s` writes a text as a literal of the generated language: between apostrophes, or between quotation
marks when it holds an apostrophe and no quotation mark. Inside, the mark around it and the backslash are
escaped, tabulator, line feed and carriage return have escapes of their own, and every other character that
is not printable is written by its number in two, four or eight hexadecimal digits.
-/

set_option autoImplicit false

namespace WireBridge.Text

/-- The mark around a quoted text. -/
def quoteMark (s : List Char) : Char :=
  if s.contains '\'' && !s.contains '"' then '"' else '\''

/-- The last `k` hexadecimal digits of `n`. -/
def hexDigits : Nat → Nat → List Char
  | 0, _ => []
  | k + 1, n => hexDigits k (n / 16) ++ [Nat.digitChar (n % 16)]

/-- A character by its number, as short as the number allows. -/
def numericEscape (c : Char) : List Char :=
  let n := c.toNat
  if n < 0x100 then '\\' :: 'x' :: hexDigits 2 n
  else if n < 0x10000 then '\\' :: 'u' :: hexDigits 4 n
  else '\\' :: 'U' :: hexDigits 8 n

/-- A character inside a text between two marks `mark`. -/
def quotedChar (mark c : Char) : List Char :=
  if c = mark ∨ c = '\\' then ['\\', c]
  else if c = '\t' then ['\\', 't']
  else if c = '\n' then ['\\', 'n']
  else if c = '\r' then ['\\', 'r']
  else if isPrintable c then [c]
  else numericEscape c

def quotedChars (s : List Char) : List Char :=
  let mark := quoteMark s
  mark :: s.flatMap (quotedChar mark) ++ [mark]

/-- A text as a literal. -/
def quoted (s : String) : String := String.ofList (quotedChars s.toList)

end WireBridge.Text
