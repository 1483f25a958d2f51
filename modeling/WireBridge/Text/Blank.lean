/-!
# Blank characters

* `isBlank c` : `c` counts as white space where the ends of a text are trimmed: the Unicode
  spaces, the controls that end a line and the four information separators;
* `strip` : a text without the blanks at its two ends;
* `inkParts` : the parts of a text between its blanks.
-/

set_option autoImplicit false

namespace WireBridge.Text

/-- White space for trimming. -/
def isBlank (c : Char) : Bool :=
  let n := c.toNat
  (9 ≤ n && n ≤ 13) || (28 ≤ n && n ≤ 32) || n == 0x85 || n == 0xA0 || n == 0x1680 ||
    (0x2000 ≤ n && n ≤ 0x200A) || n == 0x2028 || n == 0x2029 || n == 0x202F || n == 0x205F || n == 0x3000

def isInk (c : Char) : Bool := !isBlank c

def stripStart (s : List Char) : List Char := s.dropWhile isBlank

/-- The text without the blanks at its two ends. -/
def strip (s : List Char) : List Char := (stripStart (stripStart s).reverse).reverse

theorem stripStart_of_head {c : Char} {s : List Char} (h : isBlank c = false) :
    stripStart (c :: s) = c :: s := by
  simp [stripStart, h]

/-- The longest runs of characters that are not blank. -/
def inkParts (s : List Char) : List (List Char) :=
  (s.splitBy fun a b => isBlank a == isBlank b).filter fun run => run.all isInk

end WireBridge.Text
