/-!
# Hexadecimal and octal digits

* `hexDigit?`, `octalDigit?` : the value of a digit, of which the first may be capital or small;
* `hexNumber?` : the number that some digits are;
* `character?` : the character of a number. A `CodePoint` is the number of a character (`codePoint`) or that of a
  surrogate, which is half of a pair and names no character.
-/

set_option autoImplicit false

namespace WireBridge.Text

def hexDigit? (c : Char) : Option Nat :=
  if '0' ≤ c ∧ c ≤ '9' then some (c.toNat - '0'.toNat)
  else if 'a' ≤ c ∧ c ≤ 'f' then some (c.toNat - 'a'.toNat + 10)
  else if 'A' ≤ c ∧ c ≤ 'F' then some (c.toNat - 'A'.toNat + 10)
  else none

def octalDigit? (c : Char) : Option Nat :=
  if '0' ≤ c ∧ c ≤ '7' then some (c.toNat - '0'.toNat) else none

def isOctalDigit (c : Char) : Bool := (octalDigit? c).isSome

def hexNumber? (digits : List Char) : Option Nat :=
  digits.foldlM (fun n c => (hexDigit? c).map (16 * n + ·)) 0

/-- The number of a character or of a surrogate. -/
abbrev CodePoint : Type := Fin 0x110000

def codePoint (c : Char) : CodePoint := ⟨c.toNat, c.valid.elim (Nat.lt_trans · (by decide)) (·.2)⟩

/-- A number up to the last plane. -/
def codePoint? (n : Nat) : Option CodePoint := if h : n < 0x110000 then some ⟨n, h⟩ else none

/-- The character of a number; a surrogate or a number past the last plane names none. -/
def character? (n : Nat) : Option Char :=
  if n.isValidChar then some (Char.ofNat n) else none

/-- The characters of some code points, none of which may be a surrogate. -/
def characters? (points : List CodePoint) : Option (List Char) := points.mapM fun p => character? p.val

def hexCharacter? (digits : List Char) : Option Char := hexNumber? digits >>= character?

end WireBridge.Text
