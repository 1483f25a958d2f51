import WireBridge.Decimal.Binary64

/-!
# Reading decimal numbers

* `natOfDigits` : the number of a row of decimal digits;
* `Binary64.ofDecimal` : the double nearest to `± digits * 10 ^ exponent`; far outside the range of doubles the
  answer is an infinity or a zero before any power is formed;
* `Binary64.ofText?` : the double of a written number, with an optional sign, fraction and power of ten; the
  infinities and not-a-number are written `inf` and `nan`.
-/

set_option autoImplicit false

namespace WireBridge

namespace Decimal

def digitValue (c : Char) : Nat := c.toNat - '0'.toNat

/-- The number of a row of decimal digits. -/
def natOfDigits (s : List Char) : Nat := s.foldl (fun n c => 10 * n + digitValue c) 0

/-- A sign and what follows it; no sign is a plus. -/
def readSign : List Char → Bool × List Char
  | '-' :: rest => (true, rest)
  | '+' :: rest => (false, rest)
  | rest => (false, rest)

/-- A written integer: an optional sign and at least one digit. -/
def int? (s : List Char) : Option Int :=
  let (negative, digits) := readSign s
  if digits.isEmpty || !digits.all Char.isDigit then none
  else some (if negative then -(natOfDigits digits : Int) else natOfDigits digits)

end Decimal

open Decimal

namespace Binary64

/-- The double nearest to `± digits * 10 ^ exponent`. -/
def ofDecimal (negative : Bool) (digits : Nat) (exponent : Int) : Binary64 :=
  let size : Int := (Nat.toDigits 10 digits).length
  if digits = 0 then ofRatio negative 0 1
  else if 310 < size + exponent then infinite negative
  else if size + exponent < -330 then ofRatio negative 0 1
  else if 0 ≤ exponent then ofRatio negative (digits * pow10 exponent.toNat) 1
  else ofRatio negative digits (pow10 (-exponent).toNat)

/-- The double of an unsigned written number. -/
def ofUnsigned? (negative : Bool) (s : List Char) : Option Binary64 :=
  let whole := s.takeWhile Char.isDigit
  let afterWhole := s.dropWhile Char.isDigit
  let (fraction, afterFraction) :=
    match afterWhole with
    | '.' :: rest => (rest.takeWhile Char.isDigit, rest.dropWhile Char.isDigit)
    | rest => ([], rest)
  let power : Option Int :=
    match afterFraction with
    | [] => some 0
    | c :: rest => if c = 'e' || c = 'E' then int? rest else none
  if whole.isEmpty && fraction.isEmpty then none
  else power.map fun p => ofDecimal negative (natOfDigits (whole ++ fraction)) (p - fraction.length)

/-- The double of a written number. -/
def ofText? (s : String) : Option Binary64 :=
  let (negative, rest) := readSign s.toList
  let word := String.ofList (rest.map Char.toLower)
  if word = "inf" || word = "infinity" then some (infinite negative)
  else if word = "nan" then some nan
  else ofUnsigned? negative rest

end Binary64

end WireBridge
