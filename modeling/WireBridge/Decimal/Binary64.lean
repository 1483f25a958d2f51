/-!
# Numbers of binary floating point

A `Binary64` is a double: not a number, an infinity, or `± mantissa * 2 ^ exponent` with the sign of a zero
kept. The numbers that `ofRatio` builds have their mantissa below `2 ^ 53` and their exponent from `-1074` to
`971`, and a mantissa below `2 ^ 52` only at the least exponent, so each value has one form.

* `roundDiv num den` : the quotient to the nearest integer, a half to the even one;
* `ofRatio` : the double nearest to a fraction;
* `same`, `sameInt` : equality of values, under which the two zeros agree and not-a-number equals nothing.
-/

set_option autoImplicit false

namespace WireBridge

inductive Binary64
  | nan
  | infinite (negative : Bool)
  | finite (negative : Bool) (mantissa : Nat) (exponent : Int)
  deriving DecidableEq, Repr

namespace Binary64

/-- A power of two. -/
def pow2 (n : Nat) : Nat := Nat.pow 2 n

/-- A power of ten. -/
def pow10 (n : Nat) : Nat := Nat.pow 10 n

/-- The quotient to the nearest integer, a half to the even one. -/
def roundDiv (num den : Nat) : Nat :=
  let q := num / den
  let r := num % den
  if 2 * r < den then q
  else if den < 2 * r then q + 1
  else if q % 2 = 0 then q else q + 1

/-- The fraction `num / den / 2 ^ e`, as numerator and denominator. -/
def scaled (num den : Nat) (e : Int) : Nat × Nat :=
  if 0 ≤ e then (num, den * pow2 e.toNat) else (num * pow2 (-e).toNat, den)

/-- The exponent under which a positive fraction has a mantissa of 53 digits, at least `-1074`. -/
def unitExponent (num den : Nat) : Int :=
  let guess : Int := (Nat.log2 num : Int) - (Nat.log2 den : Int) - 52
  let (n, d) := scaled num den guess
  max (-1074) (if n / d < pow2 52 then guess - 1 else guess)

/-- The double nearest to `num / den`, with the given sign. -/
def ofRatio (negative : Bool) (num den : Nat) : Binary64 :=
  if num = 0 then finite negative 0 (-1074)
  else
    let e := unitExponent num den
    let (n, d) := scaled num den e
    let m := roundDiv n d
    let (m, e) := if m = pow2 53 then (pow2 52, e + 1) else (m, e)
    if 971 < e then infinite negative else finite negative m e

def signed (negative : Bool) (n : Nat) : Int := if negative then -(n : Int) else n

/-- The value is the integer `n`. -/
def sameInt : Binary64 → Int → Bool
  | finite s m e, n =>
    if 0 ≤ e then signed s m * pow2 e.toNat == n else signed s m == n * pow2 (-e).toNat
  | _, _ => false

/-- The two values are equal. -/
def same : Binary64 → Binary64 → Bool
  | finite s m e, finite s' m' e' =>
    if e' ≤ e then signed s m * pow2 (e - e').toNat == signed s' m'
    else signed s m == signed s' m' * pow2 (e' - e).toNat
  | infinite s, infinite s' => s == s'
  | _, _ => false

def isZero : Binary64 → Bool
  | finite _ m _ => m == 0
  | _ => false

end Binary64

end WireBridge
