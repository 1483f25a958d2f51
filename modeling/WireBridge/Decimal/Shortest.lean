import WireBridge.Decimal.Binary64

/-!
# The shortest decimal that reads back

`Binary64.shortest m e` is the decimal `digits * 10 ^ exponent` of fewest digits among those that are read as
the double `m * 2 ^ e`, and of these the nearest to it. The decimals that are read as a double fill an interval
that reaches half way to its two neighbours, with its ends iff the mantissa is even. On the grid of `n` digits
only the two points next to the value can lie in it, so the first grid with a hit decides.

`Binary64.text` writes a double in that many digits: positionally, with at least one place, where the first
digit stands for `10 ^ -4` to `10 ^ 15`, and with a power of ten of at least two digits elsewhere.
-/

set_option autoImplicit false

namespace WireBridge.Binary64

/-- A positive decimal number `digits * 10 ^ exponent`. -/
structure DecimalNumber where
  digits : Nat
  exponent : Int
  deriving DecidableEq, Repr

/-- The number of decimal digits; zero has none. -/
def digitCount (n : Nat) : Nat := if n = 0 then 0 else (Nat.toDigits 10 n).length

/-- The power of ten of the first digit of a positive fraction. -/
def leadingPower (num den : Nat) : Int :=
  if den ≤ num then digitCount (num / den) - 1
  else -(digitCount ((den + num - 1) / num - 1) : Int)

/-- A quarter of the unit `2 ^ e`, as numerator and denominator. -/
def quarterUnit (e : Int) : Nat × Nat :=
  if 0 ≤ e then (pow2 e.toNat, 4) else (1, 4 * pow2 (-e).toNat)

/-- The ends of the interval that is read as `m * 2 ^ e`, in quarters of the unit. -/
def readingInterval (m : Nat) (e : Int) : Nat × Nat :=
  (if m = pow2 52 ∧ -1074 < e then 4 * m - 1 else 4 * m - 2, 4 * m + 2)

/-- The point of the grid `10 ^ k` that stands for `m * 2 ^ e`, if one next to it is read as it. -/
def gridPoint? (m : Nat) (e : Int) (k : Int) : Option Nat :=
  let (unit, den) := quarterUnit e
  -- values are compared as multiples of `1 / (den * 10 ^ -k)`
  let point (q : Nat) : Nat := if 0 ≤ k then q * pow10 k.toNat * den else q * den
  let quarters (n : Nat) : Nat := if 0 ≤ k then n * unit else n * unit * pow10 (-k).toNat
  let (low, high) := readingInterval m e
  let value := quarters (4 * m)
  let step := point 1
  let below := value / step
  let above := below + 1
  let isRead (q : Nat) : Bool :=
    if m % 2 = 0 then quarters low ≤ point q && point q ≤ quarters high
    else quarters low < point q && point q < quarters high
  match isRead below && 0 < below, isRead above with
  | true, true =>
    let down := value - point below
    let up := point above - value
    some (if down < up then below else if up < down then above else if below % 2 = 0 then below else above)
  | true, false => some below
  | false, true => some above
  | false, false => none

/-- The decimal of fewest digits that is read as `m * 2 ^ e`, nearest to it among those. -/
def shortest (m : Nat) (e : Int) : DecimalNumber :=
  let (unit, den) := quarterUnit e
  let top := leadingPower (4 * m * unit) den
  let onGrid (n : Nat) : Option DecimalNumber :=
    (gridPoint? m e (top - n)).map fun q => ⟨q, top - n⟩
  ((List.range 17).findSome? onGrid).getD ⟨m, e⟩

/-- The digits of a number without the zeros at its end. -/
def significantDigits (n : Nat) : List Char :=
  ((Nat.toDigits 10 n).reverse.dropWhile (· = '0')).reverse

/-- The power of ten where positional writing ends. -/
def positionalEnd : Int := 16

/-- The least power of ten that is written positionally. -/
def positionalStart : Int := -4

/-- An integer with its sign and at least two digits. -/
def powerText (p : Int) : String :=
  let digits := toString p.natAbs
  (if p < 0 then "-" else "+") ++ (if digits.length < 2 then "0" else "") ++ digits

/-- A positive decimal number as text. -/
def DecimalNumber.text (d : DecimalNumber) : String :=
  let digits := significantDigits d.digits
  let power : Int := d.exponent + (Nat.toDigits 10 d.digits).length - 1
  let zeros (n : Int) : List Char := List.replicate n.toNat '0'
  if positionalStart ≤ power ∧ power < positionalEnd then
    if power < 0 then String.ofList ("0.".toList ++ zeros (-power - 1) ++ digits)
    else
      let whole := digits.take (power.toNat + 1)
      let places := digits.drop (power.toNat + 1)
      String.ofList (whole ++ zeros (power + 1 - whole.length) ++ '.' :: (if places.isEmpty then ['0'] else places))
  else
    let places := digits.drop 1
    String.ofList (digits.take 1 ++ (if places.isEmpty then [] else '.' :: places)) ++ "e" ++ powerText power

/-- A double as text. -/
def text : Binary64 → String
  | nan => "nan"
  | infinite negative => if negative then "-inf" else "inf"
  | finite negative m e =>
    (if negative then "-" else "") ++ (if m = 0 then "0.0" else (shortest m e).text)

end WireBridge.Binary64
