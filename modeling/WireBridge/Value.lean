import WireBridge.Decimal.Reading
import WireBridge.Decimal.Shortest
import WireBridge.Text.Quoted

/-!
# Values in a definition file

A `Value` is what an annotation argument or an option is set to.

* `plain` : the value as text; `literal` : the same with texts quoted. An integer is written out in decimals, which it
  has to be short enough for (`isPrintable`): one of more than `maxDigits` digits has no text (`plain?`);
* `same` : equality across the kinds of number, where `true` is one and `false` is zero;
* `isPresent` : neither nothing, nor an empty text, nor `false`, nor a zero.
-/

set_option autoImplicit false

namespace WireBridge

/-- The decimal digits that an integer may have where it is read or written out. -/
def maxDigits : Nat := 4300

inductive Value
  | text (s : String)
  | integer (n : Int)
  | double (d : Binary64)
  | boolean (b : Bool)
  | null
  deriving DecidableEq, Repr

namespace Value

/-- The value as text. -/
def plain : Value → String
  | text s => s
  | integer n => toString n
  | double d => d.text
  | boolean b => if b then "True" else "False"
  | null => "None"

/-- The value as a literal of the generated language. -/
def literal : Value → String
  | text s => Text.quoted s
  | v => v.plain

/-- The value can be written out. -/
def isPrintable : Value → Bool
  | integer n => (Nat.toDigits 10 n.natAbs).length ≤ maxDigits
  | _ => true

/-- The value as text, if it can be written out. -/
def plain? (v : Value) : Option String := if v.isPrintable then some v.plain else none

/-- The whole number that a value counts as. -/
def wholeNumber? : Value → Option Int
  | integer n => some n
  | boolean b => some (if b then 1 else 0)
  | _ => none

/-- The two values are equal. -/
def same : Value → Value → Bool
  | text s, text t => s == t
  | null, null => true
  | double d, double d' => d.same d'
  | double d, v => v.wholeNumber?.any d.sameInt
  | v, double d => v.wholeNumber?.any d.sameInt
  | v, w =>
    match v.wholeNumber?, w.wholeNumber? with
    | some n, some m => n == m
    | _, _ => false

/-- The value counts as given where a setting falls back to another. -/
def isPresent : Value → Bool
  | text s => s ≠ ""
  | integer n => n ≠ 0
  | double d => !d.isZero
  | boolean b => b
  | null => false

theorem isPresent_text (s : String) : (text s).isPresent = true ↔ s ≠ "" := by simp [isPresent]

end Value

end WireBridge
