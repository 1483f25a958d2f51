import WireBridge.Text.Blank
import WireBridge.Text.CharacterName.Alphabets
import WireBridge.Text.CharacterName.Ancient
import WireBridge.Text.CharacterName.EastAsian
import WireBridge.Text.CharacterName.Others
import WireBridge.Text.CharacterName.Pictures
import WireBridge.Text.CharacterName.Scripts
import WireBridge.Text.CharacterName.Symbols
import WireBridge.Text.Hexadecimal
import WireBridge.Text.Identifier

/-!
# Names of characters

Data of Unicode 14. Most names stand in tables, whose lines hold rows between semicolons. A row begins with a code
point and with words that its names share; behind a colon follow the ends of the names of the characters from that
code point on. Some names end in the code point itself, and the names of Hangul syllables are made of their letters.

* `characterNamed?` : the character of a name. Capital and small letters count alike, but not in the names of Hangul
  syllables and of unified ideographs, which are capital.
-/

set_option autoImplicit false

namespace WireBridge.Text

/-! ## Tables -/

def nameTables : List (List String) :=
  [alphabetNames, scriptNames, symbolNames, eastAsianNames, ancientNames, pictureNames]

/-- The rows of a line. -/
def nameRows (line : String) : List (List Char) := splitAt ';' line.toList

/-- What stands before the colon of a row: a code point, and words with a space behind each. -/
def rowStart (row : List Char) : Nat × List Char :=
  match inkParts (row.takeWhile (· ≠ ':')) with
  | [] => (0, [])
  | point :: words => ((hexNumber? point).getD 0, words.flatMap (· ++ [' ']))

/-- The names, or ends of names, behind the colon of a row. -/
def rowNames (row : List Char) : List (List Char) :=
  (splitAt ',' ((row.dropWhile (· ≠ ':')).drop 1)).map strip

/-- The code point of a name in a row. -/
def codeInRow? (name row : List Char) : Option Nat :=
  let (first, shared) := rowStart row
  if shared.isPrefixOf name then ((rowNames row).findIdx? (· = name.drop shared.length)).map (first + ·) else none

/-- The code point of a name in the tables. -/
def tabledCode? (name : List Char) : Option Nat :=
  nameTables.findSome? fun table => table.findSome? fun line => (nameRows line).findSome? (codeInRow? name)

/-- The code point of which a name is another name. -/
def otherCode? (name : List Char) : Option Nat :=
  otherNames.findSome? fun line =>
    (nameRows line).findSome? fun row => if (rowNames row).contains name then some (rowStart row).1 else none

/-! ## Rules -/

/-- What follows the words that a name begins with. -/
def afterWords? (words : String) (name : List Char) : Option (List Char) :=
  if words.toList.isPrefixOf name then some (name.drop words.length) else none

def isInRanges (ranges : List (Nat × Nat)) (n : Nat) : Bool := ranges.any fun r => r.1 ≤ n && n ≤ r.2

/-- Beginnings of names that end in their code point, and the code points. -/
def numberedNames : List (String × List (Nat × Nat)) :=
  [("CJK COMPATIBILITY IDEOGRAPH-", [(0xF900, 0xFA6D), (0xFA70, 0xFAD9), (0x2F800, 0x2FA1D)]),
    ("KHITAN SMALL SCRIPT CHARACTER-", [(0x18B00, 0x18CD5)]), ("NUSHU CHARACTER-", [(0x1B170, 0x1B2FB)])]

/-- The code point that a name ends in, written with at least four digits and no needless zero. -/
def numberedCode? (name : List Char) : Option Nat :=
  numberedNames.findSome? fun (words, ranges) => do
    let digits ← afterWords? words name
    let n ← hexNumber? digits
    if digits.length = (if n < 0x10000 then 4 else 5) ∧ isInRanges ranges n then some n else none

/-- The unified ideographs. -/
def unifiedIdeographs : List (Nat × Nat) :=
  [(0x3400, 0x4DBF), (0x4E00, 0x9FFF), (0x20000, 0x2A6DF), (0x2A700, 0x2B738), (0x2B740, 0x2B81D), (0x2B820, 0x2CEA1),
    (0x2CEB0, 0x2EBE0), (0x30000, 0x3134A)]

/-- The code point of a unified ideograph, in four or five capital digits. -/
def ideographCode? (name : List Char) : Option Nat := do
  let digits ← afterWords? "CJK UNIFIED IDEOGRAPH-" name
  let n ← hexNumber? digits
  if (digits.length = 4 ∨ digits.length = 5) ∧ !digits.any Char.isLower ∧ isInRanges unifiedIdeographs n then some n
  else none

/-- Variation selectors by their number, of which the first sixteen stand apart from the others. -/
def selectorCode? (name : List Char) : Option Nat := do
  let digits ← afterWords? "VS" name
  if digits.all Char.isDigit ∧ digits.head? ≠ some '0' ∧ digits ≠ [] ∧ digits.length ≤ 3 then
    let n := digits.foldl (fun n c => 10 * n + (c.toNat - '0'.toNat)) 0
    if n ≤ 16 then some (0xFDFF + n) else if n ≤ 256 then some (0xE0100 + n - 17) else none
  else none

/-- The letters that begin a Hangul syllable. -/
def hangulStarts : List String :=
  ["G", "GG", "N", "D", "DD", "R", "M", "B", "BB", "S", "SS", "", "J", "JJ", "C", "K", "T", "P", "H"]

/-- The vowels of Hangul syllables. -/
def hangulVowels : List String :=
  ["A", "AE", "YA", "YAE", "EO", "E", "YEO", "YE", "O", "WA", "WAE", "OE", "YO", "U", "WEO", "WE", "WI", "YU", "EU",
    "YI", "I"]

/-- The letters that end a Hangul syllable. -/
def hangulEnds : List String :=
  ["", "G", "GG", "GS", "N", "NJ", "NH", "D", "L", "LG", "LM", "LB", "LS", "LT", "LP", "LH", "M", "B", "BS", "S", "SS",
    "NG", "J", "C", "K", "T", "P", "H"]

/-- The longest of some letters that a text begins with, by its place, and the rest. -/
def longestLetters? (letters : List String) (s : List Char) : Option (Nat × List Char) :=
  let fitting := letters.zipIdx.filter fun l => l.1.toList.isPrefixOf s
  (fitting.foldl (fun best l => if best.any (l.1.length ≤ ·.1.length) then best else some l) none).map fun l =>
    (l.2, s.drop l.1.length)

/-- The code point of a Hangul syllable. -/
def hangulCode? (name : List Char) : Option Nat := do
  let letters ← afterWords? "HANGUL SYLLABLE " name
  let (start, letters) ← longestLetters? hangulStarts letters
  let (vowel, letters) ← longestLetters? hangulVowels letters
  let (finish, rest) ← longestLetters? hangulEnds letters
  if rest = [] then some (0xAC00 + (start * 21 + vowel) * 28 + finish) else none

/-! ## Characters -/

/-- The code point of a name whose letters are capital. -/
def capitalCode? (name : List Char) : Option Nat :=
  (numberedCode? name).or ((selectorCode? name).or ((tabledCode? name).or (otherCode? name)))

/-- The character of a name. -/
def characterNamed? (name : List Char) : Option Char :=
  (((hangulCode? name).or (ideographCode? name)).or (capitalCode? (name.map Char.toUpper))) >>= character?

end WireBridge.Text
