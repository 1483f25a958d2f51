import WireBridge.CommandLine.Emoji.Table
import WireBridge.Text.Blank
import WireBridge.Text.Casing
import WireBridge.Text.Hexadecimal
import WireBridge.Text.Identifier

/-!
# Emoji codes

A code is the name of an emoji between two colons, with no blank in between, in capital or small letters. Behind the
name `-emoji` or `-text` may ask for one of its two looks.

* `Emoji.named?` : the emoji of a name;
* `Emoji.replaceCodes` : a text with emoji in place of its codes; a code that names none stays.
-/

set_option autoImplicit false

namespace WireBridge.Emoji

/-! ## Names -/

/-- The rows of a table, each cut into words. -/
def rowsOf (table : List String) : List (List (List Char)) :=
  table.flatMap fun line => (Text.splitAt ';' line.toList).map Text.inkParts

/-- The names in a table, each with the first word of its row. -/
def entriesOf (table : List String) : List (List Char × List Char) :=
  (rowsOf table).flatMap fun row =>
    match row with
    | [] => []
    | word :: names => names.map (·, word)

/-- The characters of code points that are joined by plus signs. -/
def ofCodePoints (s : List Char) : List Char := (Text.splitAt '+' s).filterMap Text.hexCharacter?

/-- The flag of a region: every letter has an indicator. -/
def flagOf (region : List Char) : List Char := region.map fun c => Char.ofNat (0x1F1E6 + (c.toNat - 'A'.toNat))

def emojiEntries : List (List Char × List Char) := entriesOf emojiTable

def tonedEntries : List (List Char × List Char) := entriesOf tonedTable

def flagEntries : List (List Char × List Char) := entriesOf flagTable

def flagOnlyEntries : List (List Char × List Char) := entriesOf flagOnlyTable

/-- The ends of names that ask for a skin tone, from the lightest tone to the darkest. -/
def toneEndings : List String :=
  ["_light_skin_tone", "_medium-light_skin_tone", "_medium_skin_tone", "_medium-dark_skin_tone", "_dark_skin_tone"]

/-- The skin tones by their endings. -/
def tones : List (List Char × Char) :=
  toneEndings.zipIdx.map fun (ending, n) => (ending.toList, Char.ofNat (0x1F3FB + n))

def emojiSelector : Char := '\ufe0f'

def textSelector : Char := '\ufe0e'

/-- An emoji in a skin tone, which stands behind its first character in place of a selector. -/
def inTone (tone : Char) : List Char → List Char
  | [] => []
  | c :: rest => c :: tone :: (if rest.head? = some emojiSelector then rest.drop 1 else rest)

/-- The text before an ending. -/
def beforeEnding? (ending s : List Char) : Option (List Char) :=
  if ending.isSuffixOf s then some (s.take (s.length - ending.length)) else none

/-- The emoji of a name that asks for a skin tone. -/
def tonedNamed? (name : List Char) : Option (List Char) :=
  tones.findSome? fun (ending, tone) => do
    let base ← beforeEnding? ending name
    let points ← tonedEntries.lookup base
    return inTone tone (ofCodePoints points)

def flagNamed? (name : List Char) : Option (List Char) :=
  let ofRegion (entries : List (List Char × List Char)) (n : List Char) := (entries.lookup n).map flagOf
  let mark := "flag_for_".toList
  if mark.isPrefixOf name then
    let region := name.drop mark.length
    (ofRegion flagEntries region).or (ofRegion flagOnlyEntries region)
  else ofRegion flagEntries name

/-- The emoji of a name in small letters. -/
def named? (name : List Char) : Option (List Char) :=
  (((emojiEntries.lookup name).or (tonedEntries.lookup name)).map ofCodePoints).or
    ((flagNamed? name).or (tonedNamed? name))

/-! ## Codes -/

/-- The emoji of a code without its colons. -/
def ofCode? (code : List Char) : Option (List Char) :=
  match beforeEnding? "-emoji".toList code, beforeEnding? "-text".toList code with
  | some name, _ => (named? (Text.lower name)).map (· ++ [emojiSelector])
  | none, some name => (named? (Text.lower name)).map (· ++ [textSelector])
  | none, none => named? (Text.lower code)

def isCodeChar (c : Char) : Bool := c ≠ ':' && Text.isInk c

/-- What stands between the colon before a text and the next one, and the text behind that. -/
def code? (s : List Char) : Option (List Char × List Char) :=
  match s.dropWhile isCodeChar with
  | ':' :: rest => some (s.takeWhile isCodeChar, rest)
  | _ => none

theorem length_of_code? {s code rest : List Char} (h : code? s = some (code, rest)) : rest.length < s.length := by
  unfold code? at h
  split at h
  · next r hr =>
    cases h
    have := (List.dropWhile_sublist isCodeChar (l := s)).length_le
    rw [hr] at this
    simp only [List.length_cons] at this
    omega
  · cases h

/-- The text with emoji in place of its codes. -/
def replaceCodes : List Char → List Char
  | [] => []
  | c :: rest =>
    if c = ':' then
      match _h : code? rest with
      | some (code, after) => (ofCode? code).getD (':' :: code ++ [':']) ++ replaceCodes after
      | none => c :: replaceCodes rest
    else c :: replaceCodes rest
termination_by s => s.length
decreasing_by
  · have := length_of_code? _h
    simp only [List.length_cons]
    omega
  · simp
  · simp

end WireBridge.Emoji
