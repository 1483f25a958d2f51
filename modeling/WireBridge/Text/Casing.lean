import WireBridge.Text.Casing.Table

/-!
# Upper and lower case

* `upper`, `lower` : a text in upper and in lower case, by the full mappings (one letter may become several);
* `isCapital c` : `c` is an upper case letter;
* the letter sigma has a small form of its own at the end of a word: `lower` writes it after a letter with a
  case and before none, where characters that do not separate letters are passed over (`endsWord`).

ASCII is mapped by core's functions and never reaches the tables (`upperChar_of_ascii`, `lowerChar_of_ascii`,
`isCapital_of_ascii`).
-/

set_option autoImplicit false

namespace WireBridge.Text

def isAscii (c : Char) : Bool := c.toNat < 128

/-- The upper case of one character. -/
def upperChar (c : Char) : List Char :=
  if isAscii c then [c.toUpper]
  else
    match upperExpansions.lookup c.toNat, upperRuns.findSome? (·.map? c.toNat) with
    | some ns, _ => ns.map Char.ofNat
    | none, some n => [Char.ofNat n]
    | none, none => [c]

/-- The lower case of one character, apart from its place in a word. -/
def lowerChar (c : Char) : List Char :=
  if isAscii c then [c.toLower]
  else if c = '\u0130' then ['i', '\u0307']
  else
    match lowerRuns.findSome? (·.map? c.toNat) with
    | some n => [Char.ofNat n]
    | none => [c]

def isCapital (c : Char) : Bool :=
  if isAscii c then c.isUpper else capitalRuns.any fun r => (r.map? c.toNat).isSome

/-- A character that does not separate letters of one word. -/
def isIgnorable (c : Char) : Bool :=
  if isAscii c then c = '\'' || c = '.' || c = ':' || c = '^' || c = '\x60'
  else ignorableRanges.any fun r => r.1 ≤ c.toNat && c.toNat ≤ r.2

/-- A letter with a case. -/
def isCased (c : Char) : Bool :=
  if isAscii c then c.isAlpha else casedRanges.any fun r => r.1 ≤ c.toNat && c.toNat ≤ r.2

/-- No letter with a case follows, apart from characters that are passed over. -/
def endsWord (rest : List Char) : Bool :=
  match rest.dropWhile isIgnorable with
  | [] => true
  | c :: _ => !isCased c

def upper (s : List Char) : List Char := s.flatMap upperChar

/-- The lower case of a text that follows a letter with a case iff `inWord`. -/
def lowerFrom (inWord : Bool) : List Char → List Char
  | [] => []
  | c :: rest =>
    let small := if c = '\u03A3' && inWord && endsWord rest then ['\u03C2'] else lowerChar c
    small ++ lowerFrom (if isIgnorable c then inWord else isCased c) rest

def lower (s : List Char) : List Char := lowerFrom false s

theorem upperChar_of_ascii {c : Char} (h : isAscii c = true) : upperChar c = [c.toUpper] := by
  simp [upperChar, h]

theorem lowerChar_of_ascii {c : Char} (h : isAscii c = true) : lowerChar c = [c.toLower] := by
  simp [lowerChar, h]

theorem isCapital_of_ascii {c : Char} (h : isAscii c = true) : isCapital c = c.isUpper := by
  simp [isCapital, h]

end WireBridge.Text
