import WireBridge.Text.Blank
import WireBridge.Text.Identifier
import WireBridge.Text.Width

/-!
# Texts in a column

* `expandTabs` : a line with spaces up to the next tab stop in place of its tabs;
* `words` : the words of a line, each with the blanks behind it;
* `fillLines` : the words put on lines as long as they fit;
* `wrapLine` : a line as it is written in a column of some width. A word that does not fit on a line of its own is
  cut, and an ellipsis shows it.
-/

set_option autoImplicit false

namespace WireBridge.Text

/-! ## Tabs -/

def tabStop : Nat := 8

/-- The space that leads from a column to the next tab stop. -/
def tabGap (column : Nat) : Nat := (tabStop - column % tabStop) % tabStop

/-- The parts of a line that begins at some column, with space between them that a tab asks for. -/
def joinAtTabs (column : Nat) : List (List Char) → List Char
  | [] => []
  | [last] => last
  | part :: parts =>
    let reached := column + width (part ++ [' '])
    part ++ ' ' :: List.replicate (tabGap reached) ' ' ++ joinAtTabs (reached + tabGap reached) parts

/-- The line with spaces in place of its tabs. -/
def expandTabs (s : List Char) : List Char := joinAtTabs 0 (splitAt '\t' s)

/-! ## Words -/

/-- The text up to the next word: what is left of a word, and the blanks behind it. -/
def wordEnd (s : List Char) : List Char := s.takeWhile isInk ++ (s.dropWhile isInk).takeWhile isBlank

def afterWord (s : List Char) : List Char := (s.dropWhile isInk).dropWhile isBlank

theorem wordEnd_append_afterWord (s : List Char) : wordEnd s ++ afterWord s = s := by
  rw [wordEnd, afterWord, List.append_assoc, List.takeWhile_append_dropWhile, List.takeWhile_append_dropWhile]

theorem length_afterWord_le (s : List Char) : (afterWord s).length ≤ s.length := by
  have h := congrArg List.length (wordEnd_append_afterWord s)
  rw [List.length_append] at h
  omega

/-- The words of a text, with the blanks behind each. -/
def words : List Char → List (List Char)
  | [] => []
  | c :: rest => (c :: wordEnd rest) :: words (afterWord rest)
termination_by s => s.length
decreasing_by
  have := length_afterWord_le rest
  simp only [List.length_cons]
  omega

/-- The words of a line; the blanks that begin the line belong to the first. -/
def lineWords (s : List Char) : List (List Char) :=
  match words (s.dropWhile isBlank) with
  | [] => [s]
  | word :: more => (s.takeWhile isBlank ++ word) :: more

def stripEnd (s : List Char) : List Char := (s.reverse.dropWhile isBlank).reverse

/-! ## Lines -/

/-- Words after a line that has reached some column: a word that does not fit begins a line. -/
def fillLines (columns : Nat) (line : List Char) (reached : Nat) : List (List Char) → List (List Char)
  | [] => [line]
  | word :: more =>
    if reached + width (stripEnd word) ≤ columns then fillLines columns (line ++ word) (reached + width word) more
    else line :: fillLines columns word (width word) more

/-- The lines that hold the words of a text. -/
def wordLines (columns : Nat) (s : List Char) : List (List Char) :=
  match lineWords s with
  | [] => [[]]
  | word :: more => fillLines columns word (width word) more

/-- The line without the blanks at its end, as far as it has more characters than columns. -/
def cropEnd (columns : Nat) (line : List Char) : List Char :=
  line.take (max columns (stripEnd line).length)

def ellipsis : Char := '…'

/-- The line if it fits, else its start and an ellipsis. -/
def cutLine (columns : Nat) (line : List Char) : List Char :=
  if width line ≤ columns then line else takeColumns (columns - 1) line ++ [ellipsis]

/-- A line of text as lines of a column. -/
def wrapLine (columns : Nat) (s : List Char) : List (List Char) :=
  (wordLines columns (expandTabs s)).map fun line => cutLine columns (cropEnd columns line)

end WireBridge.Text
