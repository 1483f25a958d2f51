/-!
# Lines of a text

* `isLineEnd c` : `c` ends a line; a carriage return and the line feed after it end one line together;
* `splitLines` : the lines of a text, without their ends; an end that closes the text opens no further line;
* `unifyLineEnds` : a text whose lines all end in a line feed;
* `joinLines` : lines with a line feed between two of them;
* `hang n` : every line but the first, unless empty, moved `n` columns to the right.
-/

set_option autoImplicit false

namespace WireBridge.Text

/-- The characters that end a line. -/
def isLineEnd (c : Char) : Bool :=
  let n := c.toNat
  (10 ≤ n && n ≤ 13) || (28 ≤ n && n ≤ 30) || n == 0x85 || n == 0x2028 || n == 0x2029

def splitLines : List Char → List (List Char)
  | [] => []
  | '\r' :: '\n' :: rest => [] :: splitLines rest
  | c :: rest =>
    if isLineEnd c then [] :: splitLines rest
    else
      match splitLines rest with
      | [] => [[c]]
      | line :: lines => (c :: line) :: lines

/-- The text with a line feed in place of every carriage return, or of one and the line feed after it. -/
def unifyLineEnds : List Char → List Char
  | [] => []
  | '\r' :: '\n' :: rest => '\n' :: unifyLineEnds rest
  | c :: rest => (if c = '\r' then '\n' else c) :: unifyLineEnds rest

def joinLines (lines : List String) : String := "\n".intercalate lines

def spaces (n : Nat) : String := String.ofList (List.replicate n ' ')

/-- A margin of `n` columns, on lines that hold something. -/
def padLine (n : Nat) (line : String) : String := if line = "" then line else spaces n ++ line

/-- The text as it continues at column `n` below the column where it starts. -/
def hang (n : Nat) (s : String) : String :=
  match (splitLines (s.toList ++ ['\n'])).map String.ofList with
  | [] => ""
  | first :: more => joinLines (first :: more.map (padLine n))

end WireBridge.Text
