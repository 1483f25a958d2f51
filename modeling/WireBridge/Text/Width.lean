import WireBridge.Text.Width.Table

/-!
# Columns on a terminal

* `cellWidth c` : the columns that a character takes: none, one or two;
* `width s` : the columns of a text on one line. A character after a joiner is drawn into the one before and takes
  none, and the selector of the look as emoji may make the character before wide;
* `clusters` : the pieces of a text that are not cut apart;
* `takeColumns n` : the start of a text that fills `n` columns.
-/

set_option autoImplicit false

namespace WireBridge.Text

def isWithin (ranges : List (Nat × Nat)) (c : Char) : Bool :=
  ranges.any fun r => r.1 ≤ c.toNat && c.toNat ≤ r.2

def cellWidth (c : Char) : Nat :=
  if 32 ≤ c.toNat && c.toNat < 127 then 1
  else if isWithin unseenRanges c then 0
  else if isWithin wideRanges c then 2
  else 1

def isJoiner (c : Char) : Bool := c = '\u200d'

def isEmojiSelector (c : Char) : Bool := c = '\ufe0f'

/-- The columns that a selector adds to the character before it. -/
def selectorWidth (before : Option Char) : Nat := if before.any (isWithin narrowEmojiRanges) then 1 else 0

/-- A character that a selector behind it may change. -/
def visible? (c : Char) : Option Char := if cellWidth c = 0 then none else some c

/-- The columns of a text behind a character that a selector may make wide. -/
def widthAfter (before : Option Char) : List Char → Nat
  | [] => 0
  | [c] => if isEmojiSelector c then selectorWidth before else cellWidth c
  | c :: d :: rest =>
    if isJoiner c then widthAfter before rest
    else if isEmojiSelector c then selectorWidth before + widthAfter none (d :: rest)
    else cellWidth c + widthAfter ((visible? c).or before) (d :: rest)

/-- The columns of a text on one line. -/
def width (s : List Char) : Nat := widthAfter none s

/-! ## Cutting -/

/-- Characters that are drawn together, and the columns they take. -/
structure Cluster where
  characters : List Char
  columns : Nat
  deriving DecidableEq, Repr

/-- What follows a character in its cluster, the columns that selectors add to it, and the rest of the text. -/
def clusterTail (before : Option Char) : List Char → List Char × Nat × List Char
  | [] => ([], 0, [])
  | [c] =>
    if isEmojiSelector c then ([c], selectorWidth before, [])
    else if cellWidth c = 0 then ([c], 0, [])
    else ([], 0, [c])
  | c :: d :: rest =>
    if isJoiner c then
      let (cs, n, after) := clusterTail before rest
      (c :: d :: cs, n, after)
    else if isEmojiSelector c then
      let added := selectorWidth before
      let (cs, n, after) := clusterTail (if added = 0 then before else none) (d :: rest)
      (c :: cs, added + n, after)
    else if cellWidth c = 0 then
      let (cs, n, after) := clusterTail before (d :: rest)
      (c :: cs, n, after)
    else ([], 0, c :: d :: rest)

theorem length_clusterTail (before : Option Char) (s : List Char) : (clusterTail before s).2.2.length ≤ s.length := by
  fun_induction clusterTail before s <;> simp_all <;> omega

/-- The clusters of a text. -/
def clusters : List Char → List Cluster
  | [] => []
  | c :: rest =>
    let tail := clusterTail (visible? c) rest
    ⟨c :: tail.1, cellWidth c + tail.2.1⟩ :: clusters tail.2.2
termination_by s => s.length
decreasing_by
  have := length_clusterTail (visible? c) rest
  simp only [List.length_cons]
  omega

/-- The first clusters up to some columns; a space stands for half of one. -/
def takeClusters : Nat → List Cluster → List Char
  | _, [] => []
  | n, k :: ks =>
    if n = 0 then []
    else if k.columns ≤ n then k.characters ++ takeClusters (n - k.columns) ks
    else [' ']

/-- The start of a text that fills some columns. -/
def takeColumns (n : Nat) (s : List Char) : List Char := takeClusters n (clusters s)

end WireBridge.Text
