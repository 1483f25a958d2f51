/-!
# Wildcard patterns

A `Glob` is a list of pieces: any text, any one character, a given character, or one character of a class.
`Glob.ofText` reads a pattern and `Glob.matches` decides whether a text as a whole fits it.

In a pattern `*` and `?` are the two wildcards and brackets hold a class, whose first `]` is a member and whose
leading `!` makes it the complement; a bracket that is never closed stands for itself. Hyphens cut a class into
chunks, and the characters on both sides of a cut span a range: `classChunks` looks for the next cut from the
third place after the last one, a hyphen at the end is a member, and `mergeChunks` takes out the ranges that
run backwards. A class that is left empty fits no character, and its complement any.
-/

set_option autoImplicit false

namespace WireBridge.Text

/-- A member of a class: one character, or all from the first to the last. -/
structure CharRange where
  first : Char
  last : Char
  deriving DecidableEq, Repr

inductive GlobPiece
  | anyText
  | anyChar
  | literal (c : Char)
  | oneOf (members : List CharRange)
  | noneOf (members : List CharRange)
  deriving DecidableEq, Repr

abbrev Glob := List GlobPiece

/-! ## Classes -/

/-- The text up to a bracket that closes a class, and what follows it; the first character closes none. -/
def classBody? (s : List Char) : Option (List Char × List Char) :=
  let opening := s.takeWhile (· = '!') |>.take 1
  let afterBang := s.drop opening.length
  let first := afterBang.take 1 |>.filter (· = ']')
  let rest := afterBang.drop first.length
  let body := rest.takeWhile (· ≠ ']')
  if body.length < rest.length then some (opening ++ first ++ body, rest.drop (body.length + 1)) else none

/-- The chunks of a class between its cuts, where the next cut is at least `skip` characters away. -/
def chunksFrom (skip : Nat) : List Char → List (List Char)
  | [] => [[]]
  | c :: rest =>
    if skip = 0 ∧ c = '-' then [] :: chunksFrom 2 rest
    else
      match chunksFrom (skip - 1) rest with
      | [] => [[c]]
      | chunk :: chunks => (c :: chunk) :: chunks

/-- The chunks of a class; a cut at the very end leaves its hyphen in the chunk before. -/
def classChunks (body : List Char) : List (List Char) :=
  let chunks := chunksFrom (if body.head? = some '!' then 2 else 1) body
  if chunks.getLast? = some [] then
    match chunks.dropLast.reverse with
    | [] => []
    | last :: before => ((last ++ ['-']) :: before).reverse
  else chunks

/-- The chunks without the ranges that run backwards: both ends go and the two chunks become one. -/
def mergeChunks : List (List Char) → List (List Char)
  | [] => []
  | chunk :: chunks =>
    match mergeChunks chunks with
    | [] => [chunk]
    | next :: more =>
      match chunk.getLast?, next.head? with
      | some a, some b => if b < a then (chunk.dropLast ++ next.drop 1) :: more else chunk :: next :: more
      | _, _ => chunk :: next :: more

/-- A character of a class, or the mark of a range. -/
inductive ClassToken
  | char (c : Char)
  | span
  deriving DecidableEq, Repr

def classTokens (chunks : List (List Char)) : List ClassToken :=
  [ClassToken.span].intercalate (chunks.map fun chunk => chunk.map ClassToken.char)

/-- A range is a mark between two characters; a mark without a character before it is a hyphen. -/
def classMembers : List ClassToken → List CharRange
  | .char a :: .span :: .char b :: rest => ⟨a, b⟩ :: classMembers rest
  | .char a :: rest => ⟨a, a⟩ :: classMembers rest
  | .span :: rest => ⟨'-', '-'⟩ :: classMembers rest
  | [] => []

/-- The class that the text between two brackets stands for. -/
def classPiece (body : List Char) : GlobPiece :=
  match classTokens (mergeChunks (classChunks body)) with
  | .char '!' :: [] => .anyChar
  | .char '!' :: tokens => .noneOf (classMembers tokens)
  | tokens => .oneOf (classMembers tokens)

/-! ## Patterns -/

theorem length_of_classBody? {s body rest : List Char} (h : classBody? s = some (body, rest)) :
    rest.length ≤ s.length := by
  simp only [classBody?] at h
  split at h
  · simp only [Option.some.injEq, Prod.mk.injEq] at h
    rw [← h.2]
    simp only [List.length_drop]
    omega
  · simp at h

def Glob.ofChars : List Char → Glob
  | [] => []
  | c :: rest =>
    if c = '*' then .anyText :: ofChars rest
    else if c = '?' then .anyChar :: ofChars rest
    else if c = '[' then
      match _h : classBody? rest with
      | some (body, rest') => classPiece body :: ofChars rest'
      | none => .literal c :: ofChars rest
    else .literal c :: ofChars rest
termination_by s => s.length
decreasing_by
  all_goals simp only [List.length_cons]
  all_goals first | omega | exact Nat.lt_succ_of_le (length_of_classBody? _h)

def Glob.ofText (s : String) : Glob := Glob.ofChars s.toList

def CharRange.holds (r : CharRange) (c : Char) : Bool := r.first ≤ c && c ≤ r.last

/-- Whether a piece other than the wildcard for any text fits a character. -/
def GlobPiece.fits : GlobPiece → Char → Bool
  | .anyText, _ => true
  | .anyChar, _ => true
  | .literal d, c => c = d
  | .oneOf members, c => members.any (·.holds c)
  | .noneOf members, c => !members.any (·.holds c)

/-- Some end of the text satisfies `p`. -/
def someSuffix (p : List Char → Bool) : List Char → Bool
  | [] => p []
  | c :: rest => p (c :: rest) || someSuffix p rest

def Glob.matchesChars : Glob → List Char → Bool
  | [], s => s.isEmpty
  | .anyText :: g, s => someSuffix (matchesChars g) s
  | _ :: _, [] => false
  | p :: g, c :: s => p.fits c && matchesChars g s

/-- The text as a whole fits the pattern. -/
def Glob.matches (g : Glob) (s : String) : Bool := g.matchesChars s.toList

end WireBridge.Text
