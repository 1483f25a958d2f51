import WireBridge.Text.CharacterName

/-!
# Escapes inside a string literal

`decodeEscapes` reads the text between the quotes of a literal. A backslash starts an escape: the usual
one-letter controls, one to three octal digits, `x`, `u` and `U` with two, four and eight hexadecimal
digits, `N` with the name of a character in braces; before the end of a line it joins the two lines. Any other
character after a backslash stands for itself and the backslash stays. What a literal stands for are code points,
since a hexadecimal escape may be that of a surrogate; two surrogates that make a pair stay two. A literal has no
value when a hexadecimal escape is short, when an escape stands for no code point, when a line ends inside it, or
when it holds a null character as it is.
-/

set_option autoImplicit false

namespace WireBridge.Text

/-- What a backslash and a letter stand for. -/
def controlEscape? : Char → Option Char
  | '\\' => some '\\'
  | '\'' => some '\''
  | '"' => some '"'
  | 'a' => some '\x07'
  | 'b' => some '\x08'
  | 'f' => some '\x0c'
  | 'n' => some '\n'
  | 'r' => some '\r'
  | 't' => some '\t'
  | 'v' => some '\x0b'
  | _ => none

/-- The code point of the first `n` hexadecimal digits, and what follows them. -/
def hexEscape? (n : Nat) (s : List Char) : Option (List CodePoint × List Char) :=
  if (s.take n).length = n then ((hexNumber? (s.take n)).bind codePoint?).map fun p => ([p], s.drop n) else none

/-- The code point of one to three octal digits, the first of which is `c`, and what follows them. -/
def octalEscape (c : Char) (s : List Char) : List CodePoint × List Char :=
  let more := (s.take 2).takeWhile isOctalDigit
  let n := (c :: more).foldl (fun n d => 8 * n + (octalDigit? d).getD 0) 0
  ([Fin.ofNat _ n], s.drop more.length)

/-- The character that a name in braces stands for, and what follows them. -/
def namedEscape? (s : List Char) : Option (List CodePoint × List Char) :=
  match s, (s.drop 1).dropWhile (· ≠ '\x7d') with
  | '\x7b' :: body, _ :: rest =>
    (characterNamed? (body.takeWhile (· ≠ '\x7d'))).map fun c => ([codePoint c], rest)
  | _, _ => none

/-- What the text after a backslash begins by standing for, and the rest of it. -/
def escape? : List Char → Option (List CodePoint × List Char)
  | [] => none
  | c :: rest =>
    if c = '\x00' then none
    else if c = '\n' ∨ c = '\r' then some ([], rest)
    else if c = 'N' then namedEscape? rest
    else if c = 'x' then hexEscape? 2 rest
    else if c = 'u' then hexEscape? 4 rest
    else if c = 'U' then hexEscape? 8 rest
    else if isOctalDigit c then some (octalEscape c rest)
    else some ((((controlEscape? c).map fun d => [d]).getD ['\\', c]).map codePoint, rest)

theorem length_of_namedEscape? {c : Char} {s rest : List Char} {out : List CodePoint}
    (h : namedEscape? s = some (out, rest)) : rest.length < (c :: s).length := by
  unfold namedEscape? at h
  split at h
  · next body d after hs =>
    obtain ⟨_, -, hd⟩ := Option.map_eq_some_iff.1 h
    cases hd
    have := (List.dropWhile_sublist (· ≠ '\x7d') (l := ('\x7b' :: body).drop 1)).length_le
    rw [hs] at this
    simp only [List.drop_succ_cons, List.drop_zero, List.length_cons] at this ⊢
    omega
  · cases h

theorem length_of_escape? {s rest : List Char} {out : List CodePoint} (h : escape? s = some (out, rest)) :
    rest.length < s.length := by
  cases s with
  | nil => simp [escape?] at h
  | cons c s =>
    have hex : ∀ n, hexEscape? n s = some (out, rest) → rest.length < (c :: s).length := by
      intro n hn
      simp only [hexEscape?] at hn
      split at hn
      · obtain ⟨d, -, hd⟩ := Option.map_eq_some_iff.1 hn
        simp only [Prod.mk.injEq] at hd
        rw [← hd.2, List.length_drop, List.length_cons]
        omega
      · simp at hn
    simp only [escape?] at h
    split at h
    · cases h
    split at h
    · simp only [Option.some.injEq, Prod.mk.injEq] at h; simp [h.2]
    split at h
    · exact length_of_namedEscape? h
    split at h
    · exact hex 2 h
    split at h
    · exact hex 4 h
    split at h
    · exact hex 8 h
    split at h
    · simp only [octalEscape, Option.some.injEq, Prod.mk.injEq] at h
      rw [← h.2, List.length_drop, List.length_cons]
      omega
    · simp only [Option.some.injEq, Prod.mk.injEq] at h; simp [h.2]

/-- The value of the text between the quotes of a literal. -/
def decodeEscapes : List Char → Option (List CodePoint)
  | [] => some []
  | c :: rest =>
    if c = '\r' ∨ c = '\x00' then none
    else if c = '\\' then
      match _h : escape? rest with
      | none => none
      | some (out, rest') => (decodeEscapes rest').map (out ++ ·)
    else (decodeEscapes rest).map (codePoint c :: ·)
termination_by s => s.length
decreasing_by
  · have := length_of_escape? _h; simp; omega
  · simp

end WireBridge.Text
