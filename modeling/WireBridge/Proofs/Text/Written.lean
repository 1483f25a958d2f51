import Mathlib.Algebra.Group.Nat.Defs
import Mathlib.Tactic.SplitIfs
import WireBridge.Decimal.Reading
import WireBridge.Text.Escape
import WireBridge.Text.Identifier
import WireBridge.Text.Quoted

/-!
# What is written can be read

* `Text.decodeEscapes_flatMap_quotedChar` : a text written between quotation marks. Every character is read by itself
  (`decodeEscapes_quotedChar`), a numeric escape by the digits of its number (`hexNumber?_hexDigits`);
* `Decimal.int?_toString` : an integer, as a sign and the decimal digits of its size (`toList_toString`);
* `Text.splitAt_eq_splitOn` : the parts of a text between marks are those of the library (`intercalate_splitAt`);
* `Text.eq_or_eq_append_newline` : a text is what `dropFinalNewline` leaves of it, with or without a line feed.
-/

set_option autoImplicit false

namespace WireBridge

namespace Text

/-! ## Escapes -/

theorem hexDigit?_digitChar : ∀ d < 16, hexDigit? (Nat.digitChar d) = some d := by decide

theorem length_hexDigits (k n : Nat) : (hexDigits k n).length = k := by
  induction k generalizing n with
  | zero => rfl
  | succ k ih => rw [hexDigits, List.length_append, ih, List.length_singleton]

theorem exists_of_mem_hexDigits {k n : Nat} {c : Char} (h : c ∈ hexDigits k n) : ∃ d < 16, c = Nat.digitChar d := by
  induction k generalizing n with
  | zero => exact absurd h List.not_mem_nil
  | succ k ih =>
    rcases List.mem_append.1 h with h | h
    · exact ih h
    · exact ⟨n % 16, Nat.mod_lt n (by decide), List.mem_singleton.1 h⟩

theorem hexNumber?_hexDigits {k n : Nat} (h : n < 16 ^ k) : hexNumber? (hexDigits k n) = some n := by
  induction k generalizing n with
  | zero =>
    obtain rfl : n = 0 := by simpa using h
    rfl
  | succ k ih =>
    have hdiv : n / 16 < 16 ^ k := Nat.div_lt_of_lt_mul (by rwa [Nat.pow_succ, Nat.mul_comm] at h)
    have hmod : n % 16 < 16 := Nat.mod_lt n (by decide)
    rw [hexDigits, hexNumber?, List.foldlM_append, ← hexNumber?, ih hdiv]
    simp [hexDigit?_digitChar _ hmod, Nat.div_add_mod]

theorem hexEscape?_hexDigits {k : Nat} {c : Char} (h : c.toNat < 16 ^ k) (s : List Char) :
    hexEscape? k (hexDigits k c.toNat ++ s) = some ([codePoint c], s) := by
  have htake : (hexDigits k c.toNat ++ s).take k = hexDigits k c.toNat := List.take_left' (length_hexDigits _ _)
  have hdrop : (hexDigits k c.toNat ++ s).drop k = s := List.drop_left' (length_hexDigits _ _)
  have hpoint : codePoint? c.toNat = some (codePoint c) := dif_pos (codePoint c).isLt
  simp [hexEscape?, htake, hdrop, length_hexDigits, hexNumber?_hexDigits h, hpoint]

theorem decodeEscapes_backslash {s rest : List Char} {out : List CodePoint} (h : escape? s = some (out, rest)) :
    decodeEscapes ('\\' :: s) = (decodeEscapes rest).map (out ++ ·) := by
  rw [decodeEscapes, if_neg (by decide), if_pos rfl]
  split
  · next hnone => rw [h] at hnone; cases hnone
  · next hsome =>
    rw [h] at hsome
    cases hsome
    rfl

theorem escape?_numericEscape (c : Char) (s : List Char) :
    ∃ e, numericEscape c = '\\' :: e ∧ escape? (e ++ s) = some ([codePoint c], s) := by
  have hx : ∀ t, escape? ('x' :: t) = hexEscape? 2 t := fun _ => rfl
  have hu : ∀ t, escape? ('u' :: t) = hexEscape? 4 t := fun _ => rfl
  have hU : ∀ t, escape? ('U' :: t) = hexEscape? 8 t := fun _ => rfl
  have hvalid : c.toNat.isValidChar := c.valid
  unfold numericEscape
  simp only
  split_ifs with hbyte hplane
  · exact ⟨_, rfl, (hx _).trans (hexEscape?_hexDigits (by simpa using hbyte) s)⟩
  · exact ⟨_, rfl, (hu _).trans (hexEscape?_hexDigits (by simpa using hplane) s)⟩
  · exact ⟨_, rfl, (hU _).trans (hexEscape?_hexDigits (by rcases hvalid with h | h <;> omega) s)⟩

/-- Every character is read by itself. -/
theorem decodeEscapes_quotedChar (c : Char) (s : List Char) :
    decodeEscapes (quotedChar '"' c ++ s) = (decodeEscapes s).map (codePoint c :: ·) := by
  have control : ∀ {e d : Char}, escape? (e :: s) = some ([codePoint d], s) →
      decodeEscapes (['\\', e] ++ s) = (decodeEscapes s).map (codePoint d :: ·) := fun h => decodeEscapes_backslash h
  unfold quotedChar
  split_ifs with hmark htab hline hreturn hprintable
  · rcases hmark with rfl | rfl
    · exact control rfl
    · exact control rfl
  · exact htab ▸ control rfl
  · exact hline ▸ control rfl
  · exact hreturn ▸ control rfl
  · have hnull : c ≠ '\x00' := by
      rintro rfl
      exact absurd hprintable (by decide)
    rw [List.singleton_append, decodeEscapes, if_neg (not_or.2 ⟨hreturn, hnull⟩), if_neg fun h => hmark (.inr h)]
  · obtain ⟨e, he, hread⟩ := escape?_numericEscape c s
    rw [he]
    exact decodeEscapes_backslash hread

theorem decodeEscapes_flatMap_quotedChar (s : List Char) :
    decodeEscapes (s.flatMap (quotedChar '"')) = some (s.map codePoint) := by
  induction s with
  | nil => simp [decodeEscapes]
  | cons c s ih => rw [List.flatMap_cons, decodeEscapes_quotedChar, ih]; rfl

/-! ## Parts -/

theorem splitAt_eq_splitOn (mark : Char) (s : List Char) : splitAt mark s = s.splitOn mark := by
  induction s with
  | nil => rfl
  | cons c s ih =>
    rw [splitAt, List.splitOn_cons_eq_if_modifyHead, ih]
    obtain ⟨part, parts, hparts⟩ := List.exists_cons_of_ne_nil (List.splitOn_ne_nil mark s)
    simp [hparts]

theorem intercalate_cons {α : Type} (sep x : List α) (xs : List (List α)) :
    sep.intercalate (x :: xs) = x ++ xs.flatMap (sep ++ ·) := by
  induction xs generalizing x with
  | nil => simp
  | cons y xs ih => rw [List.intercalate_cons_cons, ih, List.flatMap_cons, List.append_assoc, List.append_assoc]

/-- The parts of a text, joined by the mark between them. -/
theorem intercalate_splitAt (sep : String) (mark : Char) (hsep : sep.toList = [mark]) (s : String) :
    sep.intercalate ((splitAt mark s.toList).map String.ofList) = s := by
  have hparts : (splitAt mark s.toList).map (String.toList ∘ String.ofList) = splitAt mark s.toList :=
    (List.map_congr_left fun _ _ => String.toList_ofList).trans (List.map_id _)
  rw [← String.toList_inj, String.toList_intercalate, List.map_map, hparts, hsep, splitAt_eq_splitOn,
    List.intercalate_splitOn]

/-! ## A line feed at the end -/

theorem dropFinalNewline_append (s : List Char) : dropFinalNewline (s ++ ['\n']) = s := by
  rw [dropFinalNewline, if_pos List.getLast?_concat, List.dropLast_concat]

theorem eq_or_eq_append_newline (s : List Char) : s = dropFinalNewline s ∨ s = dropFinalNewline s ++ ['\n'] := by
  by_cases h : s.getLast? = some '\n'
  · obtain ⟨t, rfl⟩ := List.getLast?_eq_some_iff.1 h
    rw [dropFinalNewline_append]
    exact .inr rfl
  · exact .inl (if_neg h).symm

theorem dropFinalNewline_of_not_mem {s : List Char} (h : '\n' ∉ s) : dropFinalNewline s = s :=
  if_neg fun hlast => h (List.mem_of_getLast? hlast)

end Text

/-! ## Integers -/

namespace Decimal

theorem toList_toString (n : Int) :
    (toString n).toList = (if n < 0 then ['-'] else []) ++ Nat.toDigits 10 n.natAbs := by
  rw [Int.toString_eq_repr, Int.repr_eq_if]
  by_cases hn : n < 0
  · have habs : (-n).toNat = n.natAbs := by omega
    rw [if_neg (by omega), if_pos hn, habs, Nat.repr_eq_ofList_toDigits, String.toList_append, String.toList_ofList,
      String.toList_ofList]
  · have habs : n.toNat = n.natAbs := by omega
    rw [if_pos (by omega), if_neg hn, habs, Nat.repr_eq_ofList_toDigits, String.toList_ofList, List.nil_append]

theorem isDigit_toDigits (n : Nat) : ∀ c ∈ Nat.toDigits 10 n, c.isDigit = true :=
  fun _ hc => Nat.isDigit_of_mem_toDigits (by decide) (by decide) hc

theorem toDigits_ne_nil (n : Nat) : Nat.toDigits 10 n ≠ [] := List.length_pos_iff.1 Nat.length_toDigits_pos

theorem natOfDigits_toDigits (n : Nat) : natOfDigits (Nat.toDigits 10 n) = n := Nat.ofDigitChars_ten_toDigits

theorem int?_toString (n : Int) : int? (toString n).toList = some n := by
  have hall : (Nat.toDigits 10 n.natAbs).all Char.isDigit = true := List.all_eq_true.2 (isDigit_toDigits _)
  have hread : readSign (toString n).toList = (decide (n < 0), Nat.toDigits 10 n.natAbs) := by
    rw [toList_toString]
    by_cases hn : n < 0
    · simp [hn, readSign]
    · rw [if_neg hn, List.nil_append, decide_eq_false hn]
      obtain ⟨c, digits, hdigits⟩ := List.exists_cons_of_ne_nil (toDigits_ne_nil n.natAbs)
      have hc : c.isDigit = true := isDigit_toDigits n.natAbs c (by simp [hdigits])
      rw [hdigits]
      unfold readSign
      split
      · next h => cases h; exact absurd hc (by decide)
      · next h => cases h; exact absurd hc (by decide)
      · rfl
  have hsome : (Nat.toDigits 10 n.natAbs).isEmpty = false := List.isEmpty_eq_false_iff.2 (toDigits_ne_nil _)
  have hvalue : (if n < 0 then -(n.natAbs : Int) else n.natAbs) = n := by split_ifs <;> omega
  rw [int?, hread]
  simp only [hall, hsome, natOfDigits_toDigits, decide_eq_true_eq, hvalue]
  rfl

end Decimal

end WireBridge
