import WireBridge.Naming
import WireBridge.Text.Identifier

/-!
# Names in snake case

The snake case of an identifier holds small letters, digits and underscores only (`isSmall_of_mem_snakeCase`), so its
upper case can be taken back: two identifiers have the same snake case if they have the same one in capitals
(`snakeCase_eq_of_upperCase`).

In the screaming snake case of a camel case name an underscore stands before every capital but the first and nowhere
else, so the letter behind it was a capital and any other letter a small one. Reading it so gives the name back
(`unscream_flatMap_screamChar`), and different names have different forms (`screamingSnake_inj`).
-/

set_option autoImplicit false

namespace WireBridge

namespace Text

/-! ## Casing of ASCII -/

theorem forall_ascii {P : Char → Prop} (h : ∀ n < 128, P (Char.ofNat n)) : ∀ c, isAscii c = true → P c := by
  intro c hc
  have hn := h c.toNat (by simpa [isAscii] using hc)
  rwa [Char.ofNat_toNat] at hn

theorem isAscii_of_isNameChar {c : Char} (h : isNameChar c = true) : isAscii c = true := by
  have hmark : ('_' : Char).toNat < 128 := by decide
  unfold isNameChar Char.isAlphanum Char.isAlpha Char.isUpper Char.isLower Char.isDigit at h
  simp only [Bool.or_eq_true, Bool.and_eq_true, decide_eq_true_eq, UInt32.le_iff_toNat_le, ge_iff_le,
    Char.toNat_val] at h
  simp only [isAscii, decide_eq_true_eq]
  rcases h with ((⟨-, h⟩ | ⟨-, h⟩) | ⟨-, h⟩) | rfl
  · exact Nat.lt_of_le_of_lt h (by decide)
  · exact Nat.lt_of_le_of_lt h (by decide)
  · exact Nat.lt_of_le_of_lt h (by decide)
  · exact hmark

theorem upper_of_ascii {s : List Char} (h : ∀ c ∈ s, isAscii c = true) : upper s = s.map Char.toUpper := by
  induction s with
  | nil => rfl
  | cons c s ih =>
    obtain ⟨hc, hs⟩ := List.forall_mem_cons.1 h
    rw [upper, List.flatMap_cons, upperChar_of_ascii hc, ← upper, ih hs]
    rfl

theorem lowerFrom_of_ascii {s : List Char} (h : ∀ c ∈ s, isAscii c = true) (inWord : Bool) :
    lowerFrom inWord s = s.map Char.toLower := by
  induction s generalizing inWord with
  | nil => rfl
  | cons c s ih =>
    obtain ⟨hc, hs⟩ := List.forall_mem_cons.1 h
    have hsigma : c ≠ '\u03A3' := by
      rintro rfl
      exact absurd hc (by decide)
    simp [lowerFrom, hsigma, lowerChar_of_ascii hc, ih hs]

theorem lower_of_ascii {s : List Char} (h : ∀ c ∈ s, isAscii c = true) : lower s = s.map Char.toLower :=
  lowerFrom_of_ascii h false

end Text

/-! ## Snake case -/

namespace Naming

/-- A small letter, a digit or an underscore. -/
def isSmall (c : Char) : Bool := isSmallOrDigit c || c = '_'

theorem isSmall_toLower {c : Char} (h : Text.isNameChar c = true) : isSmall c.toLower = true :=
  Text.forall_ascii (P := fun c => Text.isNameChar c = true → isSmall c.toLower = true) (by decide) c
    (Text.isAscii_of_isNameChar h) h

theorem isNameChar_of_isSmall {c : Char} (h : isSmall c = true) : Text.isNameChar c = true := by
  unfold isSmall isSmallOrDigit at h
  unfold Text.isNameChar Char.isAlphanum Char.isAlpha
  simp only [Bool.or_eq_true] at h ⊢
  rcases h with (h | h) | h
  · exact .inl (.inl (.inr h))
  · exact .inl (.inr h)
  · exact .inr h

theorem toLower_toUpper {c : Char} (h : isSmall c = true) : c.toUpper.toLower = c :=
  Text.forall_ascii (P := fun c => isSmall c = true → c.toUpper.toLower = c) (by decide) c
    (Text.isAscii_of_isNameChar (isNameChar_of_isSmall h)) h

theorem mem_separateWords {before : Option Char} {s : List Char} {c : Char} (h : c ∈ separateWords before s) :
    c = '_' ∨ c ∈ s := by
  induction s generalizing before with
  | nil => cases h
  | cons a s ih =>
    have htail (h : c ∈ a :: separateWords (some a) s) : c = '_' ∨ c ∈ a :: s := by
      rcases List.mem_cons.1 h with rfl | h
      · exact .inr List.mem_cons_self
      · exact (ih h).imp_right (List.mem_cons_of_mem a)
    unfold separateWords at h
    dsimp only at h
    split at h
    · rcases List.mem_cons.1 h with rfl | h
      · exact .inl rfl
      · exact htail h
    · exact htail h

end Naming

section Snake

variable {m n : String} (hm : ∀ c ∈ m.toList, Text.isNameChar c = true) (hn : ∀ c ∈ n.toList, Text.isNameChar c = true)

include hn

theorem isSmall_of_mem_snakeCase {c : Char} (hc : c ∈ (snakeCase n).toList) : Naming.isSmall c = true := by
  have hname : ∀ a ∈ Naming.separateWords none n.toList, Text.isNameChar a = true := by
    intro a ha
    rcases Naming.mem_separateWords ha with rfl | ha
    · decide
    · exact hn a ha
  rw [snakeCase, String.toList_ofList, Naming.snakeChars,
    Text.lower_of_ascii fun a ha => Text.isAscii_of_isNameChar (hname a ha)] at hc
  obtain ⟨a, ha, rfl⟩ := List.mem_map.1 hc
  exact Naming.isSmall_toLower (hname a ha)

theorem toList_upperCase_snakeCase : (upperCase (snakeCase n)).toList = (snakeCase n).toList.map Char.toUpper := by
  rw [upperCase, String.toList_ofList, Text.upper_of_ascii]
  exact fun c hc => Text.isAscii_of_isNameChar (Naming.isNameChar_of_isSmall (isSmall_of_mem_snakeCase hn hc))

theorem map_toLower_upperCase_snakeCase :
    (upperCase (snakeCase n)).toList.map Char.toLower = (snakeCase n).toList := by
  rw [toList_upperCase_snakeCase hn, List.map_map]
  have hback : ∀ c ∈ (snakeCase n).toList, (Char.toLower ∘ Char.toUpper) c = id c := fun c hc =>
    Naming.toLower_toUpper (isSmall_of_mem_snakeCase hn hc)
  rw [List.map_congr_left hback, List.map_id]

include hm

/-- The words of two names are the same if they are the same in capitals. -/
theorem snakeCase_eq_of_upperCase (h : upperCase (snakeCase m) = upperCase (snakeCase n)) :
    snakeCase m = snakeCase n := by
  rw [← String.toList_inj, ← map_toLower_upperCase_snakeCase hm, h, map_toLower_upperCase_snakeCase hn]

end Snake

/-! ## Screaming snake case -/

namespace Naming

/-- A capital, and letters and digits behind it. -/
def isCamelCase : List Char → Bool
  | [] => false
  | c :: s => c.isUpper && s.all Char.isAlphanum

/-- A screaming name read back: what follows an underscore stays, and any other letter is small. -/
def unscream : List Char → List Char
  | [] => []
  | '_' :: c :: s => c :: unscream s
  | c :: s => c.toLower :: unscream s

theorem isAscii_of_isAlphanum {c : Char} (h : c.isAlphanum = true) : Text.isAscii c = true :=
  Text.isAscii_of_isNameChar (by rw [Text.isNameChar, h]; rfl)

theorem isAlphanum_of_isUpper {c : Char} (h : c.isUpper = true) : c.isAlphanum = true := by
  unfold Char.isAlphanum Char.isAlpha
  rw [h]
  rfl

theorem toUpper_of_isUpper {c : Char} (h : c.isUpper = true) : c.toUpper = c :=
  Text.forall_ascii (P := fun c => c.isUpper = true → c.toUpper = c) (by decide) c
    (isAscii_of_isAlphanum (isAlphanum_of_isUpper h)) h

/-- A small letter or a digit comes back from its upper case, which is no underscore. -/
theorem toLower_toUpper_of_isAlphanum {c : Char} (h : c.isAlphanum = true) (hc : c.isUpper = false) :
    c.toUpper.toLower = c ∧ c.toUpper ≠ '_' :=
  Text.forall_ascii (P := fun c => c.isAlphanum = true → c.isUpper = false → c.toUpper.toLower = c ∧ c.toUpper ≠ '_')
    (by decide) c (isAscii_of_isAlphanum h) h hc

theorem screamChar_of_isAlphanum {c : Char} (h : c.isAlphanum = true) :
    screamChar c = if c.isUpper then ['_', c] else [c.toUpper] := by
  have hascii := isAscii_of_isAlphanum h
  rw [screamChar, Text.isCapital_of_ascii hascii, Text.upperChar_of_ascii hascii]
  split
  · next hc => rw [toUpper_of_isUpper hc, List.singleton_append]
  · rfl

theorem unscream_cons {c : Char} (h : c ≠ '_') (s : List Char) : unscream (c :: s) = c.toLower :: unscream s := by
  rw [unscream.eq_def]
  split
  · next heq => cases heq
  · next heq => exact absurd (List.cons.inj heq).1 h
  · next heq =>
    obtain ⟨rfl, rfl⟩ := List.cons.inj heq
    rfl

theorem unscream_flatMap_screamChar {s : List Char} (h : s.all Char.isAlphanum = true) :
    unscream (s.flatMap screamChar) = s := by
  induction s with
  | nil => rfl
  | cons c s ih =>
    rw [List.all_cons, Bool.and_eq_true] at h
    rw [List.flatMap_cons, screamChar_of_isAlphanum h.1]
    cases hc : c.isUpper with
    | true => exact congrArg (c :: ·) (ih h.2)
    | false =>
      obtain ⟨hback, hmark⟩ := toLower_toUpper_of_isAlphanum h.1 hc
      show unscream (c.toUpper :: s.flatMap screamChar) = c :: s
      rw [unscream_cons hmark, hback, ih h.2]

theorem screamingChars_inj {s t : List Char} (hs : isCamelCase s = true) (ht : isCamelCase t = true)
    (h : screamingChars s = screamingChars t) : s = t := by
  have hcons {c : Char} {s : List Char} (hs : isCamelCase (c :: s) = true) :
      screamingChars (c :: s) = c :: s.flatMap screamChar ∧ s.all Char.isAlphanum = true := by
    simp only [isCamelCase, Bool.and_eq_true] at hs
    have hascii := isAscii_of_isAlphanum (isAlphanum_of_isUpper hs.1)
    rw [screamingChars, Text.upperChar_of_ascii hascii, toUpper_of_isUpper hs.1]
    exact ⟨rfl, hs.2⟩
  cases s with
  | nil => cases hs
  | cons c s =>
    cases t with
    | nil => cases ht
    | cons d t =>
      rw [(hcons hs).1, (hcons ht).1] at h
      obtain ⟨rfl, htail⟩ := List.cons.inj h
      rw [← unscream_flatMap_screamChar (hcons hs).2, htail, unscream_flatMap_screamChar (hcons ht).2]

theorem underscore_not_mem_of_isCamelCase {s : List Char} (h : isCamelCase s = true) : '_' ∉ s := by
  have hmark : ('_' : Char).isAlphanum = false := by decide
  cases s with
  | nil => exact List.not_mem_nil
  | cons c s =>
    simp only [isCamelCase, Bool.and_eq_true, List.all_eq_true] at h
    intro hmem
    rcases List.mem_cons.1 hmem with rfl | hmem
    · exact absurd h.1 (by decide)
    · rw [h.2 _ hmem] at hmark
      cases hmark

end Naming

/-- Camel case names differ in their screaming forms. -/
theorem screamingSnake_inj {m n : String} (hm : Naming.isCamelCase m.toList = true)
    (hn : Naming.isCamelCase n.toList = true) (h : screamingSnake m = screamingSnake n) : m = n := by
  rw [screamingSnake, screamingSnake, String.ofList_inj] at h
  exact String.toList_inj.1 (Naming.screamingChars_inj hm hn h)

end WireBridge
