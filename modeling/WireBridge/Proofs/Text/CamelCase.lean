import WireBridge.Proofs.Text.Naming
import WireBridge.Proofs.Text.Written

/-!
# Regular camel case

A name is regular if it is made of words (`IsMadeOf`, `IsRegular`), each of them a capital and small letters or digits
behind it. `HttpServer2` is, `HTTPServer` is not.

* `Naming.separateWords_flatten` : in a regular name a word starts at every capital and nowhere else;
* `IsMadeOf.snakeCase_eq` : its snake case is the words in lower case, joined by underscores;
* `IsMadeOf.wordsOf_snakeCase` : no word holds an underscore and each begins with its only capital, so the words are
  read back from the snake case. A name is thus made of one list of words, and `IsRegular` is decidable;
* `snakeCase_inj` : different regular names have different snake cases.
-/

set_option autoImplicit false

namespace WireBridge

namespace Naming

/-! ## Words -/

/-- A capital, and one or more small letters or digits. -/
def isWord : List Char → Bool
  | [] => false
  | c :: s => c.isUpper && !s.isEmpty && s.all isSmallOrDigit

section Characters

variable {c : Char}

theorem isAlphanum_of_isSmallOrDigit (h : isSmallOrDigit c = true) : c.isAlphanum = true := by
  rw [isSmallOrDigit, Bool.or_eq_true] at h
  unfold Char.isAlphanum Char.isAlpha
  rcases h with h | h
  · rw [h, Bool.or_true, Bool.true_or]
  · rw [h, Bool.or_true]

/-- A small letter or a digit is no capital, and is its own lower case. -/
theorem not_isUpper_of_isSmallOrDigit (h : isSmallOrDigit c = true) : c.isUpper = false ∧ c.toLower = c :=
  Text.forall_ascii (P := fun c => isSmallOrDigit c = true → c.isUpper = false ∧ c.toLower = c) (by decide) c
    (isAscii_of_isAlphanum (isAlphanum_of_isSmallOrDigit h)) h

theorem toUpper_toLower_of_isUpper (h : c.isUpper = true) : c.toLower.toUpper = c :=
  Text.forall_ascii (P := fun c => c.isUpper = true → c.toLower.toUpper = c) (by decide) c
    (isAscii_of_isAlphanum (isAlphanum_of_isUpper h)) h

theorem toLower_ne_underscore (h : c.isAlphanum = true) : c.toLower ≠ '_' :=
  Text.forall_ascii (P := fun c => c.isAlphanum = true → c.toLower ≠ '_') (by decide) c (isAscii_of_isAlphanum h) h

end Characters

theorem isWord_cons {c : Char} {s : List Char} :
    isWord (c :: s) = true ↔ c.isUpper = true ∧ s ≠ [] ∧ ∀ d ∈ s, isSmallOrDigit d = true := by
  simp [isWord, and_assoc]

theorem exists_cons_of_isWord {w : List Char} (h : isWord w = true) :
    ∃ c s, w = c :: s ∧ c.isUpper = true ∧ s ≠ [] ∧ ∀ d ∈ s, isSmallOrDigit d = true := by
  cases w with
  | nil => cases h
  | cons c s => exact ⟨c, s, rfl, isWord_cons.1 h⟩

theorem isAlphanum_of_mem_word {w : List Char} (h : isWord w = true) : ∀ c ∈ w, c.isAlphanum = true := by
  obtain ⟨c, s, rfl, hc, -, hs⟩ := exists_cons_of_isWord h
  exact List.forall_mem_cons.2 ⟨isAlphanum_of_isUpper hc, fun d hd => isAlphanum_of_isSmallOrDigit (hs d hd)⟩

theorem lower_word {w : List Char} (h : isWord w = true) : Text.lower w = w.map Char.toLower :=
  Text.lower_of_ascii fun c hc => isAscii_of_isAlphanum (isAlphanum_of_mem_word h c hc)

theorem underscore_not_mem_lower {w : List Char} (h : isWord w = true) : '_' ∉ Text.lower w := by
  rw [lower_word h]
  intro hmem
  obtain ⟨c, hc, hmark⟩ := List.mem_map.1 hmem
  exact toLower_ne_underscore (isAlphanum_of_mem_word h c hc) hmark

/-! ## Where words start -/

/-- No word starts at a small letter or a digit. -/
theorem separateWords_append {s : List Char} (hs : ∀ c ∈ s, isSmallOrDigit c = true) (before : Option Char)
    (rest : List Char) : separateWords before (s ++ rest) = s ++ separateWords (s.getLast?.or before) rest := by
  induction s generalizing before with
  | nil => rfl
  | cons c s ih =>
    obtain ⟨hc, hs⟩ := List.forall_mem_cons.1 hs
    have hstart (after : Option Char) : startsWord before c after = false := by
      rw [startsWord, (not_isUpper_of_isSmallOrDigit hc).1, Bool.false_and]
    have hlast : s.getLast?.or (some c) = (c :: s).getLast?.or before := by
      rw [List.getLast?_cons]
      cases s.getLast? <;> rfl
    rw [List.cons_append, separateWords, hstart, ih hs (some c), hlast]
    rfl

/-- Behind a word, and in it behind its capital, an underscore stands before each of the words that follow. -/
theorem separateWords_words {c : Char} {s : List Char} (hne : s ≠ []) (hs : ∀ d ∈ s, isSmallOrDigit d = true)
    {words : List (List Char)} (h : ∀ w ∈ words, isWord w = true) :
    separateWords (some c) (s ++ words.flatten) = s ++ words.flatMap ('_' :: ·) := by
  induction words generalizing c s with
  | nil => exact separateWords_append hs _ []
  | cons w words ih =>
    obtain ⟨hw, hwords⟩ := List.forall_mem_cons.1 h
    obtain ⟨d, t, rfl, hd, htne, ht⟩ := exists_cons_of_isWord hw
    have hstart (after : Option Char) : startsWord (s.getLast?.or (some c)) d after = true := by
      rw [List.getLast?_eq_some_getLast hne, startsWord, hd, Option.some_or, Option.any_some,
        hs _ (List.getLast_mem hne)]
      rfl
    rw [separateWords_append hs, List.flatten_cons, List.cons_append, separateWords, hstart, ih htne ht hwords]
    rfl

theorem separateWords_flatten {words : List (List Char)} (h : ∀ w ∈ words, isWord w = true) :
    separateWords none words.flatten = ['_'].intercalate words := by
  cases words with
  | nil => rfl
  | cons w words =>
    obtain ⟨hw, hwords⟩ := List.forall_mem_cons.1 h
    obtain ⟨c, s, rfl, hc, hne, hs⟩ := exists_cons_of_isWord hw
    have hstart (after : Option Char) : startsWord none c after = false := by
      rw [startsWord, hc]
      rfl
    rw [List.flatten_cons, List.cons_append, separateWords, hstart, separateWords_words hne hs hwords,
      Text.intercalate_cons]
    rfl

/-! ## Snake case -/

theorem lower_intercalate {words : List (List Char)} (h : ∀ w ∈ words, isWord w = true) :
    Text.lower (['_'].intercalate words) = ['_'].intercalate (words.map Text.lower) := by
  have hascii : ∀ c ∈ ['_'].intercalate words, Text.isAscii c = true := by
    rw [← separateWords_flatten h]
    intro c hc
    rcases mem_separateWords hc with rfl | hc
    · decide
    · obtain ⟨w, hw, hc⟩ := List.mem_flatten.1 hc
      exact isAscii_of_isAlphanum (isAlphanum_of_mem_word (h w hw) c hc)
  rw [Text.lower_of_ascii hascii, List.map_congr_left fun w hw => lower_word (h w hw)]
  cases words with
  | nil => rfl
  | cons w words =>
    rw [List.map_cons, Text.intercalate_cons, Text.intercalate_cons, List.map_append, List.map_flatMap,
      List.flatMap_map]
    rfl

theorem snakeChars_flatten {words : List (List Char)} (h : ∀ w ∈ words, isWord w = true) :
    snakeChars words.flatten = ['_'].intercalate (words.map Text.lower) := by
  rw [snakeChars, separateWords_flatten h, lower_intercalate h]

/-! ## Words read back -/

/-- A text whose first letter is a capital. -/
def capitalize : List Char → List Char
  | [] => []
  | c :: s => c.toUpper :: s

/-- What stands between underscores, with capitals. -/
def wordsBetween (s : List Char) : List (List Char) := (s.splitOn '_').map capitalize

theorem capitalize_lower {w : List Char} (h : isWord w = true) : capitalize (Text.lower w) = w := by
  rw [lower_word h]
  obtain ⟨c, s, rfl, hc, -, hs⟩ := exists_cons_of_isWord h
  have htail : s.map Char.toLower = s :=
    (List.map_congr_left fun d hd => (not_isUpper_of_isSmallOrDigit (hs d hd)).2).trans (List.map_id' s)
  rw [List.map_cons, capitalize, toUpper_toLower_of_isUpper hc, htail]

theorem wordsBetween_snakeChars {words : List (List Char)} (hne : words ≠ []) (h : ∀ w ∈ words, isWord w = true) :
    wordsBetween (snakeChars words.flatten) = words := by
  have hmark : ∀ w ∈ words.map Text.lower, '_' ∉ w :=
    List.forall_mem_map.2 fun w hw => underscore_not_mem_lower (h w hw)
  rw [wordsBetween, snakeChars_flatten h, List.splitOn_intercalate '_' hmark (mt List.map_eq_nil_iff.1 hne),
    List.map_map]
  exact (List.map_congr_left fun w hw => capitalize_lower (h w hw)).trans (List.map_id' words)

end Naming

/-! ## Regular names -/

def lowerCase (s : String) : String := String.ofList (Text.lower s.toList)

/-- The name is the words one behind the other, of which there is at least one. -/
structure IsMadeOf (name : String) (words : List String) : Prop where
  ne_nil : words ≠ []
  isWord : ∀ w ∈ words, Naming.isWord w.toList = true
  eq_join : name = String.join words

/-- A name in regular camel case. -/
def IsRegular (name : String) : Prop := ∃ words, IsMadeOf name words

/-- The words of a regular name, from its snake case. -/
def wordsOf (snake : String) : List String := (Naming.wordsBetween snake.toList).map String.ofList

namespace IsMadeOf

variable {name : String} {words : List String} (h : IsMadeOf name words)

include h

theorem toList_eq : name.toList = (words.map String.toList).flatten := by
  rw [h.eq_join, String.toList_join, List.flatMap_def]

theorem isWord_map : ∀ w ∈ words.map String.toList, Naming.isWord w = true := List.forall_mem_map.2 h.isWord

theorem snakeCase_eq : snakeCase name = "_".intercalate (words.map lowerCase) := by
  have hwords : (words.map lowerCase).map String.toList = (words.map String.toList).map Text.lower := by
    rw [List.map_map, List.map_map]
    exact List.map_congr_left fun w _ => String.toList_ofList
  rw [snakeCase, h.toList_eq, Naming.snakeChars_flatten h.isWord_map, ← String.toList_inj, String.toList_ofList,
    String.toList_intercalate, hwords]
  rfl

theorem wordsOf_snakeCase : wordsOf (snakeCase name) = words := by
  rw [wordsOf, snakeCase, String.toList_ofList, h.toList_eq,
    Naming.wordsBetween_snakeChars (mt List.map_eq_nil_iff.1 h.ne_nil) h.isWord_map, List.map_map]
  exact (List.map_congr_left fun w _ => String.ofList_toList).trans (List.map_id' words)

theorem isAlphanum : ∀ c ∈ name.toList, c.isAlphanum = true := by
  rw [h.toList_eq]
  intro c hc
  obtain ⟨w, hw, hc⟩ := List.mem_flatten.1 hc
  exact Naming.isAlphanum_of_mem_word (h.isWord_map w hw) c hc

theorem exists_cons : ∃ c s, name.toList = c :: s ∧ c.isUpper = true := by
  obtain ⟨w, words, rfl⟩ := List.exists_cons_of_ne_nil h.ne_nil
  obtain ⟨c, s, hw, hc, -, -⟩ := Naming.exists_cons_of_isWord (h.isWord w List.mem_cons_self)
  refine ⟨c, s ++ (words.map String.toList).flatten, ?_, hc⟩
  rw [h.toList_eq, List.map_cons, hw, List.flatten_cons, List.cons_append]

end IsMadeOf

instance (name : String) (words : List String) : Decidable (IsMadeOf name words) :=
  decidable_of_iff (words ≠ [] ∧ (∀ w ∈ words, Naming.isWord w.toList = true) ∧ name = String.join words)
    ⟨fun ⟨hne, hword, hjoin⟩ => ⟨hne, hword, hjoin⟩, fun h => ⟨h.ne_nil, h.isWord, h.eq_join⟩⟩

/-- The only words that a name can be made of are those of its snake case. -/
theorem isRegular_iff {name : String} : IsRegular name ↔ IsMadeOf name (wordsOf (snakeCase name)) := by
  constructor
  · rintro ⟨words, h⟩
    rwa [h.wordsOf_snakeCase]
  · exact fun h => ⟨_, h⟩

instance (name : String) : Decidable (IsRegular name) := decidable_of_iff _ isRegular_iff.symm

example : IsRegular "HttpServer2" ∧ ¬ IsRegular "HTTPServer" := by decide

theorem IsRegular.underscore_not_mem {name : String} (h : IsRegular name) : '_' ∉ name.toList := by
  obtain ⟨words, h⟩ := h
  intro hmem
  exact absurd (h.isAlphanum _ hmem) (by decide)

theorem snakeCase_inj {m n : String} (hm : IsRegular m) (hn : IsRegular n) (h : snakeCase m = snakeCase n) : m = n := by
  obtain ⟨words, hm⟩ := hm
  obtain ⟨words', hn⟩ := hn
  have hwords : words = words' := by rw [← hm.wordsOf_snakeCase, h, hn.wordsOf_snakeCase]
  rw [hm.eq_join, hwords, ← hn.eq_join]

end WireBridge
