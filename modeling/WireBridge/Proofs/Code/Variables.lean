import Mathlib.Data.List.Basic
import WireBridge.Code.Expr
import WireBridge.Proofs.Text.Brackets
import WireBridge.Proofs.Text.Naming
import WireBridge.Proofs.Text.Written

/-!
# Loop variables in texts

* `LoopVar.StandsIn v s` : the text `s` holds the variable `v` as a name of its own, which is neither part of a longer
  name nor an attribute;
* `LoopVar.StandsIn.split` : a character that no name of a variable holds parts a text, and a variable of the whole
  stands on one side;
* `LoopVar.eq_of_standsIn` : the name of a variable holds no other;
* `IsLabel s` : a text that can stand anywhere in an expression. Its brackets are balanced and it holds no loop
  variable, such as the functions of declared types (`isLabel_fromWireFunction`) and what a module holds
  (`IsLabel.attribute`).
-/

set_option autoImplicit false

namespace WireBridge

open Text (isNameChar)

namespace LoopVar

def number : LoopVar → Int
  | value n => n
  | key n => n
  | wire n => n

def StandsIn (v : LoopVar) (s : List Char) : Prop :=
  ∃ before after, s = before ++ v.name.toList ++ after ∧ (∀ c ∈ before.getLast?, isNameChar c = false ∧ c ≠ '.') ∧
    ∀ c ∈ after.head?, isNameChar c = false

/-! ## Names of variables -/

def letter : LoopVar → Char
  | value _ => 'v'
  | key _ => 'k'
  | wire _ => 'w'

variable {u v : LoopVar} {a b s : List Char} {c : Char}

theorem toList_name (v : LoopVar) : v.name.toList = '_' :: v.letter :: (toString v.number).toList := by
  cases v <;> simp [name, letter, number]

theorem eq_of_letter_of_number (hl : u.letter = v.letter) (hn : u.number = v.number) : u = v := by
  cases u <;> cases v <;> simp_all [letter, number]

theorem isNameChar_letter (v : LoopVar) : isNameChar v.letter = true := by
  cases v with
  | value n => exact (by decide : isNameChar 'v' = true)
  | key n => exact (by decide : isNameChar 'k' = true)
  | wire n => exact (by decide : isNameChar 'w' = true)

theorem isNameChar_of_isDigit (h : c.isDigit = true) : isNameChar c = true := by
  simp [isNameChar, Char.isAlphanum, h]

theorem mem_number {n : Int} (h : c ∈ (toString n).toList) : c = '-' ∨ c.isDigit = true := by
  rw [Decimal.toList_toString] at h
  rcases List.mem_append.1 h with h | h
  · split at h
    · exact .inl (List.mem_singleton.1 h)
    · cases h
  · exact .inr (Decimal.isDigit_toDigits _ c h)

theorem getLast?_name (v : LoopVar) : ∃ c, v.name.toList.getLast? = some c ∧ c.isDigit = true := by
  obtain ⟨digits, c, hdigits⟩ := List.eq_nil_or_concat (Nat.toDigits 10 v.number.natAbs) |>.resolve_left
    (Decimal.toDigits_ne_nil _)
  refine ⟨c, ?_, Decimal.isDigit_toDigits v.number.natAbs c (by simp [hdigits])⟩
  rw [toList_name, Decimal.toList_toString, hdigits, List.concat_eq_append, ← List.append_assoc,
    ← List.cons_append, ← List.cons_append, List.getLast?_concat]

/-- No name of a variable holds such a character. -/
def isForeign (c : Char) : Bool := !isNameChar c && c != '-'

theorem not_mem_name (h : isForeign c = true) (v : LoopVar) : c ∉ v.name.toList := by
  simp only [isForeign, Bool.and_eq_true, Bool.not_eq_true', bne_iff_ne, ne_eq] at h
  obtain ⟨hname, hminus⟩ := h
  intro hc
  rw [toList_name] at hc
  have hletter := isNameChar_letter v
  rcases List.mem_cons.1 hc with rfl | hc
  · exact absurd hname (by decide)
  · rcases List.mem_cons.1 hc with rfl | hc
    · simp [hname] at hletter
    · rcases mem_number hc with rfl | hdigit
      · exact hminus rfl
      · simp [isNameChar_of_isDigit hdigit] at hname

/-! ## Parts of a text -/

namespace StandsIn

theorem underscore_mem (h : v.StandsIn s) : '_' ∈ s := by
  obtain ⟨before, after, rfl, -, -⟩ := h
  simp [toList_name]

theorem tail (h : v.StandsIn (c :: s)) (hc : isForeign c = true) : v.StandsIn s := by
  obtain ⟨before, after, heq, hbefore, hafter⟩ := h
  cases before with
  | nil =>
    rw [toList_name] at heq
    obtain ⟨rfl, -⟩ := List.cons.inj heq
    exact absurd hc (by decide)
  | cons b before =>
    obtain ⟨rfl, rfl⟩ := List.cons.inj heq
    exact ⟨before, after, rfl, fun d hd => hbefore d (List.mem_getLast?_cons hd), hafter⟩

theorem split (h : v.StandsIn (a ++ c :: b)) (hc : isForeign c = true) : v.StandsIn a ∨ v.StandsIn (c :: b) := by
  obtain ⟨before, after, heq, hbefore, hafter⟩ := h
  rcases List.append_eq_append_iff.1 heq with ⟨x, hx, hb⟩ | ⟨x, rfl, rfl⟩
  · rcases List.append_eq_append_iff.1 hx with ⟨y, rfl, hy⟩ | ⟨y, rfl, rfl⟩
    · cases x with
      | nil => exact .inl ⟨before, [], by simp [hy], hbefore, by simp⟩
      | cons d x =>
        obtain ⟨rfl, -⟩ := List.cons.inj hb
        exact absurd (by simp [hy]) (not_mem_name hc v)
    · exact .inr ⟨y, after, hb, fun d hd => hbefore d (List.mem_getLast?_append_of_mem_getLast? hd), hafter⟩
  · exact .inl ⟨before, x, rfl, hbefore, fun d hd => hafter d (List.mem_head?_append_of_mem_head? hd)⟩

theorem left_of_not_mem (h : v.StandsIn (a ++ b)) (hb : '_' ∉ b) (hhead : b.head?.any isForeign = true) :
    v.StandsIn a := by
  cases b with
  | nil => cases hhead
  | cons c b => exact (h.split hhead).resolve_right fun h => hb h.underscore_mem

theorem right_of_not_mem (h : v.StandsIn (a ++ b)) (ha : '_' ∉ a) (hlast : a.getLast?.any isForeign = true) :
    v.StandsIn b := by
  rcases List.eq_nil_or_concat a with rfl | ⟨a, c, rfl⟩
  · cases hlast
  · rw [List.concat_eq_append] at h ha hlast
    rw [List.getLast?_concat] at hlast
    rw [List.append_assoc] at h
    refine ((h.split hlast).resolve_left fun h => ha ?_).tail hlast
    exact List.mem_append_left _ h.underscore_mem

end StandsIn

/-! ## Texts between variables -/

/-- No variable stands in the text or reaches into it. -/
structure IsSeparator (m : String) : Prop where
  free : '_' ∉ m.toList
  head : m.toList.head?.any isForeign = true
  last : m.toList.getLast?.any isForeign = true

instance (m : String) : Decidable (IsSeparator m) :=
  decidable_of_iff (_ ∧ _ ∧ _) ⟨fun h => ⟨h.1, h.2.1, h.2.2⟩, fun h => ⟨h.free, h.head, h.last⟩⟩

namespace StandsIn

variable {l m r : String}

theorem left_or_right (h : v.StandsIn (l ++ m ++ r).toList) (hm : IsSeparator m) :
    v.StandsIn l.toList ∨ v.StandsIn r.toList := by
  rw [String.toList_append, String.toList_append, List.append_assoc] at h
  obtain ⟨hfree, hhead, hlast⟩ := hm
  cases hm : m.toList with
  | nil => simp [hm] at hhead
  | cons c cs =>
    rw [hm] at h hfree hhead hlast
    exact (h.split hhead).imp_right fun h => h.right_of_not_mem hfree hlast

theorem left (h : v.StandsIn (l ++ m).toList) (hm : IsSeparator m) : v.StandsIn l.toList := by
  rw [String.toList_append] at h
  exact h.left_of_not_mem hm.free hm.head

theorem right (h : v.StandsIn (m ++ r).toList) (hm : IsSeparator m) : v.StandsIn r.toList := by
  rw [String.toList_append] at h
  exact h.right_of_not_mem hm.free hm.last

end StandsIn

/-- A word stands for nothing else, if no digit ends it. -/
theorem not_standsIn_of_word (hs : ∀ c ∈ s, isNameChar c = true) (hlast : ∀ c ∈ s.getLast?, c.isDigit = false)
    (v : LoopVar) : ¬ v.StandsIn s := by
  rintro ⟨before, after, rfl, -, hafter⟩
  cases after with
  | nil =>
    obtain ⟨c, hc, hdigit⟩ := getLast?_name v
    rw [List.append_nil] at hlast
    exact absurd hdigit (by simp [hlast c (List.mem_getLast?_append_of_mem_getLast? hc)])
  | cons c after => exact absurd (hs c (by simp)) (by simp [hafter c rfl])

/-- An attribute is no variable. -/
theorem not_standsIn_attribute (hs : ∀ c ∈ s, isNameChar c = true) (v : LoopVar) : ¬ v.StandsIn ('.' :: s) := by
  rintro ⟨before, after, heq, hbefore, -⟩
  rcases List.eq_nil_or_concat before with rfl | ⟨before, d, rfl⟩
  · rw [toList_name] at heq
    obtain ⟨h, -⟩ := List.cons.inj heq
    exact absurd h (by decide)
  · obtain ⟨hd, hpoint⟩ := hbefore d (by simp)
    have hmem : d ∈ '.' :: s := by simp [heq]
    rcases List.mem_cons.1 hmem with rfl | hmem
    · exact hpoint rfl
    · simp [hs d hmem] at hd

theorem isDigit_of_mem_tail {n : Int} (h : c ∈ (toString n).toList.tail) : c.isDigit = true := by
  refine Decimal.isDigit_toDigits n.natAbs c ?_
  rw [Decimal.toList_toString] at h
  split at h
  · exact h
  · exact List.mem_of_mem_tail h

theorem underscore_not_mem (v : LoopVar) : '_' ∉ v.letter :: (toString v.number).toList := by
  have hletter : '_' ≠ v.letter := by
    cases v with
    | value n => exact (by decide : '_' ≠ 'v')
    | key n => exact (by decide : '_' ≠ 'k')
    | wire n => exact (by decide : '_' ≠ 'w')
  intro h
  rcases List.mem_cons.1 h with h | h
  · exact hletter h
  · rcases mem_number h with h | h <;> exact absurd h (by decide)

/-- Nothing but a digit goes on behind a number in a longer one. -/
theorem number_eq_of_append {m n : Int} (h : (toString n).toList = (toString m).toList ++ s)
    (hs : ∀ c ∈ s.head?, isNameChar c = false) : m = n := by
  cases s with
  | nil =>
    rw [List.append_nil] at h
    have hread := Decimal.int?_toString m
    rw [← h, Decimal.int?_toString] at hread
    exact (Option.some.inj hread).symm
  | cons c s =>
    have hne : (toString m).toList ≠ [] := by
      rw [Decimal.toList_toString]
      exact List.append_ne_nil_of_right_ne_nil _ (Decimal.toDigits_ne_nil _)
    have hdigit : c.isDigit = true := by
      refine isDigit_of_mem_tail (n := n) ?_
      rw [h, List.tail_append_of_ne_nil hne]
      simp
    exact absurd (isNameChar_of_isDigit hdigit) (by simp [hs c rfl])

theorem eq_of_standsIn (h : u.StandsIn v.name.toList) : u = v := by
  obtain ⟨before, after, heq, -, hafter⟩ := h
  rw [toList_name, toList_name] at heq
  cases before with
  | nil =>
    simp only [List.nil_append, List.cons_append, List.cons.injEq, true_and] at heq
    exact eq_of_letter_of_number heq.1.symm (number_eq_of_append heq.2 hafter)
  | cons b before =>
    simp only [List.append_assoc, List.cons_append, List.cons.injEq] at heq
    refine absurd ?_ (underscore_not_mem v)
    rw [heq.2]
    simp

theorem balanced_name (v : LoopVar) : Balanced v.name := by
  have hforeign : Text.brackets.all isForeign = true := by decide
  exact .of_forall fun c hc hbracket => not_mem_name (List.all_eq_true.1 hforeign c hbracket) v hc

end LoopVar

/-! ## Labels -/

/-- A text that can stand anywhere in an expression and has no part in what its comprehensions bind. -/
structure IsLabel (s : String) : Prop where
  balanced : Balanced s
  free : ∀ v : LoopVar, ¬ v.StandsIn s.toList

section Labels

variable {m n : String}

/-- A word that no digit ends. -/
theorem IsLabel.of_word (hn : n.toList.all isNameChar = true) (hlast : n.toList.getLast?.all (!·.isDigit) = true) :
    IsLabel n where
  balanced := .of_forall fun c hc => Text.not_mem_brackets_of_isNameChar (List.all_eq_true.1 hn c hc)
  free := LoopVar.not_standsIn_of_word (List.all_eq_true.1 hn) fun c hc => by simpa [Option.mem_def.1 hc] using hlast

variable (hn : ∀ c ∈ n.toList, isNameChar c = true)
include hn

theorem isLabel_snakeCase_append (hm : m.toList.all isNameChar = true) (hlast : m.toList.getLast? = some 'e') :
    IsLabel (snakeCase n ++ m) := by
  have hsnake : (snakeCase n).toList.all isNameChar = true := List.all_eq_true.2 fun c hc =>
    Naming.isNameChar_of_isSmall (isSmall_of_mem_snakeCase hn hc)
  refine .of_word ?_ ?_
  · rw [String.toList_append, List.all_append, hsnake, hm]
    rfl
  · rw [String.toList_append, List.getLast?_append, hlast]
    rfl

theorem isLabel_fromWireFunction : IsLabel (fromWireFunction n) := isLabel_snakeCase_append hn (by decide) (by decide)

theorem isLabel_toWireFunction : IsLabel (toWireFunction n) := isLabel_snakeCase_append hn (by decide) (by decide)

/-- What a module holds. -/
theorem IsLabel.attribute (hm : IsLabel m) : IsLabel (m ++ "." ++ n) where
  balanced := (hm.balanced.append (by decide)).append
    (.of_forall fun c hc => Text.not_mem_brackets_of_isNameChar (hn c hc))
  free v h := by
    have hpoint : (m ++ "." ++ n).toList = m.toList ++ '.' :: n.toList := by simp
    rw [hpoint] at h
    rcases h.split (by decide) with h | h
    · exact hm.free v h
    · exact LoopVar.not_standsIn_attribute hn v h

end Labels

end WireBridge
