import WireBridge.Text.Identifier

/-!
# Balanced brackets

* `openAfter opened s` : the brackets that are still open behind the text `s`, if `opened` are open in front of it,
  each as the one that closes it and the innermost first. There is no result where a bracket is closed that is not the
  innermost open one;
* `Balanced s` : every bracket of `s` is closed in `s`. Such a text leaves the brackets around it as they are
  (`Balanced.openAfter_eq`), so texts are balanced that are put together of balanced ones (`Balanced.append`,
  `Balanced.within`).

Brackets count wherever they stand; a text in quotes is read like any other.
-/

set_option autoImplicit false

namespace WireBridge

namespace Text

/-- The bracket that closes an opening one. -/
def closing? (c : Char) : Option Char :=
  if c = '(' then some ')' else if c = '[' then some ']' else if c = '\x7b' then some '\x7d' else none

def isClosing (c : Char) : Bool := c = ')' || c = ']' || c = '\x7d'

/-- The open brackets behind one more character. -/
def readBracket (opened : List Char) (c : Char) : Option (List Char) :=
  match closing? c with
  | some close => some (close :: opened)
  | none => if isClosing c then if opened.head? = some c then some opened.tail else none else some opened

def openAfter (opened s : List Char) : Option (List Char) := s.foldlM readBracket opened

theorem openAfter_append (opened a b : List Char) :
    openAfter opened (a ++ b) = (openAfter opened a).bind (openAfter · b) :=
  List.foldlM_append

/-- Brackets further out stay open. -/
theorem readBracket_append {opened behind : List Char} {c : Char} (h : readBracket opened c = some behind)
    (outer : List Char) : readBracket (opened ++ outer) c = some (behind ++ outer) := by
  unfold readBracket at h ⊢
  split at h
  · cases h
    rfl
  · split at h
    · next hclose =>
      simp only [Option.ite_none_right_eq_some, Option.some.injEq] at h
      obtain ⟨htop, rfl⟩ := h
      obtain ⟨rest, rfl⟩ := List.head?_eq_some_iff.1 htop
      simp [hclose]
    · next hclose =>
      cases h
      simp [hclose]

theorem openAfter_outer {opened behind s : List Char} (h : openAfter opened s = some behind) (outer : List Char) :
    openAfter (opened ++ outer) s = some (behind ++ outer) := by
  induction s generalizing opened with
  | nil =>
    cases h
    rfl
  | cons c s ih =>
    obtain ⟨next, hnext, h⟩ := Option.bind_eq_some_iff.1 h
    exact Option.bind_eq_some_iff.2 ⟨_, readBracket_append hnext outer, ih h⟩

def brackets : List Char := ['(', ')', '[', ']', '\x7b', '\x7d']

theorem openAfter_of_forall {s : List Char} (h : ∀ c ∈ s, c ∉ brackets) (opened : List Char) :
    openAfter opened s = some opened := by
  induction s with
  | nil => rfl
  | cons c s ih =>
    obtain ⟨hc, hs⟩ := List.forall_mem_cons.1 h
    refine Option.bind_eq_some_iff.2 ⟨opened, ?_, ih hs⟩
    simp only [brackets, List.mem_cons, List.not_mem_nil, or_false, not_or] at hc
    simp [readBracket, closing?, isClosing, hc]

theorem not_mem_brackets_of_isNameChar {c : Char} (h : isNameChar c = true) : c ∉ brackets := by
  have hnone : brackets.all (!isNameChar ·) = true := by decide
  intro hc
  simpa [h] using List.all_eq_true.1 hnone c hc

end Text

/-- Every bracket is closed, and in the order in which they are opened. -/
def Balanced (s : String) : Prop := Text.openAfter [] s.toList = some []

instance (s : String) : Decidable (Balanced s) := inferInstanceAs (Decidable (_ = _))

namespace Balanced

variable {a b s : String}

theorem openAfter_eq (h : Balanced s) (opened : List Char) : Text.openAfter opened s.toList = some opened :=
  Text.openAfter_outer h opened

/-- A balanced text between two that open and close the same brackets. -/
theorem within {opened : List Char} (ha : Text.openAfter [] a.toList = some opened) (hs : Balanced s)
    (hb : Text.openAfter opened b.toList = some []) : Balanced (a ++ s ++ b) := by
  rw [Balanced, String.toList_append, String.toList_append, Text.openAfter_append, Text.openAfter_append, ha,
    Option.bind_some, hs.openAfter_eq, Option.bind_some, hb]

theorem append (ha : Balanced a) (hb : Balanced b) : Balanced (a ++ b) := by
  rw [Balanced, String.toList_append, Text.openAfter_append, ha, Option.bind_some, hb]

theorem of_forall (h : ∀ c ∈ s.toList, c ∉ Text.brackets) : Balanced s := Text.openAfter_of_forall h []

end Balanced

end WireBridge
