import WireBridge.Definition.Terminal

/-!
# Tokens and layout

The terminals of the grammar as sets of texts, and texts as rows of tokens, said without the functions that look for
them.

* `Terminal.Matches` : the texts of a terminal;
* `Token.TakenBefore` : a text of its terminal, of which no longer one could be taken in front of what follows;
* `IsLayout`, `IsTrailing` : what may stand before a token, and what may stand after the last one;
* `Reads ts s rest` : the text `s` begins with the tokens `ts`, each with layout before it, and goes on with `rest`.

`reads_cons` and `reads_append` take a row of tokens apart; `Reads.cons_inj` says that a text and a terminal decide
the first token.
-/

set_option autoImplicit false

namespace WireBridge

/-! ## Terminals -/

/-- The terminals of the grammar: fixed words and marks, and four kinds of text. -/
inductive Terminal
  | word (w : String)
  | mark (c : Char)
  | name
  | quoted
  | number
  | doc
  deriving DecidableEq, Repr

namespace Terminal

def words : List String := ["options", "enum", "struct", "wire"]

def marks : List Char := ['\x7b', '\x7d', '(', ')', '[', ']', ':', '=', ',', '.', '@']

/-- The text between two quotation marks: a backslash takes the character after it along. -/
inductive QuotedBody : List Char → Prop
  | nil : QuotedBody []
  | plain {c : Char} {s : List Char} : c ≠ '"' → c ≠ '\\' → c ≠ '\n' → QuotedBody s → QuotedBody (c :: s)
  | escape {c : Char} {s : List Char} : c ≠ '\n' → QuotedBody s → QuotedBody ('\\' :: c :: s)

def IsDigits (s : List Char) : Prop := ∀ c ∈ s, c.isDigit = true

def IsSign (s : List Char) : Prop := s = [] ∨ s = ['+'] ∨ s = ['-']

def IsFraction (s : List Char) : Prop := s = [] ∨ ∃ places, IsDigits places ∧ s = '.' :: places

def IsPower (s : List Char) : Prop :=
  s = [] ∨ ∃ e sign digits,
    (e = 'e' ∨ e = 'E') ∧ IsSign sign ∧ IsDigits digits ∧ digits ≠ [] ∧ s = e :: (sign ++ digits)

/-- A number has a digit before or after its point, or no point. -/
def IsNumber (s : List Char) : Prop :=
  ∃ sign whole fraction power, IsSign sign ∧ IsDigits whole ∧ IsFraction fraction ∧ IsPower power ∧
    (∃ c ∈ whole ++ fraction, c.isDigit = true) ∧ s = sign ++ (whole ++ (fraction ++ power))

/-- The texts of a terminal. -/
def Matches : Terminal → List Char → Prop
  | word w, s => w ∈ words ∧ s = w.toList
  | mark c, s => c ∈ marks ∧ s = [c]
  | name, s => Text.isIdentifier s = true
  | quoted, s => ∃ body, QuotedBody body ∧ s = '"' :: (body ++ ['"'])
  | number, s => IsNumber s
  | doc, s => ∃ body, '\n' ∉ body ∧ s = '#' :: '#' :: body

end Terminal

/-- A text that was taken for a terminal. -/
structure Token where
  terminal : Terminal
  text : List Char
  deriving DecidableEq, Repr

namespace Token

def word (w : String) : Token := ⟨.word w, w.toList⟩

def mark (c : Char) : Token := ⟨.mark c, [c]⟩

def name (n : String) : Token := ⟨.name, n.toList⟩

/-- The text `body` between quotation marks. -/
def quoted (body : List Char) : Token := ⟨.quoted, '"' :: (body ++ ['"'])⟩

def number (lexeme : List Char) : Token := ⟨.number, lexeme⟩

/-- The doc comment with `body` behind its two number signs. -/
def doc (body : List Char) : Token := ⟨.doc, '#' :: '#' :: body⟩

end Token

/-- The token is a text of its terminal, and what it stands before makes no longer text of the terminal out of it. -/
structure Token.TakenBefore (t : Token) (rest : List Char) : Prop where
  isText : t.terminal.Matches t.text
  longest : ∀ w, t.terminal.Matches w → w <+: t.text ++ rest → w.length ≤ t.text.length

/-- A text and a terminal decide the token at the start of the text. -/
theorem Token.TakenBefore.unique {t u : Token} {r r' : List Char} (ht : t.TakenBefore r) (hu : u.TakenBefore r')
    (hterminal : t.terminal = u.terminal) (htext : t.text ++ r = u.text ++ r') : t = u ∧ r = r' := by
  have hle : u.text.length ≤ t.text.length :=
    ht.longest u.text (hterminal ▸ hu.isText) (htext ▸ List.prefix_append u.text r')
  have hge : t.text.length ≤ u.text.length :=
    hu.longest t.text (hterminal ▸ ht.isText) (htext ▸ List.prefix_append t.text r)
  obtain ⟨hw, hr⟩ := List.append_inj htext (Nat.le_antisymm hge hle)
  cases t
  cases u
  simp_all

/-- A text of characters of a class ends before a character outside of the class. -/
theorem prefix_of_class {p : Char → Bool} {w a b : List Char} (hw : ∀ c ∈ w, p c = true)
    (hb : ∀ c, b.head? = some c → p c = false) (h : w <+: a ++ b) : w <+: a := by
  rcases Nat.le_total w.length a.length with hle | hle
  · exact List.prefix_of_prefix_length_le h (List.prefix_append a b) hle
  · obtain ⟨more, rfl⟩ := List.prefix_of_prefix_length_le (List.prefix_append a b) h hle
    obtain ⟨after, rfl⟩ := (List.prefix_append_right_inj a).1 h
    cases more with
    | nil => simp
    | cons c more =>
      have hin : p c = true := hw c (by simp)
      rw [hb c rfl] at hin
      cases hin

theorem Token.takenBefore_of_class {t : Token} {rest : List Char} {p : Char → Bool}
    (hclass : ∀ w, t.terminal.Matches w → ∀ c ∈ w, p c = true) (htext : t.terminal.Matches t.text)
    (hrest : ∀ c, rest.head? = some c → p c = false) : t.TakenBefore rest :=
  ⟨htext, fun w hw hprefix => (prefix_of_class (hclass w hw) hrest hprefix).length_le⟩

/-! ## Layout -/

/-- The text of a comment, without the end of its line. -/
def IsComment (s : List Char) : Prop := ∃ body, s = '#' :: body ∧ body.head? ≠ some '#' ∧ '\n' ∉ body

/-- White space and comments with their lines ended: what may stand before a token. -/
inductive IsLayout : List Char → Prop
  | nil : IsLayout []
  | space {c : Char} {l : List Char} : Terminal.isSpace c = true → IsLayout l → IsLayout (c :: l)
  | comment {w l : List Char} : IsComment w → IsLayout l → IsLayout (w ++ '\n' :: l)

/-- What may stand after the last token: the text may also end within a comment. -/
def IsTrailing (s : List Char) : Prop := ∃ l tail, IsLayout l ∧ (tail = [] ∨ IsComment tail) ∧ s = l ++ tail

theorem IsLayout.append {l m : List Char} (hl : IsLayout l) (hm : IsLayout m) : IsLayout (l ++ m) := by
  induction hl with
  | nil => exact hm
  | space hc _ ih => exact .space hc ih
  | comment hw _ ih =>
    rw [List.append_assoc, List.cons_append]
    exact .comment hw ih

theorem isLayout_of_isSpace {l : List Char} (h : ∀ c ∈ l, Terminal.isSpace c = true) : IsLayout l := by
  induction l with
  | nil => exact .nil
  | cons c l ih => exact .space (h c List.mem_cons_self) (ih fun d hd => h d (List.mem_cons_of_mem c hd))

namespace Terminal

theorem skipLayout_true_append {body s : List Char} (h : '\n' ∉ body) :
    skipLayout true (body ++ '\n' :: s) = skipLayout false s := by
  induction body with
  | nil => rfl
  | cons c body ih =>
    rw [List.mem_cons, not_or] at h
    have hc : (c != '\n') = true := bne_iff_ne.2 (Ne.symm h.1)
    simp only [List.cons_append, skipLayout, if_true, hc, ih h.2]

/-- A comment ends with the text or at the end of its line. -/
theorem skipLayout_true_cases (s : List Char) :
    ('\n' ∉ s ∧ skipLayout true s = []) ∨
      ∃ body rest, '\n' ∉ body ∧ s = body ++ '\n' :: rest ∧ skipLayout true s = skipLayout false rest := by
  induction s with
  | nil => exact .inl ⟨List.not_mem_nil, rfl⟩
  | cons c s ih =>
    by_cases hc : c = '\n'
    · subst hc
      exact .inr ⟨[], s, List.not_mem_nil, rfl, rfl⟩
    · have hstep : skipLayout true (c :: s) = skipLayout true s := by
        simp only [skipLayout, if_true, bne_iff_ne.2 hc]
      rw [hstep]
      have hcons : ∀ t : List Char, '\n' ∉ t → '\n' ∉ c :: t :=
        fun t ht hmem => (List.mem_cons.1 hmem).elim (Ne.symm hc) ht
      rcases ih with ⟨hs, hskip⟩ | ⟨body, rest, hbody, rfl, hskip⟩
      · exact .inl ⟨hcons s hs, hskip⟩
      · exact .inr ⟨c :: body, rest, hcons body hbody, rfl, hskip⟩

theorem afterLayout_space {c : Char} (hc : isSpace c = true) (s : List Char) :
    afterLayout (c :: s) = afterLayout s := by
  simp only [afterLayout, skipLayout, Bool.false_eq_true, if_false, hc, if_true]

theorem afterLayout_hash {s : List Char} (hs : s.head? ≠ some '#') :
    afterLayout ('#' :: s) = skipLayout true s := by
  have hhash : isSpace '#' = false := by decide
  simp only [afterLayout, skipLayout, Bool.false_eq_true, if_false, hhash, decide_true, Bool.true_and,
    bne_iff_ne.2 hs, if_true]

/-- No layout begins with the text. -/
theorem afterLayout_self {c : Char} {s : List Char} (hspace : isSpace c = false)
    (hhash : c = '#' → s.head? = some '#') : afterLayout (c :: s) = c :: s := by
  by_cases hc : c = '#'
  · subst hc
    have hhead : (s.head? != some '#') = false := bne_eq_false_iff_eq.2 (hhash rfl)
    simp only [afterLayout, skipLayout, Bool.false_eq_true, if_false, hspace, hhead, Bool.and_false]
  · simp only [afterLayout, skipLayout, Bool.false_eq_true, if_false, hspace, hc, decide_false, Bool.false_and]

theorem afterLayout_append {l : List Char} (hl : IsLayout l) (s : List Char) :
    afterLayout (l ++ s) = afterLayout s := by
  induction hl with
  | nil => rfl
  | space hc _ ih => rw [List.cons_append, afterLayout_space hc, ih]
  | @comment w l hw _ ih =>
    obtain ⟨body, rfl, hhead, hbody⟩ := hw
    have hnot : (body ++ '\n' :: (l ++ s)).head? ≠ some '#' := by
      cases body with
      | nil => exact fun h => absurd (Option.some.inj h) (by decide)
      | cons c body => exact hhead
    rw [List.append_assoc, List.cons_append, List.cons_append, afterLayout_hash hnot, skipLayout_true_append hbody]
    exact ih

/-- What is passed over is layout, unless the text ends within a comment. -/
theorem exists_layout (s : List Char) :
    ∃ l tail, IsLayout l ∧ s = l ++ tail ∧ (tail = afterLayout s ∨ IsComment tail ∧ afterLayout s = []) := by
  induction hn : s.length using Nat.strongRecOn generalizing s with
  | ind n ih =>
    subst hn
    have hpiece : ∀ p rest : List Char, IsLayout p → s = p ++ rest → rest.length < s.length →
        ∃ l tail, IsLayout l ∧ s = l ++ tail ∧ (tail = afterLayout s ∨ IsComment tail ∧ afterLayout s = []) := by
      rintro p rest hp rfl hlt
      obtain ⟨l, tail, hl, htext, hend⟩ := ih rest.length hlt rest rfl
      rw [afterLayout_append hp]
      exact ⟨p ++ l, tail, hp.append hl, by rw [List.append_assoc, ← htext], hend⟩
    cases s with
    | nil => exact ⟨[], [], .nil, rfl, .inl rfl⟩
    | cons c s =>
      by_cases hspace : isSpace c = true
      · exact hpiece [c] s (.space hspace .nil) rfl (Nat.lt_succ_self _)
      · by_cases hhash : c = '#' ∧ s.head? ≠ some '#'
        · obtain ⟨rfl, hhead⟩ := hhash
          rcases skipLayout_true_cases s with ⟨hs, hskip⟩ | ⟨body, rest, hbody, rfl, -⟩
          · exact ⟨[], '#' :: s, .nil, rfl, .inr ⟨⟨s, rfl, hhead, hs⟩, (afterLayout_hash hhead).trans hskip⟩⟩
          · have hcomment : IsComment ('#' :: body) := by
              refine ⟨body, rfl, fun h => hhead ?_, hbody⟩
              cases body with
              | nil => cases h
              | cons c body => exact h
            refine hpiece ('#' :: (body ++ ['\n'])) rest (.comment hcomment .nil) (by simp) ?_
            simp only [List.length_cons, List.length_append]
            omega
        · have hself : afterLayout (c :: s) = c :: s :=
            afterLayout_self (Bool.not_eq_true _ ▸ hspace) fun hc => Decidable.not_not.1 fun hs => hhash ⟨hc, hs⟩
          exact ⟨[], c :: s, .nil, rfl, .inl hself.symm⟩

theorem exists_layout_of_ne_nil {s : List Char} (h : afterLayout s ≠ []) :
    ∃ l, IsLayout l ∧ s = l ++ afterLayout s := by
  obtain ⟨l, tail, hl, htext, htail⟩ := exists_layout s
  obtain rfl | ⟨-, hnil⟩ := htail
  · exact ⟨l, hl, htext⟩
  · exact absurd hnil h

theorem afterLayout_eq_nil_iff {s : List Char} : afterLayout s = [] ↔ IsTrailing s := by
  constructor
  · intro h
    obtain ⟨l, tail, hl, rfl, htail⟩ := exists_layout s
    rw [h] at htail
    exact ⟨l, tail, hl, htail.imp_right And.left, rfl⟩
  · rintro ⟨l, tail, hl, rfl | ⟨body, rfl, hhead, hbody⟩, rfl⟩
    · rw [afterLayout_append hl]
      rfl
    · rw [afterLayout_append hl, afterLayout_hash hhead]
      rcases skipLayout_true_cases body with ⟨-, hskip⟩ | ⟨_, _, -, rfl, -⟩
      · exact hskip
      · simp at hbody

/-! ## How texts of terminals begin -/

theorem exists_cons_of_isIdentifier {w : List Char} (h : Text.isIdentifier w = true) :
    ∃ c rest, w = c :: rest ∧ Text.isNameStart c = true ∧ ∀ d ∈ rest, Text.isNameChar d = true := by
  cases w with
  | nil => cases h
  | cons c rest =>
    simp only [Text.isIdentifier, Bool.and_eq_true, List.all_eq_true] at h
    exact ⟨c, rest, rfl, h⟩

/-- The characters that may begin a number. -/
def isNumberStart (c : Char) : Bool := c.isDigit || c = '+' || c = '-' || c = '.'

theorem exists_cons_of_isNumber {w : List Char} (h : IsNumber w) :
    ∃ c rest, w = c :: rest ∧ isNumberStart c = true := by
  obtain ⟨sign, whole, fraction, power, hsign, hwhole, hfraction, -, hdigit, rfl⟩ := h
  rcases hsign with rfl | rfl | rfl
  · cases whole with
    | cons c whole => exact ⟨c, _, rfl, by simp [isNumberStart, hwhole c List.mem_cons_self]⟩
    | nil =>
      rcases hfraction with rfl | ⟨places, -, rfl⟩
      · simp at hdigit
      · exact ⟨'.', _, rfl, by decide⟩
  · exact ⟨'+', _, rfl, by decide⟩
  · exact ⟨'-', _, rfl, by decide⟩

/-- The characters that may begin layout. -/
def layoutStarts : List Char := [' ', '\t', '\x0c', '\r', '\n', '#']

theorem isSpace_or_eq_hash_iff {c : Char} : isSpace c = true ∨ c = '#' ↔ c ∈ layoutStarts := by
  simp [isSpace, layoutStarts, or_assoc]

/-- A class of characters without those that begin layout begins no layout. -/
theorem afterLayout_of_class {p : Char → Bool} {c : Char} (hc : p c = true)
    (hclass : layoutStarts.any p = false) (s : List Char) : afterLayout (c :: s) = c :: s := by
  have hnot : c ∉ layoutStarts := fun hmem => List.any_eq_false.1 hclass c hmem hc
  rw [← isSpace_or_eq_hash_iff, not_or, Bool.not_eq_true] at hnot
  exact afterLayout_self hnot.1 fun h => absurd h hnot.2

/-- No layout begins where a text of a terminal begins. -/
theorem afterLayout_of_matches {t : Terminal} {w : List Char} (h : t.Matches w) (s : List Char) :
    w ≠ [] ∧ afterLayout (w ++ s) = w ++ s := by
  cases t with
  | word n =>
    obtain ⟨hn, rfl⟩ := h
    simp only [words, List.mem_cons, List.not_mem_nil, or_false] at hn
    rcases hn with rfl | rfl | rfl | rfl
    · exact ⟨by decide, rfl⟩
    · exact ⟨by decide, rfl⟩
    · exact ⟨by decide, rfl⟩
    · exact ⟨by decide, rfl⟩
  | mark c =>
    obtain ⟨hc, rfl⟩ := h
    have hin : marks.contains c = true := List.contains_iff_mem.2 hc
    exact ⟨List.cons_ne_nil _ _, afterLayout_of_class hin (by decide) s⟩
  | name =>
    obtain ⟨c, rest, rfl, hc, -⟩ := exists_cons_of_isIdentifier h
    exact ⟨List.cons_ne_nil _ _, afterLayout_of_class hc (by decide) _⟩
  | quoted =>
    obtain ⟨body, -, rfl⟩ := h
    exact ⟨List.cons_ne_nil _ _, afterLayout_self (by decide) fun hc => absurd hc (by decide)⟩
  | number =>
    obtain ⟨c, rest, rfl, hc⟩ := exists_cons_of_isNumber h
    exact ⟨List.cons_ne_nil _ _, afterLayout_of_class hc (by decide) _⟩
  | doc =>
    obtain ⟨body, -, rfl⟩ := h
    exact ⟨List.cons_ne_nil _ _, afterLayout_self (by decide) fun _ => rfl⟩

end Terminal

/-! ## Rows of tokens -/

/-- A token and the layout before it. -/
structure LaidToken where
  layout : List Char
  token : Token
  deriving DecidableEq, Repr

def LaidToken.text (p : LaidToken) : List Char := p.layout ++ p.token.text

def spelling (ps : List LaidToken) : List Char := ps.flatMap LaidToken.text

theorem spelling_cons (p : LaidToken) (ps : List LaidToken) (r : List Char) :
    spelling (p :: ps) ++ r = p.layout ++ (p.token.text ++ (spelling ps ++ r)) := by
  simp only [spelling, LaidToken.text, List.flatMap_cons, List.append_assoc]

/-- In front of `rest`, every token of the row has layout before it and is the longest that can be taken. -/
def Readable : List LaidToken → List Char → Prop
  | [], _ => True
  | p :: ps, rest => IsLayout p.layout ∧ p.token.TakenBefore (spelling ps ++ rest) ∧ Readable ps rest

/-- The text begins with the tokens and goes on with `rest`. -/
def Reads (ts : List Token) (s rest : List Char) : Prop :=
  ∃ ps : List LaidToken, ps.map LaidToken.token = ts ∧ Readable ps rest ∧ s = spelling ps ++ rest

section Reads

variable {t u : Token} {ts us : List Token} {s r r' : List Char}

theorem reads_nil : Reads [] s r ↔ s = r := by
  constructor
  · rintro ⟨ps, hps, -, rfl⟩
    rw [List.map_eq_nil_iff.1 hps]
    rfl
  · rintro rfl
    exact ⟨[], rfl, trivial, rfl⟩

theorem reads_cons :
    Reads (t :: ts) s r ↔ ∃ v, t.TakenBefore v ∧ Terminal.afterLayout s = t.text ++ v ∧ Reads ts v r := by
  constructor
  · rintro ⟨ps, hps, hread, rfl⟩
    obtain ⟨p, ps, rfl, rfl, rfl⟩ := List.map_eq_cons_iff.1 hps
    obtain ⟨hlayout, htaken, hread⟩ := hread
    refine ⟨spelling ps ++ r, htaken, ?_, ps, rfl, hread, rfl⟩
    rw [spelling_cons, Terminal.afterLayout_append hlayout, (Terminal.afterLayout_of_matches htaken.isText _).2]
  · rintro ⟨v, htaken, htext, ps, rfl, hread, rfl⟩
    have hne : Terminal.afterLayout s ≠ [] := by
      rw [htext]
      exact List.append_ne_nil_of_left_ne_nil (Terminal.afterLayout_of_matches htaken.isText []).1 _
    obtain ⟨l, hl, hs⟩ := Terminal.exists_layout_of_ne_nil hne
    refine ⟨⟨l, t⟩ :: ps, rfl, ⟨hl, htaken, hread⟩, ?_⟩
    rw [hs, htext, spelling_cons]

theorem reads_append : Reads (ts ++ us) s r ↔ ∃ v, Reads ts s v ∧ Reads us v r := by
  induction ts generalizing s with
  | nil => simp [reads_nil]
  | cons t ts ih =>
    simp only [List.cons_append, reads_cons, ih]
    constructor
    · rintro ⟨v, htaken, htext, w, hts, hus⟩
      exact ⟨w, ⟨v, htaken, htext, hts⟩, hus⟩
    · rintro ⟨w, ⟨v, htaken, htext, hts⟩, hus⟩
      exact ⟨v, htaken, htext, w, hts, hus⟩

/-- The first token of a row. -/
theorem reads_head : Reads (t :: ts) s r ↔ ∃ v, Reads [t] s v ∧ Reads ts v r :=
  @reads_append [t] ts s r

theorem reads_singleton : Reads [t] s r ↔ t.TakenBefore r ∧ Terminal.afterLayout s = t.text ++ r := by
  simp only [reads_cons, reads_nil]
  constructor
  · rintro ⟨v, htaken, htext, rfl⟩
    exact ⟨htaken, htext⟩
  · rintro ⟨htaken, htext⟩
    exact ⟨r, htaken, htext, rfl⟩

/-- A text and the terminal of its first token decide the token and what follows it. -/
theorem Reads.cons_inj (h : Reads (t :: ts) s r) (h' : Reads (u :: us) s r') (hterminal : t.terminal = u.terminal) :
    t = u ∧ ∃ v, Reads ts v r ∧ Reads us v r' := by
  obtain ⟨v, htaken, htext, hts⟩ := reads_cons.1 h
  obtain ⟨v', htaken', htext', hus⟩ := reads_cons.1 h'
  obtain ⟨rfl, rfl⟩ := htaken.unique htaken' hterminal (htext.symm.trans htext')
  exact ⟨rfl, v, hts, hus⟩

/-- Every token takes a character at least. -/
theorem Reads.length_add_le (h : Reads ts s r) : ts.length + r.length ≤ s.length := by
  obtain ⟨ps, rfl, hread, rfl⟩ := h
  induction ps with
  | nil => simp [spelling]
  | cons p ps ih =>
    have hpos : 0 < p.token.text.length :=
      List.length_pos_iff.2 (Terminal.afterLayout_of_matches hread.2.1.isText []).1
    have hmore := ih hread.2.2
    rw [spelling_cons]
    simp only [List.map_cons, List.length_cons, List.length_append] at hmore ⊢
    omega

end Reads

/-! ## The next character -/

/-- The first character that is not layout. -/
def nextChar? (s : List Char) : Option Char := (Terminal.afterLayout s).head?

theorem Reads.nextChar?_eq {t : Token} {ts : List Token} {s r : List Char} (h : Reads (t :: ts) s r) :
    nextChar? s = t.text.head? := by
  obtain ⟨v, htaken, htext, -⟩ := reads_cons.1 h
  obtain ⟨c, w, hw⟩ := List.exists_cons_of_ne_nil (Terminal.afterLayout_of_matches htaken.isText []).1
  rw [nextChar?, htext, hw]
  rfl

end WireBridge
