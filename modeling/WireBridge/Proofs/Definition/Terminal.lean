import Mathlib.Data.List.Basic
import WireBridge.Definition.Parser
import WireBridge.Proofs.Definition.Token

/-!
# Terminals are read exactly

Each function that looks for a terminal at the start of a text finds its longest text there, and finds one
whenever there is one (`name?_eq_some_iff`, `number?_eq_some_iff`, `quoted?_eq_some_iff`, `doc?_eq_some_iff`). For the
parsers of single tokens this is said with `Reads`.

* `takenBefore_name`, `takenBefore_number`, `takenBefore_doc` : what may follow a token;
* `length_le_numberLexeme` : no number at the start of a text is longer than the one that is found.
-/

set_option autoImplicit false

namespace WireBridge

namespace Terminal

/-! ## What may follow a token -/

theorem takenBefore_word {w : String} (hw : w ∈ words) (r : List Char) : (Token.word w).TakenBefore r := by
  refine ⟨⟨hw, rfl⟩, ?_⟩
  rintro v ⟨-, rfl⟩ -
  exact Nat.le_refl _

theorem takenBefore_mark {c : Char} (hc : c ∈ marks) (r : List Char) : (Token.mark c).TakenBefore r := by
  refine ⟨⟨hc, rfl⟩, ?_⟩
  rintro v ⟨-, rfl⟩ -
  exact Nat.le_refl _

theorem isNameChar_of_isNameStart {c : Char} (h : Text.isNameStart c = true) : Text.isNameChar c = true := by
  simp only [Text.isNameStart, Text.isNameChar, Char.isAlphanum, Bool.or_eq_true] at h ⊢
  exact h.imp_left .inl

theorem isNameChar_of_isIdentifier {w : List Char} (h : Text.isIdentifier w = true) :
    ∀ c ∈ w, Text.isNameChar c = true := by
  obtain ⟨c, rest, rfl, hc, hrest⟩ := exists_cons_of_isIdentifier h
  exact List.forall_mem_cons.2 ⟨isNameChar_of_isNameStart hc, hrest⟩

theorem takenBefore_name {n r : List Char} (hn : Text.isIdentifier n = true)
    (hr : ∀ c, r.head? = some c → Text.isNameChar c = false) : Token.TakenBefore ⟨.name, n⟩ r :=
  Token.takenBefore_of_class (fun _ hw => isNameChar_of_isIdentifier hw) hn hr

/-- The characters of numbers. -/
def isNumberChar (c : Char) : Bool := isNumberStart c || c = 'e' || c = 'E'

theorem isNumberChar_of_isDigits {s : List Char} (h : IsDigits s) : ∀ c ∈ s, isNumberChar c = true :=
  fun c hc => by simp [isNumberChar, isNumberStart, h c hc]

theorem isNumberChar_of_isSign {s : List Char} (h : IsSign s) : ∀ c ∈ s, isNumberChar c = true := by
  rcases h with rfl | rfl | rfl
  · exact fun c hc => absurd hc List.not_mem_nil
  · exact List.forall_mem_singleton.2 rfl
  · exact List.forall_mem_singleton.2 rfl

theorem isNumberChar_of_isNumber {w : List Char} (h : IsNumber w) : ∀ c ∈ w, isNumberChar c = true := by
  obtain ⟨sign, whole, fraction, power, hsign, hwhole, hfraction, hpower, -, rfl⟩ := h
  simp only [List.forall_mem_append]
  refine ⟨isNumberChar_of_isSign hsign, isNumberChar_of_isDigits hwhole, ?_, ?_⟩
  · rcases hfraction with rfl | ⟨places, hplaces, rfl⟩
    · exact fun c hc => absurd hc List.not_mem_nil
    · exact List.forall_mem_cons.2 ⟨by decide, isNumberChar_of_isDigits hplaces⟩
  · rcases hpower with rfl | ⟨e, psign, digits, he, hpsign, hdigits, -, rfl⟩
    · exact fun c hc => absurd hc List.not_mem_nil
    · refine List.forall_mem_cons.2 ⟨?_, List.forall_mem_append.2
        ⟨isNumberChar_of_isSign hpsign, isNumberChar_of_isDigits hdigits⟩⟩
      rcases he with rfl | rfl
      · decide
      · decide

theorem takenBefore_number {w r : List Char} (hw : IsNumber w)
    (hr : ∀ c, r.head? = some c → isNumberChar c = false) : (Token.number w).TakenBefore r :=
  Token.takenBefore_of_class (fun _ hv => isNumberChar_of_isNumber hv) hw hr

theorem takenBefore_doc {body r : List Char} (hbody : '\n' ∉ body) (hr : ∀ c, r.head? = some c → c = '\n') :
    (Token.doc body).TakenBefore r := by
  refine Token.takenBefore_of_class (p := (· != '\n')) ?_ ⟨body, hbody, rfl⟩ fun c hc => ?_
  · rintro w ⟨body, hbody, rfl⟩ c hc
    rw [bne_iff_ne]
    rintro rfl
    simp [hbody] at hc
  · rw [hr c hc]
    rfl

/-- A quoted text ends at its first quotation mark without a backslash, whatever follows. -/
theorem QuotedBody.eq_of_append {body body' r r' : List Char} (h : QuotedBody body) (h' : QuotedBody body')
    (htext : body ++ '"' :: r = body' ++ '"' :: r') : body = body' ∧ r = r' := by
  induction h generalizing body' with
  | nil =>
    cases h' with
    | nil => exact ⟨rfl, (List.cons.inj htext).2⟩
    | plain hquote _ _ _ => exact absurd (List.cons.inj htext).1.symm hquote
    | escape _ _ => exact absurd (List.cons.inj htext).1 (by decide)
  | plain hquote hslash _ _ ih =>
    cases h' with
    | nil => exact absurd (List.cons.inj htext).1 hquote
    | plain _ _ _ h' =>
      obtain ⟨rfl, htail⟩ := List.cons.inj htext
      obtain ⟨rfl, rfl⟩ := ih h' htail
      exact ⟨rfl, rfl⟩
    | escape _ _ => exact absurd (List.cons.inj htext).1 hslash
  | escape _ _ ih =>
    cases h' with
    | nil => exact absurd (List.cons.inj htext).1 (by decide)
    | plain _ hslash _ _ => exact absurd (List.cons.inj htext).1.symm hslash
    | escape _ h' =>
      obtain ⟨-, hescaped⟩ := List.cons.inj htext
      obtain ⟨rfl, htail⟩ := List.cons.inj hescaped
      obtain ⟨rfl, rfl⟩ := ih h' htail
      exact ⟨rfl, rfl⟩

theorem takenBefore_quoted {body : List Char} (hbody : QuotedBody body) (r : List Char) :
    (Token.quoted body).TakenBefore r := by
  refine ⟨⟨body, hbody, rfl⟩, ?_⟩
  rintro w ⟨body', hbody', rfl⟩ ⟨after, htext⟩
  have htail : body ++ '"' :: r = body' ++ '"' :: after := by
    simpa [Token.quoted] using htext.symm
  obtain ⟨rfl, -⟩ := hbody.eq_of_append hbody' htail
  exact Nat.le_refl _

/-! ## Marks, words and names -/

theorem mark?_eq_some_iff {c : Char} {s r : List Char} {u : Unit} : mark? c s = some (u, r) ↔ s = c :: r := by
  cases s with
  | nil => simp [mark?]
  | cons d s =>
    by_cases hd : d = c
    · simp [mark?, hd]
    · simp [mark?, hd]

theorem keyword?_eq_some_iff {w s r : List Char} {u : Unit} : keyword? w s = some (u, r) ↔ s = w ++ r := by
  constructor
  · intro h
    unfold keyword? at h
    split at h
    · next htake =>
      have hr : s.drop w.length = r := congrArg Prod.snd (Option.some.inj h)
      calc s = s.take w.length ++ s.drop w.length := (List.take_append_drop w.length s).symm
        _ = w ++ r := by rw [htake, hr]
    · cases h
  · rintro rfl
    simp [keyword?]

theorem drop_length_of_append {α : Type} {s w r : List α} (h : w ++ r = s) : s.drop w.length = r := by
  rw [← h, List.drop_left]

theorem takeWhile_of_head {α : Type} {p : α → Bool} {w r : List α} (hw : ∀ c ∈ w, p c = true)
    (hr : ∀ c, r.head? = some c → p c = false) : (w ++ r).takeWhile p = w ∧ (w ++ r).dropWhile p = r := by
  rw [List.takeWhile_append_of_pos hw, List.dropWhile_append_of_pos hw]
  cases r with
  | nil => simp
  | cons c r => simp [hr c rfl]

theorem head_dropWhile_eq_false {α : Type} {p : α → Bool} {s : List α} :
    ∀ c, (s.dropWhile p).head? = some c → p c = false := by
  intro c hc
  have := List.head?_dropWhile_not p s
  rw [hc] at this
  simpa using this

/-- A reader that takes the longest text of a terminal, and takes one whenever there is one, is exact. -/
theorem eq_some_iff_of_exact {read : List Char → Option (List Char × List Char)} {k : Terminal}
    (sound : ∀ s w r, read s = some (w, r) → Token.TakenBefore ⟨k, w⟩ r ∧ s = w ++ r)
    (total : ∀ w r, k.Matches w → (read (w ++ r)).isSome) {s w r : List Char} :
    read s = some (w, r) ↔ Token.TakenBefore ⟨k, w⟩ r ∧ s = w ++ r := by
  refine ⟨sound s w r, ?_⟩
  rintro ⟨htaken, rfl⟩
  obtain ⟨⟨v, t⟩, hread⟩ := Option.isSome_iff_exists.1 (total w r htaken.isText)
  obtain ⟨htaken', htext⟩ := sound _ v t hread
  obtain ⟨htoken, rfl⟩ := htaken.unique htaken' rfl htext
  cases htoken
  exact hread

theorem name?_eq_some_iff {s w r : List Char} :
    name? s = some (w, r) ↔ Token.TakenBefore ⟨.name, w⟩ r ∧ s = w ++ r := by
  refine eq_some_iff_of_exact ?_ ?_
  · intro s w r h
    cases s with
    | nil => cases h
    | cons c s =>
      simp only [name?, Option.ite_none_right_eq_some, Option.some.injEq, Prod.mk.injEq] at h
      obtain ⟨hc, rfl, rfl⟩ := h
      refine ⟨takenBefore_name ?_ head_dropWhile_eq_false, by simp⟩
      simp [Text.isIdentifier, hc, List.all_takeWhile]
  · intro w r hw
    obtain ⟨c, rest, rfl, hc, -⟩ := exists_cons_of_isIdentifier hw
    simp [name?, hc]

/-! ## Numbers -/

/-- The sign at the start of a text, empty if there is none. -/
def leadingSign (s : List Char) : List Char := (s.take 1).filter fun c => c = '+' || c = '-'

theorem isSign_leadingSign (s : List Char) :
    IsSign (leadingSign s) ∧ leadingSign s ++ s.drop (leadingSign s).length = s := by
  cases s with
  | nil => exact ⟨.inl rfl, rfl⟩
  | cons c s =>
    by_cases hplus : c = '+'
    · subst hplus
      exact ⟨.inr (.inl rfl), rfl⟩
    · by_cases hminus : c = '-'
      · subst hminus
        exact ⟨.inr (.inr rfl), rfl⟩
      · simp [leadingSign, hplus, hminus, IsSign]

theorem leadingSign_append {sign s : List Char} (hsign : IsSign sign)
    (hs : ∀ c, s.head? = some c → c ≠ '+' ∧ c ≠ '-') : leadingSign (sign ++ s) = sign := by
  rcases hsign with rfl | rfl | rfl
  · cases s with
    | nil => rfl
    | cons c s =>
      obtain ⟨hplus, hminus⟩ := hs c rfl
      simp [leadingSign, hplus, hminus]
  · rfl
  · rfl

theorem isDigits_takeWhile (s : List Char) : IsDigits (s.takeWhile Char.isDigit) :=
  List.all_eq_true.1 List.all_takeWhile

/-- A digit is no other character of a number. -/
theorem ne_of_isDigit {c d : Char} (hc : c.isDigit = true) (hd : d.isDigit = false) : c ≠ d := by
  rintro rfl
  rw [hc] at hd
  cases hd

theorem exponentPart_cons (c : Char) (s : List Char) :
    exponentPart (c :: s) =
      if c = 'e' || c = 'E' then
        if ((s.drop (leadingSign s).length).takeWhile Char.isDigit).isEmpty then []
        else c :: leadingSign s ++ (s.drop (leadingSign s).length).takeWhile Char.isDigit
      else [] := rfl

theorem isPower_exponentPart (s : List Char) : IsPower (exponentPart s) ∧ exponentPart s <+: s := by
  cases s with
  | nil => exact ⟨.inl rfl, List.nil_prefix⟩
  | cons c s =>
    obtain ⟨hsign, hs⟩ := isSign_leadingSign s
    rw [exponentPart_cons]
    split
    · next hc =>
      split
      · exact ⟨.inl rfl, List.nil_prefix⟩
      · next hne =>
        refine ⟨.inr ⟨c, _, _, by simpa using hc, hsign, isDigits_takeWhile _, by simpa using hne, rfl⟩, ?_⟩
        have hprefix := (List.prefix_append_right_inj (leadingSign s)).2
          (List.takeWhile_prefix Char.isDigit (l := s.drop (leadingSign s).length))
        rw [hs] at hprefix
        exact List.cons_prefix_cons.2 ⟨rfl, hprefix⟩
    · exact ⟨.inl rfl, List.nil_prefix⟩

theorem length_le_exponentPart {power : List Char} (h : IsPower power) (r : List Char) :
    power.length ≤ (exponentPart (power ++ r)).length := by
  rcases h with rfl | ⟨e, sign, digits, he, hsign, hdigits, hne, rfl⟩
  · exact Nat.zero_le _
  · have hhead : ∀ c, (digits ++ r).head? = some c → c ≠ '+' ∧ c ≠ '-' := by
      intro c hc
      obtain ⟨d, digits, rfl⟩ := List.exists_cons_of_ne_nil hne
      obtain rfl := Option.some.inj hc
      have hd := hdigits d List.mem_cons_self
      exact ⟨ne_of_isDigit hd (by decide), ne_of_isDigit hd (by decide)⟩
    have hdigitsTaken : ((digits ++ r).takeWhile Char.isDigit) = digits ++ r.takeWhile Char.isDigit :=
      List.takeWhile_append_of_pos hdigits
    have hcond : (decide (e = 'e') || decide (e = 'E')) = true := by simpa using he
    rw [List.cons_append, List.append_assoc, exponentPart_cons, if_pos hcond, leadingSign_append hsign hhead,
      List.drop_left, hdigitsTaken, if_neg (by simp [hne])]
    simp

theorem fractionPart_point (hasWhole : Bool) (s : List Char) :
    fractionPart hasWhole ('.' :: s) =
      if hasWhole || !(s.takeWhile Char.isDigit).isEmpty then '.' :: s.takeWhile Char.isDigit else [] := rfl

theorem fractionPart_of_head_ne (hasWhole : Bool) {s : List Char} (h : s.head? ≠ some '.') :
    fractionPart hasWhole s = [] := by
  unfold fractionPart
  split
  · exact absurd rfl h
  · rfl

/-- The digits at the start of a text, with the point and the places after it. -/
def digitsPart (s : List Char) : List Char :=
  s.takeWhile Char.isDigit ++
    fractionPart (!(s.takeWhile Char.isDigit).isEmpty) (s.drop (s.takeWhile Char.isDigit).length)

theorem numberLexeme_eq (s : List Char) :
    numberLexeme s =
      if (digitsPart (s.drop (leadingSign s).length)).isEmpty then []
      else leadingSign s ++ digitsPart (s.drop (leadingSign s).length) ++
        exponentPart ((s.drop (leadingSign s).length).drop (digitsPart (s.drop (leadingSign s).length)).length) := rfl

theorem digitsPart_eq (s : List Char) :
    digitsPart s = s.takeWhile Char.isDigit ++
      fractionPart (!(s.takeWhile Char.isDigit).isEmpty) (s.dropWhile Char.isDigit) := by
  rw [digitsPart, drop_length_of_append List.takeWhile_append_dropWhile]

theorem IsDigits.exists_mem {s : List Char} (h : IsDigits s) (hne : s ≠ []) : ∃ c ∈ s, c.isDigit = true := by
  obtain ⟨c, t, rfl⟩ := List.exists_cons_of_ne_nil hne
  exact ⟨c, List.mem_cons_self, h c List.mem_cons_self⟩

/-- What is found is a number but for its sign and its power. -/
theorem isNumber_digitsPart {s : List Char} (h : digitsPart s ≠ []) :
    ∃ whole fraction, IsDigits whole ∧ IsFraction fraction ∧ digitsPart s = whole ++ fraction ∧
      (∃ c ∈ whole ++ fraction, c.isDigit = true) ∧ digitsPart s <+: s := by
  have hwhole := isDigits_takeWhile s
  have hplain : fractionPart (!(s.takeWhile Char.isDigit).isEmpty) (s.dropWhile Char.isDigit) = [] →
      ∃ whole fraction, IsDigits whole ∧ IsFraction fraction ∧ digitsPart s = whole ++ fraction ∧
        (∃ c ∈ whole ++ fraction, c.isDigit = true) ∧ digitsPart s <+: s := by
    intro hnil
    have heq : digitsPart s = s.takeWhile Char.isDigit := by rw [digitsPart_eq, hnil, List.append_nil]
    refine ⟨_, [], hwhole, .inl rfl, by rw [heq, List.append_nil], ?_, heq ▸ List.takeWhile_prefix _⟩
    rw [List.append_nil]
    exact hwhole.exists_mem (heq ▸ h)
  by_cases hpoint : (s.dropWhile Char.isDigit).head? = some '.'
  · obtain ⟨rest, hrest⟩ := List.head?_eq_some_iff.1 hpoint
    by_cases hdigit : (!(s.takeWhile Char.isDigit).isEmpty || !(rest.takeWhile Char.isDigit).isEmpty) = true
    · have heq : digitsPart s = s.takeWhile Char.isDigit ++ '.' :: rest.takeWhile Char.isDigit := by
        rw [digitsPart_eq, hrest, fractionPart_point, if_pos hdigit]
      refine ⟨_, _, hwhole, .inr ⟨_, isDigits_takeWhile rest, rfl⟩, heq, ?_, ?_⟩
      · rw [Bool.or_eq_true, Bool.not_eq_true', Bool.not_eq_true', List.isEmpty_eq_false_iff,
          List.isEmpty_eq_false_iff] at hdigit
        rcases hdigit with hdigit | hdigit
        · obtain ⟨c, hc, hd⟩ := hwhole.exists_mem hdigit
          exact ⟨c, List.mem_append_left _ hc, hd⟩
        · obtain ⟨c, hc, hd⟩ := (isDigits_takeWhile rest).exists_mem hdigit
          exact ⟨c, List.mem_append_right _ (List.mem_cons_of_mem _ hc), hd⟩
      · have hprefix : s.takeWhile Char.isDigit ++ '.' :: rest.takeWhile Char.isDigit <+:
            s.takeWhile Char.isDigit ++ s.dropWhile Char.isDigit := by
          rw [hrest, List.prefix_append_right_inj, List.cons_prefix_cons]
          exact ⟨rfl, List.takeWhile_prefix _⟩
        rwa [List.takeWhile_append_dropWhile, ← heq] at hprefix
    · exact hplain (by rw [hrest, fractionPart_point, if_neg hdigit])
  · exact hplain (fractionPart_of_head_ne _ hpoint)

/-- What is found is at least as long as a number without sign and power, and no longer before a power. -/
theorem length_le_digitsPart {whole fraction : List Char} (hwhole : IsDigits whole) (hfraction : IsFraction fraction)
    (hdigit : ∃ c ∈ whole ++ fraction, c.isDigit = true) (r : List Char) :
    (whole ++ fraction).length ≤ (digitsPart (whole ++ (fraction ++ r))).length ∧
      ((∃ c, r.head? = some c ∧ (c = 'e' ∨ c = 'E')) → digitsPart (whole ++ (fraction ++ r)) = whole ++ fraction) := by
  -- neither digits nor a point go on with the letter of a power
  have hpower : (∃ c, r.head? = some c ∧ (c = 'e' ∨ c = 'E')) →
      r.takeWhile Char.isDigit = [] ∧ r.head? ≠ some '.' := by
    rintro ⟨c, hc, he⟩
    obtain ⟨t, rfl⟩ := List.head?_eq_some_iff.1 hc
    rcases he with rfl | rfl
    · exact ⟨rfl, by simp⟩
    · exact ⟨rfl, by simp⟩
  rcases hfraction with rfl | ⟨places, hplaces, rfl⟩
  · rw [List.append_nil, List.nil_append, digitsPart_eq, List.takeWhile_append_of_pos hwhole,
      List.dropWhile_append_of_pos hwhole]
    refine ⟨by simp only [List.length_append]; omega, fun he => ?_⟩
    obtain ⟨htake, hhead⟩ := hpower he
    have hdrop : r.dropWhile Char.isDigit = r := by
      have hsplit := List.takeWhile_append_dropWhile (p := Char.isDigit) (l := r)
      rwa [htake] at hsplit
    rw [htake, hdrop, fractionPart_of_head_ne _ hhead, List.append_nil, List.append_nil]
  · obtain ⟨htake, hdrop⟩ := takeWhile_of_head (p := Char.isDigit) (w := whole) (r := '.' :: (places ++ r)) hwhole
      fun c hc => by obtain rfl := Option.some.inj hc; rfl
    have hcond : (!whole.isEmpty || !((places ++ r).takeWhile Char.isDigit).isEmpty) = true := by
      rw [List.takeWhile_append_of_pos hplaces]
      cases whole with
      | cons c whole => rfl
      | nil =>
        cases places with
        | cons c places => rfl
        | nil => simp at hdigit
    rw [List.cons_append, digitsPart_eq, htake, hdrop, fractionPart_point, if_pos hcond,
      List.takeWhile_append_of_pos hplaces]
    refine ⟨by simp only [List.length_append, List.length_cons]; omega, fun he => ?_⟩
    rw [(hpower he).1, List.append_nil]

theorem isNumber_numberLexeme {s : List Char} (h : numberLexeme s ≠ []) :
    IsNumber (numberLexeme s) ∧ numberLexeme s <+: s := by
  obtain ⟨hsign, hs⟩ := isSign_leadingSign s
  rw [numberLexeme_eq] at h ⊢
  generalize s.drop (leadingSign s).length = u at h hs ⊢
  by_cases hempty : (digitsPart u).isEmpty = true
  · rw [if_pos hempty] at h
    exact absurd rfl h
  · rw [if_neg hempty]
    obtain ⟨whole, fraction, hwhole, hfraction, heq, hdigit, after, hafter⟩ :=
      isNumber_digitsPart (s := u) (by simpa using hempty)
    obtain ⟨hpower, rest, hrest⟩ := isPower_exponentPart (u.drop (digitsPart u).length)
    refine ⟨⟨_, whole, fraction, _, hsign, hwhole, hfraction, hpower, hdigit, by simp [heq]⟩, rest, ?_⟩
    rw [List.append_assoc, hrest, drop_length_of_append hafter, List.append_assoc, hafter, hs]

/-- No number at the start of a text is longer than the one that is found. -/
theorem length_le_numberLexeme {w r : List Char} (h : IsNumber w) : w.length ≤ (numberLexeme (w ++ r)).length := by
  obtain ⟨sign, whole, fraction, power, hsign, hwhole, hfraction, hpower, hdigit, rfl⟩ := h
  have hhead : ∀ c, (whole ++ (fraction ++ (power ++ r))).head? = some c → c ≠ '+' ∧ c ≠ '-' := by
    intro c hc
    cases whole with
    | cons d whole =>
      obtain rfl := Option.some.inj hc
      have hd := hwhole d List.mem_cons_self
      exact ⟨ne_of_isDigit hd (by decide), ne_of_isDigit hd (by decide)⟩
    | nil =>
      rcases hfraction with rfl | ⟨places, -, rfl⟩
      · simp at hdigit
      · obtain rfl := Option.some.inj hc
        decide
  have htext : sign ++ (whole ++ (fraction ++ power)) ++ r = sign ++ (whole ++ (fraction ++ (power ++ r))) := by
    simp only [List.append_assoc]
  obtain ⟨hlength, hexact⟩ := length_le_digitsPart hwhole hfraction hdigit (power ++ r)
  have hpos : 0 < (whole ++ fraction).length := by
    obtain ⟨c, hc, -⟩ := hdigit
    exact List.length_pos_of_mem hc
  have hne : ¬ (digitsPart (whole ++ (fraction ++ (power ++ r)))).isEmpty = true := by
    rw [List.isEmpty_iff_length_eq_zero]
    omega
  rw [htext, numberLexeme_eq, leadingSign_append hsign hhead, List.drop_left, if_neg hne]
  -- before a power the digits are found exactly, so that the power stands where it is looked for
  by_cases hnil : power = []
  · subst hnil
    simp only [List.length_append, List.length_nil] at hlength ⊢
    omega
  · obtain ⟨e, psign, digits, he, -, -, -, hpowerText⟩ := hpower.resolve_left hnil
    have hdigits := hexact ⟨e, by rw [hpowerText]; rfl, he⟩
    have hdrop : (whole ++ (fraction ++ (power ++ r))).drop (whole ++ fraction).length = power ++ r := by
      rw [← List.append_assoc, List.drop_left]
    have hle := length_le_exponentPart hpower r
    rw [hdigits, hdrop]
    simp only [List.length_append] at hle ⊢
    omega

theorem number?_eq_some_iff {s w r : List Char} :
    number? s = some (w, r) ↔ (Token.number w).TakenBefore r ∧ s = w ++ r := by
  refine eq_some_iff_of_exact (k := .number) ?_ ?_
  · intro s w r h
    have hne : ¬ (numberLexeme s).isEmpty = true := fun hempty => by simp [number?, hempty] at h
    simp only [number?, if_neg hne, Option.some.injEq, Prod.mk.injEq] at h
    obtain ⟨rfl, rfl⟩ := h
    obtain ⟨hnumber, after, hafter⟩ := isNumber_numberLexeme (s := s) (by simpa using hne)
    rw [drop_length_of_append hafter]
    refine ⟨⟨hnumber, fun v hv hprefix => ?_⟩, hafter.symm⟩
    rw [hafter] at hprefix
    obtain ⟨t, rfl⟩ := hprefix
    exact length_le_numberLexeme hv
  · intro w r hw
    have hle := length_le_numberLexeme (r := r) hw
    have hpos : 0 < w.length := List.length_pos_iff.2 (afterLayout_of_matches (t := .number) hw []).1
    have hne : ¬ (numberLexeme (w ++ r)).isEmpty = true := by
      rw [List.isEmpty_iff_length_eq_zero]
      omega
    simp only [number?, if_neg hne, Option.isSome_some]

/-! ## Quoted texts and doc comments -/

/-- A text read after a backslash goes on with the character that the backslash takes along. -/
theorem quotedBody_sound {escaped : Bool} {s body r : List Char} (h : quotedBody escaped s = some (body, r)) :
    QuotedBody (if escaped then '\\' :: body else body) ∧ s = body ++ '"' :: r := by
  induction s generalizing escaped body with
  | nil => cases h
  | cons c s ih =>
    simp only [quotedBody] at h
    split at h
    · cases h
    · next hline =>
      split at h
      · next hquote =>
        simp only [Bool.and_eq_true, decide_eq_true_eq, Bool.not_eq_true'] at hquote
        obtain ⟨rfl, rfl⟩ := hquote
        cases h
        exact ⟨.nil, rfl⟩
      · next hquote =>
        obtain ⟨⟨tail, after⟩, htail, hbody⟩ := Option.map_eq_some_iff.1 h
        cases hbody
        obtain ⟨hvalid, rfl⟩ := ih htail
        refine ⟨?_, rfl⟩
        cases escaped with
        | true =>
          rw [Bool.not_true, Bool.and_false, if_neg Bool.false_ne_true] at hvalid
          exact .escape hline hvalid
        | false =>
          by_cases hslash : c = '\\'
          · subst hslash
            exact hvalid
          · simp only [hslash, decide_false, Bool.false_and, Bool.false_eq_true, if_false] at hvalid
            exact .plain (by simpa using hquote) hslash hline hvalid

theorem quotedBody_complete {body : List Char} (h : QuotedBody body) (r : List Char) :
    quotedBody false (body ++ '"' :: r) = some (body, r) := by
  induction h with
  | nil => rfl
  | plain hquote hslash hline _ ih => simp [quotedBody, hquote, hslash, hline, ih]
  | escape hline _ ih => simp [quotedBody, hline, ih]

theorem quoted?_eq_some_iff {s body r : List Char} :
    quoted? s = some (body, r) ↔ QuotedBody body ∧ s = '"' :: (body ++ '"' :: r) := by
  constructor
  · intro h
    unfold quoted? at h
    split at h
    · obtain ⟨hbody, rfl⟩ := quotedBody_sound h
      exact ⟨hbody, rfl⟩
    · cases h
  · rintro ⟨hbody, rfl⟩
    exact quotedBody_complete hbody r

theorem doc?_eq_some_iff {s body r : List Char} :
    doc? s = some (body, r) ↔ (Token.doc body).TakenBefore r ∧ s = '#' :: '#' :: (body ++ r) := by
  have sound : ∀ b t, doc? s = some (b, t) → (Token.doc b).TakenBefore t ∧ s = '#' :: '#' :: (b ++ t) := by
    intro b t h
    unfold doc? at h
    split at h
    · next rest =>
      simp only [Option.some.injEq, Prod.mk.injEq] at h
      obtain ⟨rfl, rfl⟩ := h
      refine ⟨takenBefore_doc ?_ ?_, by rw [List.takeWhile_append_dropWhile]⟩
      · intro hmem
        have := List.all_eq_true.1 List.all_takeWhile _ hmem
        simp at this
      · intro c hc
        simpa using head_dropWhile_eq_false c hc
    · cases h
  refine ⟨sound body r, ?_⟩
  rintro ⟨htaken, rfl⟩
  obtain ⟨htaken', htext⟩ := sound _ _ rfl
  obtain ⟨htoken, hr⟩ := htaken.unique htaken' rfl htext
  simp only [Token.doc, Token.mk.injEq, List.cons.injEq, true_and] at htoken
  simp only [doc?, ← htoken, ← hr]

end Terminal

end WireBridge
