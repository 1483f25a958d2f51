import WireBridge.Proofs.Definition.Grammar
import WireBridge.Proofs.Definition.Terminal

/-!
# A text has one derivation

Words are not kept apart from names and tokens may touch, so what is read next depends on the rule. `Decided tokens
ends a` says that the derivation `a` of a rule is the only one where it stands, as long as the text after it cannot
belong to the rule (`ends`). In every case the first character that is not layout tells the alternatives apart, but for
a path of the wire module and a name: there the point after the word decides (`name_of_wire`).
-/

set_option autoImplicit false

namespace WireBridge

/-! ## The next character -/

/-- Some text is left, and its first character that is not layout is in the class. -/
def Begins (inClass : Char → Bool) (s : List Char) : Prop := ∃ c, nextChar? s = some c ∧ inClass c = true

/-- The first character that is not layout, if there is one, is outside of the class. -/
def Avoids (inClass : Char → Bool) (s : List Char) : Prop := ∀ c, nextChar? s = some c → inClass c = false

/-- What may only stand after a type, a directive or an argument if it belongs to it. -/
def goesOn (c : Char) : Bool := c = '(' || c = '[' || c = '.' || c = '='

/-- The same for a row of directives. -/
def goesOnDirectives (c : Char) : Bool := goesOn c || c = '@'

def beginsEntry (c : Char) : Bool := c = '#' || Text.isNameStart c

section NextChar

variable {p q : Char → Bool} {c : Char} {ts : List Token} {s r : List Char}

theorem Begins.avoids (h : Begins p s) (hpq : ∀ c, p c = true → q c = false) : Avoids q s := by
  obtain ⟨c, hc, hp⟩ := h
  intro d hd
  obtain rfl := Option.some.inj (hc.symm.trans hd)
  exact hpq c hp

theorem Begins.not_avoids (h : Begins p s) : ¬ Avoids p s := by
  obtain ⟨c, hc, hp⟩ := h
  intro ha
  rw [ha c hc] at hp
  cases hp

theorem avoids_of_nextChar? (hc : nextChar? s = some c) (h : q c = false) : Avoids q s := by
  intro d hd
  obtain rfl := Option.some.inj (hc.symm.trans hd)
  exact h

theorem Avoids.mono (h : Avoids q s) (hpq : ∀ c, p c = true → q c = true) : Avoids p s := by
  intro c hc
  by_contra hp
  rw [Bool.not_eq_false] at hp
  have := h c hc
  rw [hpq c hp] at this
  cases this

theorem nextChar?_mark (h : Reads (.mark c :: ts) s r) : nextChar? s = some c := h.nextChar?_eq

theorem nextChar?_doc {body : List Char} (h : Reads (.doc body :: ts) s r) : nextChar? s = some '#' := h.nextChar?_eq

theorem reads_nil_inj {r' : List Char} (h : Reads [] s r) (h' : Reads [] s r') : r = r' :=
  (reads_nil.1 h).symm.trans (reads_nil.1 h')

theorem reads_name_inj {m n : String} {us : List Token} {r' : List Char} (h : Reads (.name m :: ts) s r)
    (h' : Reads (.name n :: us) s r') : m = n ∧ ∃ v, Reads ts v r ∧ Reads us v r' := by
  obtain ⟨hname, hrest⟩ := h.cons_inj h' rfl
  exact ⟨String.toList_inj.1 (Token.mk.inj hname).2, hrest⟩

theorem begins_name {n : String} (h : Reads (.name n :: ts) s r) : Begins Text.isNameStart s := by
  obtain ⟨v, htaken, -, -⟩ := reads_cons.1 h
  obtain ⟨c, rest, hn, hc, -⟩ := Terminal.exists_cons_of_isIdentifier htaken.isText
  exact ⟨c, h.nextChar?_eq.trans (congrArg List.head? hn), hc⟩

theorem isNameStart_ne {c d : Char} (hc : Text.isNameStart c = true) (hd : Text.isNameStart d = false) : c ≠ d := by
  rintro rfl
  rw [hc] at hd
  cases hd

theorem goesOnDirectives_of_isNameStart (hc : Text.isNameStart c = true) : goesOnDirectives c = false := by
  simp [goesOnDirectives, goesOn, isNameStart_ne hc (d := '(') (by decide), isNameStart_ne hc (d := '[') (by decide),
    isNameStart_ne hc (d := '.') (by decide), isNameStart_ne hc (d := '=') (by decide),
    isNameStart_ne hc (d := '@') (by decide)]

theorem goesOnDirectives_of_goesOn (hc : goesOn c = true) : goesOnDirectives c = true := by
  rw [goesOnDirectives, hc, Bool.true_or]

end NextChar

/-! ## Decided derivations -/

/-- No other derivation of the rule can be read where `a` is, up to a place where derivations of the rule end. -/
def Decided {α : Type} (tokens : α → List Token) (ends : List Char → Prop) (a : α) : Prop :=
  ∀ b s r r', Reads (tokens a) s r → ends r → Reads (tokens b) s r' → ends r' → a = b ∧ r = r'

section Decided

variable {α : Type} {tokens : α → List Token} {ends : List Char → Prop} {a b : α} {ts us : List Token}
  {s r r' : List Char}

/-- The first parts of two rows are the same if they are decided and end before the rest of the rows. -/
theorem Decided.append (ha : Decided tokens ends a) (h : Reads (tokens a ++ ts) s r) (h' : Reads (tokens b ++ us) s r')
    (hends : ∀ v, Reads ts v r → ends v) (hends' : ∀ v, Reads us v r' → ends v) :
    a = b ∧ ∃ v, Reads ts v r ∧ Reads us v r' := by
  obtain ⟨v, hv, hts⟩ := reads_append.1 h
  obtain ⟨v', hv', hus⟩ := reads_append.1 h'
  obtain ⟨rfl, rfl⟩ := ha b s v v' hv (hends v hts) hv' (hends' v' hus)
  exact ⟨rfl, v, hts, hus⟩

theorem Decided.imp {ends' : List Char → Prop} (ha : Decided tokens ends a) (h : ∀ s, ends' s → ends s) :
    Decided tokens ends' a :=
  fun b s r r' hr he hr' he' => ha b s r r' hr (h r he) hr' (h r' he')

/-- A mark before decided derivations. -/
theorem Decided.cons {t : Token} (ha : Decided tokens ends a) : Decided (fun a => t :: tokens a) ends a := by
  intro b s r r' h he h' he'
  obtain ⟨-, v, hv, hv'⟩ := h.cons_inj h' rfl
  exact ha b v r r' hv he hv' he'

/-- A row of decided derivations is decided where none of them can begin. -/
theorem decided_flatMap (ends starts : List Char → Prop) (hstarts : ∀ b s r, Reads (tokens b) s r → starts s)
    (hends : ∀ s, starts s → ends s) {as : List α} (has : ∀ a ∈ as, Decided tokens ends a) :
    Decided (List.flatMap tokens) (fun s => ends s ∧ ¬ starts s) as := by
  have begins : ∀ (cs : List α) v r, Reads (cs.flatMap tokens) v r → ends r → ends v := by
    intro cs v r h he
    cases cs with
    | nil => exact reads_nil.1 h ▸ he
    | cons c cs =>
      obtain ⟨_, hc, -⟩ := reads_append.1 h
      exact hends v (hstarts c v _ hc)
  have stops : ∀ (c : α) (cs : List α) v r, Reads ((c :: cs).flatMap tokens) v r → starts v := by
    intro c cs v r h
    obtain ⟨_, hc, -⟩ := reads_append.1 h
    exact hstarts c v _ hc
  induction as with
  | nil =>
    intro bs s r r' h he h' he'
    obtain rfl := reads_nil.1 h
    cases bs with
    | nil => exact ⟨rfl, reads_nil.1 h'⟩
    | cons b bs => exact absurd (stops b bs s r' h') he.2
  | cons a as ih =>
    intro bs s r r' h he h' he'
    cases bs with
    | nil =>
      obtain rfl := reads_nil.1 h'
      exact absurd (stops a as s r h) he'.2
    | cons b bs =>
      obtain ⟨rfl, v, has', hbs'⟩ := (has a List.mem_cons_self).append h h'
        (fun v hv => begins as v r hv he.1) fun v hv => begins bs v r' hv he'.1
      obtain ⟨rfl, hr⟩ := ih (fun c hc => has c (List.mem_cons_of_mem a hc)) bs v r r' has' he hbs' he'
      exact ⟨rfl, hr⟩

/-- Parts with commas between them, of which there is at least one. -/
theorem decided_separated (tokens : α → List Token) {ends : List Char → Prop}
    (hends : ∀ s, nextChar? s = some ',' → ends s) {as : List α} (has : ∀ c ∈ a :: as, Decided tokens ends c) :
    Decided (fun p : α × List α => separated tokens (p.1 :: p.2)) (fun s => ends s ∧ nextChar? s ≠ some ',')
      (a, as) := by
  have hcommas : Decided (List.flatMap fun b => .mark ',' :: tokens b) _ as :=
    decided_flatMap ends (nextChar? · = some ',') (fun _ _ _ h => nextChar?_mark h) hends fun c hc =>
      (has c (List.mem_cons_of_mem a hc)).cons
  rintro ⟨b, bs⟩ s r r' h he h' he'
  have begins : ∀ (cs : List α) v r, Reads (cs.flatMap fun b => .mark ',' :: tokens b) v r → ends r → ends v := by
    intro cs v r hv hr
    cases cs with
    | nil => exact reads_nil.1 hv ▸ hr
    | cons c cs => exact hends v (nextChar?_mark hv)
  obtain ⟨rfl, v, hv, hv'⟩ := (has a List.mem_cons_self).append h h' (fun v hv => begins as v r hv he.1)
    fun v hv => begins bs v r' hv he'.1
  obtain ⟨rfl, hr⟩ := hcommas bs v r r' hv he hv' he'
  exact ⟨rfl, hr⟩

/-- A block is decided by its entries: each begins as an entry does, and none as what closes the block. -/
theorem decided_block {opens : Char → Bool} (hopens : ∀ c, opens c = true → c ≠ '\x7d')
    (hbegins : ∀ b s r, Reads (tokens b) s r → Begins opens s) (hends : ∀ s, Begins opens s → ends s)
    (hclose : ∀ s, nextChar? s = some '\x7d' → ends s) {as : List α} (has : ∀ a ∈ as, Decided tokens ends a) :
    Decided (blockTokens tokens) (fun _ => True) as := by
  intro bs s r r' h _ h' _
  obtain ⟨-, v, hv, hv'⟩ := h.cons_inj h' rfl
  have closed : ∀ v r, Reads [.mark '\x7d'] v r → ends v ∧ ¬ Begins opens v := by
    intro v r hclosed
    have hnext := nextChar?_mark hclosed
    refine ⟨hclose v hnext, ?_⟩
    rintro ⟨c, hc, hopen⟩
    exact hopens c hopen (Option.some.inj (hc.symm.trans hnext))
  obtain ⟨rfl, w, hw, hw'⟩ := (decided_flatMap ends (Begins opens) hbegins hends has).append hv hv'
    (fun w hw => closed w r hw) fun w hw => closed w r' hw
  obtain ⟨-, x, hx, hx'⟩ := hw.cons_inj hw' rfl
  exact ⟨rfl, reads_nil_inj hx hx'⟩

end Decided

section Rules

variable {ts us : List Token} {s r r' : List Char}

/-! ## Values and directives -/

/-- The letters stand behind the digits. -/
theorem lt_toNat_of_isAlpha {c : Char} (h : c.isAlpha = true) : 57 < c.toNat := by
  unfold Char.isAlpha Char.isUpper Char.isLower at h
  simp only [Bool.or_eq_true, Bool.and_eq_true, decide_eq_true_eq, ge_iff_le, UInt32.le_iff_toNat_le] at h
  rcases h with ⟨hfirst, -⟩ | ⟨hfirst, -⟩
  · exact Nat.lt_of_lt_of_le (by decide : 57 < 'A'.toNat) hfirst
  · exact Nat.lt_of_lt_of_le (by decide : 57 < 'a'.toNat) hfirst

theorem isNameStart_of_isNumberStart {c : Char} (h : Terminal.isNumberStart c = true) :
    Text.isNameStart c = false := by
  simp only [Terminal.isNumberStart, Bool.or_eq_true, decide_eq_true_eq] at h
  rcases h with ((hdigit | rfl) | rfl) | rfl
  · have hlast : c.toNat ≤ 57 := (Char.isDigit_iff_toNat.1 hdigit).2
    have hletter : ¬ c.isAlpha = true := fun h => Nat.not_lt.2 hlast (lt_toNat_of_isAlpha h)
    have hunderscore : c ≠ '_' := by
      rintro rfl
      exact absurd hlast (by decide)
    rw [Text.isNameStart, Bool.eq_false_iff.2 hletter, decide_eq_false hunderscore]
    rfl
  · decide
  · decide
  · decide

def beginsValue (c : Char) : Bool := c = '"' || Text.isNameStart c || Terminal.isNumberStart c

/-- The terminal of a value that begins with the character. -/
def literalTerminal (c : Char) : Terminal :=
  if c = '"' then .quoted else if Text.isNameStart c then .name else .number

theorem terminal_of_reads_literal {l : Literal} (h : Reads (l.token :: ts) s r) :
    ∃ c, nextChar? s = some c ∧ beginsValue c = true ∧ l.token.terminal = literalTerminal c := by
  obtain ⟨v, htaken, -, -⟩ := reads_cons.1 h
  cases l with
  | quoted body => exact ⟨'"', h.nextChar?_eq, rfl, rfl⟩
  | number lexeme =>
    obtain ⟨c, rest, hlexeme, hc⟩ := Terminal.exists_cons_of_isNumber htaken.isText
    have hquote : c ≠ '"' := by
      rintro rfl
      exact absurd hc (by decide)
    refine ⟨c, h.nextChar?_eq.trans (congrArg List.head? hlexeme), by simp [beginsValue, hc], ?_⟩
    rw [literalTerminal, if_neg hquote, if_neg (by rw [isNameStart_of_isNumberStart hc]; exact Bool.false_ne_true)]
    rfl
  | symbol n =>
    obtain ⟨c, rest, hn, hc, -⟩ := Terminal.exists_cons_of_isIdentifier htaken.isText
    refine ⟨c, h.nextChar?_eq.trans (congrArg List.head? hn), by simp [beginsValue, hc], ?_⟩
    rw [literalTerminal, if_neg (isNameStart_ne hc (by decide)), if_pos hc]
    rfl

theorem Literal.token_inj {l m : Literal} (h : l.token = m.token) : l = m := by
  cases l <;> cases m <;>
    simp_all [Literal.token, Token.quoted, Token.number, Token.name, String.toList_inj]

theorem literal_inj {l m : Literal} (h : Reads (l.token :: ts) s r) (h' : Reads (m.token :: us) s r') :
    l = m ∧ ∃ v, Reads ts v r ∧ Reads us v r' := by
  obtain ⟨c, hc, -, hl⟩ := terminal_of_reads_literal h
  obtain ⟨d, hd, -, hm⟩ := terminal_of_reads_literal h'
  obtain rfl := Option.some.inj (hc.symm.trans hd)
  obtain ⟨htoken, hrest⟩ := h.cons_inj h' (hl.trans hm.symm)
  exact ⟨Literal.token_inj htoken, hrest⟩

theorem decided_argument (x : Argument Literal) : Decided Argument.tokens (Avoids goesOn) x := by
  rintro ⟨m, v⟩ s r r' h he h' he'
  have positional : ∀ {n : String} {l k : Literal} {q q' : List Char}, Avoids goesOn q' →
      Reads [.name n, .mark '=', l.token] s q → Reads [k.token] s q' → False := by
    intro n l k q q' hq' hnamed hk
    obtain ⟨c, hc, hstart⟩ := begins_name hnamed
    obtain ⟨d, hd, -, hterminal⟩ := terminal_of_reads_literal hk
    obtain rfl := Option.some.inj (hc.symm.trans hd)
    rw [literalTerminal, if_neg (isNameStart_ne hstart (by decide)), if_pos hstart] at hterminal
    obtain ⟨-, w, hw, hw'⟩ := hnamed.cons_inj hk hterminal.symm
    obtain rfl := reads_nil.1 hw'
    exact absurd ( hq' '=' (nextChar?_mark hw)) (by decide)
  obtain ⟨n, l⟩ := x
  cases n with
  | none =>
    cases m with
    | none =>
      obtain ⟨rfl, w, hw, hw'⟩ := literal_inj h h'
      exact ⟨rfl, reads_nil_inj hw hw'⟩
    | some m => exact (positional he h' h).elim
  | some n =>
    cases m with
    | none => exact (positional he' h h').elim
    | some m =>
      obtain ⟨rfl, w, hw, hw'⟩ := reads_name_inj h h'
      obtain ⟨-, x, hx, hx'⟩ := hw.cons_inj hw' rfl
      obtain ⟨rfl, y, hy, hy'⟩ := literal_inj hx hx'
      exact ⟨rfl, reads_nil_inj hy hy'⟩

theorem begins_argument {x : Argument Literal} (h : Reads x.tokens s r) : Begins beginsValue s := by
  have hliteral : ∃ l rest, x.tokens = Literal.token l :: rest := by
    obtain ⟨n, l⟩ := x
    cases n with
    | none => exact ⟨l, [], rfl⟩
    | some n => exact ⟨.symbol n, _, rfl⟩
  obtain ⟨l, rest, hl⟩ := hliteral
  rw [hl] at h
  obtain ⟨c, hc, hvalue, -⟩ := terminal_of_reads_literal h
  exact ⟨c, hc, hvalue⟩

/-- The last part of a list with commas ends at a mark that is none. -/
theorem ended_of_mark {c : Char} (h : Reads (.mark c :: ts) s r) (hc : goesOn c = false) (hcomma : c ≠ ',') :
    Avoids goesOn s ∧ nextChar? s ≠ some ',' := by
  have hnext := nextChar?_mark h
  exact ⟨avoids_of_nextChar? hnext hc, hnext ▸ fun heq => hcomma (Option.some.inj heq)⟩

/-- A list of arguments that may be empty, up to the parenthesis that closes it. -/
theorem arguments_inj {as bs : List (Argument Literal)}
    (h : Reads (separated Argument.tokens as ++ .mark ')' :: ts) s r)
    (h' : Reads (separated Argument.tokens bs ++ .mark ')' :: us) s r') :
    as = bs ∧ ∃ v, Reads ts v r ∧ Reads us v r' := by
  have notClosed : ∀ {c : Argument Literal} {cs : List (Argument Literal)} {ts us : List Token} {q q' : List Char},
      Reads (.mark ')' :: ts) s q → Reads (separated Argument.tokens (c :: cs) ++ us) s q' → False := by
    intro c cs ts us q q' hclosed hopen
    obtain ⟨v, hv, -⟩ := reads_append.1 hopen
    obtain ⟨w, hw, -⟩ := reads_append.1 hv
    exact (begins_argument hw).not_avoids (avoids_of_nextChar? (nextChar?_mark hclosed) (by decide))
  cases as with
  | nil =>
    cases bs with
    | nil =>
      obtain ⟨-, v, hv, hv'⟩ := h.cons_inj h' rfl
      exact ⟨rfl, v, hv, hv'⟩
    | cons b bs => exact (notClosed h h').elim
  | cons a as =>
    cases bs with
    | nil => exact (notClosed h' h).elim
    | cons b bs =>
      have hdecided := decided_separated Argument.tokens (fun s hs => avoids_of_nextChar? (q := goesOn) hs (by decide))
        fun c (_ : c ∈ a :: as) => decided_argument c
      obtain ⟨hpair, v, hv, hv'⟩ := hdecided.append (b := (b, bs)) h h'
        (fun _ hv => ended_of_mark hv (by decide) (by decide)) fun _ hv => ended_of_mark hv (by decide) (by decide)
      obtain ⟨rfl, rfl⟩ := Prod.mk.inj hpair
      obtain ⟨-, w, hw, hw'⟩ := hv.cons_inj hv' rfl
      exact ⟨rfl, w, hw, hw'⟩

theorem decided_directive (d : DirectiveTree) : Decided DirectiveTree.tokens (Avoids goesOn) d := by
  rintro ⟨m, bs⟩ s r r' h he h' he'
  obtain ⟨n, as⟩ := d
  obtain ⟨-, v, hv, hv'⟩ := h.cons_inj h' rfl
  obtain ⟨rfl, w, hw, hw'⟩ := reads_name_inj hv hv'
  cases as with
  | none =>
    obtain rfl := reads_nil.1 hw
    cases bs with
    | none => exact ⟨rfl, reads_nil.1 hw'⟩
    | some bs => exact absurd (he '(' (nextChar?_mark hw')) (by decide)
  | some as =>
    cases bs with
    | none =>
      obtain rfl := reads_nil.1 hw'
      exact absurd ( he' '(' (nextChar?_mark hw)) (by decide)
    | some bs =>
      obtain ⟨-, x, hx, hx'⟩ := hw.cons_inj hw' rfl
      obtain ⟨rfl, y, hy, hy'⟩ := arguments_inj hx hx'
      exact ⟨rfl, reads_nil_inj hy hy'⟩

theorem avoids_of_not_directives {v : List Char} (h : Avoids goesOnDirectives v) :
    Avoids goesOn v ∧ nextChar? v ≠ some '@' :=
  ⟨h.mono fun _ => goesOnDirectives_of_goesOn, fun hat => absurd (h '@' hat) (by decide)⟩

theorem decided_directives (ds : List DirectiveTree) :
    Decided (List.flatMap DirectiveTree.tokens) (Avoids goesOnDirectives) ds :=
  (decided_flatMap (Avoids goesOn) (nextChar? · = some '@') (fun _ _ _ h => nextChar?_mark h)
    (fun _ hs => avoids_of_nextChar? hs (by decide)) fun d _ => decided_directive d).imp
    fun _ => avoids_of_not_directives

/-! ## Comments -/

theorem decided_doc (d : DocTree) : Decided DocTree.tokens (nextChar? · ≠ some '#') d := by
  refine (decided_flatMap (fun _ => True) (nextChar? · = some '#') (fun _ _ _ h => nextChar?_doc h)
    (fun _ _ => trivial) fun body _ => ?_).imp fun s hs => ⟨trivial, hs⟩
  intro other s r r' h _ h' _
  obtain ⟨htoken, v, hv, hv'⟩ := h.cons_inj h' rfl
  exact ⟨by simpa [Token.doc] using htoken, reads_nil_inj hv hv'⟩

/-! ## Types -/

/-- Where the wire module and a name can both be read, a point follows the name. -/
theorem name_of_wire {n : String} (h : Reads (.word "wire" :: .mark '.' :: ts) s r) (h' : Reads (.name n :: us) s r') :
    ∃ v, nextChar? v = some '.' ∧ Reads us v r' := by
  obtain ⟨v, -, htext, hv⟩ := reads_cons.1 h
  obtain ⟨v', htaken', htext', hv'⟩ := reads_cons.1 h'
  have hpoint := nextChar?_mark hv
  -- no name goes on after the word, for what stands there is layout or the point
  have hend : ∀ c, v.head? = some c → Text.isNameChar c = false := by
    intro c hc
    obtain ⟨rest, rfl⟩ := List.head?_eq_some_iff.1 hc
    by_contra hname
    rw [Bool.not_eq_false] at hname
    rw [nextChar?, Terminal.afterLayout_of_class hname (by decide)] at hpoint
    obtain rfl := Option.some.inj hpoint
    exact absurd hname (by decide)
  have hword : Token.TakenBefore ⟨.name, "wire".toList⟩ v := Terminal.takenBefore_name (by decide) hend
  obtain ⟨-, rfl⟩ := hword.unique htaken' rfl (htext.symm.trans htext')
  exact ⟨v, hpoint, hv'⟩

theorem decided_path (path : List String) :
    Decided TypeTree.pathTokens (nextChar? · ≠ some '.') path := by
  refine (decided_flatMap (fun _ => True) (nextChar? · = some '.') (fun _ _ _ h => nextChar?_mark h)
    (fun _ _ => trivial) fun n _ => ?_).imp fun s hs => ⟨trivial, hs⟩
  intro m s r r' h _ h' _
  obtain ⟨-, v, hv, hv'⟩ := h.cons_inj h' rfl
  obtain ⟨rfl, w, hw, hw'⟩ := reads_name_inj hv hv'
  exact ⟨rfl, reads_nil_inj hw hw'⟩

/-- A type of the wire module and one that begins with a name do not stand at one place. -/
theorem not_reads_wire {n first : String} {more : List String} (h : Reads (TypeTree.wire first more).tokens s r)
    (h' : Reads (.name n :: ts) s r') (hts : ∀ v, Reads ts v r' → nextChar? v ≠ some '.') : False := by
  obtain ⟨v, hpoint, hv⟩ := name_of_wire h h'
  exact hts v hv hpoint

theorem decided_type (t : TypeTree) : Decided TypeTree.tokens (Avoids goesOn) t := by
  -- two types that begin alike differ in what follows: a bracket, a point behind `wire`, or none of them
  have ended : ∀ {q : List Char}, Avoids goesOn q → ∀ v, Reads [] v q → nextChar? v ≠ some '.' := by
    intro q hq v hv hpoint
    rw [reads_nil.1 hv] at hpoint
    exact absurd (hq '.' hpoint) (by decide)
  have opened : ∀ {ts : List Token} {q : List Char} v, Reads (.mark '[' :: ts) v q → nextChar? v ≠ some '.' := by
    intro ts q v hv hpoint
    exact absurd (Option.some.inj ((nextChar?_mark hv).symm.trans hpoint)) (by decide)
  have notOpened : ∀ {ts : List Token} {v q q' : List Char}, Reads (.mark '[' :: ts) v q → Reads [] v q' →
      Avoids goesOn q' → False := by
    intro ts v q q' hv hv' hq'
    obtain rfl := reads_nil.1 hv'
    exact absurd ( hq' '[' (nextChar?_mark hv)) (by decide)
  induction t using TypeTree.induction with
  | wire first more =>
    intro b s r r' h he h' he'
    cases b with
    | wire first' more' =>
      obtain ⟨-, v, hv, hv'⟩ := h.cons_inj h' rfl
      have hends : ∀ {q : List Char}, Avoids goesOn q → nextChar? q ≠ some '.' :=
        fun hq hpoint => absurd (hq '.' hpoint) (by decide)
      obtain ⟨hpath, rfl⟩ := decided_path (first :: more) _ v r r' hv (hends he) hv' (hends he')
      obtain ⟨rfl, rfl⟩ := List.cons.inj hpath
      exact ⟨rfl, rfl⟩
    | generic n first' more' => exact (not_reads_wire h h' opened).elim
    | simple n => exact (not_reads_wire h h' (ended he')).elim
  | generic n first more hfirst hmore =>
    intro b s r r' h he h' he'
    cases b with
    | wire first' more' => exact (not_reads_wire h' h opened).elim
    | simple n' =>
      obtain ⟨-, v, hv, hv'⟩ := h.cons_inj h' rfl
      exact (notOpened hv hv' he').elim
    | generic n' first' more' =>
      obtain ⟨rfl, v, hv, hv'⟩ := reads_name_inj h h'
      obtain ⟨-, w, hw, hw'⟩ := hv.cons_inj hv' rfl
      rw [TypeTree.moreTokens_eq, ← List.append_assoc] at hw hw'
      have hdecided := decided_separated TypeTree.tokens
        (fun s hs => avoids_of_nextChar? (q := goesOn) hs (by decide)) (List.forall_mem_cons.2 ⟨hfirst, hmore⟩)
      obtain ⟨hpair, x, hx, hx'⟩ := hdecided.append (b := (first', more')) hw hw'
        (fun _ hv => ended_of_mark hv (by decide) (by decide)) fun _ hv => ended_of_mark hv (by decide) (by decide)
      obtain ⟨rfl, rfl⟩ := Prod.mk.inj hpair
      obtain ⟨-, y, hy, hy'⟩ := hx.cons_inj hx' rfl
      exact ⟨rfl, reads_nil_inj hy hy'⟩
  | simple n =>
    intro b s r r' h he h' he'
    cases b with
    | wire first' more' => exact (not_reads_wire h' h (ended he)).elim
    | generic n' first' more' =>
      obtain ⟨-, v, hv, hv'⟩ := h.cons_inj h' rfl
      exact (notOpened hv' hv he).elim
    | simple n' =>
      obtain ⟨rfl, v, hv, hv'⟩ := reads_name_inj h h'
      exact ⟨rfl, reads_nil_inj hv hv'⟩

/-! ## Entries of blocks -/

theorem begins_entry {d : DocTree} {n : String} (h : Reads (d.tokens ++ .name n :: ts) s r) : Begins beginsEntry s := by
  cases d with
  | nil =>
    obtain ⟨c, hc, hname⟩ := begins_name h
    exact ⟨c, hc, by rw [beginsEntry, hname, Bool.or_true]⟩
  | cons body d => exact ⟨'#', nextChar?_doc h, rfl⟩

theorem nextChar?_ne_of_name {n : String} (h : Reads (.name n :: ts) s r) : nextChar? s ≠ some '#' := by
  obtain ⟨c, hc, hname⟩ := begins_name h
  rw [hc]
  exact fun heq => absurd (Option.some.inj heq) (isNameStart_ne hname (by decide))

/-- The comment and the name of an entry. -/
theorem entry_inj {d e : DocTree} {m n : String} (h : Reads (d.tokens ++ .name m :: ts) s r)
    (h' : Reads (e.tokens ++ .name n :: us) s r') : d = e ∧ m = n ∧ ∃ v, Reads ts v r ∧ Reads us v r' := by
  obtain ⟨rfl, v, hv, hv'⟩ := (decided_doc d).append h h' (fun _ hv => nextChar?_ne_of_name hv)
    fun _ hv => nextChar?_ne_of_name hv
  exact ⟨rfl, reads_name_inj hv hv'⟩

theorem decided_variant (v : VariantTree) : Decided VariantTree.tokens (Avoids goesOnDirectives) v := by
  rintro ⟨e, n, ds⟩ s r r' h he h' he'
  obtain ⟨d, m, cs⟩ := v
  obtain ⟨rfl, rfl, w, hw, hw'⟩ := entry_inj h h'
  obtain ⟨rfl, hr⟩ := decided_directives cs ds w r r' hw he hw' he'
  exact ⟨rfl, hr⟩

/-- What follows the type of a field does not belong to the type. -/
theorem avoids_of_reads_directives {ds : List DirectiveTree} (h : Reads (ds.flatMap DirectiveTree.tokens) s r)
    (hr : Avoids goesOnDirectives r) : Avoids goesOn s := by
  cases ds with
  | nil => exact reads_nil.1 h ▸ (avoids_of_not_directives hr).1
  | cons d ds => exact avoids_of_nextChar? (nextChar?_mark h) (by decide)

theorem decided_field (f : FieldTree) : Decided FieldTree.tokens (Avoids goesOnDirectives) f := by
  rintro ⟨e, n, u, ds⟩ s r r' h he h' he'
  obtain ⟨d, m, t, cs⟩ := f
  obtain ⟨rfl, rfl, v, hv, hv'⟩ := entry_inj h h'
  obtain ⟨-, w, hw, hw'⟩ := hv.cons_inj hv' rfl
  obtain ⟨rfl, x, hx, hx'⟩ := (decided_type t).append hw hw' (fun _ hx => avoids_of_reads_directives hx he)
    fun _ hx => avoids_of_reads_directives hx he'
  obtain ⟨rfl, hr⟩ := decided_directives cs ds x r r' hx he hx' he'
  exact ⟨rfl, hr⟩

theorem decided_option (o : OptionTree) : Decided OptionTree.tokens (fun _ => True) o := by
  rintro ⟨e, n, k⟩ s r r' h _ h' _
  obtain ⟨d, m, l⟩ := o
  obtain ⟨rfl, rfl, v, hv, hv'⟩ := entry_inj h h'
  obtain ⟨-, w, hw, hw'⟩ := hv.cons_inj hv' rfl
  obtain ⟨rfl, x, hx, hx'⟩ := literal_inj hw hw'
  exact ⟨rfl, reads_nil_inj hx hx'⟩

theorem ne_of_beginsEntry (c : Char) (h : beginsEntry c = true) : c ≠ '\x7d' := by
  rintro rfl
  exact absurd h (by decide)

theorem avoids_of_begins_entry (s : List Char) (h : Begins beginsEntry s) : Avoids goesOnDirectives s := by
  refine h.avoids fun c hc => ?_
  rw [beginsEntry, Bool.or_eq_true, decide_eq_true_eq] at hc
  rcases hc with rfl | hc
  · decide
  · exact goesOnDirectives_of_isNameStart hc

theorem avoids_of_closed (s : List Char) (h : nextChar? s = some '\x7d') : Avoids goesOnDirectives s :=
  avoids_of_nextChar? h (by decide)

theorem decided_variants (vs : List VariantTree) : Decided (blockTokens VariantTree.tokens) (fun _ => True) vs :=
  decided_block ne_of_beginsEntry (fun _ _ _ h => begins_entry h) avoids_of_begins_entry avoids_of_closed
    fun v _ => decided_variant v

theorem decided_fields (fs : List FieldTree) : Decided (blockTokens FieldTree.tokens) (fun _ => True) fs :=
  decided_block ne_of_beginsEntry (fun _ _ _ h => begins_entry h) avoids_of_begins_entry avoids_of_closed
    fun f _ => decided_field f

theorem decided_options (os : List OptionTree) : Decided (blockTokens OptionTree.tokens) (fun _ => True) os :=
  decided_block ne_of_beginsEntry (fun _ _ _ h => begins_entry h) (fun _ _ => trivial) (fun _ _ => trivial)
    fun o _ => decided_option o

/-! ## Items -/

/-- The words that begin the body of a declaration are told apart by their first letters. -/
def beginsBody (c : Char) : Bool := c = 'e' || c = 's'

def beginsHead (c : Char) : Bool := c = '@' || beginsBody c

def beginsDeclaration (c : Char) : Bool := c = '#' || beginsHead c

theorem begins_body {b : BodyTree} (h : Reads b.tokens s r) : Begins beginsBody s := by
  cases b with
  | enum n vs => exact ⟨'e', h.nextChar?_eq, rfl⟩
  | struct n fs => exact ⟨'s', h.nextChar?_eq, rfl⟩
  | newtype n t => exact ⟨'s', h.nextChar?_eq, rfl⟩

/-- The word and the name that begin the body of a declaration. -/
theorem named_inj {w m n : String} (h : Reads (.word w :: .name m :: ts) s r)
    (h' : Reads (.word w :: .name n :: us) s r') : m = n ∧ ∃ v, Reads ts v r ∧ Reads us v r' := by
  obtain ⟨-, v, hv, hv'⟩ := h.cons_inj h' rfl
  exact reads_name_inj hv hv'

theorem decided_body (b : BodyTree) : Decided BodyTree.tokens (fun _ => True) b := by
  -- the two words differ in the first letter, the two bodies behind `struct` in the mark after the name
  have apart : ∀ {ts us : List Token} {s r r' : List Char}, Reads (.word "enum" :: ts) s r →
      Reads (.word "struct" :: us) s r' → False := by
    intro ts us s r r' h h'
    exact absurd (Option.some.inj (h.nextChar?_eq.symm.trans h'.nextChar?_eq)) (by decide)
  have unwrapped : ∀ {n m : String} {ts us : List Token} {s r r' : List Char},
      Reads (.word "struct" :: .name n :: .mark '\x7b' :: ts) s r →
      Reads (.word "struct" :: .name m :: .mark '(' :: us) s r' → False := by
    intro n m ts us s r r' h h'
    obtain ⟨-, w, hw, hw'⟩ := named_inj h h'
    exact absurd (Option.some.inj ((nextChar?_mark hw).symm.trans (nextChar?_mark hw'))) (by decide)
  intro c s r r' h _ h' _
  cases b with
  | enum n vs =>
    cases c with
    | enum m ws =>
      obtain ⟨rfl, w, hw, hw'⟩ := named_inj h h'
      obtain ⟨rfl, hr⟩ := decided_variants vs ws w r r' hw trivial hw' trivial
      exact ⟨rfl, hr⟩
    | struct m fs => exact (apart h h').elim
    | newtype m t => exact (apart h h').elim
  | struct n fs =>
    cases c with
    | enum m ws => exact (apart h' h).elim
    | struct m gs =>
      obtain ⟨rfl, w, hw, hw'⟩ := named_inj h h'
      obtain ⟨rfl, hr⟩ := decided_fields fs gs w r r' hw trivial hw' trivial
      exact ⟨rfl, hr⟩
    | newtype m t => exact (unwrapped h h').elim
  | newtype n t =>
    cases c with
    | enum m ws => exact (apart h' h).elim
    | struct m gs => exact (unwrapped h' h).elim
    | newtype m u =>
      obtain ⟨rfl, w, hw, hw'⟩ := named_inj h h'
      obtain ⟨-, x, hx, hx'⟩ := hw.cons_inj hw' rfl
      have hends : ∀ {q : List Char} v, Reads [.mark ')'] v q → Avoids goesOn v :=
        fun _ hv => avoids_of_nextChar? (nextChar?_mark hv) (by decide)
      obtain ⟨rfl, y, hy, hy'⟩ := (decided_type t).append hx hx' hends hends
      obtain ⟨-, z, hz, hz'⟩ := hy.cons_inj hy' rfl
      exact ⟨rfl, reads_nil_inj hz hz'⟩

theorem begins_head {ds : List DirectiveTree} {b : BodyTree}
    (h : Reads (ds.flatMap DirectiveTree.tokens ++ b.tokens) s r) : Begins beginsHead s := by
  cases ds with
  | nil =>
    obtain ⟨c, hc, hbody⟩ := begins_body h
    exact ⟨c, hc, by rw [beginsHead, hbody, Bool.or_true]⟩
  | cons d ds => exact ⟨'@', nextChar?_mark h, rfl⟩

/-- What follows the comment of a declaration is no comment. -/
theorem nextChar?_ne_of_head {ds : List DirectiveTree} {b : BodyTree}
    (h : Reads (ds.flatMap DirectiveTree.tokens ++ b.tokens) s r) : nextChar? s ≠ some '#' :=
  fun hhash => (begins_head h).not_avoids (avoids_of_nextChar? hhash rfl)

/-- What follows the directives of a declaration does not belong to them. -/
theorem avoids_of_body {b : BodyTree} (h : Reads b.tokens s r) : Avoids goesOnDirectives s := by
  refine (begins_body h).avoids fun c hc => ?_
  rw [beginsBody, Bool.or_eq_true, decide_eq_true_eq, decide_eq_true_eq] at hc
  rcases hc with rfl | rfl
  · decide
  · decide

theorem begins_declaration {d : DocTree} {ds : List DirectiveTree} {b : BodyTree}
    (h : Reads (ItemTree.declaration d ds b).tokens s r) : Begins beginsDeclaration s := by
  cases d with
  | nil =>
    obtain ⟨c, hc, hhead⟩ := begins_head h
    exact ⟨c, hc, by rw [beginsDeclaration, hhead, Bool.or_true]⟩
  | cons body d => exact ⟨'#', nextChar?_doc h, rfl⟩

theorem decided_item (i : ItemTree) : Decided ItemTree.tokens (fun _ => True) i := by
  have apart : ∀ {os : List OptionTree} {d : DocTree} {ds : List DirectiveTree} {b : BodyTree} {s r r' : List Char},
      Reads (ItemTree.options os).tokens s r → Reads (ItemTree.declaration d ds b).tokens s r' → False := by
    intro os d ds b s r r' h h'
    exact (begins_declaration h').not_avoids (avoids_of_nextChar? (c := 'o') h.nextChar?_eq rfl)
  intro j s r r' h _ h' _
  cases i with
  | options os =>
    cases j with
    | options ps =>
      obtain ⟨-, v, hv, hv'⟩ := h.cons_inj h' rfl
      obtain ⟨rfl, hr⟩ := decided_options os ps v r r' hv trivial hv' trivial
      exact ⟨rfl, hr⟩
    | declaration d ds b => exact (apart h h').elim
  | declaration d ds b =>
    cases j with
    | options ps => exact (apart h' h).elim
    | declaration e es c =>
      obtain ⟨rfl, v, hv, hv'⟩ := (decided_doc d).append h h' (fun _ hv => nextChar?_ne_of_head hv)
        fun _ hv => nextChar?_ne_of_head hv
      obtain ⟨rfl, w, hw, hw'⟩ := (decided_directives ds).append hv hv' (fun _ hw => avoids_of_body hw)
        fun _ hw => avoids_of_body hw
      obtain ⟨rfl, hr⟩ := decided_body b c w r r' hw trivial hw' trivial
      exact ⟨rfl, hr⟩

theorem nextChar?_item {i : ItemTree} (h : Reads i.tokens s r) : nextChar? s ≠ none := by
  intro hnone
  cases i with
  | options os =>
    have hsome := h.nextChar?_eq
    rw [hnone] at hsome
    cases hsome
  | declaration d ds b =>
    obtain ⟨c, hc, -⟩ := begins_declaration h
    rw [hnone] at hc
    cases hc

theorem decided_items (is : List ItemTree) : Decided (List.flatMap ItemTree.tokens) (nextChar? · = none) is :=
  (decided_flatMap (fun _ => True) (nextChar? · ≠ none) (fun _ _ _ h => nextChar?_item h)
    (fun _ _ => trivial) fun i _ => decided_item i).imp fun _ hs => ⟨trivial, fun hne => hne hs⟩

end Rules

/-! ## Texts -/

/-- The tokens of a text decide the layout between them. -/
theorem Readable.inj {ps qs : List LaidToken} {r r' : List Char} (h : Readable ps r) (h' : Readable qs r')
    (htokens : ps.map LaidToken.token = qs.map LaidToken.token) (htext : spelling ps ++ r = spelling qs ++ r') :
    ps = qs ∧ r = r' := by
  induction ps generalizing qs with
  | nil =>
    obtain rfl := List.map_eq_nil_iff.1 htokens.symm
    exact ⟨rfl, htext⟩
  | cons p ps ih =>
    obtain ⟨q, qs, rfl, htoken, hmore⟩ := List.map_eq_cons_iff.1 htokens.symm
    obtain ⟨hlayout, htaken, hread⟩ := h
    obtain ⟨hlayout', htaken', hread'⟩ := h'
    rw [spelling_cons, spelling_cons, htoken] at htext
    have hrest : spelling ps ++ r = spelling qs ++ r' := by
      have hafter := congrArg Terminal.afterLayout htext
      rw [Terminal.afterLayout_append hlayout, Terminal.afterLayout_append hlayout',
        (Terminal.afterLayout_of_matches htaken.isText _).2,
        (Terminal.afterLayout_of_matches htaken.isText _).2] at hafter
      exact List.append_cancel_left hafter
    obtain ⟨rfl, rfl⟩ := ih hread hread' hmore.symm hrest
    have hsame : p.layout = q.layout := List.append_cancel_right htext
    cases p
    cases q
    simp_all

theorem Derivation.reads {text : List Char} (d : Derivation text) :
    Reads (d.trees.flatMap ItemTree.tokens) text d.trailing :=
  ⟨d.places, d.tokens_eq, d.readable, d.text_eq⟩

theorem nextChar?_eq_none_iff {s : List Char} : nextChar? s = none ↔ IsTrailing s := by
  rw [nextChar?, List.head?_eq_none_iff, Terminal.afterLayout_eq_nil_iff]

/-- At most one derivation of a text exists. -/
instance (text : List Char) : Subsingleton (Derivation text) where
  allEq d e := by
    have htrees : d.trees = e.trees :=
      (decided_items d.trees e.trees text _ _ d.reads (nextChar?_eq_none_iff.2 d.isTrailing) e.reads
        (nextChar?_eq_none_iff.2 e.isTrailing)).1
    have htokens : d.places.map LaidToken.token = e.places.map LaidToken.token := by
      rw [d.tokens_eq, e.tokens_eq, htrees]
    obtain ⟨hplaces, htrailing⟩ := d.readable.inj e.readable htokens (d.text_eq.symm.trans e.text_eq)
    cases d
    cases e
    simp_all

end WireBridge
