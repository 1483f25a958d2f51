import WireBridge.Proofs.Definition.Unambiguous
import WireBridge.Proofs.Definition.WellFormed

/-!
# The parser finds the derivation

`Takes p s a r` says that the parser `p` takes the text `s` to `a` and leaves `r`; the terminals take what the grammar
reads there (`takes_mark`, `takes_name`, `takes_literal`). For a rule of the grammar, with the tokens of its
derivations and what they stand for, there are two halves.

* `Sound` : every result of the parser is that of a derivation;
* `Complete` : the parser finds a derivation, where the text after it cannot belong to the rule. This is the condition
  under which the derivation is decided, too.

Together `parseItems` succeeds with the items of a derivation and on no other text (`parseItems_eq_ok_iff`), and
`Definitions.parse` needs a value for each literal and a validation besides (`Definitions.parse_unambiguous`).
-/

set_option autoImplicit false

namespace WireBridge

namespace Parser

/-! ## Steps -/

/-- The parser takes the text `s` to `a` and leaves `r`. -/
def Takes {α : Type} (p : Parser α) (s : List Char) (a : α) (r : List Char) : Prop := p.run s = .ok (a, r)

section Takes

variable {α β : Type} {p q : Parser α} {f : α → Parser β} {a : α} {b : β} {s r : List Char}

theorem takes_bind : Takes (p >>= f) s b r ↔ ∃ a v, Takes p s a v ∧ Takes (f a) v b r := by
  unfold Takes
  rw [StateT.run_bind, bind_eq_ok_iff]
  exact Prod.exists

theorem takes_pure {c : α} : Takes (pure a) s c r ↔ a = c ∧ s = r := by
  rw [Takes, StateT.run_pure, pure_eq_ok_iff, Prod.mk.injEq]

theorem Takes.bind {v : List Char} (h : Takes p s a v) (hf : Takes (f a) v b r) : Takes (p >>= f) s b r :=
  takes_bind.2 ⟨a, v, h, hf⟩

theorem takes_result : Takes (pure a) s a s := takes_pure.2 ⟨rfl, rfl⟩

theorem takes_get {g : List Char → Parser β} : Takes (get >>= g) s b r ↔ Takes (g s) s b r := Iff.rfl

/-- A choice between two parsers by the text that comes next. -/
theorem takes_choice {c : List Char → Bool} :
    Takes (do if c (← upcoming) then p else q) s a r ↔
      c (Terminal.afterLayout s) = true ∧ Takes p s a r ∨ ¬ c (Terminal.afterLayout s) = true ∧ Takes q s a r := by
  change Takes (if c (Terminal.afterLayout s) = true then p else q) s a r ↔ _
  by_cases hc : c (Terminal.afterLayout s) = true
  · simp [hc]
  · simp [hc]

theorem takes_left {c : List Char → Bool} (hc : c (Terminal.afterLayout s) = true) (h : Takes p s a r) :
    Takes (do if c (← upcoming) then p else q) s a r :=
  takes_choice.2 (.inl ⟨hc, h⟩)

theorem takes_right {c : List Char → Bool} (hc : ¬ c (Terminal.afterLayout s) = true) (h : Takes q s a r) :
    Takes (do if c (← upcoming) then p else q) s a r :=
  takes_choice.2 (.inr ⟨hc, h⟩)

theorem takes_token {read : List Char → Option (α × List Char)} :
    Takes (token read) s a r ↔ read (Terminal.afterLayout s) = some (a, r) := by
  simp only [Takes, token, StateT.run]
  split
  · next x hx => simp [hx]
  · next hx => simp [hx]

end Takes

/-! ## Terminals -/

section Terminals

variable {s r : List Char}

theorem takes_mark {c : Char} (hc : c ∈ Terminal.marks) : Takes (mark c) s () r ↔ Reads [.mark c] s r := by
  rw [mark, takes_token, Terminal.mark?_eq_some_iff, reads_singleton]
  exact (and_iff_right (Terminal.takenBefore_mark hc r)).symm

theorem takes_keyword {w : String} (hw : w ∈ Terminal.words) : Takes (keyword w) s () r ↔ Reads [.word w] s r := by
  rw [keyword, takes_token, Terminal.keyword?_eq_some_iff, reads_singleton]
  exact (and_iff_right (Terminal.takenBefore_word hw r)).symm

theorem takes_name {n : String} : Takes name s n r ↔ Reads [.name n] s r := by
  rw [name, map_eq_pure_bind, takes_bind, reads_singleton]
  constructor
  · rintro ⟨w, v, hw, h⟩
    obtain ⟨rfl, rfl⟩ := takes_pure.1 h
    rw [takes_token, Terminal.name?_eq_some_iff] at hw
    simpa [Token.name] using hw
  · intro h
    refine ⟨n.toList, r, ?_, takes_pure.2 ⟨String.ofList_toList, rfl⟩⟩
    rwa [takes_token, Terminal.name?_eq_some_iff]

theorem takes_docLine {l : String} :
    Takes docLine s l r ↔ ∃ body, String.ofList (Text.strip body) = l ∧ Reads [.doc body] s r := by
  have hdoc : ∀ body v, Takes (token Terminal.doc?) s body v ↔ Reads [.doc body] s v := by
    intro body v
    rw [takes_token, Terminal.doc?_eq_some_iff, reads_singleton]
    rfl
  unfold docLine
  simp only [takes_bind, takes_pure, hdoc]
  constructor
  · rintro ⟨body, v, hbody, rfl, rfl⟩
    exact ⟨body, rfl, hbody⟩
  · rintro ⟨body, rfl, hbody⟩
    exact ⟨body, r, hbody, rfl, rfl⟩

theorem takenBefore_of_literalToken? {l : Literal} (h : literalToken? s = some (l, r)) :
    l.token.TakenBefore r ∧ s = l.token.text ++ r := by
  simp only [literalToken?, Option.orElse_eq_orElse, Option.orElse_eq_or, Option.or_eq_some_iff,
    Option.map_eq_some_iff] at h
  rcases h with ⟨x, hx, heq⟩ | ⟨-, ⟨x, hx, heq⟩ | ⟨-, x, hx, heq⟩⟩
  · cases heq
    obtain ⟨hbody, htext⟩ := Terminal.quoted?_eq_some_iff.1 hx
    exact ⟨Terminal.takenBefore_quoted hbody _, by simpa [Literal.token, Token.quoted] using htext⟩
  · cases heq
    exact Terminal.number?_eq_some_iff.1 hx
  · cases heq
    simpa [Literal.token, Token.name] using Terminal.name?_eq_some_iff.1 hx

theorem isSome_literalToken? {l : Literal} (h : l.token.TakenBefore r) :
    (literalToken? (l.token.text ++ r)).isSome = true := by
  have found : ∀ x y z : Option (Literal × List Char), x.isSome = true ∨ y.isSome = true ∨ z.isSome = true →
      (x <|> y <|> z).isSome = true := by
    intro x y z
    cases x <;> cases y <;> cases z <;> simp
  refine found _ _ _ ?_
  simp only [Option.isSome_map]
  cases l with
  | quoted body =>
    obtain ⟨body', hbody, heq⟩ := h.isText
    refine .inl (Option.isSome_iff_exists.2 ⟨(body', r), Terminal.quoted?_eq_some_iff.2 ⟨hbody, ?_⟩⟩)
    simp [heq]
  | number lexeme =>
    exact .inr (.inl (Option.isSome_iff_exists.2 ⟨(lexeme, r), Terminal.number?_eq_some_iff.2 ⟨h, rfl⟩⟩))
  | symbol n => exact .inr (.inr (Option.isSome_iff_exists.2 ⟨(n.toList, r), Terminal.name?_eq_some_iff.2 ⟨h, rfl⟩⟩))

theorem takes_literal {l : Literal} : Takes literal s l r ↔ Reads [l.token] s r := by
  have sound : ∀ {k : Literal} {v : List Char}, Takes literal s k v → Reads [k.token] s v := by
    intro k v h
    rw [literal, takes_token] at h
    exact reads_singleton.2 (takenBefore_of_literalToken? h)
  refine ⟨sound, fun h => ?_⟩
  obtain ⟨htaken, htext⟩ := reads_singleton.1 h
  obtain ⟨⟨k, v⟩, hk⟩ := Option.isSome_iff_exists.1 (isSome_literalToken? htaken)
  have hfound : Takes literal s k v := by rw [literal, takes_token, htext, hk]
  obtain ⟨rfl, w, hw, hw'⟩ := literal_inj h (sound hfound)
  rwa [← reads_nil_inj hw' hw]

end Terminals

/-! ## Rules -/

/-- Every result of the parser is that of a derivation which can be read in the text. -/
def Sound {α β : Type} (p : Parser β) (tokens : α → List Token) (value : α → β) : Prop :=
  ∀ s b r, Takes p s b r → ∃ a, value a = b ∧ Reads (tokens a) s r

/-- The parser finds the derivation wherever it can be read, up to a place where derivations of the rule end. -/
def Complete {α β : Type} (p : Parser β) (tokens : α → List Token) (value : α → β) (ends : List Char → Prop) (a : α) :
    Prop :=
  ∀ s r, Reads (tokens a) s r → ends r → Takes p s (value a) r

section Rows

variable {α β : Type} {p : Parser β} {tokens : α → List Token} {value : α → β} {ends : List Char → Prop} {a : α}
  {as : List α} {ts : List Token} {s r : List Char} {starts : List Char → Bool}

/-- The parser finds the first part of a row if it ends before the rest of the row. -/
theorem Complete.append (ha : Complete p tokens value ends a) (h : Reads (tokens a ++ ts) s r)
    (hends : ∀ v, Reads ts v r → ends v) : ∃ v, Takes p s (value a) v ∧ Reads ts v r := by
  obtain ⟨v, hv, hts⟩ := reads_append.1 h
  exact ⟨v, ha s v hv (hends v hts), hts⟩

theorem sound_upTo (hp : Sound p tokens value) (n : Nat) :
    Sound (upTo starts p n) (List.flatMap tokens) (List.map value) := by
  induction n with
  | zero =>
    intro s bs r h
    obtain ⟨rfl, rfl⟩ := takes_pure.1 h
    exact ⟨[], rfl, reads_nil.2 rfl⟩
  | succ n ih =>
    intro s bs r h
    rcases takes_choice.1 h with ⟨-, h⟩ | ⟨-, h⟩
    · obtain ⟨b, v, hb, h⟩ := takes_bind.1 h
      obtain ⟨cs, w, hcs, h⟩ := takes_bind.1 h
      obtain ⟨rfl, rfl⟩ := takes_pure.1 h
      obtain ⟨a, rfl, ha⟩ := hp s b v hb
      obtain ⟨as, rfl, has⟩ := ih v cs w hcs
      exact ⟨a :: as, rfl, reads_append.2 ⟨v, ha, has⟩⟩
    · obtain ⟨rfl, rfl⟩ := takes_pure.1 h
      exact ⟨[], rfl, reads_nil.2 rfl⟩

theorem sound_many (hp : Sound p tokens value) : Sound (many starts p) (List.flatMap tokens) (List.map value) :=
  fun s bs r h => sound_upTo hp s.length s bs r (takes_get.1 h)

/-- A row that can start is not empty. -/
theorem ne_nil_of_takes_many {bs : List β} (h : Takes (many starts p) s bs r) (hs : s ≠ [])
    (hstarts : starts (Terminal.afterLayout s) = true) : bs ≠ [] := by
  obtain ⟨c, s, rfl⟩ := List.exists_cons_of_ne_nil hs
  rcases takes_choice.1 (takes_get.1 h) with ⟨-, h⟩ | ⟨hnot, -⟩
  · obtain ⟨b, v, -, h⟩ := takes_bind.1 h
    obtain ⟨cs, w, -, h⟩ := takes_bind.1 h
    obtain ⟨rfl, -⟩ := takes_pure.1 h
    exact List.cons_ne_nil _ _
  · exact absurd hstarts hnot

/-- A row ends where no more of it can start, for each part takes a character at least. -/
theorem stops_of_takes_many (hp : Sound p tokens value) (hne : ∀ a, tokens a ≠ []) (hnil : starts [] = false)
    {bs : List β} (h : Takes (many starts p) s bs r) : starts (Terminal.afterLayout r) = false := by
  have stops : ∀ n s bs, s.length ≤ n → Takes (upTo starts p n) s bs r → starts (Terminal.afterLayout r) = false := by
    intro n
    induction n with
    | zero =>
      intro s bs hs h
      obtain ⟨-, rfl⟩ := takes_pure.1 h
      rw [List.length_eq_zero_iff.1 (Nat.le_zero.1 hs)]
      exact hnil
    | succ n ih =>
      intro s bs hs h
      rcases takes_choice.1 h with ⟨-, h⟩ | ⟨hnot, h⟩
      · obtain ⟨b, v, hb, h⟩ := takes_bind.1 h
        obtain ⟨cs, w, hcs, h⟩ := takes_bind.1 h
        obtain ⟨-, rfl⟩ := takes_pure.1 h
        obtain ⟨a, -, ha⟩ := hp s b v hb
        have hlength := ha.length_add_le
        have hpos := List.length_pos_iff.2 (hne a)
        exact ih v cs (by omega) hcs
      · obtain ⟨-, rfl⟩ := takes_pure.1 h
        exact Bool.not_eq_true _ ▸ hnot
  exact stops s.length s bs (Nat.le_refl _) (takes_get.1 h)

theorem complete_upTo (starts : List Char → Bool) {opens : List Char → Prop}
    (hopens : ∀ a s r, Reads (tokens a) s r → opens s)
    (hstarts : ∀ s, opens s → starts (Terminal.afterLayout s) = true) (hends : ∀ s, opens s → ends s)
    (has : ∀ a ∈ as, Complete p tokens value ends a) {n : Nat} (hn : as.length ≤ n) :
    Complete (upTo starts p n) (List.flatMap tokens) (List.map value)
      (fun s => ends s ∧ starts (Terminal.afterLayout s) = false) as := by
  induction as generalizing n with
  | nil =>
    intro s r h he
    obtain rfl := reads_nil.1 h
    cases n with
    | zero => exact takes_result
    | succ n => exact takes_right (Bool.not_eq_true _ ▸ he.2) takes_result
  | cons a as ih =>
    intro s r h he
    obtain ⟨n, rfl⟩ : ∃ m, n = m + 1 := ⟨n - 1, by simp only [List.length_cons] at hn; omega⟩
    obtain ⟨v, hv, has'⟩ := (has a List.mem_cons_self).append h fun v hv => by
      cases as with
      | nil => exact reads_nil.1 hv ▸ he.1
      | cons b as =>
        obtain ⟨_, hb, -⟩ := reads_append.1 hv
        exact hends v (hopens b v _ hb)
    have hopen : starts (Terminal.afterLayout s) = true := by
      obtain ⟨_, ha, -⟩ := reads_append.1 h
      exact hstarts s (hopens a s _ ha)
    have hmore := ih (fun b hb => has b (List.mem_cons_of_mem a hb)) (Nat.le_of_succ_le_succ hn) v r has' he
    exact takes_left hopen (hv.bind (hmore.bind takes_result))

/-- A row has no more parts than its text has characters, so that it is found whole. -/
theorem complete_many (starts : List Char → Bool) {opens : List Char → Prop}
    (hopens : ∀ a s r, Reads (tokens a) s r → opens s)
    (hstarts : ∀ s, opens s → starts (Terminal.afterLayout s) = true) (hends : ∀ s, opens s → ends s)
    (hne : ∀ a, tokens a ≠ []) (has : ∀ a ∈ as, Complete p tokens value ends a) :
    Complete (many starts p) (List.flatMap tokens) (List.map value)
      (fun s => ends s ∧ starts (Terminal.afterLayout s) = false) as := by
  intro s r h he
  have hle : as.length ≤ (as.flatMap tokens).length := by
    clear has h
    induction as with
    | nil => exact Nat.zero_le _
    | cons a as ih =>
      have hpos := List.length_pos_iff.2 (hne a)
      simp only [List.flatMap_cons, List.length_append, List.length_cons]
      omega
  have hlength := h.length_add_le
  exact takes_get.2 (complete_upTo starts hopens hstarts hends has (by omega) s r h he)

end Rows

/-! ## Rows with marks -/

section Marked

variable {α β : Type} {p : Parser β} {tokens : α → List Token} {value : α → β} {ends : List Char → Prop} {a : α}
  {as : List α}

theorem startsWith_iff {c : Char} {s : List Char} :
    startsWith c (Terminal.afterLayout s) = true ↔ nextChar? s = some c := decide_eq_true_iff

theorem not_startsWith_iff {c : Char} {s : List Char} :
    startsWith c (Terminal.afterLayout s) = false ↔ nextChar? s ≠ some c := decide_eq_false_iff_not

theorem sound_after_mark {c : Char} (hc : c ∈ Terminal.marks) (hp : Sound p tokens value) :
    Sound (do mark c; p) (fun a => .mark c :: tokens a) value := by
  intro s b r h
  obtain ⟨⟨⟩, v, hmark, h⟩ := takes_bind.1 h
  obtain ⟨a, rfl, ha⟩ := hp v b r h
  exact ⟨a, rfl, reads_head.2 ⟨v, (takes_mark hc).1 hmark, ha⟩⟩

theorem complete_after_mark {c : Char} (hc : c ∈ Terminal.marks) (ha : Complete p tokens value ends a) :
    Complete (do mark c; p) (fun a => .mark c :: tokens a) value ends a := by
  intro s r h he
  obtain ⟨v, hmark, hv⟩ := reads_head.1 h
  exact ((takes_mark hc).2 hmark).bind (ha v r hv he)

theorem sound_commaSeparated (hp : Sound p tokens value) :
    Sound (commaSeparated p) (fun x : α × List α => separated tokens (x.1 :: x.2))
      (fun x => (x.1 :: x.2).map value) := by
  intro s bs r h
  obtain ⟨b, v, hb, h⟩ := takes_bind.1 h
  obtain ⟨cs, w, hcs, h⟩ := takes_bind.1 h
  obtain ⟨rfl, rfl⟩ := takes_pure.1 h
  obtain ⟨a, rfl, ha⟩ := hp s b v hb
  obtain ⟨as, rfl, has⟩ := sound_many (sound_after_mark (by decide) hp) v cs w hcs
  exact ⟨(a, as), rfl, reads_append.2 ⟨v, ha, has⟩⟩

theorem complete_commaSeparated (tokens : α → List Token) (value : α → β) (hends : ∀ s, nextChar? s = some ',' → ends s)
    (has : ∀ c ∈ a :: as, Complete p tokens value ends c) :
    Complete (commaSeparated p) (fun x : α × List α => separated tokens (x.1 :: x.2)) (fun x => (x.1 :: x.2).map value)
      (fun s => ends s ∧ nextChar? s ≠ some ',') (a, as) := by
  intro s r h he
  have hmore : Complete (many (startsWith ',') (do mark ','; p)) (List.flatMap fun b => .mark ',' :: tokens b) _ _ as :=
    complete_many _ (fun _ _ _ h => nextChar?_mark h) (fun _ => startsWith_iff.2) hends (fun _ => List.cons_ne_nil _ _)
      fun c hc => complete_after_mark (by decide) (has c (List.mem_cons_of_mem a hc))
  obtain ⟨v, hv, hr⟩ := (has a List.mem_cons_self).append h fun v hv => by
    cases as with
    | nil => exact reads_nil.1 hv ▸ he.1
    | cons c cs => exact hends v (nextChar?_mark hv)
  exact hv.bind ((hmore v r hr ⟨he.1, not_startsWith_iff.2 he.2⟩).bind takes_result)

theorem sound_block (hp : Sound p tokens value) : Sound (block p) (blockTokens tokens) (List.map value) := by
  intro s bs r h
  obtain ⟨⟨⟩, v, hopen, h⟩ := takes_bind.1 h
  obtain ⟨bs, w, hbs, h⟩ := takes_bind.1 h
  obtain ⟨⟨⟩, x, hclose, h⟩ := takes_bind.1 h
  obtain ⟨rfl, rfl⟩ := takes_pure.1 h
  obtain ⟨as, rfl, has⟩ := sound_many hp v bs w hbs
  rw [takes_mark (by decide)] at hopen hclose
  exact ⟨as, rfl, reads_head.2 ⟨v, hopen, reads_append.2 ⟨w, has, hclose⟩⟩⟩

/-- A block is found if its entries are: each begins as an entry does, and none as what closes the block. -/
theorem complete_block {opens : Char → Bool} (hopens : ∀ c, opens c = true → c ≠ '\x7d')
    (hbegins : ∀ a s r, Reads (tokens a) s r → Begins opens s) (hends : ∀ s, Begins opens s → ends s)
    (hclose : ∀ s, nextChar? s = some '\x7d' → ends s) (hne : ∀ a, tokens a ≠ [])
    (has : ∀ a ∈ as, Complete p tokens value ends a) :
    Complete (block p) (blockTokens tokens) (List.map value) (fun _ => True) as := by
  intro s r h _
  have hnotAt : ∀ s, Begins opens s → notAt '\x7d' (Terminal.afterLayout s) = true := by
    rintro s ⟨c, hc, hopen⟩
    refine decide_eq_true fun hclosed => ?_
    exact hopens c hopen (Option.some.inj (hc.symm.trans hclosed))
  obtain ⟨v, hopen, hv⟩ := reads_head.1 h
  obtain ⟨w, hw, hclosed⟩ := (complete_many (notAt '\x7d') hbegins hnotAt hends hne has).append hv
    fun w hw => ⟨hclose w (nextChar?_mark hw), decide_eq_false fun hne => hne (nextChar?_mark hw)⟩
  rw [← takes_mark (by decide)] at hopen hclosed
  exact hopen.bind (hw.bind (hclosed.bind takes_result))

end Marked

/-! ## Values and directives -/

section Directives

variable {s r : List Char}

theorem sound_argument : Sound argument Argument.tokens id := by
  intro s x r h
  obtain ⟨l, v, hl, h⟩ := takes_bind.1 h
  rw [takes_literal] at hl
  have positional : ∀ {k : Literal}, Reads [k.token] s v → Takes (pure ⟨none, k⟩) v x r →
      ∃ y : Argument Literal, id y = x ∧ Reads y.tokens s r := by
    intro k hk h
    obtain ⟨rfl, rfl⟩ := takes_pure.1 h
    exact ⟨⟨none, k⟩, rfl, hk⟩
  cases l with
  | quoted body => exact positional hl h
  | number lexeme => exact positional hl h
  | symbol n =>
    rcases takes_choice.1 h with ⟨-, h⟩ | ⟨-, h⟩
    · obtain ⟨⟨⟩, w, hmark, h⟩ := takes_bind.1 h
      obtain ⟨k, x, hk, h⟩ := takes_bind.1 h
      obtain ⟨rfl, rfl⟩ := takes_pure.1 h
      rw [takes_mark (by decide)] at hmark
      rw [takes_literal] at hk
      exact ⟨⟨some n, k⟩, rfl, reads_head.2 ⟨v, hl, reads_head.2 ⟨w, hmark, hk⟩⟩⟩
    · exact positional hl h

theorem complete_argument (x : Argument Literal) : Complete argument Argument.tokens id (Avoids goesOn) x := by
  intro s r h he
  obtain ⟨n, l⟩ := x
  cases n with
  | some n =>
    obtain ⟨v, hn, hv⟩ := reads_head.1 h
    obtain ⟨w, hmark, hw⟩ := reads_head.1 hv
    have hsymbol : Takes literal s (.symbol n) v := takes_literal.2 hn
    refine hsymbol.bind (takes_left (startsWith_iff.2 (nextChar?_mark hmark)) ?_)
    exact ((takes_mark (by decide)).2 hmark).bind ((takes_literal.2 hw).bind takes_result)
  | none =>
    refine (takes_literal.2 h).bind ?_
    cases l with
    | quoted body => exact takes_result
    | number lexeme => exact takes_result
    | symbol n =>
      refine takes_right (fun heq => ?_) takes_result
      exact absurd (he '=' (startsWith_iff.1 heq)) (by decide)

theorem sound_arguments : Sound arguments DirectiveTree.argumentTokens (·.getD []) := by
  intro s xs r h
  rcases takes_choice.1 h with ⟨-, h⟩ | ⟨-, h⟩
  · obtain ⟨⟨⟩, v, hopen, h⟩ := takes_bind.1 h
    rw [takes_mark (by decide)] at hopen
    have closed : ∀ (ys : List (Argument Literal)) {w : List Char}, Reads (separated Argument.tokens ys) v w →
        Takes (do mark ')'; pure ys) w xs r →
        ∃ o, Option.getD o [] = xs ∧ Reads (DirectiveTree.argumentTokens o) s r := by
      intro ys w hys h
      obtain ⟨⟨⟩, x, hclose, h⟩ := takes_bind.1 h
      obtain ⟨rfl, rfl⟩ := takes_pure.1 h
      rw [takes_mark (by decide)] at hclose
      exact ⟨some ys, rfl, reads_head.2 ⟨v, hopen, reads_append.2 ⟨w, hys, hclose⟩⟩⟩
    rcases takes_choice.1 h with ⟨-, h⟩ | ⟨-, h⟩
    · obtain ⟨ys, w, hys, h⟩ := takes_bind.1 h
      obtain ⟨rfl, rfl⟩ := takes_pure.1 hys
      exact closed [] (reads_nil.2 rfl) h
    · obtain ⟨ys, w, hys, h⟩ := takes_bind.1 h
      obtain ⟨⟨y, more⟩, rfl, hy⟩ := sound_commaSeparated sound_argument v ys w hys
      simp only [List.map_id] at h
      exact closed (y :: more) hy h
  · obtain ⟨rfl, rfl⟩ := takes_pure.1 h
    exact ⟨none, rfl, reads_nil.2 rfl⟩

theorem complete_arguments (o : Option (List (Argument Literal))) :
    Complete arguments DirectiveTree.argumentTokens (·.getD []) (Avoids goesOn) o := by
  intro s r h he
  cases o with
  | none =>
    obtain rfl := reads_nil.1 h
    refine takes_right (fun hopen => ?_) takes_result
    exact absurd (he '(' (startsWith_iff.1 hopen)) (by decide)
  | some xs =>
    obtain ⟨v, hopen, hv⟩ := reads_head.1 h
    have closed : ∀ {w : List Char}, Reads [.mark ')'] w r → Takes (do mark ')'; pure xs) w xs r :=
      fun hw => ((takes_mark (by decide)).2 hw).bind takes_result
    refine takes_left (startsWith_iff.2 (nextChar?_mark hopen)) (((takes_mark (by decide)).2 hopen).bind ?_)
    cases xs with
    | nil => exact takes_left (startsWith_iff.2 (nextChar?_mark hv)) (takes_result.bind (closed hv))
    | cons x xs =>
      have hcommas := complete_commaSeparated Argument.tokens id
        (fun s hs => avoids_of_nextChar? (q := goesOn) hs (by decide)) fun y (_ : y ∈ x :: xs) => complete_argument y
      have hfirst : nextChar? v ≠ some ')' := by
        intro hclose
        obtain ⟨w, hw, -⟩ := reads_append.1 hv
        obtain ⟨y, hy, -⟩ := reads_append.1 hw
        exact (begins_argument hy).not_avoids (avoids_of_nextChar? hclose (by decide))
      obtain ⟨w, hw, hclosed⟩ := hcommas.append hv fun _ hw => ended_of_mark hw (by decide) (by decide)
      rw [List.map_id] at hw
      exact takes_right (fun hclose => hfirst (startsWith_iff.1 hclose)) (hw.bind (closed hclosed))

theorem sound_directive : Sound directive DirectiveTree.tokens DirectiveTree.directive := by
  intro s d r h
  obtain ⟨⟨⟩, v, hmark, h⟩ := takes_bind.1 h
  obtain ⟨n, w, hn, h⟩ := takes_bind.1 h
  obtain ⟨xs, x, hxs, h⟩ := takes_bind.1 h
  obtain ⟨rfl, rfl⟩ := takes_pure.1 h
  obtain ⟨o, rfl, ho⟩ := sound_arguments w xs x hxs
  exact ⟨⟨n, o⟩, rfl, reads_head.2 ⟨v, (takes_mark (by decide)).1 hmark, reads_head.2 ⟨w, takes_name.1 hn, ho⟩⟩⟩

theorem complete_directive (d : DirectiveTree) :
    Complete directive DirectiveTree.tokens DirectiveTree.directive (Avoids goesOn) d := by
  intro s r h he
  obtain ⟨v, hmark, hv⟩ := reads_head.1 h
  obtain ⟨w, hn, hw⟩ := reads_head.1 hv
  have harguments := complete_arguments d.arguments w r hw he
  exact ((takes_mark (by decide)).2 hmark).bind ((takes_name.2 hn).bind (harguments.bind takes_result))

theorem sound_directives :
    Sound directives (List.flatMap DirectiveTree.tokens) (List.map DirectiveTree.directive) :=
  sound_many sound_directive

theorem complete_directives (ds : List DirectiveTree) :
    Complete directives (List.flatMap DirectiveTree.tokens) (List.map DirectiveTree.directive)
      (Avoids goesOnDirectives) ds := by
  intro s r h he
  obtain ⟨hends, hat⟩ := avoids_of_not_directives he
  have hopens : ∀ d s r, Reads (DirectiveTree.tokens d) s r → nextChar? s = some '@' := fun _ _ _ h => nextChar?_mark h
  exact complete_many (startsWith '@') hopens (fun _ => startsWith_iff.2)
    (fun _ hs => avoids_of_nextChar? hs (by decide)) (fun _ => List.cons_ne_nil _ _) (fun d _ => complete_directive d)
    s r h ⟨hends, not_startsWith_iff.2 hat⟩

end Directives

/-! ## Comments -/

theorem sound_comment : Sound comment DocTree.tokens DocTree.comment := by
  have hline : Sound docLine (fun body => [.doc body]) (fun body => String.ofList (Text.strip body)) :=
    fun s l r h => takes_docLine.1 h
  intro s c r h
  obtain ⟨ls, v, hls, h⟩ := takes_bind.1 h
  obtain ⟨rfl, rfl⟩ := takes_pure.1 h
  obtain ⟨d, rfl, hd⟩ := sound_many hline s ls v hls
  exact ⟨d, by rw [DocTree.comment, List.isEmpty_map], hd⟩

theorem complete_comment (d : DocTree) :
    Complete comment DocTree.tokens DocTree.comment (nextChar? · ≠ some '#') d := by
  have hline : ∀ body, Complete docLine (fun body => [.doc body]) (fun body => String.ofList (Text.strip body))
      (fun _ => True) body :=
    fun body s r h _ => takes_docLine.2 ⟨body, rfl, h⟩
  have hstarts : ∀ s, Terminal.startsDoc s = true → s.head? = some '#' := by
    intro s h
    unfold Terminal.startsDoc at h
    split at h
    · rfl
    · cases h
  have hopens : ∀ body s r, Reads [.doc body] s r → Terminal.startsDoc (Terminal.afterLayout s) = true := by
    intro body s r h
    obtain ⟨-, htext⟩ := reads_singleton.1 h
    rw [htext]
    rfl
  intro s r h he
  have hlines := complete_many Terminal.startsDoc hopens (fun _ hs => hs)
    (fun _ _ => trivial) (fun _ => List.cons_ne_nil _ _) (fun body (_ : body ∈ d) => hline body)
    s r h ⟨trivial, Bool.eq_false_iff.2 fun hs => he (hstarts _ hs)⟩
  refine hlines.bind (takes_pure.2 ⟨?_, rfl⟩)
  rw [DocTree.comment, List.isEmpty_map]

/-! ## Types -/

section Types

variable {s r : List Char}

theorem startsWireType_iff :
    startsWireType (Terminal.afterLayout s) = true ↔ ∃ r, Reads [.word "wire", .mark '.'] s r := by
  have hword : ∀ v, Terminal.keyword? "wire".toList (Terminal.afterLayout s) = some ((), v) ↔
      Reads [.word "wire"] s v :=
    fun v => takes_token.symm.trans (takes_keyword (by decide))
  have hmark : ∀ v, nextChar? v = some '.' ↔ ∃ r, Reads [.mark '.'] v r := by
    intro v
    constructor
    · intro h
      obtain ⟨rest, hrest⟩ := List.head?_eq_some_iff.1 h
      exact ⟨rest, reads_singleton.2 ⟨Terminal.takenBefore_mark (by decide) rest, hrest⟩⟩
    · rintro ⟨r, hr⟩
      exact nextChar?_mark hr
  have hpair : (∃ r, Reads [.word "wire", .mark '.'] s r) ↔ ∃ v, Reads [.word "wire"] s v ∧ nextChar? v = some '.' := by
    simp only [hmark]
    constructor
    · rintro ⟨r, hr⟩
      obtain ⟨v, hv, hr⟩ := reads_head.1 hr
      exact ⟨v, hv, r, hr⟩
    · rintro ⟨v, hv, r, hr⟩
      exact ⟨r, reads_head.2 ⟨v, hv, hr⟩⟩
  rw [hpair, startsWireType]
  cases hk : Terminal.keyword? "wire".toList (Terminal.afterLayout s) with
  | none =>
    refine iff_of_false Bool.false_ne_true ?_
    rintro ⟨v, hv, -⟩
    rw [← hword, hk] at hv
    cases hv
  | some x =>
    obtain ⟨⟨⟩, v⟩ := x
    refine startsWith_iff.trans ⟨fun h => ⟨v, (hword v).1 hk, h⟩, ?_⟩
    rintro ⟨w, hw, h⟩
    rw [← hword, hk, Option.some.injEq, Prod.mk.injEq] at hw
    rwa [hw.2]

theorem sound_wireType (hstarts : startsWireType (Terminal.afterLayout s) = true) {t : TypeExpr}
    (h : Takes wireType s t r) : ∃ u : TypeTree, u.type = t ∧ Reads u.tokens s r := by
  have hname : Sound name (fun n => [.name n]) id := fun s n r h => ⟨n, rfl, takes_name.1 h⟩
  obtain ⟨⟨⟩, v, hword, h⟩ := takes_bind.1 h
  obtain ⟨path, w, hpath, h⟩ := takes_bind.1 h
  obtain ⟨rfl, rfl⟩ := takes_pure.1 h
  rw [takes_keyword (by decide)] at hword
  have hpoint : nextChar? v = some '.' := by
    obtain ⟨x, hx⟩ := startsWireType_iff.1 hstarts
    obtain ⟨-, y, hy, hy'⟩ := hx.cons_inj hword rfl
    exact reads_nil.1 hy' ▸ nextChar?_mark hy
  have hv : v ≠ [] := by
    rintro rfl
    cases hpoint
  obtain ⟨ns, rfl, hns⟩ := sound_many (sound_after_mark (by decide) hname) v path w hpath
  obtain ⟨n, ns, rfl⟩ := List.exists_cons_of_ne_nil (l := ns) fun hnil =>
    ne_nil_of_takes_many hpath hv (startsWith_iff.2 hpoint) (by rw [hnil]; rfl)
  exact ⟨.wire n ns, by simp [TypeTree.type], reads_head.2 ⟨v, hword, hns⟩⟩

theorem complete_wireType (first : String) (more : List String) {r : List Char}
    (h : Reads (TypeTree.wire first more).tokens s r) (he : nextChar? r ≠ some '.') :
    Takes wireType s (TypeTree.wire first more).type r := by
  have hname : ∀ n, Complete name (fun n => [.name n]) id (fun _ => True) n := fun n s r h _ => takes_name.2 h
  obtain ⟨v, hword, hv⟩ := reads_head.1 h
  have hopens : ∀ n s r, Reads [.mark '.', .name n] s r → nextChar? s = some '.' := fun _ _ _ h => nextChar?_mark h
  have hpath := complete_many (startsWith '.') hopens (fun _ => startsWith_iff.2) (fun _ _ => trivial)
    (fun _ => List.cons_ne_nil _ _) (fun n (_ : n ∈ first :: more) => complete_after_mark (by decide) (hname n)) v r hv
    ⟨trivial, not_startsWith_iff.2 he⟩
  refine ((takes_keyword (by decide)).2 hword).bind (hpath.bind ?_)
  exact takes_pure.2 ⟨by simp [TypeTree.type], rfl⟩

theorem sound_typeWithin (n : Nat) : Sound (typeWithin n) TypeTree.tokens TypeTree.type := by
  induction n with
  | zero =>
    intro s t r h
    cases h
  | succ n ih =>
    intro s t r h
    rcases takes_choice.1 h with ⟨hwire, h⟩ | ⟨-, h⟩
    · exact sound_wireType hwire h
    · obtain ⟨m, v, hm, h⟩ := takes_bind.1 h
      rw [takes_name] at hm
      rcases takes_choice.1 h with ⟨-, h⟩ | ⟨-, h⟩
      · obtain ⟨⟨⟩, w, hopen, h⟩ := takes_bind.1 h
        obtain ⟨ts, x, hts, h⟩ := takes_bind.1 h
        obtain ⟨⟨⟩, y, hclose, h⟩ := takes_bind.1 h
        obtain ⟨rfl, rfl⟩ := takes_pure.1 h
        rw [takes_mark (by decide)] at hopen hclose
        obtain ⟨⟨first, more⟩, rfl, hmore⟩ := sound_commaSeparated ih w ts x hts
        refine ⟨.generic m first more, by simp [TypeTree.type, TypeTree.types_eq], ?_⟩
        rw [TypeTree.tokens, TypeTree.moreTokens_eq, ← List.append_assoc]
        exact reads_head.2 ⟨v, hm, reads_head.2 ⟨w, hopen, reads_append.2 ⟨x, hmore, hclose⟩⟩⟩
      · obtain ⟨rfl, rfl⟩ := takes_pure.1 h
        exact ⟨.simple m, rfl, hm⟩

/-- A type that begins with a name is no type of the wire module, unless a point follows the name. -/
theorem not_startsWireType {n : String} {ts : List Token} (h : Reads (.name n :: ts) s r)
    (hts : ∀ v, Reads ts v r → nextChar? v ≠ some '.') : ¬ startsWireType (Terminal.afterLayout s) = true := by
  intro hwire
  obtain ⟨x, hx⟩ := startsWireType_iff.1 hwire
  obtain ⟨v, hpoint, hv⟩ := name_of_wire hx h
  exact hts v hv hpoint

theorem length_tokens_le_of_mem {t : TypeTree} {ts : List TypeTree} (h : t ∈ ts) :
    t.tokens.length ≤ (TypeTree.moreTokens ts).length := by
  rw [TypeTree.moreTokens_eq]
  obtain ⟨before, after, rfl⟩ := List.append_of_mem h
  simp only [List.flatMap_append, List.flatMap_cons, List.length_append, List.length_cons]
  omega

/-- The brackets of a type nest less deep than the type has tokens. -/
theorem complete_typeWithin (t : TypeTree) {n : Nat} (hn : t.tokens.length ≤ n) :
    Complete (typeWithin n) TypeTree.tokens TypeTree.type (Avoids goesOn) t := by
  induction t using TypeTree.induction generalizing n with
  | wire first more =>
    intro s r h he
    obtain ⟨n, rfl⟩ : ∃ m, n = m + 1 := ⟨n - 1, by simp only [TypeTree.tokens, List.length_cons] at hn; omega⟩
    have hwire : startsWireType (Terminal.afterLayout s) = true := by
      obtain ⟨v, hword, hv⟩ := reads_head.1 h
      obtain ⟨w, hmark, -⟩ := reads_head.1 hv
      exact startsWireType_iff.2 ⟨w, reads_head.2 ⟨v, hword, hmark⟩⟩
    refine takes_left hwire (complete_wireType first more h fun hpoint => ?_)
    exact absurd (he '.' hpoint) (by decide)
  | simple m =>
    intro s r h he
    obtain ⟨n, rfl⟩ : ∃ m, n = m + 1 := ⟨n - 1, by simp only [TypeTree.tokens, List.length_cons] at hn; omega⟩
    have hnot := not_startsWireType h fun v hv hpoint => by
      obtain rfl := reads_nil.1 hv
      exact absurd (he '.' hpoint) (by decide)
    refine takes_right hnot ((takes_name.2 h).bind (takes_right (fun hopen => ?_) takes_result))
    exact absurd (he '[' (startsWith_iff.1 hopen)) (by decide)
  | generic m first more hfirst hmore =>
    intro s r h he
    rw [TypeTree.tokens] at hn h
    simp only [List.length_cons, List.length_append] at hn
    obtain ⟨n, rfl⟩ : ∃ m, n = m + 1 := ⟨n - 1, by omega⟩
    have hnot := not_startsWireType h fun v hv hpoint =>
      absurd (Option.some.inj ((nextChar?_mark hv).symm.trans hpoint)) (by decide)
    obtain ⟨v, hm, hv⟩ := reads_head.1 h
    obtain ⟨w, hopen, hw⟩ := reads_head.1 hv
    rw [TypeTree.moreTokens_eq, ← List.append_assoc] at hw
    have hcommas := complete_commaSeparated TypeTree.tokens TypeTree.type
      (fun s hs => avoids_of_nextChar? (q := goesOn) hs (by decide))
      (List.forall_mem_cons.2 ⟨hfirst (n := n) (by omega), fun t ht => hmore t ht (n := n) (by
        have := length_tokens_le_of_mem ht
        omega)⟩)
    obtain ⟨x, hx, hclose⟩ := hcommas.append hw fun _ hx => ended_of_mark hx (by decide) (by decide)
    refine takes_right hnot ((takes_name.2 hm).bind ?_)
    refine takes_left (startsWith_iff.2 (nextChar?_mark hopen)) (((takes_mark (by decide)).2 hopen).bind ?_)
    refine hx.bind (((takes_mark (by decide)).2 hclose).bind ?_)
    exact takes_pure.2 ⟨by simp [TypeTree.type, TypeTree.types_eq], rfl⟩

theorem sound_type : Sound type TypeTree.tokens TypeTree.type :=
  fun s t r h => sound_typeWithin (s.length + 1) s t r (takes_get.1 h)

theorem complete_type (t : TypeTree) : Complete type TypeTree.tokens TypeTree.type (Avoids goesOn) t := by
  intro s r h he
  have hlength := h.length_add_le
  exact takes_get.2 (complete_typeWithin t (by omega) s r h he)

end Types

/-! ## Entries of blocks -/

theorem sound_variant : Sound variant VariantTree.tokens VariantTree.variant := by
  intro s x r h
  obtain ⟨c, v, hc, h⟩ := takes_bind.1 h
  obtain ⟨n, w, hn, h⟩ := takes_bind.1 h
  obtain ⟨ds, y, hds, h⟩ := takes_bind.1 h
  obtain ⟨rfl, rfl⟩ := takes_pure.1 h
  obtain ⟨d, rfl, hd⟩ := sound_comment s c v hc
  obtain ⟨ds, rfl, hds'⟩ := sound_directives w ds y hds
  exact ⟨⟨d, n, ds⟩, rfl, reads_append.2 ⟨v, hd, reads_head.2 ⟨w, takes_name.1 hn, hds'⟩⟩⟩

theorem complete_variant (x : VariantTree) :
    Complete variant VariantTree.tokens VariantTree.variant (Avoids goesOnDirectives) x := by
  intro s r h he
  obtain ⟨v, hc, hv⟩ := (complete_comment x.doc).append h fun _ hv => nextChar?_ne_of_name hv
  obtain ⟨w, hn, hw⟩ := reads_head.1 hv
  have hdirectives := complete_directives x.directives w r hw he
  exact hc.bind ((takes_name.2 hn).bind (hdirectives.bind takes_result))

theorem sound_field : Sound field FieldTree.tokens FieldTree.field := by
  intro s x r h
  obtain ⟨c, v, hc, h⟩ := takes_bind.1 h
  obtain ⟨n, w, hn, h⟩ := takes_bind.1 h
  obtain ⟨⟨⟩, y, hmark, h⟩ := takes_bind.1 h
  obtain ⟨t, z, ht, h⟩ := takes_bind.1 h
  obtain ⟨ds, q, hds, h⟩ := takes_bind.1 h
  obtain ⟨rfl, rfl⟩ := takes_pure.1 h
  obtain ⟨d, rfl, hd⟩ := sound_comment s c v hc
  obtain ⟨t, rfl, ht'⟩ := sound_type y t z ht
  obtain ⟨ds, rfl, hds'⟩ := sound_directives z ds q hds
  exact ⟨⟨d, n, t, ds⟩, rfl, reads_append.2 ⟨v, hd, reads_head.2 ⟨w, takes_name.1 hn, reads_head.2 ⟨y,
    (takes_mark (by decide)).1 hmark, reads_append.2 ⟨z, ht', hds'⟩⟩⟩⟩⟩

theorem complete_field (x : FieldTree) :
    Complete field FieldTree.tokens FieldTree.field (Avoids goesOnDirectives) x := by
  intro s r h he
  obtain ⟨v, hc, hv⟩ := (complete_comment x.doc).append h fun _ hv => nextChar?_ne_of_name hv
  obtain ⟨w, hn, hw⟩ := reads_head.1 hv
  obtain ⟨y, hmark, hy⟩ := reads_head.1 hw
  obtain ⟨z, ht, hz⟩ := (complete_type x.type).append hy fun _ hz => avoids_of_reads_directives hz he
  have hdirectives := complete_directives x.directives z r hz he
  refine hc.bind ((takes_name.2 hn).bind (((takes_mark (by decide)).2 hmark).bind ?_))
  exact ht.bind (hdirectives.bind takes_result)

theorem sound_option : Sound option OptionTree.tokens OptionTree.option := by
  intro s x r h
  obtain ⟨c, v, hc, h⟩ := takes_bind.1 h
  obtain ⟨n, w, hn, h⟩ := takes_bind.1 h
  obtain ⟨⟨⟩, y, hmark, h⟩ := takes_bind.1 h
  obtain ⟨l, z, hl, h⟩ := takes_bind.1 h
  obtain ⟨rfl, rfl⟩ := takes_pure.1 h
  obtain ⟨d, rfl, hd⟩ := sound_comment s c v hc
  exact ⟨⟨d, n, l⟩, rfl, reads_append.2 ⟨v, hd, reads_head.2 ⟨w, takes_name.1 hn, reads_head.2 ⟨y,
    (takes_mark (by decide)).1 hmark, takes_literal.1 hl⟩⟩⟩⟩

theorem complete_option (x : OptionTree) :
    Complete option OptionTree.tokens OptionTree.option (fun _ => True) x := by
  intro s r h _
  obtain ⟨v, hc, hv⟩ := (complete_comment x.doc).append h fun _ hv => nextChar?_ne_of_name hv
  obtain ⟨w, hn, hw⟩ := reads_head.1 hv
  obtain ⟨y, hmark, hy⟩ := reads_head.1 hw
  refine hc.bind ((takes_name.2 hn).bind (((takes_mark (by decide)).2 hmark).bind ?_))
  exact (takes_literal.2 hy).bind takes_result

/-! ## Items -/

section Items

variable {s r : List Char}

/-- The word that a text begins with tells where it is read. -/
theorem isSome_keyword?_iff {w : String} (hw : w ∈ Terminal.words) :
    (Terminal.keyword? w.toList (Terminal.afterLayout s)).isSome = true ↔ ∃ v, Reads [.word w] s v := by
  rw [Option.isSome_iff_exists]
  constructor
  · rintro ⟨⟨⟨⟩, v⟩, h⟩
    exact ⟨v, (takes_keyword hw).1 (takes_token.2 h)⟩
  · rintro ⟨v, h⟩
    exact ⟨((), v), takes_token.1 ((takes_keyword hw).2 h)⟩

theorem not_isSome_keyword? {w : String} (hw : w ∈ Terminal.words) (opens : Char → Bool) (hs : Begins opens s)
    (hopens : w.toList.head?.any opens = false) :
    ¬ (Terminal.keyword? w.toList (Terminal.afterLayout s)).isSome = true := by
  intro hsome
  obtain ⟨v, hv⟩ := (isSome_keyword?_iff hw).1 hsome
  refine hs.not_avoids fun c hc => ?_
  rwa [show w.toList.head? = some c from hv.nextChar?_eq.symm.trans hc] at hopens

theorem sound_declaration (c : DocTree) (ds : List DirectiveTree) :
    Sound (declaration c.comment (ds.map (·.directive))) BodyTree.tokens
      (fun b => b.item c.comment (ds.map (·.directive))) := by
  intro s x r h
  rcases takes_choice.1 h with ⟨-, h⟩ | ⟨-, h⟩
  · obtain ⟨⟨⟩, v, hword, h⟩ := takes_bind.1 h
    obtain ⟨n, w, hn, h⟩ := takes_bind.1 h
    obtain ⟨vs, y, hvs, h⟩ := takes_bind.1 h
    obtain ⟨rfl, rfl⟩ := takes_pure.1 h
    obtain ⟨vs, rfl, hvs'⟩ := sound_block sound_variant w vs y hvs
    exact ⟨.enum n vs, rfl, reads_head.2 ⟨v, (takes_keyword (by decide)).1 hword, reads_head.2 ⟨w, takes_name.1 hn,
      hvs'⟩⟩⟩
  · obtain ⟨⟨⟩, v, hword, h⟩ := takes_bind.1 h
    obtain ⟨n, w, hn, h⟩ := takes_bind.1 h
    rw [takes_keyword (by decide)] at hword
    rw [takes_name] at hn
    rcases takes_choice.1 h with ⟨-, h⟩ | ⟨-, h⟩
    · obtain ⟨⟨⟩, y, hopen, h⟩ := takes_bind.1 h
      obtain ⟨t, z, ht, h⟩ := takes_bind.1 h
      obtain ⟨⟨⟩, q, hclose, h⟩ := takes_bind.1 h
      obtain ⟨rfl, rfl⟩ := takes_pure.1 h
      rw [takes_mark (by decide)] at hopen hclose
      obtain ⟨t, rfl, ht'⟩ := sound_type y t z ht
      exact ⟨.newtype n t, rfl, reads_head.2 ⟨v, hword, reads_head.2 ⟨w, hn, reads_head.2 ⟨y, hopen,
        reads_append.2 ⟨z, ht', hclose⟩⟩⟩⟩⟩
    · obtain ⟨fs, y, hfs, h⟩ := takes_bind.1 h
      obtain ⟨rfl, rfl⟩ := takes_pure.1 h
      obtain ⟨fs, rfl, hfs'⟩ := sound_block sound_field w fs y hfs
      exact ⟨.struct n fs, rfl, reads_head.2 ⟨v, hword, reads_head.2 ⟨w, hn, hfs'⟩⟩⟩

theorem complete_declaration (c : Option String) (ds : List (Directive Literal)) (b : BodyTree) :
    Complete (declaration c ds) BodyTree.tokens (BodyTree.item c ds) (fun _ => True) b := by
  intro s r h _
  have struct : ∀ {ts : List Token}, Reads (.word "struct" :: ts) s r →
      ¬ (Terminal.keyword? "enum".toList (Terminal.afterLayout s)).isSome = true := fun h =>
    not_isSome_keyword? (by decide) (· == 's') ⟨'s', h.nextChar?_eq, rfl⟩ (by decide)
  cases b with
  | enum n vs =>
    obtain ⟨v, hword, hv⟩ := reads_head.1 h
    obtain ⟨w, hn, hw⟩ := reads_head.1 hv
    have hblock := complete_block ne_of_beginsEntry (fun _ _ _ h => begins_entry h) avoids_of_begins_entry
      avoids_of_closed (fun x => by simp) (fun x (_ : x ∈ vs) => complete_variant x) w r hw trivial
    refine takes_left ((isSome_keyword?_iff (by decide)).2 ⟨v, hword⟩) ?_
    exact ((takes_keyword (by decide)).2 hword).bind ((takes_name.2 hn).bind (hblock.bind takes_result))
  | struct n fs =>
    obtain ⟨v, hword, hv⟩ := reads_head.1 h
    obtain ⟨w, hn, hw⟩ := reads_head.1 hv
    have hblock := complete_block ne_of_beginsEntry (fun _ _ _ h => begins_entry h) avoids_of_begins_entry
      avoids_of_closed (fun x => by simp) (fun x (_ : x ∈ fs) => complete_field x) w r hw trivial
    have hopen : ¬ startsWith '(' (Terminal.afterLayout w) = true := by
      rw [startsWith_iff, nextChar?_mark hw]
      decide
    refine takes_right (struct h) (((takes_keyword (by decide)).2 hword).bind ((takes_name.2 hn).bind ?_))
    exact takes_right hopen (hblock.bind takes_result)
  | newtype n t =>
    obtain ⟨v, hword, hv⟩ := reads_head.1 h
    obtain ⟨w, hn, hw⟩ := reads_head.1 hv
    obtain ⟨y, hopen, hy⟩ := reads_head.1 hw
    obtain ⟨z, ht, hclose⟩ := (complete_type t).append hy fun _ hz =>
      avoids_of_nextChar? (nextChar?_mark hz) (by decide)
    refine takes_right (struct h) (((takes_keyword (by decide)).2 hword).bind ((takes_name.2 hn).bind ?_))
    refine takes_left (startsWith_iff.2 (nextChar?_mark hopen)) (((takes_mark (by decide)).2 hopen).bind ?_)
    exact ht.bind (((takes_mark (by decide)).2 hclose).bind takes_result)

theorem sound_item : Sound item ItemTree.tokens ItemTree.item := by
  intro s x r h
  rcases takes_choice.1 h with ⟨-, h⟩ | ⟨-, h⟩
  · obtain ⟨⟨⟩, v, hword, h⟩ := takes_bind.1 h
    obtain ⟨os, w, hos, h⟩ := takes_bind.1 h
    obtain ⟨rfl, rfl⟩ := takes_pure.1 h
    obtain ⟨os, rfl, hos'⟩ := sound_block sound_option v os w hos
    exact ⟨.options os, rfl, reads_head.2 ⟨v, (takes_keyword (by decide)).1 hword, hos'⟩⟩
  · obtain ⟨c, v, hc, h⟩ := takes_bind.1 h
    obtain ⟨ds, w, hds, h⟩ := takes_bind.1 h
    obtain ⟨d, rfl, hd⟩ := sound_comment s c v hc
    obtain ⟨ds, rfl, hds'⟩ := sound_directives v ds w hds
    obtain ⟨b, rfl, hb⟩ := sound_declaration d ds w x r h
    exact ⟨.declaration d ds b, rfl, reads_append.2 ⟨v, hd, reads_append.2 ⟨w, hds', hb⟩⟩⟩

theorem complete_item (x : ItemTree) : Complete item ItemTree.tokens ItemTree.item (fun _ => True) x := by
  intro s r h _
  cases x with
  | options os =>
    obtain ⟨v, hword, hv⟩ := reads_head.1 h
    have hblock := complete_block ne_of_beginsEntry (fun _ _ _ h => begins_entry h) (fun _ _ => trivial)
      (fun _ _ => trivial) (fun x => by simp) (fun x (_ : x ∈ os) => complete_option x) v r hv trivial
    refine takes_left ((isSome_keyword?_iff (by decide)).2 ⟨v, hword⟩) ?_
    exact ((takes_keyword (by decide)).2 hword).bind (hblock.bind takes_result)
  | declaration d ds b =>
    have hnot := not_isSome_keyword? (w := "options") (by decide) beginsDeclaration (begins_declaration h) (by decide)
    obtain ⟨v, hc, hv⟩ := (complete_comment d).append h fun _ hv => nextChar?_ne_of_head hv
    obtain ⟨w, hds, hw⟩ := (complete_directives ds).append hv fun _ hw => avoids_of_body hw
    exact takes_right hnot (hc.bind (hds.bind (complete_declaration _ _ b w r hw trivial)))

theorem tokens_ne_nil (x : ItemTree) : x.tokens ≠ [] := by
  cases x with
  | options os => exact List.cons_ne_nil _ _
  | declaration d ds b => cases b <;> simp [ItemTree.tokens, BodyTree.tokens]

theorem sound_items : Sound items (List.flatMap ItemTree.tokens) (List.map ItemTree.item) := sound_many sound_item

/-- Items are read to the end of the text. -/
theorem isTrailing_of_takes_items {is : List (Item Literal)} (h : Takes items s is r) : IsTrailing r := by
  have hstop := stops_of_takes_many sound_item tokens_ne_nil rfl h
  rw [Bool.not_eq_false', List.isEmpty_iff] at hstop
  exact Terminal.afterLayout_eq_nil_iff.1 hstop

theorem complete_items (xs : List ItemTree) :
    Complete items (List.flatMap ItemTree.tokens) (List.map ItemTree.item) IsTrailing xs := by
  intro s r h he
  have hstarts : ∀ s, nextChar? s ≠ none → (fun t : List Char => !t.isEmpty) (Terminal.afterLayout s) = true := by
    intro s hs
    rw [Bool.not_eq_true', List.isEmpty_eq_false_iff]
    exact fun hnil => hs (List.head?_eq_none_iff.2 hnil)
  refine complete_many _ (fun _ _ _ h => nextChar?_item h) hstarts (fun _ _ => trivial) tokens_ne_nil
    (fun x _ => complete_item x) s r h ⟨trivial, ?_⟩
  rw [Terminal.afterLayout_eq_nil_iff.2 he]
  rfl

end Items

end Parser

/-! ## Texts -/

/-- The grammar takes a text to the items of its derivation. -/
theorem parseItems_eq_ok_iff {text : List Char} {is : List (Item Literal)} :
    parseItems text = .ok is ↔ ∃ d : Derivation text, d.items = is := by
  rw [parseItems, map_eq_ok_iff]
  constructor
  · rintro ⟨⟨is', r⟩, h, rfl⟩
    obtain ⟨trees, rfl, ps, htokens, hread, htext⟩ := Parser.sound_items text is' r h
    exact ⟨⟨trees, ps, r, htokens, hread, Parser.isTrailing_of_takes_items h, htext⟩, rfl⟩
  · rintro ⟨d, rfl⟩
    exact ⟨(d.items, d.trailing), Parser.complete_items d.trees text d.trailing d.reads d.isTrailing, rfl⟩

namespace Definitions

theorem unvalidated_eq_ok_iff {text : List Char} {d : Definitions LiteralValue} :
    unvalidated text = .ok d ↔ ∃ e : Derivation text, e.definitions? = .ok d := by
  simp only [unvalidated, bind_eq_ok_iff, mapError_eq_ok_iff, parseItems_eq_ok_iff, pure_eq_ok_iff]
  constructor
  · rintro ⟨_, ⟨e, rfl⟩, is, his, rfl⟩
    exact ⟨e, by rw [Derivation.definitions?, his]; rfl⟩
  · rintro ⟨e, he⟩
    obtain ⟨is, his, rfl⟩ := map_eq_ok_iff.1 he
    exact ⟨e.items, ⟨e, rfl⟩, is, his, rfl⟩

theorem parse_eq_ok_iff {text : String} {d : Definitions LiteralValue} :
    parse text = .ok d ↔ (∃ e : Derivation text.toList, e.definitions? = .ok d) ∧ d.validate = .ok () := by
  rw [← unvalidated_eq_ok_iff]
  refine ⟨of_parse, ?_⟩
  rintro ⟨hd, hvalid⟩
  exact bind_eq_ok_iff.2 ⟨d, hd, bind_eq_ok_iff.2 ⟨(), mapError_eq_ok_iff.2 hvalid, rfl⟩⟩

theorem ofText_eq_ok_iff {text : String} {d : Definitions Value} :
    ofText text = .ok d ↔
      ∃ d', (∃ e : Derivation text.toList, e.definitions? = .ok d') ∧ d'.mapM LiteralValue.narrow = .ok d ∧
        d.validate = .ok () := by
  rw [ofText_eq_ok_iff_exists_parse]
  refine exists_congr fun d' => ?_
  rw [parse_eq_ok_iff, and_assoc]
  refine and_congr_right fun _ => ?_
  rw [and_comm]
  exact and_congr_right fun hnarrow => by rw [validate_of_mapM hnarrow]

/-- The grammar is unambiguous, and reading a text comes to what its derivation stands for: there are definitions if
and only if there is a derivation whose literals have values and whose definitions are valid, and these they are. -/
theorem parse_unambiguous (text : String) :
    (∀ e e' : Derivation text.toList, e = e') ∧
      ∀ d, parse text = .ok d ↔ ∃ e : Derivation text.toList, e.definitions? = .ok d ∧ d.validate = .ok () := by
  refine ⟨Subsingleton.elim, fun d => ?_⟩
  rw [parse_eq_ok_iff, exists_and_right]

/-- An escape may stand for a surrogate, which is a value. A null character is not read between quotation marks. -/
example :
    (parse "options \x7bhelpers = \"\\ud800\"\x7d").toOption.map (fun d => d.options.map (·.value)) =
        some [.text [0xd800]] ∧
      (ofText "options \x7bhelpers = \"\\ud800\"\x7d").toOption.isNone ∧
      (parse "options \x7bhelpers = \"\x00\"\x7d").toOption.isNone := by decide +kernel

end Definitions

end WireBridge
