import WireBridge.Proofs.Definition.Reading

/-!
# Layout does not change what a text means

White space or a comment may be put before any token of a text, and white space at its end: the text still has the same
derivation but for the layout in it (`Derivation.insert`, `Derivation.extend`), and so the same definitions
(`Definitions.ofText_insert`).

* `Token.TakenBefore.insert` : a token stays the longest that can be taken. What is put in begins with a character that
  no name and no number has; only a doc comment would go on, and behind that its line ends first.
* `IsTrailing.append` : white space goes on what stands after the last token, a comment among it or not.
-/

set_option autoImplicit false

namespace WireBridge

/-! ## Before a token -/

/-- White space, or a comment and the end of its line. -/
def IsPadding (l : List Char) : Prop :=
  (∀ c ∈ l, Terminal.isSpace c = true) ∨ ∃ body, body.head? ≠ some '#' ∧ '\n' ∉ body ∧ l = '#' :: (body ++ ['\n'])

theorem IsPadding.isLayout {l : List Char} (h : IsPadding l) : IsLayout l := by
  rcases h with h | ⟨body, hhead, hbody, rfl⟩
  · exact isLayout_of_isSpace h
  · exact .comment ⟨body, rfl, hhead, hbody⟩ .nil

theorem IsLayout.head_mem {l : List Char} (h : IsLayout l) : ∀ c, l.head? = some c → c ∈ Terminal.layoutStarts := by
  cases h with
  | nil => exact fun c hc => by cases hc
  | space hc _ =>
    rintro d ⟨⟩
    exact Terminal.isSpace_or_eq_hash_iff.1 (.inl hc)
  | comment hw _ =>
    obtain ⟨body, rfl, -, -⟩ := hw
    rintro d ⟨⟩
    exact Terminal.isSpace_or_eq_hash_iff.1 (.inr rfl)

namespace Token.TakenBefore

variable {t : Token} {x y l : List Char}

/-- The texts of the terminal have no character that begins layout. -/
theorem insert_of_class {p : Char → Bool} (hclass : ∀ w, t.terminal.Matches w → ∀ c ∈ w, p c = true)
    (hlayout : Terminal.layoutStarts.any p = false) (h : t.TakenBefore (x ++ y)) (hl : IsLayout l) :
    t.TakenBefore (x ++ (l ++ y)) := by
  cases hd : l with
  | nil => exact h
  | cons c l' =>
    refine ⟨h.isText, fun w hw hprefix => ?_⟩
    have hhead : ∀ d, (c :: l' ++ y).head? = some d → p d = false := by
      rintro d ⟨⟩
      exact Bool.eq_false_iff.2 (List.any_eq_false.1 hlayout c (hl.head_mem c (by rw [hd]; rfl)))
    rw [← List.append_assoc] at hprefix
    have hshort : w <+: t.text ++ x := prefix_of_class (hclass w hw) hhead hprefix
    exact h.longest w hw (hshort.trans ⟨y, List.append_assoc _ _ _⟩)

/-- A doc comment takes the rest of its line. -/
theorem head_of_doc {r : List Char} (h : t.TakenBefore r) (hdoc : t.terminal = .doc) :
    ∀ c, r.head? = some c → c = '\n' := by
  obtain ⟨k, w⟩ := t
  obtain rfl : k = .doc := hdoc
  obtain ⟨body, hbody, rfl⟩ := h.isText
  intro c hc
  obtain ⟨rest, rfl⟩ := List.head?_eq_some_iff.1 hc
  by_contra hne
  have hmore : Terminal.doc.Matches ('#' :: '#' :: (body ++ [c])) :=
    ⟨body ++ [c], by simp [hbody, Ne.symm hne], rfl⟩
  exact absurd (h.longest _ hmore ⟨rest, by simp⟩) (by simp)

/-- A token stays the longest that can be taken if layout is put in behind it, for a doc comment not at once. -/
theorem insert (h : t.TakenBefore (x ++ y)) (hl : IsLayout l) (hx : t.terminal = .doc → x ≠ []) :
    t.TakenBefore (x ++ (l ++ y)) := by
  obtain ⟨k, w⟩ := t
  cases k with
  | word n =>
    obtain ⟨hn, rfl⟩ := h.isText
    exact Terminal.takenBefore_word hn _
  | mark c =>
    obtain ⟨hc, rfl⟩ := h.isText
    exact Terminal.takenBefore_mark hc _
  | quoted =>
    obtain ⟨body, hbody, rfl⟩ := h.isText
    exact Terminal.takenBefore_quoted hbody _
  | name => exact insert_of_class (fun _ hw => Terminal.isNameChar_of_isIdentifier hw) (by decide) h hl
  | number => exact insert_of_class (fun _ hw => Terminal.isNumberChar_of_isNumber hw) (by decide) h hl
  | doc =>
    obtain ⟨body, hbody, rfl⟩ := h.isText
    obtain ⟨c, x, rfl⟩ := List.exists_cons_of_ne_nil (hx rfl)
    exact Terminal.takenBefore_doc hbody fun d hd => head_of_doc h rfl d hd

end Token.TakenBefore

/-- No token begins with a line feed. -/
theorem Terminal.head_of_matches {k : Terminal} {w : List Char} (h : k.Matches w) (s : List Char) :
    ∃ c, (w ++ s).head? = some c ∧ c ≠ '\n' := by
  obtain ⟨hne, hself⟩ := afterLayout_of_matches h s
  obtain ⟨c, w, rfl⟩ := List.exists_cons_of_ne_nil hne
  refine ⟨c, rfl, ?_⟩
  rintro rfl
  rw [List.cons_append, afterLayout_space (by decide)] at hself
  obtain ⟨l, -, htext⟩ := exists_layout_of_ne_nil (s := w ++ s) (by rw [hself]; exact List.cons_ne_nil _ _)
  rw [hself] at htext
  have hlength := congrArg List.length htext
  simp only [List.length_append, List.length_cons] at hlength
  omega

/-- The tokens before a place stay what they are if layout is put in at the place. -/
theorem Readable.insert {ps : List LaidToken} {x y l : List Char} (h : Readable ps (x ++ y)) (hl : IsLayout l)
    (hx : x ≠ [] ∨ ∃ c, y.head? = some c ∧ c ≠ '\n') : Readable ps (x ++ (l ++ y)) := by
  induction ps with
  | nil => trivial
  | cons p ps ih =>
    obtain ⟨hlayout, htaken, hread⟩ := h
    refine ⟨hlayout, ?_, ih hread⟩
    rw [← List.append_assoc] at htaken ⊢
    refine htaken.insert hl fun hdoc hnil => ?_
    rw [hnil] at htaken
    rcases hx with hx | ⟨c, hc, hline⟩
    · exact hx (List.append_eq_nil_iff.1 hnil).2
    · exact hline (htaken.head_of_doc hdoc c hc)

theorem spelling_append (ps qs : List LaidToken) : spelling (ps ++ qs) = spelling ps ++ spelling qs :=
  List.flatMap_append

theorem readable_append {ps qs : List LaidToken} {r : List Char} :
    Readable (ps ++ qs) r ↔ Readable ps (spelling qs ++ r) ∧ Readable qs r := by
  induction ps with
  | nil => exact (and_iff_right trivial).symm
  | cons p ps ih =>
    simp only [List.cons_append, Readable, ih, spelling_append, List.append_assoc, and_assoc]

/-- The place with more layout right before its token. -/
def LaidToken.pad (p : LaidToken) (l : List Char) : LaidToken := ⟨p.layout ++ l, p.token⟩

namespace Derivation

variable {text : List Char}

/-- The derivation of a text with layout put in before a token. -/
def insert (e : Derivation text) {before after : List LaidToken} {p : LaidToken} (hp : e.places = before ++ p :: after)
    {l : List Char} (hl : IsLayout l) :
    Derivation (spelling before ++ (p.layout ++ (l ++ (p.token.text ++ (spelling after ++ e.trailing))))) where
  trees := e.trees
  places := before ++ p.pad l :: after
  trailing := e.trailing
  tokens_eq := by rw [← e.tokens_eq, hp, List.map_append, List.map_append]; rfl
  readable := by
    have hread := e.readable
    rw [hp, readable_append, spelling_cons] at hread
    obtain ⟨hbefore, hlayout, htaken, hafter⟩ := hread
    refine readable_append.2 ⟨?_, hlayout.append hl, htaken, hafter⟩
    rw [spelling_cons, LaidToken.pad, List.append_assoc]
    exact hbefore.insert hl (.inr (Terminal.head_of_matches htaken.isText _))
  isTrailing := e.isTrailing
  text_eq := by rw [spelling_append, List.append_assoc, spelling_cons, LaidToken.pad, List.append_assoc]

end Derivation

/-! ## At the end of a text -/

/-- White space goes on what stands after the last token. -/
theorem IsTrailing.append {s l : List Char} (hs : IsTrailing s) (hl : ∀ c ∈ l, Terminal.isSpace c = true) :
    IsTrailing (s ++ l) := by
  have blank : ∀ m : List Char, m <:+ l → Terminal.afterLayout m = [] := by
    intro m hm
    rw [← List.append_nil m, Terminal.afterLayout_append (isLayout_of_isSpace fun c hc => hl c (hm.mem hc))]
    rfl
  obtain ⟨m, tail, hm, htail, rfl⟩ := hs
  rw [← Terminal.afterLayout_eq_nil_iff, List.append_assoc, Terminal.afterLayout_append hm]
  rcases htail with rfl | ⟨body, rfl, hhead, hbody⟩
  · exact blank l (List.suffix_refl l)
  · have hnot : (body ++ l).head? ≠ some '#' := by
      cases body with
      | cons c body => exact hhead
      | nil =>
        intro hc
        exact absurd (hl '#' (List.mem_of_mem_head? hc)) (by decide)
    rw [List.cons_append, Terminal.afterLayout_hash hnot]
    rcases Terminal.skipLayout_true_cases (body ++ l) with ⟨-, hskip⟩ | ⟨b, rest, -, htext, hskip⟩
    · exact hskip
    · rw [hskip]
      refine blank rest ?_
      -- the line ends within the white space, for the comment has no line end
      rcases List.append_eq_append_iff.1 htext with ⟨m, -, rfl⟩ | ⟨m, rfl, hm⟩
      · exact ⟨m ++ ['\n'], by simp⟩
      · cases m with
        | nil => exact ⟨['\n'], hm⟩
        | cons c m =>
          obtain rfl : '\n' = c := (List.cons.inj hm).1
          simp at hbody

/-- An item ends with a mark. -/
theorem ItemTree.exists_tokens_eq (x : ItemTree) : ∃ ts c, x.tokens = ts ++ [.mark c] := by
  cases x with
  | options os => exact ⟨_ :: _ :: _, '\x7d', rfl⟩
  | declaration d ds b =>
    obtain ⟨ts, c, hb⟩ : ∃ ts c, b.tokens = ts ++ [.mark c] := by
      cases b with
      | enum n vs => exact ⟨_ :: _ :: _ :: _, '\x7d', rfl⟩
      | struct n fs => exact ⟨_ :: _ :: _ :: _, '\x7d', rfl⟩
      | newtype n t => exact ⟨_ :: _ :: _ :: _, ')', rfl⟩
    exact ⟨d.tokens ++ (ds.flatMap DirectiveTree.tokens ++ ts), c, by simp [ItemTree.tokens, hb]⟩

namespace Derivation

variable {text : List Char}

/-- The last token of a text is a mark. -/
theorem last_place (e : Derivation text) {before : List LaidToken} {p : LaidToken} (hp : e.places = before ++ [p]) :
    ∃ c, p.token = .mark c := by
  have htokens := e.tokens_eq
  rw [hp, List.map_append] at htokens
  rcases List.eq_nil_or_concat e.trees with hnil | ⟨trees, x, htrees⟩
  · rw [hnil] at htokens
    simp at htokens
  · obtain ⟨ts, c, hx⟩ := x.exists_tokens_eq
    rw [htrees, List.concat_eq_append, List.flatMap_append, List.flatMap_singleton, hx, ← List.append_assoc] at htokens
    exact ⟨c, (List.append_singleton_inj.1 htokens).2⟩

/-- The derivation of a text with white space put in at its end. -/
def extend (e : Derivation text) {l : List Char} (hl : ∀ c ∈ l, Terminal.isSpace c = true) :
    Derivation (text ++ l) where
  trees := e.trees
  places := e.places
  trailing := e.trailing ++ l
  tokens_eq := e.tokens_eq
  readable := by
    have hread := e.readable
    rcases List.eq_nil_or_concat e.places with hnil | ⟨before, p, hp⟩
    · rw [hnil]
      trivial
    · rw [List.concat_eq_append] at hp
      rw [hp, readable_append] at hread ⊢
      obtain ⟨hbefore, hlayout, htaken, -⟩ := hread
      obtain ⟨c, hc⟩ := e.last_place hp
      have hmark : c ∈ Terminal.marks := by
        rw [hc] at htaken
        exact htaken.isText.1
      refine ⟨?_, hlayout, hc ▸ Terminal.takenBefore_mark hmark _, trivial⟩
      have hpad := Readable.insert (y := []) (by simpa using hbefore) (isLayout_of_isSpace hl)
        (.inl (by simp [spelling, LaidToken.text, hc, Token.mark]))
      simpa using hpad
  isTrailing := e.isTrailing.append hl
  text_eq := by rw [← List.append_assoc, ← e.text_eq]

end Derivation

/-! ## Definitions -/

namespace Definitions

/-- A text that can be read has a derivation. White space or a comment right before any token of the derivation leaves
the definitions as they are, and so does white space at the end of the text. -/
theorem ofText_insert {text : String} {d : Definitions Value} (h : ofText text = .ok d) :
    Nonempty (Derivation text.toList) ∧
      (∀ (e : Derivation text.toList) (before after : List LaidToken) (p : LaidToken) (l : List Char),
        e.places = before ++ p :: after → IsPadding l →
          ofText (String.ofList
            (spelling before ++ (p.layout ++ (l ++ (p.token.text ++ (spelling after ++ e.trailing)))))) = .ok d) ∧
      ∀ l : List Char, (∀ c ∈ l, Terminal.isSpace c = true) → ofText (text ++ String.ofList l) = .ok d := by
  obtain ⟨d', ⟨e, he⟩, hd⟩ := ofText_eq_ok_iff.1 h
  refine ⟨⟨e⟩, ?_, ?_⟩
  · intro e' before after p l hp hl
    obtain rfl : e = e' := Subsingleton.elim e e'
    refine ofText_eq_ok_iff.2 ⟨d', ?_, hd⟩
    rw [String.toList_ofList]
    exact ⟨e.insert hp hl.isLayout, he⟩
  · intro l hl
    refine ofText_eq_ok_iff.2 ⟨d', ?_, hd⟩
    rw [String.toList_append, String.toList_ofList]
    exact ⟨e.extend hl, he⟩

end Definitions

/-- A word and a name that touch. -/
def Derivation.touching : Derivation "enumA\x7b\x7d".toList where
  trees := [.declaration [] [] (.enum "A" [])]
  places := [⟨[], .word "enum"⟩, ⟨[], .name "A"⟩, ⟨[], .mark '\x7b'⟩, ⟨[], .mark '\x7d'⟩]
  trailing := []
  tokens_eq := rfl
  readable := by
    refine ⟨.nil, Terminal.takenBefore_word (by decide) _, .nil, Terminal.takenBefore_name (by decide) ?_, .nil,
      Terminal.takenBefore_mark (by decide) _, .nil, Terminal.takenBefore_mark (by decide) _, trivial⟩
    rintro c ⟨⟩
    rfl
  isTrailing := ⟨[], [], .nil, .inl rfl, rfl⟩
  text_eq := by decide

theorem Definitions.ofText_insert_touching :
    ∃ d, ofText "enumA\x7b\x7d" = .ok d ∧ ofText "enum#!\nA\x7b\x7d" = .ok d ∧ ofText "enumA\x7b\x7d \n" = .ok d := by
  have h : ofText "enumA\x7b\x7d" = .ok ⟨[⟨"A", [], none, []⟩], [], []⟩ :=
    ofText_eq_ok_iff.2 ⟨_, ⟨Derivation.touching, rfl⟩, rfl, rfl⟩
  obtain ⟨-, hinsert, hextend⟩ := ofText_insert h
  have hcomment : IsPadding "#!\n".toList := .inr ⟨['!'], by decide, by decide, by decide⟩
  have hcommented := hinsert Derivation.touching [⟨[], .word "enum"⟩] [⟨[], .mark '\x7b'⟩, ⟨[], .mark '\x7d'⟩]
    ⟨[], .name "A"⟩ _ rfl hcomment
  have hextended := hextend " \n".toList (List.all_eq_true.1 (by decide))
  rw [String.ofList_toList] at hextended
  exact ⟨_, h, String.ofList_toList (s := "enum#!\nA\x7b\x7d") ▸ hcommented, hextended⟩

end WireBridge
