import WireBridge.Proofs.Definition.Reading
import WireBridge.Proofs.Text.Written

/-!
# Definitions that are written can be read

`Definitions.written` writes definitions as a text: a block of options, the enums, the records; every line of a comment
behind two number signs, a directive as `@name(arguments)`, a text between quotation marks with escapes, a type as
`TypeExpr.text` has it, and white space between all other tokens. `Definitions.Writable` says what can be written so.
Reading the text then gives the definitions back (`Definitions.ofText_written`).

* `Spells ts s` : the text `s` is the row of tokens `ts`, with layout around them;
* `Printed tokens value ends a x` : the text `x` puts the tokens of a derivation in front of any row of tokens that
  does not go on with its last token (`ends`), and the derivation has the value `a`. There is one lemma for each rule.
-/

set_option autoImplicit false

namespace WireBridge

/-! ## Writing -/

/-- Parts with commas between them. -/
def listed (parts : List (List Char)) : List Char := ", ".toList.intercalate parts

def Value.written : Value → List Char
  | text s => '"' :: (s.toList.flatMap (Text.quotedChar '"') ++ ['"'])
  | v => v.plain.toList

def Argument.written (x : Argument Value) : List Char :=
  match x.name with
  | some n => n.toList ++ '=' :: x.value.written
  | none => x.value.written

def Directive.written (d : Directive Value) : List Char :=
  '@' :: (d.name.toList ++ '(' :: (listed (d.arguments.map Argument.written) ++ [')']))

/-- The lines of a comment, each `margin` columns from the left. -/
def writtenComment (margin : Nat) : Option String → List Char
  | none => []
  | some c => (Text.splitAt '\n' c.toList).flatMap fun line =>
    List.replicate margin ' ' ++ ("## ".toList ++ (line ++ ['\n']))

/-- Directives at the end of a line. -/
def writtenDirectives (ds : List (Directive Value)) : List Char := ds.flatMap fun d => ' ' :: d.written

/-- An entry of a block: its comment and its line. -/
def writtenEntry (comment : Option String) (line : List Char) : List Char :=
  writtenComment 4 comment ++ (List.replicate 4 ' ' ++ (line ++ ['\n']))

def VariantDecl.written (v : VariantDecl Value) : List Char :=
  writtenEntry v.comment (v.name.toList ++ writtenDirectives v.directives)

def FieldDecl.written (f : FieldDecl Value) : List Char :=
  writtenEntry f.comment (f.name.toList ++ (" : ".toList ++ (f.type.text.toList ++ writtenDirectives f.directives)))

def OptionDecl.written (o : OptionDecl Value) : List Char :=
  writtenEntry o.comment (o.name.toList ++ (" = ".toList ++ o.value.written))

/-- Entries between braces, each on a line of its own. -/
def writtenBlock {α : Type} (written : α → List Char) (entries : List α) : List Char :=
  '\x7b' :: '\n' :: (entries.flatMap written ++ ['\x7d', '\n'])

/-- What stands before the body of a declared type: its comment, and a line for each directive. -/
def writtenHead (comment : Option String) (directives : List (Directive Value)) : List Char :=
  writtenComment 0 comment ++ directives.flatMap fun d => d.written ++ ['\n']

/-- A word, and a blank between it and what follows. -/
def afterWord (w : String) (x : List Char) : List Char := w.toList ++ ' ' :: x

def EnumDecl.written (e : EnumDecl Value) : List Char :=
  writtenHead e.comment e.directives ++
    afterWord "enum" (e.name.toList ++ ' ' :: writtenBlock VariantDecl.written e.variants)

def RecordDecl.written (r : RecordDecl Value) : List Char :=
  writtenHead r.comment r.directives ++
    afterWord "struct" (r.name.toList ++
      ' ' :: if r.newtype then '(' :: ' ' :: (r.fields.flatMap (·.type.text.toList) ++ [' ', ')', '\n'])
        else writtenBlock FieldDecl.written r.fields)

def Item.written : Item Value → List Char
  | .options os => afterWord "options" (writtenBlock OptionDecl.written os)
  | .enum e => e.written
  | .record r => r.written

namespace Definitions

/-- The options in one block, then the enums, then the records. -/
def items {V : Type} (d : Definitions V) : List (Item V) :=
  .options d.options :: (d.enums.map .enum ++ d.records.map .record)

def written (d : Definitions Value) : String := String.ofList (d.items.flatMap Item.written)

end Definitions

/-! ## What can be written -/

/-- An integer that has not too many digits, or a text. -/
def Value.Writable : Value → Prop
  | text _ => True
  | integer n => (Nat.toDigits 10 n.natAbs).length ≤ maxDigits
  | _ => False

structure Argument.Writable (x : Argument Value) : Prop where
  name : ∀ n, x.name = some n → Text.isIdentifier n.toList = true
  value : x.value.Writable

structure Directive.Writable (d : Directive Value) : Prop where
  name : Text.isIdentifier d.name.toList = true
  arguments : ∀ x ∈ d.arguments, x.Writable

/-- Every line of the comment is as it is without the blanks at its ends. -/
def WritableComment (comment : Option String) : Prop :=
  ∀ c, comment = some c → ∃ lines : List String, c = Text.joinLines lines ∧
    ∀ line ∈ lines, '\n' ∉ line.toList ∧ Text.strip line.toList = line.toList

inductive TypeExpr.Writable : TypeExpr → Prop
  | wire {n : String} : Text.isDotted n.toList = true → Writable (.mk n [] true)
  | native {n : String} {as : List TypeExpr} : Text.isIdentifier n.toList = true → (∀ t ∈ as, Writable t) →
      Writable (.mk n as false)

structure VariantDecl.Writable (v : VariantDecl Value) : Prop where
  name : Text.isIdentifier v.name.toList = true
  comment : WritableComment v.comment
  directives : ∀ d ∈ v.directives, d.Writable

structure EnumDecl.Writable (e : EnumDecl Value) : Prop where
  name : Text.isIdentifier e.name.toList = true
  variants : ∀ v ∈ e.variants, v.Writable
  comment : WritableComment e.comment
  directives : ∀ d ∈ e.directives, d.Writable

structure FieldDecl.Writable (f : FieldDecl Value) : Prop where
  name : Text.isIdentifier f.name.toList = true
  type : f.type.Writable
  comment : WritableComment f.comment
  directives : ∀ d ∈ f.directives, d.Writable

/-- A newtype has one field, which is called `value` and has neither a comment nor directives. -/
structure RecordDecl.Writable (r : RecordDecl Value) : Prop where
  name : Text.isIdentifier r.name.toList = true
  fields : ∀ f ∈ r.fields, f.Writable
  comment : WritableComment r.comment
  directives : ∀ d ∈ r.directives, d.Writable
  newtype : r.newtype = true → ∃ t, r.fields = [⟨"value", t, none, []⟩]

structure OptionDecl.Writable (o : OptionDecl Value) : Prop where
  name : Text.isIdentifier o.name.toList = true
  value : o.value.Writable
  comment : WritableComment o.comment

structure Definitions.Writable (d : Definitions Value) : Prop where
  enums : ∀ e ∈ d.enums, e.Writable
  records : ∀ r ∈ d.records, r.Writable
  options : ∀ o ∈ d.options, o.Writable

/-! ## Texts of tokens -/

/-- The text is the row of tokens, with layout before each of them and at the end. -/
def Spells (ts : List Token) (s : List Char) : Prop := ∃ r, Reads ts s r ∧ IsTrailing r

/-- No name and no number goes on at the start of the text. -/
def Apart (s : List Char) : Prop :=
  ∀ c, s.head? = some c → Text.isNameChar c = false ∧ Terminal.isNumberChar c = false

section Spells

variable {ts us : List Token} {s : List Char}

theorem apart_cons {c : Char} (hname : Text.isNameChar c = false) (hnumber : Terminal.isNumberChar c = false)
    (s : List Char) : Apart (c :: s) := by
  rintro d ⟨⟩
  exact ⟨hname, hnumber⟩

theorem Spells.cons {t : Token} (ht : t.TakenBefore s) (h : Spells ts s) : Spells (t :: ts) (t.text ++ s) := by
  obtain ⟨r, hr, htrailing⟩ := h
  exact ⟨r, reads_cons.2 ⟨s, ht, (Terminal.afterLayout_of_matches ht.isText s).2, hr⟩, htrailing⟩

theorem Spells.layout {l : List Char} (hl : IsLayout l) (h : Spells ts s) : Spells ts (l ++ s) := by
  obtain ⟨r, hr, htrailing⟩ := h
  cases ts with
  | nil =>
    obtain rfl := reads_nil.1 hr
    rw [← Terminal.afterLayout_eq_nil_iff, ← Terminal.afterLayout_append hl,
      Terminal.afterLayout_eq_nil_iff] at htrailing
    exact ⟨l ++ s, reads_nil.2 rfl, htrailing⟩
  | cons t ts =>
    rw [reads_cons, ← Terminal.afterLayout_append hl, ← reads_cons] at hr
    exact ⟨r, hr, htrailing⟩

theorem Spells.space {c : Char} (hc : Terminal.isSpace c = true) (h : Spells ts s) : Spells ts (c :: s) :=
  h.layout (.space hc .nil)

theorem Spells.margin (n : Nat) (h : Spells ts s) : Spells ts (List.replicate n ' ' ++ s) :=
  h.layout (isLayout_of_isSpace fun c hc => by rw [List.eq_of_mem_replicate hc]; rfl)

theorem Spells.mark {c : Char} (hc : c ∈ Terminal.marks) (h : Spells ts s) : Spells (.mark c :: ts) (c :: s) :=
  h.cons (Terminal.takenBefore_mark hc s)

theorem Spells.word {w : String} (hw : w ∈ Terminal.words) (h : Spells ts s) :
    Spells (.word w :: ts) (w.toList ++ s) :=
  h.cons (Terminal.takenBefore_word hw s)

theorem Spells.name {n : String} (hn : Text.isIdentifier n.toList = true)
    (hs : ∀ c, s.head? = some c → Text.isNameChar c = false) (h : Spells ts s) :
    Spells (.name n :: ts) (n.toList ++ s) :=
  h.cons (t := .name n) (Terminal.takenBefore_name hn hs)

theorem Spells.derivation {trees : List ItemTree} (h : Spells (trees.flatMap ItemTree.tokens) s) :
    ∃ e : Derivation s, e.trees = trees := by
  obtain ⟨r, ⟨ps, htokens, hread, htext⟩, htrailing⟩ := h
  exact ⟨⟨trees, ps, r, htokens, hread, htrailing, htext⟩, rfl⟩

end Spells

/-! ## Written derivations -/

/-- The text `x` is a derivation of a rule whose value is `a`, in front of a row of tokens where the rule `ends`. -/
def Printed {T A : Type} (tokens : T → List Token) (value : T → Except LiteralFault A) (ends : List Char → Prop) (a : A)
    (x : List Char) : Prop :=
  ∃ t, value t = .ok a ∧ ∀ us s, ends s → Spells us s → Spells (tokens t ++ us) (x ++ s)

section Rows

variable {T A : Type} {tokens : T → List Token} {value : T → Except LiteralFault A} {ends : List Char → Prop}
  {written : A → List Char} {as : List A}

theorem printed_flatMap (hnext : ∀ a s, ends (written a ++ s)) (h : ∀ a ∈ as, Printed tokens value ends a (written a)) :
    Printed (List.flatMap tokens) (List.mapM value) ends as (as.flatMap written) := by
  induction as with
  | nil => exact ⟨[], rfl, fun us s _ hs => hs⟩
  | cons a as ih =>
    rw [List.forall_mem_cons] at h
    obtain ⟨t, ht, hprint⟩ := h.1
    obtain ⟨ts, hts, hprints⟩ := ih h.2
    refine ⟨t :: ts, ?_, fun us s he hs => ?_⟩
    · rw [List.mapM_cons, ht, hts]
      rfl
    · rw [List.flatMap_cons, List.flatMap_cons, List.append_assoc, List.append_assoc]
      refine hprint _ _ ?_ (hprints _ _ he hs)
      cases as with
      | nil => exact he
      | cons b as =>
        rw [List.flatMap_cons, List.append_assoc]
        exact hnext b _

theorem Printed.map {L : Type} {view : T → L} {eval : L → Except LiteralFault A} {x : List Char}
    (h : Printed (List.flatMap tokens) (List.mapM fun t => eval (view t)) ends as x) :
    Printed (List.flatMap tokens) (fun ts => (ts.map view).mapM eval) ends as x := by
  obtain ⟨ts, hts, hprint⟩ := h
  exact ⟨ts, List.mapM_map.trans hts, hprint⟩

theorem printed_listed (h : ∀ a ∈ as, Printed tokens value Apart a (written a)) :
    Printed (separated tokens) (List.mapM value) Apart as (listed (as.map written)) := by
  cases as with
  | nil => exact ⟨[], rfl, fun us s _ hs => hs⟩
  | cons a as =>
    rw [List.forall_mem_cons] at h
    obtain ⟨t, ht, hprint⟩ := h.1
    have hcomma : ∀ s, Apart (',' :: s) := apart_cons (by decide) (by decide)
    have hmore : Printed (List.flatMap fun t => .mark ',' :: tokens t) (List.mapM value) Apart as
        (as.flatMap fun a => ", ".toList ++ written a) := by
      refine printed_flatMap (fun a s => hcomma _) fun b hb => ?_
      obtain ⟨u, hu, hprint⟩ := h.2 b hb
      exact ⟨u, hu, fun us s he hs => .mark (by decide) (.space rfl (hprint us s he hs))⟩
    obtain ⟨ts, hts, hprints⟩ := hmore
    refine ⟨t :: ts, ?_, fun us s he hs => ?_⟩
    · rw [List.mapM_cons, ht, hts]
      rfl
    · rw [separated, listed, List.map_cons, Text.intercalate_cons, List.flatMap_map, List.append_assoc,
        List.append_assoc]
      refine hprint _ _ ?_ (hprints _ _ he hs)
      cases as with
      | nil => exact he
      | cons b as => exact hcomma _

end Rows

/-! ## Values and directives -/

theorem quotedBody_quotedChar (c : Char) {s : List Char} (h : Terminal.QuotedBody s) :
    Terminal.QuotedBody (Text.quotedChar '"' c ++ s) := by
  have hdigits : ∀ k n, Terminal.QuotedBody (Text.hexDigits k n ++ s) := by
    intro k n
    have hplain : ∀ d < 16, Nat.digitChar d ≠ '"' ∧ Nat.digitChar d ≠ '\\' ∧ Nat.digitChar d ≠ '\n' := by decide
    have hall : ∀ c ∈ Text.hexDigits k n, ∃ d < 16, c = Nat.digitChar d := fun _ => Text.exists_of_mem_hexDigits
    generalize Text.hexDigits k n = w at hall ⊢
    induction w with
    | nil => exact h
    | cons c w ih =>
      obtain ⟨⟨d, hd, rfl⟩, hw⟩ := List.forall_mem_cons.1 hall
      obtain ⟨hquote, hslash, hline⟩ := hplain d hd
      exact .plain hquote hslash hline (ih hw)
  unfold Text.quotedChar
  split_ifs with hmark htab hline hreturn hprintable
  · rcases hmark with rfl | rfl
    · exact .escape (by decide) h
    · exact .escape (by decide) h
  · exact .escape (by decide) h
  · exact .escape (by decide) h
  · exact .escape (by decide) h
  · rw [not_or] at hmark
    exact .plain hmark.1 hmark.2 hline h
  · unfold Text.numericEscape
    simp only
    split_ifs
    · exact .escape (by decide) (hdigits 2 _)
    · exact .escape (by decide) (hdigits 4 _)
    · exact .escape (by decide) (hdigits 8 _)

/-- An integer is written as a sign and its digits. -/
theorem isNumber_toString (n : Int) : Terminal.IsNumber (toString n).toList := by
  rw [Decimal.toList_toString]
  refine ⟨if n < 0 then ['-'] else [], Nat.toDigits 10 n.natAbs, [], [], ?_, Decimal.isDigit_toDigits _, .inl rfl,
    .inl rfl, ?_, by simp⟩
  · split_ifs
    · exact .inr (.inr rfl)
    · exact .inl rfl
  · rw [List.append_nil]
    exact Terminal.IsDigits.exists_mem (Decimal.isDigit_toDigits _) (Decimal.toDigits_ne_nil _)

theorem numberValue_toString {n : Int} (h : (Nat.toDigits 10 n.natAbs).length ≤ maxDigits) :
    Literal.numberValue (toString n).toList = .ok (.integer n) := by
  have hsign : ∀ c ∈ (if n < 0 then ['-'] else []), Literal.isDoubleMark c = false ∧ c.isDigit = false := by
    split_ifs
    · exact List.forall_mem_singleton.2 (by decide)
    · exact fun c hc => absurd hc List.not_mem_nil
  have hdigits := Decimal.isDigit_toDigits n.natAbs
  have hmarks : (toString n).toList.any Literal.isDoubleMark = false := by
    rw [Decimal.toList_toString, List.any_eq_false]
    intro c hc
    rw [Bool.not_eq_true]
    rcases List.mem_append.1 hc with hc | hc
    · exact (hsign c hc).1
    · simp [Literal.isDoubleMark, Terminal.ne_of_isDigit (hdigits c hc) (d := '.') (by decide),
        Terminal.ne_of_isDigit (hdigits c hc) (d := 'e') (by decide),
        Terminal.ne_of_isDigit (hdigits c hc) (d := 'E') (by decide)]
  have hlength : ((toString n).toList.filter Char.isDigit).length ≤ maxDigits := by
    have hnone : (if n < 0 then ['-'] else []).filter Char.isDigit = [] :=
      List.filter_eq_nil_iff.2 fun c hc => by rw [(hsign c hc).2]; exact Bool.false_ne_true
    rwa [Decimal.toList_toString, List.filter_append, hnone, List.filter_eq_self.2 hdigits]
  rw [Literal.numberValue, hmarks, if_neg Bool.false_ne_true, if_neg (Nat.not_lt.2 hlength), Decimal.int?_toString]
  rfl

/-- The value of a literal whose texts are made of characters. -/
def Literal.value (l : Literal) : Except LiteralFault Value := l.evaluate >>= LiteralValue.narrow

theorem printed_value {v : Value} (h : v.Writable) :
    Printed (fun l : Literal => [l.token]) Literal.value Apart v v.written := by
  cases v with
  | text s =>
    have hbody : Terminal.QuotedBody (s.toList.flatMap (Text.quotedChar '"')) := by
      induction s.toList with
      | nil => exact .nil
      | cons c s ih => exact quotedBody_quotedChar c ih
    refine ⟨.quoted (s.toList.flatMap (Text.quotedChar '"')), ?_, fun us r _ hs =>
      hs.cons (Terminal.takenBefore_quoted hbody r)⟩
    refine bind_eq_ok_iff.2 ⟨.text (s.toList.map Text.codePoint), ?_, ?_⟩
    · rw [Literal.evaluate, Text.decodeEscapes_flatMap_quotedChar]
    · rw [LiteralValue.narrow, Text.characters?_map_codePoint]
      exact congrArg (fun t => Except.ok (Value.text t)) String.ofList_toList
  | integer n =>
    exact ⟨.number (toString n).toList, bind_eq_ok_iff.2 ⟨.integer n, numberValue_toString h, rfl⟩, fun us r he hs =>
      hs.cons (Terminal.takenBefore_number (isNumber_toString n) fun c hc => (he c hc).2)⟩
  | double d => exact h.elim
  | boolean b => exact h.elim
  | null => exact h.elim

theorem printed_argument {x : Argument Value} (h : x.Writable) :
    Printed Argument.tokens (fun y => do return ⟨y.name, ← y.value.value⟩) Apart x x.written := by
  obtain ⟨l, hl, hprint⟩ := printed_value h.value
  refine ⟨⟨x.name, l⟩, ?_, fun us s he hs => ?_⟩
  · simp only [hl]
    rfl
  · obtain ⟨n, v⟩ := x
    cases n with
    | none => exact hprint us s he hs
    | some n =>
      rw [Argument.written, List.append_assoc]
      exact .name (h.name n rfl) (fun c hc => by cases hc; decide) (.mark (by decide) (hprint us s he hs))

theorem printed_directive {d : Directive Value} (h : d.Writable) :
    Printed DirectiveTree.tokens (fun t => t.directive.mapM Literal.value) (fun _ => True) d d.written := by
  obtain ⟨xs, hxs, hprint⟩ := printed_listed fun x hx => printed_argument (h.arguments x hx)
  refine ⟨⟨d.name, some xs⟩, ?_, fun us s _ hs => ?_⟩
  · simp only [DirectiveTree.directive, Directive.mapM, Option.getD_some, hxs]
    rfl
  · simp only [DirectiveTree.tokens, DirectiveTree.argumentTokens, Directive.written, List.cons_append,
      List.append_assoc, List.nil_append]
    refine .mark (by decide) (.name h.name (fun c hc => by cases hc; decide) (.mark (by decide) ?_))
    exact hprint _ _ (apart_cons (by decide) (by decide) s) (.mark (by decide) hs)

theorem printed_directives {ds : List (Directive Value)} (h : ∀ d ∈ ds, d.Writable) :
    Printed (List.flatMap DirectiveTree.tokens) (fun ts => (ts.map (·.directive)).mapM (·.mapM Literal.value))
      (fun _ => True) ds (writtenDirectives ds) := by
  refine (printed_flatMap (fun _ _ => trivial) fun d hd => ?_).map
  obtain ⟨t, ht, hprint⟩ := printed_directive (h d hd)
  exact ⟨t, ht, fun us s _ hs => .space rfl (hprint us s trivial hs)⟩

/-! ## Comments -/

theorem strip_space (s : List Char) : Text.strip (' ' :: s) = Text.strip s := rfl

/-- The lines of a comment are those that its text is split into. -/
theorem strip_of_writableComment {c : String} (h : WritableComment (some c)) :
    ∀ line ∈ Text.splitAt '\n' c.toList, '\n' ∉ line ∧ Text.strip line = line := by
  obtain ⟨lines, rfl, hlines⟩ := h c rfl
  rw [Text.splitAt_eq_splitOn, Text.joinLines, String.toList_intercalate]
  by_cases hnil : lines = []
  · subst hnil
    decide
  · have hsplit : (("\n".toList).intercalate (lines.map String.toList)).splitOn '\n' = lines.map String.toList := by
      refine List.splitOn_intercalate '\n' (fun l hl => ?_) (by simpa using hnil)
      obtain ⟨line, hline, rfl⟩ := List.mem_map.1 hl
      exact (hlines line hline).1
    rw [hsplit]
    exact List.forall_mem_map.2 hlines

theorem printed_comment {comment : Option String} (h : WritableComment comment) (margin : Nat) :
    Printed DocTree.tokens (fun d => .ok d.comment) (fun _ => True) comment (writtenComment margin comment) := by
  cases comment with
  | none => exact ⟨[], rfl, fun us s _ hs => hs⟩
  | some c =>
    -- the blank behind the number signs belongs to the line and is stripped again
    have hlines := strip_of_writableComment h
    have hline : ∀ line ∈ Text.splitAt '\n' c.toList, Printed (fun body => [.doc body])
        (fun body => .ok (Text.strip body)) (fun _ => True) line
        (List.replicate margin ' ' ++ ("## ".toList ++ (line ++ ['\n']))) := by
      intro line hline
      obtain ⟨hbody, hstrip⟩ := hlines line hline
      refine ⟨' ' :: line, congrArg Except.ok ((strip_space line).trans hstrip), fun us s _ hs => ?_⟩
      have hdoc : (Token.doc (' ' :: line)).TakenBefore ('\n' :: s) :=
        Terminal.takenBefore_doc (by simp [hbody]) fun c hc => by cases hc; rfl
      have hspells := ((Spells.space (by decide) hs).cons hdoc).margin margin
      simpa [Token.doc] using hspells
    obtain ⟨bodies, hbodies, hprint⟩ := printed_flatMap (fun _ _ => trivial) hline
    refine ⟨bodies, congrArg Except.ok ?_, hprint⟩
    have hmap : bodies.map Text.strip = Text.splitAt '\n' c.toList := Except.ok.inj (List.mapM_pure.symm.trans hbodies)
    have hne : ¬ bodies.isEmpty = true := by
      rw [List.isEmpty_iff]
      rintro rfl
      exact List.splitOn_ne_nil '\n' c.toList (Text.splitAt_eq_splitOn '\n' c.toList ▸ hmap.symm)
    have hcomp : (bodies.map fun body => String.ofList (Text.strip body)) =
        (Text.splitAt '\n' c.toList).map String.ofList := by
      rw [← hmap, List.map_map]
      rfl
    rw [DocTree.comment, if_neg hne, hcomp, Text.joinLines, Text.intercalate_splitAt "\n" '\n' rfl]

/-! ## Types -/

theorem TypeExpr.texts_eq (ts : List TypeExpr) : texts ts = ts.map text := by
  induction ts with
  | nil => rfl
  | cons t ts ih => rw [texts, ih, List.map_cons]

theorem TypeExpr.toList_text_wire (n : String) :
    (TypeExpr.mk n [] true).text.toList = "wire".toList ++ '.' :: n.toList := by
  simp [TypeExpr.text]

theorem TypeExpr.toList_text_native (n : String) (as : List TypeExpr) :
    (TypeExpr.mk n as false).text.toList =
      n.toList ++ if as.isEmpty then [] else '[' :: (listed (as.map (·.text.toList)) ++ [']']) := by
  cases as with
  | nil => simp [TypeExpr.text]
  | cons t as => simp [TypeExpr.text, TypeExpr.texts_eq, listed, Function.comp_def]

/-- A point and a name, over and over. -/
theorem spells_path {path : List (List Char)} (hpath : ∀ part ∈ path, Text.isIdentifier part = true) {us : List Token}
    {s : List Char} (he : Apart s) (hs : Spells us s) :
    Spells (TypeTree.pathTokens (path.map String.ofList) ++ us) (path.flatMap ('.' :: ·) ++ s) := by
  induction path with
  | nil => exact hs
  | cons part path ih =>
    rw [List.forall_mem_cons] at hpath
    have hmore := ih hpath.2
    have hname : ∀ c, (path.flatMap ('.' :: ·) ++ s).head? = some c → Text.isNameChar c = false := by
      intro c hc
      cases path with
      | nil => exact (he c hc).1
      | cons other path => cases hc; decide
    have hspells := Spells.name (n := String.ofList part) (by simpa using hpath.1) hname hmore
    simp only [String.toList_ofList] at hspells
    have hmark := hspells.mark (c := '.') (by decide)
    simpa [TypeTree.pathTokens] using hmark

theorem printed_type {t : TypeExpr} (h : t.Writable) :
    Printed TypeTree.tokens (fun u => .ok u.type) Apart t t.text.toList := by
  induction h with
  | @wire n hn =>
    have hpath : ∀ part ∈ Text.splitAt '.' n.toList, Text.isIdentifier part = true := List.all_eq_true.1 hn
    have htext := Text.intercalate_splitAt "." '.' rfl n
    have hparts := @List.intercalate_splitOn Char n.toList _ _ '.'
    rw [Text.splitAt_eq_splitOn] at hpath htext
    obtain ⟨first, more, hsplit⟩ := List.exists_cons_of_ne_nil (List.splitOn_ne_nil '.' n.toList)
    rw [hsplit] at hpath htext hparts
    refine ⟨.wire (String.ofList first) (more.map String.ofList), ?_, fun us s he hs => ?_⟩
    · exact congrArg (fun m => Except.ok (TypeExpr.mk m [] true)) htext
    · have hspells := (spells_path hpath he hs).word (w := "wire") (by decide)
      have hpoint : '.' :: n.toList = (first :: more).flatMap ('.' :: ·) := by
        rw [← hparts, Text.intercalate_cons]
        rfl
      rw [TypeExpr.toList_text_wire, hpoint, TypeTree.tokens, ← List.map_cons, List.append_assoc, List.cons_append]
      exact hspells
  | @native n as hn _ ih =>
    obtain ⟨ts, hts, hprint⟩ := printed_listed ih
    have hargs : ts.map TypeTree.type = as := Except.ok.inj (List.mapM_pure.symm.trans hts)
    subst hargs
    cases ts with
    | nil =>
      refine ⟨.simple n, rfl, fun us s he hs => ?_⟩
      have hspells := hs.name hn fun c hc => (he c hc).1
      simpa [TypeExpr.toList_text_native, TypeTree.tokens] using hspells
    | cons first more =>
      refine ⟨.generic n first more, congrArg Except.ok ?_, fun us s _ hs => ?_⟩
      · rw [TypeTree.type, TypeTree.types_eq, List.map_cons]
      have hclose := hprint _ _ (apart_cons (c := ']') (by decide) (by decide) s) (hs.mark (by decide))
      have hopen := (hclose.mark (c := '[') (by decide)).name hn fun c hc => by cases hc; decide
      rw [TypeExpr.toList_text_native, TypeTree.tokens, TypeTree.moreTokens_eq]
      simpa [separated] using hopen

/-! ## Entries of blocks -/

/-- Directives at the end of a line keep what stands before them apart. -/
theorem apart_writtenDirectives (ds : List (Directive Value)) (s : List Char) :
    Apart (writtenDirectives ds ++ '\n' :: s) := by
  cases ds with
  | nil => exact apart_cons (by decide) (by decide) s
  | cons d ds => exact apart_cons (by decide) (by decide) _

theorem printed_variant {v : VariantDecl Value} (h : v.Writable) :
    Printed VariantTree.tokens (fun t => t.variant.mapM Literal.value) (fun _ => True) v v.written := by
  obtain ⟨d, hd, hdoc⟩ := printed_comment h.comment 4
  obtain ⟨ds, hds, hdirectives⟩ := printed_directives h.directives
  refine ⟨⟨d, v.name, ds⟩, ?_, fun us s _ hs => ?_⟩
  · simp only [VariantTree.variant, VariantDecl.mapM, hds, Except.ok.inj hd]
    rfl
  · have hline := (hdirectives _ _ trivial (hs.space (c := '\n') rfl)).name h.name
      fun c hc => (apart_writtenDirectives v.directives s c hc).1
    simpa [VariantTree.tokens, VariantDecl.written, writtenEntry] using hdoc _ _ trivial (hline.margin 4)

theorem printed_field {f : FieldDecl Value} (h : f.Writable) :
    Printed FieldTree.tokens (fun t => t.field.mapM Literal.value) (fun _ => True) f f.written := by
  obtain ⟨d, hd, hdoc⟩ := printed_comment h.comment 4
  obtain ⟨t, ht, htype⟩ := printed_type h.type
  obtain ⟨ds, hds, hdirectives⟩ := printed_directives h.directives
  refine ⟨⟨d, f.name, t, ds⟩, ?_, fun us s _ hs => ?_⟩
  · simp only [FieldTree.field, FieldDecl.mapM, hds, Except.ok.inj hd, Except.ok.inj ht]
    rfl
  · have hend := hdirectives _ _ trivial (hs.space (c := '\n') rfl)
    have hcolon := ((htype _ _ (apart_writtenDirectives _ s) hend).space (c := ' ') rfl).mark (c := ':') (by decide)
    have hline := (hcolon.space (c := ' ') rfl).name h.name fun c hc => by cases hc; decide
    simpa [FieldTree.tokens, FieldDecl.written, writtenEntry] using hdoc _ _ trivial (hline.margin 4)

theorem printed_option {o : OptionDecl Value} (h : o.Writable) :
    Printed OptionTree.tokens (fun t => t.option.mapM Literal.value) (fun _ => True) o o.written := by
  obtain ⟨d, hd, hdoc⟩ := printed_comment h.comment 4
  obtain ⟨l, hl, hvalue⟩ := printed_value h.value
  refine ⟨⟨d, o.name, l⟩, ?_, fun us s _ hs => ?_⟩
  · simp only [OptionTree.option, OptionDecl.mapM, hl, Except.ok.inj hd]
    rfl
  · have hend := hvalue _ _ (apart_cons (c := '\n') (by decide) (by decide) s) (hs.space rfl)
    have hequals := ((hend.space (c := ' ') rfl).mark (c := '=') (by decide)).space (c := ' ') rfl
    have hline := hequals.name h.name fun c hc => by cases hc; decide
    simpa [OptionTree.tokens, OptionDecl.written, writtenEntry] using hdoc _ _ trivial (hline.margin 4)

theorem printed_block {T A : Type} {tokens : T → List Token} {value : T → Except LiteralFault A}
    {written : A → List Char} {as : List A} (h : ∀ a ∈ as, Printed tokens value (fun _ => True) a (written a)) :
    Printed (blockTokens tokens) (List.mapM value) (fun _ => True) as (writtenBlock written as) := by
  obtain ⟨ts, hts, hprint⟩ := printed_flatMap (fun _ _ => trivial) h
  refine ⟨ts, hts, fun us s _ hs => ?_⟩
  have hclose := hprint _ _ trivial ((hs.space (c := '\n') rfl).mark (c := '\x7d') (by decide))
  simpa [blockTokens, writtenBlock] using (hclose.space (c := '\n') rfl).mark (c := '\x7b') (by decide)

/-! ## Items -/

/-- A comment and directives, each of them on a line, before the body `b` of a declaration. -/
theorem printed_declaration {comment : Option String} {directives : List (Directive Value)} {b : BodyTree}
    {i : Item Value} {x : List Char} (hcomment : WritableComment comment) (hdirectives : ∀ d ∈ directives, d.Writable)
    (hvalue : ∀ ds, ds.mapM (·.mapM Literal.value) = Except.ok directives →
      (b.item comment ds).mapM Literal.value = Except.ok i)
    (hbody : ∀ us s, Spells us s → Spells (b.tokens ++ us) (x ++ s)) :
    Printed ItemTree.tokens (fun t => t.item.mapM Literal.value) (fun _ => True) i
      (writtenHead comment directives ++ x) := by
  obtain ⟨d, hd, hdoc⟩ := printed_comment hcomment 0
  have hlines : Printed (List.flatMap DirectiveTree.tokens)
      (fun ts => (ts.map (·.directive)).mapM (·.mapM Literal.value)) (fun _ => True) directives
      (directives.flatMap fun d => d.written ++ ['\n']) := by
    refine (printed_flatMap (fun _ _ => trivial) fun e he => ?_).map
    obtain ⟨t, ht, hprint⟩ := printed_directive (hdirectives e he)
    refine ⟨t, ht, fun us s _ hs => ?_⟩
    rw [List.append_assoc]
    exact hprint us _ trivial (hs.space rfl)
  obtain ⟨ds, hds, hlines⟩ := hlines
  refine ⟨.declaration d ds b, ?_, fun us s _ hs => ?_⟩
  · simp only [ItemTree.item, Except.ok.inj hd]
    exact hvalue _ hds
  · have hhead := hdoc _ _ trivial (hlines _ _ trivial (hbody us s hs))
    simpa [ItemTree.tokens, writtenHead] using hhead

theorem Spells.afterWord {w : String} (hw : w ∈ Terminal.words) {ts : List Token} {x s : List Char}
    (h : Spells ts (x ++ s)) : Spells (.word w :: ts) (afterWord w x ++ s) := by
  rw [WireBridge.afterWord, List.append_assoc]
  exact (h.space rfl).word hw

theorem Spells.nameBefore {n : String} {c : Char} (hn : Text.isIdentifier n.toList = true)
    (hc : Text.isNameChar c = false) {ts : List Token} {x s : List Char} (h : Spells ts (c :: (x ++ s))) :
    Spells (.name n :: ts) ((n.toList ++ c :: x) ++ s) := by
  rw [List.append_assoc]
  refine h.name hn ?_
  rintro d ⟨⟩
  exact hc

theorem printed_enum {e : EnumDecl Value} (h : e.Writable) :
    Printed ItemTree.tokens (fun t => t.item.mapM Literal.value) (fun _ => True) (.enum e) e.written := by
  obtain ⟨vs, hvs, hblock⟩ := printed_block fun v hv => printed_variant (h.variants v hv)
  refine printed_declaration (b := .enum e.name vs) h.comment h.directives (fun ds hds => ?_) fun us s hs => ?_
  · have hvariants : (vs.map (·.variant)).mapM (·.mapM Literal.value) = Except.ok e.variants := List.mapM_map.trans hvs
    simp only [BodyTree.item, Item.mapM, EnumDecl.mapM, hds, hvariants]
    rfl
  · have hname := ((hblock us s trivial hs).space (c := ' ') rfl).nameBefore h.name (by decide)
    exact hname.afterWord (by decide)

theorem printed_record {r : RecordDecl Value} (h : r.Writable) :
    Printed ItemTree.tokens (fun t => t.item.mapM Literal.value) (fun _ => True) (.record r) r.written := by
  by_cases hn : r.newtype = true
  · obtain ⟨t, ht⟩ := h.newtype hn
    obtain ⟨u, hu, htype⟩ := printed_type (h.fields _ (by rw [ht]; exact List.mem_singleton_self _)).type
    refine printed_declaration (b := .newtype r.name u) h.comment h.directives (fun ds hds => ?_) fun us s hs => ?_
    · have hfield : [FieldDecl.mk "value" u.type none []].mapM (·.mapM Literal.value) = Except.ok r.fields := by
        rw [ht, Except.ok.inj hu]
        rfl
      simp only [BodyTree.item, Item.mapM, RecordDecl.mapM, hds, hfield, ← hn]
      rfl
    · have hclose := htype _ _ (apart_cons (c := ' ') (by decide) (by decide) _)
        (((hs.space (c := '\n') rfl).mark (c := ')') (by decide)).space rfl)
      have hopen := ((hclose.space (c := ' ') rfl).mark (c := '(') (by decide)).space (c := ' ') rfl
      have hbody : Spells (.mark '(' :: (u.tokens ++ [.mark ')']) ++ us)
          (' ' :: (('(' :: ' ' :: (t.text.toList ++ [' ', ')', '\n'])) ++ s)) := by simpa using hopen
      have hname := hbody.nameBefore h.name (by decide)
      rw [if_pos hn, ht, List.flatMap_singleton]
      exact hname.afterWord (by decide)
  · obtain ⟨fs, hfs, hblock⟩ := printed_block fun f hf => printed_field (h.fields f hf)
    refine printed_declaration (b := .struct r.name fs) h.comment h.directives (fun ds hds => ?_) fun us s hs => ?_
    · have hfields : (fs.map (·.field)).mapM (·.mapM Literal.value) = Except.ok r.fields := List.mapM_map.trans hfs
      simp only [BodyTree.item, Item.mapM, RecordDecl.mapM, hds, hfields, ← Bool.eq_false_iff.2 hn]
      rfl
    · have hname := ((hblock us s trivial hs).space (c := ' ') rfl).nameBefore h.name (by decide)
      rw [if_neg hn]
      exact hname.afterWord (by decide)

theorem printed_item {d : Definitions Value} (h : d.Writable) {i : Item Value} (hi : i ∈ d.items) :
    Printed ItemTree.tokens (fun t => t.item.mapM Literal.value) (fun _ => True) i i.written := by
  simp only [Definitions.items, List.mem_cons, List.mem_append, List.mem_map] at hi
  rcases hi with rfl | ⟨e, he, rfl⟩ | ⟨r, hr, rfl⟩
  · obtain ⟨os, hos, hblock⟩ := printed_block fun o ho => printed_option (h.options o ho)
    refine ⟨.options os, ?_, fun us s _ hs => ?_⟩
    · have hoptions : (os.map (·.option)).mapM (·.mapM Literal.value) = Except.ok d.options := List.mapM_map.trans hos
      simp only [ItemTree.item, Item.mapM, hoptions]
      rfl
    · exact (hblock us s trivial hs).afterWord (by decide)
  · exact printed_enum (h.enums e he)
  · exact printed_record (h.records r hr)

/-! ## Definitions -/

namespace Definitions

theorem ofItems_items (d : Definitions Value) : ofItems d.items = d := by
  obtain ⟨es, rs, os⟩ := d
  simp [ofItems, items, List.filterMap_append, List.filterMap_map]

/-- Definitions that can be written and are valid are read back from what is written. -/
theorem ofText_written {d : Definitions Value} (h : d.Writable) (hvalid : d.validate = .ok ()) :
    ofText d.written = .ok d := by
  obtain ⟨trees, htrees, hprint⟩ := printed_flatMap (fun _ _ => trivial) fun i hi => printed_item h hi
  have hend : Spells [] [] := ⟨[], reads_nil.2 rfl, [], [], .nil, .inl rfl, rfl⟩
  have hspells := hprint [] [] trivial hend
  rw [List.append_nil, List.append_nil] at hspells
  obtain ⟨e, rfl⟩ := hspells.derivation
  have hitems : e.items.mapM (Item.mapM Literal.value) = Except.ok d.items := List.mapM_map.trans htrees
  obtain ⟨js, hjs, hnarrow⟩ := (Item.splits_mapM (splits_bind _ _)).mapM _ _ hitems
  refine ofText_eq_ok_iff.2 ⟨ofItems js, ?_, ofItems_items d ▸ mapM_ofItems hnarrow, hvalid⟩
  rw [written, String.toList_ofList]
  refine ⟨e, ?_⟩
  rw [Derivation.definitions?, hjs]
  rfl

end Definitions

/-- A text with a quotation mark, a negative number, a comment of two lines, types in types. -/
def Definitions.paints : Definitions Value where
  enums := [⟨"Shade", [⟨"Red", none, [⟨"alias", [⟨none, .text "a\"b\n"⟩, ⟨some "rank", .integer (-3)⟩]⟩]⟩],
    some "Shades\nof paint", []⟩]
  records :=
    [⟨"Paints", [⟨"all", .mk "dict" [.named "str", .mk "list" [.mk "paint.Paint" [] true] false] false, none, []⟩],
      none, [], false⟩, ⟨"Name", [⟨"value", .named "str", none, []⟩], none, [], true⟩]
  options := [⟨"wireModule", .text "paint_pb", none⟩]

theorem Definitions.ofText_written_paints :
    paints.Writable ∧ paints.validate = .ok () ∧ ofText paints.written = .ok paints := by
  have hnone : WritableComment none := fun c hc => by cases hc
  have hcomment : WritableComment (some "Shades\nof paint") := by
    rintro c ⟨⟩
    exact ⟨["Shades", "of paint"], by decide, by decide⟩
  have harguments : ∀ x ∈ [Argument.mk none (Value.text "a\"b\n"), ⟨some "rank", .integer (-3)⟩], x.Writable := by
    refine List.forall_mem_cons.2 ⟨⟨by rintro n ⟨⟩, trivial⟩, List.forall_mem_singleton.2 ⟨?_, ?_⟩⟩
    · rintro n ⟨⟩
      decide
    · show (Nat.toDigits 10 3).length ≤ maxDigits
      decide
  have hstr : (TypeExpr.named "str").Writable := .native (by decide) fun _ ht => absurd ht List.not_mem_nil
  have hpaint : (TypeExpr.mk "list" [.mk "paint.Paint" [] true] false).Writable :=
    .native (by decide) (List.forall_mem_singleton.2 (.wire (by decide)))
  have hdict : (TypeExpr.mk "dict" [.named "str", .mk "list" [.mk "paint.Paint" [] true] false] false).Writable :=
    .native (by decide) (List.forall_mem_cons.2 ⟨hstr, List.forall_mem_singleton.2 hpaint⟩)
  have hempty : ∀ d ∈ ([] : List (Directive Value)), d.Writable := fun d hd => absurd hd List.not_mem_nil
  have hvariants : ∀ v ∈ [VariantDecl.mk "Red" none
      [⟨"alias", [⟨none, Value.text "a\"b\n"⟩, ⟨some "rank", .integer (-3)⟩]⟩]], v.Writable :=
    List.forall_mem_singleton.2 ⟨by decide, hnone, List.forall_mem_singleton.2 ⟨by decide, harguments⟩⟩
  have hfield : ∀ {n : String} {t : TypeExpr}, Text.isIdentifier n.toList = true → t.Writable →
      ∀ f ∈ [FieldDecl.mk (V := Value) n t none []], f.Writable :=
    fun hn ht => List.forall_mem_singleton.2 ⟨hn, ht, hnone, hempty⟩
  have h : paints.Writable :=
    { enums := List.forall_mem_singleton.2 ⟨by decide, hvariants, hcomment, hempty⟩
      records := List.forall_mem_cons.2
        ⟨⟨by decide, hfield (by decide) hdict, hnone, hempty, fun hn => absurd hn Bool.false_ne_true⟩,
          List.forall_mem_singleton.2 ⟨by decide, hfield (by decide) hstr, hnone, hempty, fun _ => ⟨_, rfl⟩⟩⟩
      options := List.forall_mem_singleton.2 ⟨by decide, trivial, hnone⟩ }
  exact ⟨h, rfl, ofText_written h rfl⟩

end WireBridge
