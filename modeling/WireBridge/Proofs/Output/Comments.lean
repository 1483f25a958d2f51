import Mathlib.Data.List.Infix
import WireBridge.Proofs.Definition.Printing
import WireBridge.Proofs.Output.Integrity
import WireBridge.Proofs.Text.LongLiteral

/-!
# Doc comments in a module

A module has the comment of a type as a long literal, on the line below the first line of the class. The text of the
comment stands in it as it is, but for its margin: marks and backslashes are not escaped.

* `writableComment_of_ofText` : what comments the grammar yields. Blanks are trimmed, nothing else is kept out;
* `comment_literals` : the literal of a comment ends at the marks behind the comment if and only if the comment is
  contained (`Text.Contained`);
* `not_comment_literals_contained` : not all comments are.
-/

set_option autoImplicit false

namespace WireBridge

/-! ## Comments of a text -/

namespace Text

theorem mem_of_mem_strip {s : List Char} {c : Char} (h : c ∈ strip s) : c ∈ s :=
  (List.dropWhile_suffix isBlank).subset ((List.rdropWhile_prefix isBlank _).subset h)

theorem stripStart_of_starts {s t : List Char} (h : t <+: stripStart s) : stripStart t = t := by
  cases t with
  | nil => rfl
  | cons c t =>
    obtain ⟨u, hu⟩ := h
    have hhead : (s.dropWhile isBlank).head? = some c := congrArg List.head? hu.symm
    exact stripStart_of_head (Terminal.head_dropWhile_eq_false c hhead)

theorem strip_strip (s : List Char) : strip (strip s) = strip s := by
  change (stripStart ((stripStart s).rdropWhile isBlank)).rdropWhile isBlank = (stripStart s).rdropWhile isBlank
  rw [stripStart_of_starts (List.rdropWhile_prefix isBlank _), List.rdropWhile_idempotent]

/-- A trimmed text does not end in a blank. -/
theorem isBlank_of_mem_getLast? {s : List Char} (h : strip s = s) {c : Char} (hc : c ∈ s.getLast?) :
    isBlank c = false := by
  obtain ⟨t, rfl⟩ := List.getLast?_eq_some_iff.1 hc
  have hlast : (t ++ [c]).rdropWhile isBlank = t ++ [c] := by
    rw [← h]
    exact List.rdropWhile_idempotent isBlank _
  simpa using List.rdropWhile_eq_self_iff.1 hlast

/-- A text of lines ends as one of them does, or in a line feed. -/
theorem getLast?_joinLines {lines : List String} {c : Char} (h : c ∈ (joinLines lines).toList.getLast?) :
    c = '\n' ∨ ∃ l ∈ lines, c ∈ l.toList.getLast? := by
  cases lines with
  | nil => cases h
  | cons l ls =>
    rw [toList_joinLines_cons] at h
    induction ls generalizing l with
    | nil => exact .inr ⟨l, List.mem_cons_self, by simpa using h⟩
    | cons x ls ih =>
      have hlast : c ∈ (x.toList ++ ls.flatMap fun x => '\n' :: x.toList).getLast? ∨ c = '\n' := by
        rw [List.flatMap_cons, List.cons_append, List.append_cons, List.getLast?_append, List.getLast?_concat] at h
        rcases Option.or_eq_some_iff.1 h with h | ⟨-, h⟩
        · exact .inl h
        · exact .inr (Option.some.inj h).symm
      rcases hlast with hlast | hfeed
      · exact (ih x hlast).imp_right fun hl => hl.imp fun _ h => ⟨List.mem_cons_of_mem l h.1, h.2⟩
      · exact .inl hfeed

end Text

namespace Parser

theorem yields_docLine : Yields docLine fun l => '\n' ∉ l.toList ∧ Text.strip l.toList = l.toList := by
  have htoken : Yields (token Terminal.doc?) fun body => '\n' ∉ body := by
    refine yields_token fun s body rest hread => ?_
    unfold Terminal.doc? at hread
    split at hread
    · cases hread
      exact fun hmem => absurd (List.mem_takeWhile_imp hmem) (by decide)
    · cases hread
  refine htoken.bind fun body hbody => .pure ?_
  rw [String.toList_ofList]
  exact ⟨fun hmem => hbody (Text.mem_of_mem_strip hmem), Text.strip_strip body⟩

theorem yields_comment : Yields comment WritableComment :=
  .bind (yields_docLine.many _) fun lines hlines => .pure (by
    intro c hc
    split at hc
    · cases hc
    · cases hc
      exact ⟨lines, rfl, hlines⟩)

end Parser

/-- The comment before a declared type. -/
def Item.comment? {V : Type} : Item V → Option String
  | .options _ => none
  | .enum e => e.comment
  | .record r => r.comment

theorem Item.comment?_of_mapM {ε V W : Type} {f : V → Except ε W} {i : Item V} {j : Item W} (h : i.mapM f = .ok j) :
    j.comment? = i.comment? := by
  cases i with
  | options os =>
    obtain ⟨os', -, h⟩ := bind_eq_ok_iff.1 h
    cases h
    rfl
  | enum e =>
    obtain ⟨e', he, h⟩ := bind_eq_ok_iff.1 h
    obtain ⟨as, -, he⟩ := bind_eq_ok_iff.1 he
    obtain ⟨vs, -, he⟩ := bind_eq_ok_iff.1 he
    cases h
    cases he
    rfl
  | record r =>
    obtain ⟨r', hr, h⟩ := bind_eq_ok_iff.1 h
    obtain ⟨as, -, hr⟩ := bind_eq_ok_iff.1 hr
    obtain ⟨fs, -, hr⟩ := bind_eq_ok_iff.1 hr
    cases h
    cases hr
    rfl

theorem Parser.yields_comment_item : Yields item fun i => WritableComment i.comment? := by
  refine .bind_last fun s => ?_
  split
  · exact .bind_last fun _ => .bind_last fun _ => .pure fun c hc => by cases hc
  · refine yields_comment.bind fun c hc => .bind_last fun as => .bind_last fun s => ?_
    split
    · exact .bind_last fun _ => .bind_last fun _ => .bind_last fun _ => .pure hc
    · refine .bind_last fun _ => .bind_last fun _ => .bind_last fun s => ?_
      split
      · exact .bind_last fun _ => .bind_last fun _ => .bind_last fun _ => .pure hc
      · exact .bind_last fun _ => .pure hc

theorem Definitions.writableComment_of_ofText {text : String} {d : Definitions Value} (h : ofText text = .ok d) :
    (∀ e ∈ d.enums, WritableComment e.comment) ∧ ∀ r ∈ d.records, WritableComment r.comment :=
  declared_of_ofText h (P := fun i => WritableComment i.comment?) Parser.yields_comment_item fun hij hi =>
    Item.comment?_of_mapM hij ▸ hi

theorem WritableComment.getLast?_ne {c : String} (h : WritableComment (some c)) : c.toList.getLast? ≠ some '\r' := by
  obtain ⟨lines, rfl, hlines⟩ := h c rfl
  intro hlast
  rcases Text.getLast?_joinLines (Option.mem_def.2 hlast) with hfeed | ⟨l, hl, hlast⟩
  · exact absurd hfeed (by decide)
  · exact absurd (Text.isBlank_of_mem_getLast? (hlines l hl).2 hlast) (by decide)

/-! ## Comments in a module -/

open Text

/-- In a text, the literal of a comment stands on the line below another. The literal ends at the marks behind the
comment just if the comment is contained. -/
def HasComment (text header comment : String) : Prop :=
  ∃ before after : List Char,
    text.toList = before ++ (header ++ "\n    ").toList ++ longMarks ++ (hang 4 comment).toList ++ longMarks ++ after ∧
    (Contained (hang 4 comment).toList ↔ Contained comment.toList) ∧
    (afterLiteral? ((hang 4 comment).toList ++ (longMarks ++ after)) = some after ↔ Contained comment.toList)

theorem toList_joinLines_append {lines : List String} (h : lines ≠ []) :
    (joinLines lines ++ "\n").toList = lines.flatMap fun l => l.toList ++ ['\n'] := by
  obtain ⟨l, ls, rfl⟩ := List.exists_cons_of_ne_nil h
  rw [String.toList_append, toList_joinLines_cons]
  induction ls generalizing l with
  | nil => simp
  | cons x ls ih =>
    rw [List.flatMap_cons, List.flatMap_cons, ← ih x (List.cons_ne_nil x ls)]
    simp

theorem hasComment_of_infix {lines : List String} {header c : String}
    (h : [header, "    " ++ docstring (hang 4 c)] <:+: lines) (hc : c.toList.getLast? ≠ some '\r') :
    HasComment (joinLines lines ++ "\n") header c := by
  obtain ⟨before, after, rfl⟩ := h
  refine ⟨before.flatMap fun l => l.toList ++ ['\n'], '\n' :: after.flatMap fun l => l.toList ++ ['\n'], ?_,
    contained_hang 4 hc, afterLiteral?_append_iff.trans (contained_hang 4 hc)⟩
  rw [toList_joinLines_append (by simp)]
  simp [docstring, longMarks]

theorem commentLines_eq {comment : Option String} {c : String} (hc : c ∈ comment) (hne : c ≠ "") :
    commentLines comment = ["    " ++ docstring (hang 4 c), ""] := by
  rw [Option.mem_def.1 hc, commentLines, if_neg hne]

theorem EnumPlan.infix_lines {p : EnumPlan} {c : String} (hc : c ∈ p.descriptor.comment) (hne : c ≠ "") :
    ["class " ++ p.name ++ "(Enum):", "    " ++ docstring (hang 4 c)] <:+: enumLines p := by
  rw [enumLines, enumClassLines, commentLines_eq hc hne]
  exact ⟨spacing, _, by simp; rfl⟩

theorem infix_classLines (decorator : String) {p : RecordPlan} {c : String} (hc : c ∈ p.descriptor.comment)
    (hne : c ≠ "") :
    ["class " ++ p.name ++ ":", "    " ++ docstring (hang 4 c)] <:+: classLines decorator p := by
  rw [classLines, commentLines_eq hc hne]
  exact ⟨[decorator], "" :: p.fields.map fieldLine, rfl⟩

theorem RecordPlan.infix_lines {p : RecordPlan} {c : String} (hc : c ∈ p.descriptor.comment) (hne : c ≠ "") :
    ["class " ++ p.name ++ ":", "    " ++ docstring (hang 4 c)] <:+: recordLines p := by
  unfold recordLines
  split
  · refine (infix_classLines "@dataclass" hc hne).trans ⟨spacing, _, by unfold newtypeLines; simp; rfl⟩
  · refine (infix_classLines "@dataclass(kw_only=True)" hc hne).trans ⟨spacing, _, by simp; rfl⟩

theorem infix_flatMap {α : Type} {lines : α → List String} {p : α} {ps : List α} (h : p ∈ ps) :
    lines p <:+: ps.flatMap lines := by
  obtain ⟨before, after, rfl⟩ := List.append_of_mem h
  exact ⟨before.flatMap lines, after.flatMap lines, by simp⟩

theorem infix_moduleLines_of_enum {a : Assembly} {p : EnumPlan} (hp : p ∈ a.enums) (modules : List String) :
    enumLines p <:+: moduleLines a modules :=
  (infix_flatMap hp).trans (List.infix_append _ _ _)

theorem infix_moduleLines_of_record {a : Assembly} {p : RecordPlan} (hp : p ∈ a.records) (modules : List String) :
    recordLines p <:+: moduleLines a modules :=
  (infix_flatMap hp).trans (List.suffix_append _ _).isInfix

namespace Definitions

variable {text : String} {d : Definitions Value} {settings : Settings}

theorem getLast?_comment_enum (h : ofText text = .ok d) {p : EnumPlan} (hp : p ∈ (assemble d settings).enums)
    {c : String} (hc : c ∈ p.descriptor.comment) : c.toList.getLast? ≠ some '\r' := by
  rw [assemble_enums] at hp
  obtain ⟨e, he, hplan⟩ := mem_plans_iff.1 hp
  rw [EnumDecl.descriptor_of_plan hplan] at hc
  exact WritableComment.getLast?_ne (Option.mem_def.1 hc ▸ (writableComment_of_ofText h).1 e he)

theorem getLast?_comment_record (h : ofText text = .ok d) {p : RecordPlan} (hp : p ∈ (assemble d settings).records)
    {c : String} (hc : c ∈ p.descriptor.comment) : c.toList.getLast? ≠ some '\r' := by
  obtain ⟨r, hr, hplan, -⟩ := exists_of_mem_records hp
  obtain ⟨head, -, hdescriptor, -⟩ := RecordDecl.plan_eq_ok hplan
  rw [hdescriptor] at hc
  exact WritableComment.getLast?_ne (Option.mem_def.1 hc ▸ (writableComment_of_ofText h).2 r hr)

/-- Every comment of a type that survives is a long literal below the first line of its class. It ends at the marks
behind the comment if and only if the comment has no three marks in a row and ends in neither a mark nor a backslash,
but for characters that a backslash takes. -/
theorem comment_literals (h : ofText text = .ok d) (settings : Settings) (modules : List String) :
    (∀ p ∈ (assemble d settings).enums, ∀ c ∈ p.descriptor.comment, c ≠ "" →
      HasComment (moduleText (assemble d settings) modules) ("class " ++ p.name ++ "(Enum):") c) ∧
    ∀ p ∈ (assemble d settings).records, ∀ c ∈ p.descriptor.comment, c ≠ "" →
      HasComment (moduleText (assemble d settings) modules) ("class " ++ p.name ++ ":") c := by
  rw [moduleText_eq]
  constructor
  · intro p hp c hc hne
    exact hasComment_of_infix ((EnumPlan.infix_lines hc hne).trans (infix_moduleLines_of_enum hp modules))
      (getLast?_comment_enum h hp hc)
  · intro p hp c hc hne
    exact hasComment_of_infix ((RecordPlan.infix_lines hc hne).trans (infix_moduleLines_of_record hp modules))
      (getLast?_comment_record h hp hc)

/-- The comment of `Answer` has marks within, and the one of `Quote` a mark at its end. -/
def spokenText : String :=
  "## Says \"yes\" or \"no\".\nenum Answer \x7b YES NO \x7d\n## As in \"a quote\"\nstruct Quote \x7b size: int32 \x7d\n"

theorem comments_of_spokenText : ∃ d, ofText spokenText = .ok d ∧
    (∃ p ∈ (assemble d sampleSettings).enums, ∃ c ∈ p.descriptor.comment, c ≠ "" ∧ Contained c.toList) ∧
    ∃ p ∈ (assemble d sampleSettings).records, ∃ c ∈ p.descriptor.comment, c ≠ "" ∧ ¬ Contained c.toList := by
  decide +kernel

theorem comment_literals_spoken : ∃ d, ofText spokenText = .ok d ∧
    (∃ p ∈ (assemble d sampleSettings).enums, ∃ c ∈ p.descriptor.comment, Contained c.toList ∧
      HasComment (moduleText (assemble d sampleSettings) []) ("class " ++ p.name ++ "(Enum):") c) ∧
    ∃ p ∈ (assemble d sampleSettings).records, ∃ c ∈ p.descriptor.comment, ¬ Contained c.toList ∧
      HasComment (moduleText (assemble d sampleSettings) []) ("class " ++ p.name ++ ":") c := by
  obtain ⟨d, hd, ⟨p, hp, c, hc, hne, hcontained⟩, q, hq, c', hc', hne', hcontained'⟩ := comments_of_spokenText
  obtain ⟨henums, hrecords⟩ := comment_literals hd sampleSettings []
  exact ⟨d, hd, ⟨p, hp, c, hc, hcontained, henums p hp c hc hne⟩,
    q, hq, c', hc', hcontained', hrecords q hq c' hc' hne'⟩

/-- Not every comment is contained; behind some, no literal ends at the marks, whatever follows. -/
theorem not_comment_literals_contained :
    (¬ ∀ text d settings, ofText text = .ok d → ∀ p ∈ (assemble d settings).records, ∀ c ∈ p.descriptor.comment,
      c ≠ "" → Contained (hang 4 c).toList) ∧
    ¬ ∀ text d settings, ofText text = .ok d → ∀ p ∈ (assemble d settings).records, ∀ c ∈ p.descriptor.comment,
      c ≠ "" → ∃ after, afterLiteral? ((hang 4 c).toList ++ (longMarks ++ after)) = some after := by
  obtain ⟨d, hd, -, p, hp, c, hc, hne, hcontained⟩ := comments_of_spokenText
  rw [← contained_hang 4 (getLast?_comment_record hd hp hc)] at hcontained
  refine ⟨fun hall => hcontained (hall _ d sampleSettings hd p hp c hc hne), fun hall => ?_⟩
  obtain ⟨after, hafter⟩ := hall _ d sampleSettings hd p hp c hc hne
  exact hcontained (afterLiteral?_append_iff.1 hafter)

end Definitions

end WireBridge
