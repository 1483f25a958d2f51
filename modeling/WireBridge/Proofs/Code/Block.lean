import WireBridge.Conversion.Fields

/-!
# Lines of blocks

`Block.lines_guarded` : the lines of a conversion behind an absence test. Whether the conversion stands in the other
branch depends on the text of the line before it: a line that raises leaves its branch (`leavesBranch_raise`), and so,
by the look of it, does a default for a field whose name begins with the same letters (`leavesBranch_fill`).

`Block.raised?` is the error that a block raises. Of the lines of a block that binds a local variable, no other raises,
unless the name of the variable itself reads like one that does (`Block.BindsOnly.exists_raised`).
-/

set_option autoImplicit false

namespace WireBridge

theorem indent_one_singleton {line : String} (h : line ≠ "") : indent 1 [line] = ["    " ++ line] := by
  have hspaces : Text.spaces 4 = "    " := by decide
  simp [indent, Text.padLine, h, hspaces]

theorem assignment_ne_empty (name value : String) : assignment name value ≠ "" := by
  intro h
  simpa [assignment] using congrArg String.toList h

theorem MissingAction.line_ne_empty (m : MissingAction) : m.line ≠ "" := by
  cases m with
  | fill name value => exact assignment_ne_empty _ _
  | raise error =>
    intro h
    simpa [line] using congrArg String.toList h

theorem Block.lines_guarded (test : AbsenceTest) (missing : MissingAction) (name : String) (present : Expr) :
    (guarded test missing name present).lines = ("if " ++ test.text ++ ":") :: ("    " ++ missing.line) ::
      if leavesBranch missing.line then [assignment name present.text]
      else ["else:", "    " ++ assignment name present.text] := by
  simp only [lines, indent_one_singleton missing.line_ne_empty, indent_one_singleton (assignment_ne_empty _ _)]
  split <;> rfl

theorem assignment_inj {name value value' : String} :
    assignment name value = assignment name value' ↔ value = value' := by
  simp [assignment, ← String.toList_inj]

theorem Block.lines_bind_inj {name : String} {e e' : Expr} :
    (bind name e).lines = (bind name e').lines ↔ e.text = e'.text := by
  simp only [lines, List.cons.injEq, and_true, assignment_inj]

/-- Blocks with the same answer to an absence differ by their tests and by what they do with a present value. -/
theorem Block.lines_guarded_inj {test test' : AbsenceTest} {missing : MissingAction} {name : String}
    {present present' : Expr} :
    (guarded test missing name present).lines = (guarded test' missing name present').lines ↔
      test.text = test'.text ∧ present.text = present'.text := by
  have hmargin (s t : String) : "    " ++ s = "    " ++ t ↔ s = t := by simp [← String.toList_inj]
  have htest : "if " ++ test.text ++ ":" = "if " ++ test'.text ++ ":" ↔ test.text = test'.text := by
    simp [← String.toList_inj]
  rw [lines_guarded, lines_guarded, List.cons.injEq, List.cons.injEq, htest]
  split <;> simp only [List.cons.injEq, and_true, true_and, assignment_inj, hmargin]

/-- A binding is one line, and a test for absence is more. -/
theorem Block.lines_bind_ne_lines_guarded {test : AbsenceTest} {missing : MissingAction} {name name' : String}
    {e present : Expr} : (bind name e).lines ≠ (guarded test missing name' present).lines := by
  rw [lines_guarded]
  simp [lines]

/-- The text begins like a line that raises. -/
def beginsLikeRaise (s : String) : Bool := "raise".toList.isPrefixOf s.toList

theorem leavesBranch_raise (e : RaisedError) : leavesBranch (MissingAction.raise e).line = true := by
  simp [leavesBranch, MissingAction.line]

/-- A prefix of a text without some character does not reach that character. -/
theorem prefix_of_prefix_append_cons {α : Type} {w n rest : List α} {c : α} (hc : c ∉ w)
    (h : w <+: n ++ c :: rest) : w <+: n := by
  rcases List.prefix_or_prefix_of_prefix h (List.prefix_append n (c :: rest)) with hw | ⟨u, rfl⟩
  · exact hw
  · cases u with
    | nil => simp
    | cons x u =>
      obtain ⟨rfl, -⟩ := List.cons_prefix_cons.1 ((List.prefix_append_right_inj n).1 h)
      simp at hc

/-- The underscore after the name of a field ends what the line has in common with one that raises. -/
theorem leavesBranch_fill (name : String) (v : DefaultValue) :
    leavesBranch (MissingAction.fill (localName name) v).line = beginsLikeRaise name := by
  have hline : (MissingAction.fill (localName name) v).line.toList =
      name.toList ++ '_' :: (" = ".toList ++ v.text.toList) := by
    simp [MissingAction.line, assignment, localName]
  rw [leavesBranch, beginsLikeRaise, hline, Bool.eq_iff_iff, List.isPrefixOf_iff_prefix, List.isPrefixOf_iff_prefix]
  exact ⟨prefix_of_prefix_append_cons (by decide), fun h => h.trans (List.prefix_append _ _)⟩

/-! ## Raised errors -/

/-- The error that a block raises, if it raises one. -/
def Block.raised? : Block → Option RaisedError
  | guarded _ (.raise e) _ _ => some e
  | _ => none

theorem Block.raised?_eq_some_iff {b : Block} {e : RaisedError} :
    b.raised? = some e ↔ ∃ test name present, b = .guarded test (.raise e) name present := by
  constructor
  · intro h
    unfold raised? at h
    split at h
    · cases h
      exact ⟨_, _, _, rfl⟩
    · cases h
  · rintro ⟨test, name, present, rfl⟩
    rfl

/-- Behind its margin, the line begins with the word that raises. -/
def isRaiseLine (line : String) : Bool := "raise ".toList.isPrefixOf (line.toList.dropWhile (· = ' '))

theorem isRaiseLine_margin (line : String) : isRaiseLine ("    " ++ line) = isRaiseLine line := by
  simp [isRaiseLine]

theorem isRaiseLine_if (test : String) : isRaiseLine ("if " ++ test) = false := by
  simp [isRaiseLine, List.isPrefixOf]

/-- A name without spaces does not read like a line that raises. -/
theorem isRaiseLine_eq_false {name : String} (h : ' ' ∉ name.toList) : isRaiseLine name = false := by
  rw [Bool.eq_false_iff]
  intro hraise
  rw [isRaiseLine, List.isPrefixOf_iff_prefix] at hraise
  exact h ((List.dropWhile_suffix _).subset (hraise.subset (by decide)))

theorem name_of_isRaiseLine_assignment {name value : String}
    (h : isRaiseLine (assignment (localName name) value) = true) : isRaiseLine name = true := by
  have hline : (assignment (localName name) value).toList = name.toList ++ '_' :: (" = ".toList ++ value.toList) := by
    simp [assignment, localName]
  rw [isRaiseLine, hline, List.isPrefixOf_iff_prefix, List.dropWhile_append] at h
  rw [isRaiseLine, List.isPrefixOf_iff_prefix]
  split at h
  · simp at h
  · exact prefix_of_prefix_append_cons (by decide) h

/-- The statements of a block that bind a name all bind the same. -/
def Block.BindsOnly (name : String) : Block → Prop
  | value _ => False
  | bind n _ => n = name
  | fill n _ => n = name
  | guarded _ missing n _ => n = name ∧ ∀ n' v, missing = .fill n' v → n' = name

theorem Block.mem_lines_guarded {test : AbsenceTest} {missing : MissingAction} {name line : String} {present : Expr}
    (h : line ∈ (guarded test missing name present).lines) :
    line = "if " ++ (test.text ++ ":") ∨ line = "    " ++ missing.line ∨ line = "else:" ∨
      line = assignment name present.text ∨ line = "    " ++ assignment name present.text := by
  rw [lines_guarded, String.append_assoc, List.mem_cons, List.mem_cons] at h
  rcases h with h | h | h
  · exact .inl h
  · exact .inr (.inl h)
  · split at h
    · exact .inr (.inr (.inr (.inl (List.mem_singleton.1 h))))
    · rcases List.mem_cons.1 h with h | h
      · exact .inr (.inr (.inl h))
      · exact .inr (.inr (.inr (.inr (List.mem_singleton.1 h))))

/-- A line of a block that raises holds the error of the block. -/
theorem Block.BindsOnly.exists_raised {b : Block} {name line : String} (hb : b.BindsOnly (localName name))
    (hname : ' ' ∉ name.toList) (hline : line ∈ b.lines) (h : isRaiseLine line = true) :
    ∃ e, b.raised? = some e ∧ line = "    raise " ++ e.text := by
  have hassign (v : String) : isRaiseLine (assignment (localName name) v) ≠ true := fun hv =>
    Bool.eq_false_iff.1 (isRaiseLine_eq_false hname) (name_of_isRaiseLine_assignment hv)
  match b, hb with
  | .bind n e, hb =>
    obtain rfl : n = localName name := hb
    obtain rfl := List.mem_singleton.1 hline
    exact absurd h (hassign _)
  | .fill n v, hb =>
    obtain rfl : n = localName name := hb
    obtain rfl := List.mem_singleton.1 hline
    exact absurd h (hassign _)
  | .guarded test missing n present, hb =>
    obtain ⟨rfl, hfill⟩ : n = localName name ∧ _ := hb
    rcases mem_lines_guarded hline with rfl | rfl | rfl | rfl | rfl
    · rw [isRaiseLine_if] at h
      cases h
    · cases missing with
      | fill n v =>
        obtain rfl := hfill n v rfl
        exact absurd (isRaiseLine_margin _ ▸ h) (hassign _)
      | raise e => exact ⟨e, rfl, by simp [MissingAction.line, ← String.append_assoc]⟩
    · exact absurd h (by decide)
    · exact absurd h (hassign _)
    · exact absurd (isRaiseLine_margin _ ▸ h) (hassign _)

end WireBridge
