import WireBridge.Proofs.Assembly.Fields
import WireBridge.Proofs.Assembly.Plan
import WireBridge.Proofs.Conversion.Functions
import WireBridge.Proofs.Descriptor.Reading

/-!
# The other direction

A function of its own for one direction is given to a field by one more directive among those that it has. Definitions
with a gap among the directives of one field (`FieldGap`) are filled in two ways, without and with that directive; if
the record has a plan either way, then `FieldGap.other_direction` says what becomes of the other direction of the
field.

The directive changes a declared record, and the tables of the two definitions agree for all that other stages ask of
them (`FieldGap.agree`). So both plans can be read from one table, under which the two descriptors of the field differ
in its functions alone (`FieldDecl.describe_added`) and resolve an absence alike (`resolveAbsence_withFunctions`).
-/

set_option autoImplicit false

namespace WireBridge

/-! ## Descriptors -/

/-- Two fields whose directives differ in those of one name, which sets functions, have descriptors that differ in the
functions. -/
theorem FieldDecl.describe_added {s : Symbols} {helpers : Option Value} {b : Bool} {f f' : FieldDecl Value}
    {name : String} (hname : name = "from_fn" ∨ name = "to_fn") (hf : f'.name = f.name) (ht : f'.type = f.type)
    (hsame : SameApart name f'.directives f.directives) {q q' : FieldDescriptor}
    (h : f.describe s helpers b = .ok q) (h' : f'.describe s helpers b = .ok q') :
    readCustom helpers f'.directives = .ok q'.custom ∧ q' = { q with custom := q'.custom } := by
  have hother (n : String) (hfrom : n ≠ "from_fn") (hto : n ≠ "to_fn") :
      directive? f'.directives n = directive? f.directives n :=
    hsame n (by rintro rfl; exact hname.elim hfrom hto)
  simp only [FieldDecl.describe, hf, ht,
    readOptionality_congr (hother "optional" (by decide) (by decide)) (hother "required" (by decide) (by decide)),
    readDefault_congr (hother "default" (by decide) (by decide)),
    readExpectation_congr (hother "expect" (by decide) (by decide)),
    given?_congr (hother "error_fn" (by decide) (by decide)),
    isGiven_congr (hother "transparent" (by decide) (by decide)),
    isGiven_congr (hother "enum" (by decide) (by decide)), isGiven_congr (hother "ignore" (by decide) (by decide)),
    readKey_congr (hother "key" (by decide) (by decide)), readWireName_congr (hother "rename" (by decide) (by decide)),
    bind_eq_ok_iff, pure_eq_ok_iff] at h h'
  obtain ⟨_, -, _, -, o, ho, fill, hfill, ⟨panic, error⟩, he, g, hg, _, -, _, -, k, hk, w, hw, rfl⟩ := h
  obtain ⟨_, -, _, -, o', ho', fill', hfill', ⟨panic', error'⟩, he', g', hg', c, hc, _, -, k', hk', w', hw', rfl⟩ := h'
  obtain rfl := Except.ok.inj (ho.symm.trans ho')
  obtain rfl := Except.ok.inj (hfill.symm.trans hfill')
  obtain ⟨rfl, rfl⟩ := Prod.mk.inj (Except.ok.inj (he.symm.trans he'))
  obtain rfl := Except.ok.inj (hg.symm.trans hg')
  obtain rfl := Except.ok.inj (hk.symm.trans hk')
  obtain rfl := Except.ok.inj (hw.symm.trans hw')
  exact ⟨hc, rfl⟩

/-- A function for one direction does not change how an absence is resolved. -/
theorem resolveAbsence_withFunctions {f : FieldDescriptor} {r : RecordDescriptor} {c : CustomFunctions}
    (hf : f.custom = none) (hc : c.complete = false) : resolveAbsence (f.withFunctions c) r = resolveAbsence f r := by
  have hcustom : AbsenceRule.byCustom (f.withFunctions c) r = AbsenceRule.byCustom f r := by
    simp [AbsenceRule.byCustom, FieldDescriptor.withFunctions, hf, hc]
  simp only [resolveAbsence, absenceRules, firstAbsence, hcustom]
  rfl

/-! ## Gaps -/

/-- Definitions with a gap among the directives of one field. The fields of `record` are those before the field, and the
directives of `field` those before the gap. -/
structure FieldGap where
  enums : List (EnumDecl Value)
  options : List (OptionDecl Value)
  recordsBefore : List (RecordDecl Value)
  recordsAfter : List (RecordDecl Value)
  record : RecordDecl Value
  fieldsAfter : List (FieldDecl Value)
  field : FieldDecl Value
  directivesAfter : List (Directive Value)

namespace FieldGap

variable (g : FieldGap) (ds : List (Directive Value))

/-- The field with some directives in the gap. -/
def fieldWith : FieldDecl Value := { g.field with directives := g.field.directives ++ ds ++ g.directivesAfter }

def recordWith : RecordDecl Value := { g.record with fields := g.record.fields ++ g.fieldWith ds :: g.fieldsAfter }

def definitionsWith : Definitions Value where
  enums := g.enums
  records := g.recordsBefore ++ g.recordWith ds :: g.recordsAfter
  options := g.options

/-- The place of the field in its record. -/
def index : Nat := g.record.fields.length

variable {g} {d : Directive Value}

theorem directive?_fieldWith {n : String} (hn : n ≠ d.name) :
    directive? (g.fieldWith [d]).directives n = directive? (g.fieldWith []).directives n := by
  simp [fieldWith, directive?, List.find?_append, hn.symm]

theorem alike_fieldWith (hd : d.name = "from_fn" ∨ d.name = "to_fn") : (g.fieldWith []).Alike (g.fieldWith [d]) := by
  refine ⟨rfl, rfl, ?_, ?_⟩ <;> rcases hd with hd | hd <;> simp [fieldWith, FieldDecl.namesDefault, hd]

theorem alike_recordWith (hd : d.name = "from_fn" ∨ d.name = "to_fn") : (g.recordWith []).Alike (g.recordWith [d]) := by
  have hrefl (fs : List (FieldDecl Value)) : List.Forall₂ FieldDecl.Alike fs fs :=
    List.forall₂_same.2 fun f _ => FieldDecl.Alike.refl f
  exact ⟨rfl, rfl, List.rel_append (hrefl _) (.cons (alike_fieldWith hd) (hrefl _))⟩

/-- Both ways of filling the gap give the same table of declared types, for all that is asked of it. -/
theorem agree (hd : d.name = "from_fn" ∨ d.name = "to_fn") :
    (g.definitionsWith []).symbols.Agree (g.definitionsWith [d]).symbols Set.univ := by
  have hrefl (rs : List (RecordDecl Value)) : List.Forall₂ RecordDecl.Alike rs rs :=
    List.forall₂_same.2 fun r _ => RecordDecl.Alike.refl r
  exact Symbols.agree_of_alike rfl (List.rel_append (hrefl _) (.cons (alike_recordWith hd) (hrefl _)))

end FieldGap

/-! ## Plans -/

/-- The plans of a field without functions and with one, in a record that is otherwise the same. -/
theorem FieldPlan.Planned.compare {scope : Scope} {q : RecordDescriptor} {fs : List FieldDescriptor} {x x' : FieldPlan}
    {c : CustomFunctions} (h : x.Planned scope q) (h' : x'.Planned scope { q with fields := fs })
    (hx : x'.descriptor = x.descriptor.withFunctions c) (hc : c.complete = false) (hf : x.descriptor.custom = none)
    (ht : x.descriptor.transparent = false)
    (hcollection : x.descriptor.collection = x.descriptor.shape.unwrapped.collection?) :
    x'.absence = x.absence ∧
      (c.fromWire = none → (x'.artifact.fromWire.lines = x.artifact.fromWire.lines ↔
        q.newtype = true ∨ x.descriptor.ignored = true ∨ x.descriptor.KeepsReading x.absence)) ∧
      (c.toWire = none → (x'.artifact.toWire.map Expr.text = x.artifact.toWire.map Expr.text ↔
        q.newtype = true ∨ x.descriptor.ignored = true ∨ x.descriptor.KeepsWriting)) := by
  have habsence : x'.absence = x.absence := by
    obtain ⟨rule, hresolved⟩ := h.absence
    obtain ⟨rule', hresolved'⟩ := h'.absence
    have hsame : resolveAbsence x'.descriptor { q with fields := fs } = resolveAbsence x.descriptor q := by
      rw [hx, ← resolveAbsence_withFunctions hf hc]
      rfl
    rw [hsame, hresolved] at hresolved'
    exact (congrArg Ruled.outcome (Except.ok.inj hresolved')).symm
  refine ⟨habsence, ?_⟩
  cases hn : q.newtype with
  | true =>
    have hwraps := h'.wraps hn
    rw [hx] at hwraps
    have hsame : x'.artifact = x.artifact := Except.ok.inj (hwraps.symm.trans (h.wraps hn))
    simp [hsame]
  | false =>
    obtain ⟨y, hy, hfrom, hto⟩ := convertField_eq_ok (h.converts hn)
    obtain ⟨y', hy', hfrom', hto'⟩ := convertField_eq_ok (h'.converts hn)
    rw [h.strategy] at hy
    rw [h'.strategy, habsence, hx] at hy'
    rw [hfrom, hfrom', hto, hto']
    cases hi : x.descriptor.ignored with
    | true =>
      have hi' : (x.descriptor.withFunctions c).ignored = true := hi
      rw [resolveStrategy_of_ignored _ hi] at hy
      rw [resolveStrategy_of_ignored _ hi'] at hy'
      have hsame : y' = y := Except.ok.inj (hy'.symm.trans hy)
      simp [hsame]
    | false =>
      have hi' : (x.descriptor.withFunctions c).ignored = false := hi
      have hsome : (x.descriptor.withFunctions c).custom.isSome = true := rfl
      have hcustom : convertCustom scope (x.descriptor.withFunctions c) x.absence q = .ok y' := by
        rw [resolveStrategy_of_custom _ hi' hsome] at hy'
        exact hy'
      simp only [Bool.false_eq_true, false_or]
      exact ⟨fun h => reading_lines_iff hi hf ht hcollection h hy hcustom,
        fun h => writing_text_iff hi hf ht hcollection h hy hcustom⟩

namespace FieldGap

variable {g : FieldGap} {d : Directive Value}

/-- The field is planned at its place, unless it is a further field of a newtype. -/
theorem getElem?_plannedFields (ds : List (Directive Value)) : (g.recordWith ds).plannedFields[g.index]? =
    if g.record.newtype = true ∧ g.index ≠ 0 then none else some (g.fieldWith ds) := by
  have hfield : (g.recordWith ds).fields[g.index]? = some (g.fieldWith ds) := by simp [recordWith, index]
  have hnewtype : (g.recordWith ds).newtype = g.record.newtype := rfl
  rw [RecordDecl.plannedFields, hnewtype]
  cases g.record.newtype with
  | false => simpa using hfield
  | true =>
    rw [if_pos rfl, List.getElem?_take]
    by_cases hi : g.index = 0
    · rw [if_pos (by simp [hi]), hfield, if_neg (by simp [hi])]
    · rw [if_neg (by omega), if_pos ⟨rfl, hi⟩]

/-- The functions that a directive for one direction sets, where the field has none without it. -/
theorem readCustom_fieldWith {helpers : Option Value} (hf : (g.fieldWith []).hasFunctions = false)
    {c? : Option CustomFunctions} (hd : d.name = "from_fn" ∨ d.name = "to_fn")
    (h : readCustom helpers (g.fieldWith [d]).directives = .ok c?) : ∃ c, c? = some c ∧ c.complete = false ∧
      (d.name = "to_fn" → c.fromWire = none) ∧ (d.name = "from_fn" → c.toWire = none) := by
  simp only [readCustom, bind_eq_ok_iff, pure_eq_ok_iff] at h
  obtain ⟨fromWire, hfrom, toWire, hto, rfl⟩ := h
  have hgiven : isGiven (g.fieldWith [d]).directives d.name = true := by
    simp [isGiven, directive?, fieldWith]
  have hnone {n : String} (hn : n ≠ d.name) (hn' : n = "from_fn" ∨ n = "to_fn") :
      isGiven (g.fieldWith [d]).directives n = false := by
    obtain ⟨hf, ht⟩ := Bool.or_eq_false_iff.1 hf
    rw [isGiven, directive?_fieldWith hn]
    rcases hn' with rfl | rfl
    · exact hf
    · exact ht
  rcases hd with hd | hd
  · have hwriting : toWire = none := by
      rw [← Option.not_isSome_iff_eq_none, isSome_of_given? hto, hnone (by simp [hd]) (.inr rfl)]
      exact Bool.false_ne_true
    rw [hd] at hgiven
    exact ⟨⟨fromWire, toWire⟩, by simp [hgiven], by simp [CustomFunctions.complete, hwriting], by simp [hd],
      fun _ => hwriting⟩
  · have hreading : fromWire = none := by
      rw [← Option.not_isSome_iff_eq_none, isSome_of_given? hfrom, hnone (by simp [hd]) (.inl rfl)]
      exact Bool.false_ne_true
    rw [hd] at hgiven
    exact ⟨⟨fromWire, toWire⟩, by simp [hgiven], by simp [CustomFunctions.complete, hreading], fun _ => hreading,
      by simp [hd]⟩

/-- A function for one direction of a field, given to it by one more directive: its absence is resolved as before, and
the other direction stays as it is exactly if the record is a newtype, the field is ignored, or its conversion keeps the
direction. -/
theorem other_direction (g : FieldGap) (settings : Settings) (d : Directive Value)
    (hd : d.name = "from_fn" ∨ d.name = "to_fn") (hf : (g.fieldWith []).hasFunctions = false)
    (ht : isGiven (g.fieldWith []).directives "transparent" = false) {p p' : RecordPlan}
    (hp : (g.recordWith []).plan ((g.definitionsWith []).scope settings) = .ok p)
    (hp' : (g.recordWith [d]).plan ((g.definitionsWith [d]).scope settings) = .ok p') :
    (p.descriptor.newtype = false → ∃ x, p.fields[g.index]? = some x) ∧
      ∀ x, p.fields[g.index]? = some x → ∃ x', p'.fields[g.index]? = some x' ∧
        x.descriptor.nativeName = g.field.name ∧ x'.absence = x.absence ∧
        (d.name = "to_fn" → (x'.artifact.fromWire.lines = x.artifact.fromWire.lines ↔
          p.descriptor.newtype = true ∨ x.descriptor.ignored = true ∨ x.descriptor.KeepsReading x.absence)) ∧
        (d.name = "from_fn" → (x'.artifact.toWire.map Expr.text = x.artifact.toWire.map Expr.text ↔
          p.descriptor.newtype = true ∨ x.descriptor.ignored = true ∨ x.descriptor.KeepsWriting)) := by
  have hsame : (g.recordWith [d]).plan ((g.definitionsWith []).scope settings) = .ok p' :=
    (RecordDecl.plan_congr (agree hd) settings.helpers fun _ _ _ _ => Set.mem_univ _).trans hp'
  obtain ⟨head, hhead, hdescriptor, hfields⟩ := RecordDecl.plan_eq_ok hp
  obtain ⟨head', hhead', hdescriptor', hfields'⟩ := RecordDecl.plan_eq_ok hsame
  obtain rfl : head' = head := Except.ok.inj (hhead'.symm.trans hhead)
  have hq : p'.descriptor = { p.descriptor with fields := p'.descriptor.fields } := by
    rw [hdescriptor', hdescriptor]
    rfl
  refine ⟨fun hn => ?_, fun x hx => ?_⟩
  · have hnewtype : g.record.newtype = false := by rw [← hn, hdescriptor]; rfl
    obtain ⟨x, hx, -⟩ := exists_getElem?_of_forall₂ hfields
      (by rw [getElem?_plannedFields, if_neg (by simp [hnewtype])])
    exact ⟨x, hx⟩
  · obtain ⟨f, hf', hdescribe, hplanned⟩ := exists_getElem?_of_forall₂ hfields.flip hx
    rw [getElem?_plannedFields] at hf'
    split at hf'
    · cases hf'
    · next hplace =>
      cases hf'
      obtain ⟨x', hx', hdescribe', hplanned'⟩ := exists_getElem?_of_forall₂ hfields'
        (by rw [getElem?_plannedFields, if_neg hplace])
      have hname : (g.fieldWith [d]).name = (g.fieldWith []).name := rfl
      have htype : (g.fieldWith [d]).type = (g.fieldWith []).type := rfl
      obtain ⟨hcustom, hadded⟩ := FieldDecl.describe_added hd hname htype (fun n hn => directive?_fieldWith hn)
        hdescribe hdescribe'
      obtain ⟨c, hc, hincomplete, hto, hfrom⟩ := readCustom_fieldWith hf hd hcustom
      rw [hc] at hadded
      rw [hq] at hplanned'
      have hdescribed := FieldDecl.describedBy_of_describe hdescribe
      have hnone : x.descriptor.custom = none := by
        rw [← Option.not_isSome_iff_eq_none, hdescribed.custom, hf]
        exact Bool.false_ne_true
      obtain ⟨habsence, hreading, hwriting⟩ := hplanned.compare hplanned' hadded hincomplete hnone
        (hdescribed.transparent.trans ht) hdescribed.collection
      exact ⟨x', hx', (FieldDecl.mirrors_of_describe hdescribe).nativeName, habsence, fun h => hreading (hto h),
        fun h => hwriting (hfrom h)⟩

/-- A list that has a default and may be absent. -/
def marks : FieldGap where
  enums := []
  options := []
  recordsBefore := []
  recordsAfter := []
  record := ⟨"Bag", [], none, [], false⟩
  fieldsAfter := []
  field := ⟨"marks", .mk "list" [.named "string"] false, none, [⟨"default", []⟩, ⟨"optional", []⟩]⟩
  directivesAfter := []

/-- A map that an attribute of its values keys. -/
def members : FieldGap where
  enums := []
  options := []
  recordsBefore := []
  recordsAfter := []
  record := ⟨"Team", [], none, [], false⟩
  fieldsAfter := []
  field := ⟨"members", .mk "dict" [.named "string", .named "int32"] false, none, [⟨"key", [⟨none, .text "name"⟩]⟩]⟩
  directivesAfter := []

/-- The directive that names a function for writing. -/
def writing (function : String) : Directive Value := ⟨"to_fn", [⟨none, .text function⟩]⟩

theorem other_direction_marks : (marks.fieldWith []).hasFunctions = false ∧
    isGiven (marks.fieldWith []).directives "transparent" = false ∧ ∃ p p' x x',
      (marks.recordWith []).plan ((marks.definitionsWith []).scope sampleSettings) = .ok p ∧
      (marks.recordWith [writing "write_marks"]).plan
        ((marks.definitionsWith [writing "write_marks"]).scope sampleSettings) = .ok p' ∧
      p.fields[marks.index]? = some x ∧ p'.fields[marks.index]? = some x' ∧ x.descriptor.KeepsReading x.absence ∧
      x'.artifact.fromWire.lines = x.artifact.fromWire.lines := by
  have hf : (marks.fieldWith []).hasFunctions = false := by decide
  have ht : isGiven (marks.fieldWith []).directives "transparent" = false := by decide
  obtain ⟨p, hp, hfield⟩ := exists_ok_of_any (x := (marks.recordWith []).plan
    ((marks.definitionsWith []).scope sampleSettings)) (P := fun p => p.descriptor.newtype = false &&
      p.fields.all fun x => x.descriptor.shape.unwrapped.isCollection && x.absence.kind = .default &&
        x.descriptor.shape.isOptional = false && x.descriptor.wireOptional && x.descriptor.key.isNone) (by decide +kernel)
  obtain ⟨p', hp', -⟩ := exists_ok_of_any (x := (marks.recordWith [writing "write_marks"]).plan
    ((marks.definitionsWith [writing "write_marks"]).scope sampleSettings)) (P := fun _ => true) (by decide +kernel)
  obtain ⟨hplanned, hother⟩ := other_direction marks sampleSettings (writing "write_marks") (.inr rfl) hf ht hp hp'
  simp only [Bool.and_eq_true, List.all_eq_true, decide_eq_true_eq, Option.isNone_iff_eq_none] at hfield
  obtain ⟨x, hx⟩ := hplanned hfield.1
  obtain ⟨x', hx', -, -, hreading, -⟩ := hother x hx
  have hkeeps : x.descriptor.KeepsReading x.absence := by
    obtain ⟨⟨⟨⟨hshape, hkind⟩, ho⟩, hw⟩, hkey⟩ := hfield.2 x (List.mem_of_getElem? hx)
    rw [FieldDescriptor.KeepsReading, if_pos hshape]
    exact ⟨hkind, ho, hw, hkey⟩
  exact ⟨hf, ht, p, p', x, x', hp, hp', hx, hx', hkeeps, (hreading rfl).2 (.inr (.inr hkeeps))⟩

/-- A function for writing a map can change how it is read. -/
theorem not_other_direction_members : ¬ ∀ p p',
    (members.recordWith []).plan ((members.definitionsWith []).scope sampleSettings) = .ok p →
    (members.recordWith [writing "write_members"]).plan
      ((members.definitionsWith [writing "write_members"]).scope sampleSettings) = .ok p' →
    ∀ x x', p.fields[members.index]? = some x → p'.fields[members.index]? = some x' →
      x'.artifact.fromWire.lines = x.artifact.fromWire.lines := by
  intro hall
  obtain ⟨p, hp, hfield⟩ := exists_ok_of_any (x := (members.recordWith []).plan
    ((members.definitionsWith []).scope sampleSettings)) (P := fun p => p.fields[members.index]?.any fun x =>
      x.artifact.fromWire.lines = ["members_ = \x7b_v0.name: _v0 for _v0 in wire.members or ()\x7d"]) (by decide +kernel)
  obtain ⟨p', hp', hfield'⟩ := exists_ok_of_any (x := (members.recordWith [writing "write_members"]).plan
    ((members.definitionsWith [writing "write_members"]).scope sampleSettings))
    (P := fun p => p.fields[members.index]?.any fun x => x.artifact.fromWire.lines = ["members_ = dict(wire.members)"])
    (by decide +kernel)
  obtain ⟨x, hx, hlines⟩ := (Option.any_eq_true _ _).1 hfield
  obtain ⟨x', hx', hlines'⟩ := (Option.any_eq_true _ _).1 hfield'
  have hsame := hall p p' hp hp' x x' hx hx'
  rw [of_decide_eq_true hlines, of_decide_eq_true hlines'] at hsame
  exact absurd hsame (by decide)

end FieldGap

end WireBridge
