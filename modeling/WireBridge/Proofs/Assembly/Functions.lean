import WireBridge.Proofs.Assembly.Absence

/-!
# Functions in place of conversions

What the generated code of a surviving record does for a field that functions of its own convert.

`absence_of_functions` : where such a field expects presence or has a default, its code tests for absence before
anything is called, and answers by the resolved absence. The exception is a collection that does not say of itself that
it may be absent: its wire value is taken to be there, and the expectation or the default has no part in the code
(`not_absence_of_functions_collection`).
-/

set_option autoImplicit false

namespace WireBridge

/-- The field expects presence or has a default. -/
def FieldDecl.asksForPresence (f : FieldDecl Value) : Bool :=
  isGiven f.directives "expect" || isGiven f.directives "default"

/-! ## Presence that is asked for -/

/-- The wire value of a field that asks for presence may be absent, except in a collection that does not say so. -/
theorem Shape.wireOptional_of_asked {symbols : Symbols} {s : Shape} {c : OptionalityCase}
    (hasked : (c.expects || c.hasDefault) = true) (hexplicit : c.explicit ≠ some false) :
    s.wireOptional symbols c = true ↔ s.isCollection = false ∨ c.explicit = some true := by
  unfold wireOptional
  cases he : c.explicit with
  | some b =>
    cases b with
    | false => exact absurd he hexplicit
    | true => simp
  | none =>
    cases ho : s.isOptional with
    | true =>
      have hc : s.isCollection = false := Bool.eq_false_iff.2 fun hc => by simp [isOptional_of_isCollection hc] at ho
      simp [hc]
    | false => simp [hasked]

theorem kind_ne_unhandled_of_asked {f : FieldDescriptor} {r : RecordDescriptor} {x : Ruled Absence}
    (h : resolveAbsence f r = .ok x) (hasked : (f.expectation.explicit || f.default.isSome) = true) :
    x.outcome.kind ≠ .unhandled := by
  rcases Bool.or_eq_true_iff.1 hasked with he | hd
  · exact kind_ne_unhandled_of_explicit h he
  · rw [kind_of_default h hd]
    decide

/-- Presence that is asked for is enforced wherever the wire value may be absent. -/
theorem enforcesPresence_of_asked {f : FieldDescriptor} {r : RecordDescriptor} {x : Ruled Absence}
    (h : resolveAbsence f r = .ok x) (hasked : (f.expectation.explicit || f.default.isSome) = true) :
    enforcesPresence f x.outcome = f.wireOptional := by
  have hhandled := kind_ne_unhandled_of_asked h hasked
  rcases Bool.or_eq_true_iff.1 hasked with he | hd
  · simp [enforcesPresence, hhandled, he]
  · simp [enforcesPresence, kind_of_default h hd]

theorem ifLine_isNone (f : FieldDescriptor) :
    "if " ++ (AbsenceTest.isNone f.wireSource).text ++ ":" = "if wire." ++ f.wireName ++ " is None:" := by
  have hif : "if " ++ "wire." = "if wire." := by decide
  have hnone : " is None" ++ ":" = " is None:" := by decide
  rw [AbsenceTest.text, FieldDescriptor.wireSource, Expr.text_source, ← hif, ← hnone]
  simp only [String.append_assoc]

/-! ## Plans -/

/-- The code that reads a field begins with a test for its absence, and then does what its absence resolves to. -/
def FieldPlan.BeginsWithTest (scope : Scope) (r : RecordDescriptor) (x : FieldPlan) : Prop :=
  ∃ action rest, missingAction scope x.descriptor x.absence r = .ok action ∧
    x.artifact.fromWire.lines = ("if wire." ++ x.descriptor.wireName ++ " is None:") :: ("    " ++ action.line) :: rest

/-- The absence of the field is resolved and handled. Its code tests for it where the wire value may be absent, and is a
single assignment elsewhere. -/
structure FieldPlan.AnswersAbsence (scope : Scope) (r : RecordDescriptor) (mayBeAbsent : Prop) (x : FieldPlan) :
    Prop where
  resolved : ∃ rule, resolveAbsence x.descriptor r = .ok ⟨x.absence, rule⟩
  handled : x.absence.kind ≠ .unhandled
  tested : x.BeginsWithTest scope r ↔ mayBeAbsent
  bound : ¬ mayBeAbsent → ∃ value, x.artifact.fromWire.lines = [assignment x.descriptor.localName value]

theorem FieldPlan.not_beginsWithTest {scope : Scope} {r : RecordDescriptor} {x : FieldPlan} {line : String}
    (h : x.artifact.fromWire.lines = [line]) : ¬ x.BeginsWithTest scope r := by
  rintro ⟨action, rest, -, hlines⟩
  rw [h] at hlines
  cases hlines

theorem FieldPlan.PlannedFrom.answersAbsence {scope : Scope} {r : RecordDescriptor} {f : FieldDecl Value}
    {x : FieldPlan} (h : x.PlannedFrom scope r f) (hn : r.newtype = false) (hi : x.descriptor.ignored = false)
    (hf : f.hasFunctions = true) (hasked : f.asksForPresence = true) (ho : f.optionality? ≠ some false) :
    x.AnswersAbsence scope r (x.descriptor.shape.isCollection = false ∨ f.optionality? = some true) := by
  obtain ⟨rule, hresolved⟩ := h.absence
  obtain ⟨symbols, hwire⟩ := h.wireOptional
  rw [FieldDecl.asksForPresence, ← h.expects, ← h.default] at hasked
  have henforces := enforcesPresence_of_asked hresolved hasked
  have hmay : x.descriptor.wireOptional = true ↔
      x.descriptor.shape.isCollection = false ∨ f.optionality? = some true := by
    rw [hwire, ← h.optionality]
    exact Shape.wireOptional_of_asked hasked (h.optionality ▸ ho)
  have hhandled := kind_ne_unhandled_of_asked hresolved hasked
  have hbinds : x.artifact.fromWire.Binds scope x.descriptor x.absence r
      (if enforcesPresence x.descriptor x.absence then some (.isNone x.descriptor.wireSource) else none) := by
    have hconverts := h.converts hn
    rw [h.strategy, resolveStrategy_of_custom _ hi (h.custom.trans hf)] at hconverts
    have hcustom : Ensures (directions scope x.descriptor (.ofKind .custom) x.absence r) _ :=
      ensures_binds_convertCustom
    exact ensures_fromWire_convertField hcustom _ hconverts
  rw [henforces] at hbinds
  cases hw : x.descriptor.wireOptional with
  | true =>
    rw [hw] at hbinds
    obtain ⟨action, present, haction, hblock⟩ := hbinds
    have htest : x.BeginsWithTest scope r :=
      ⟨action, _, haction, by rw [hblock, Block.lines_guarded, ifLine_isNone]⟩
    exact ⟨⟨rule, hresolved⟩, hhandled, iff_of_true htest (hmay.1 hw), fun hnot => absurd (hmay.1 hw) hnot⟩
  | false =>
    rw [hw] at hbinds
    obtain ⟨e, hblock⟩ := hbinds
    have hline : x.artifact.fromWire.lines = [assignment x.descriptor.localName e.text] := by rw [hblock]; rfl
    have hnot := fun hm => Bool.eq_false_iff.1 hw (hmay.2 hm)
    exact ⟨⟨rule, hresolved⟩, hhandled, iff_of_false (not_beginsWithTest hline) hnot, fun _ => ⟨_, hline⟩⟩

namespace Definitions

/-- In the code of a surviving record, functions of a field do not take away that it expects presence or has a default,
unless the field is a collection that does not say that it may be absent. -/
theorem absence_of_functions (d : Definitions Value) (settings : Settings) :
    ∀ p ∈ (assemble d settings).records, p.descriptor.newtype = false →
      ∃ r ∈ d.records, r.plan (d.scope settings) = .ok p ∧
        List.Forall₂ (fun f x => x.descriptor.ignored = false → f.hasFunctions = true → f.asksForPresence = true →
          f.optionality? ≠ some false → x.AnswersAbsence (d.scope settings) p.descriptor
            (x.descriptor.shape.isCollection = false ∨ f.optionality? = some true)) r.fields p.fields := by
  intro p hp hn
  obtain ⟨r, hr, hplan, hdescribes⟩ := exists_of_mem_records hp
  have hplanned : r.plannedFields = r.fields :=
    RecordDecl.plannedFields_eq fun h => by simp [← hdescribes.newtype, hn] at h
  refine ⟨r, hr, hplan, ?_⟩
  rw [← hplanned]
  exact hdescribes.fields.imp fun f x h hi hf hasked ho => h.answersAbsence hn hi hf hasked ho

/-- Fields with a function of their own that ask for presence: a list, a list that may be absent, and a number. -/
def bag : Definitions Value where
  enums := []
  records := [⟨"Bag", [
    ⟨"tags", .mk "list" [.named "string"] false, none, [⟨"from_fn", [⟨none, .text "parse_tags"⟩]⟩, ⟨"default", []⟩]⟩,
    ⟨"marks", .mk "list" [.named "string"] false, none,
      [⟨"from_fn", [⟨none, .text "parse_tags"⟩]⟩, ⟨"default", []⟩, ⟨"optional", []⟩]⟩,
    ⟨"size", .named "int32", none, [⟨"to_fn", [⟨none, .text "write_size"⟩]⟩, ⟨"expect", []⟩]⟩], none, [], false⟩]
  options := []

theorem asksForPresence_bag : ∀ r ∈ bag.records, ∀ f ∈ r.fields,
    f.hasFunctions = true ∧ f.asksForPresence = true ∧ f.optionality? ≠ some false := by decide +kernel

/-- The lines of each field of `bag`. -/
def bagLines : List (List String) :=
  [["tags_ = app.helpers.parse_tags(wire.tags)"],
    ["if wire.marks is None:", "    marks_ = []", "else:", "    marks_ = app.helpers.parse_tags(wire.marks)"],
    ["if wire.size is None:", "    raise BagConversionError(\"size\")", "size_ = wire.size"]]

theorem absence_of_functions_bag : ∃ p ∈ (assemble bag sampleSettings).records, p.descriptor.newtype = false ∧
    p.fields.map (·.artifact.fromWire.lines) = bagLines ∧
    ∃ r ∈ bag.records, r.plan (bag.scope sampleSettings) = .ok p ∧
      (∀ f ∈ r.fields, f.hasFunctions = true ∧ f.asksForPresence = true ∧ f.optionality? ≠ some false) ∧
      List.Forall₂ (fun f x => x.descriptor.ignored = false → f.hasFunctions = true → f.asksForPresence = true →
        f.optionality? ≠ some false → x.AnswersAbsence (bag.scope sampleSettings) p.descriptor
          (x.descriptor.shape.isCollection = false ∨ f.optionality? = some true)) r.fields p.fields := by
  obtain ⟨p, hp, hn, hlines⟩ : ∃ p ∈ (assemble bag sampleSettings).records, p.descriptor.newtype = false ∧
      p.fields.map (·.artifact.fromWire.lines) = bagLines := by decide +kernel
  obtain ⟨r, hr, hplan, hfields⟩ := absence_of_functions bag sampleSettings p hp hn
  exact ⟨p, hp, hn, hlines, r, hr, hplan, asksForPresence_bag r hr, hfields⟩

/-- A collection with a default and a function of its own does not test for absence. -/
theorem not_absence_of_functions_collection :
    ¬ ∀ p ∈ (assemble bag sampleSettings).records, p.descriptor.newtype = false →
      ∃ r ∈ bag.records, r.plan (bag.scope sampleSettings) = .ok p ∧
        List.Forall₂ (fun f x => x.descriptor.ignored = false → f.hasFunctions = true → f.asksForPresence = true →
          f.optionality? ≠ some false → x.BeginsWithTest (bag.scope sampleSettings) p.descriptor)
          r.fields p.fields := by
  intro hall
  obtain ⟨p, hp, hn, x, hx, hi, hline⟩ : ∃ p ∈ (assemble bag sampleSettings).records,
      p.descriptor.newtype = false ∧ ∃ x ∈ p.fields, x.descriptor.ignored = false ∧
        x.artifact.fromWire.lines = ["tags_ = app.helpers.parse_tags(wire.tags)"] := by decide +kernel
  obtain ⟨r, hr, -, hfields⟩ := hall p hp hn
  obtain ⟨f, hf, hbegins⟩ := exists_of_forall₂ hfields hx
  obtain ⟨hfunctions, hasked, ho⟩ := asksForPresence_bag r hr f hf
  exact FieldPlan.not_beginsWithTest hline (hbegins hi hfunctions hasked ho)

end Definitions

end WireBridge
