import WireBridge.Definition.Reading
import WireBridge.Proofs.Assembly.Fields
import WireBridge.Proofs.Code.Block
import WireBridge.Proofs.Conversion.Tests

/-!
# Errors of generated code

What the code of a surviving record raises, and the error class that comes with the record.

* `raised_backed` : whatever error the code of a field raises, the record answers for it (`RecordPlan.Backs`): it is a
  panic, or an error of the record's own class, which is generated with the record, or one that a function builds and
  whose class is checked where the record declares one;
* `generated_error_class` : the class that is generated with a record. It is the record's own if the record declares no
  error type. A record that declares one needs no class, but gets one under the name of its error type as soon as an
  ignored field expects an error that no function builds (`not_generated_error_class_own`). No code raises that error.
-/

set_option autoImplicit false

namespace WireBridge

/-! ## Missing values -/

/-- An error is raised for a missing value by the kind and the function of its absence. -/
theorem missingAction_raise {scope : Scope} {f : FieldDescriptor} {a : Absence} {r : RecordDescriptor} {e : RaisedError}
    (h : missingAction scope f a r = .ok (.raise e)) :
    (a.kind = .panic ∧ e = .missing f.wireName) ∨ (a.kind = .unhandled ∧ e = .absent f.wireName) ∨
      (a = ⟨.error, none⟩ ∧ e = .ofClass r.errorClass f.wireName) ∨
      ∃ g, a = ⟨.error, some g⟩ ∧ e = .built g f.wireName r.errorType := by
  obtain ⟨kind, function⟩ := a
  cases kind with
  | unhandled =>
    cases h
    exact .inr (.inl ⟨rfl, rfl⟩)
  | panic =>
    cases h
    exact .inl ⟨rfl, rfl⟩
  | default =>
    obtain ⟨v, -, h⟩ := bind_eq_ok_iff.1 h
    cases h
  | error =>
    cases function with
    | none =>
      cases h
      exact .inr (.inr (.inl ⟨rfl, rfl⟩))
    | some g =>
      cases h
      exact .inr (.inr (.inr ⟨g, rfl, rfl⟩))

theorem fallible_of_convertField {scope : Scope} {f : FieldDescriptor} {s : Strategy} {a : Absence}
    {r : RecordDescriptor} : Ensures (convertField scope f s a r) fun x => x.fallible = decide (a.kind = .error) :=
  .bind_last fun _ => .pure rfl

/-! ## Records -/

theorem RecordDescriptor.eq_ofFields_of_plan {q : RecordDescriptor} {scope : Scope} {p : RecordPlan}
    (h : q.plan scope = .ok p) (hn : q.newtype = false) : p = .ofFields q p.fields := by
  unfold RecordDescriptor.plan at h
  split at h
  · cases h
  · rw [if_neg (by simp [hn])] at h
    obtain ⟨xs, -, rfl⟩ := map_eq_ok_iff.1 h
    rfl

/-- A newtype has no error type. -/
theorem RecordDecl.errorType_of_readHead {r : RecordDecl Value} {helpers : Option Value} (hn : r.newtype = true) :
    Ensures (r.readHead helpers) fun head => head.errorType = none := by
  refine .bind_last fun _ => .bind_last fun wireName => .bind_last fun errorType => .bind_last fun errorFunction => ?_
  refine .bind_last fun ignored => ?_
  dsimp only
  split
  · exact .bind (P := fun _ => False) .problem fun _ h => h.elim
  · next hnone =>
    refine .pure ?_
    cases errorType with
    | none => rfl
    | some t => simp [hn] at hnone

theorem RecordDecl.errorType_of_describe {r : RecordDecl Value} {s : Symbols} {helpers : Option Value}
    (hn : r.newtype = true) : Ensures (r.describe s helpers) fun q => q.errorType = none := by
  intro q h
  obtain ⟨head, hhead, -, hq⟩ := describe_eq_ok h
  rw [hq]
  exact errorType_of_readHead hn head hhead

/-- A newtype has no errors. -/
theorem RecordDecl.errors_of_newtype {r : RecordDecl Value} {scope : Scope} {p : RecordPlan}
    (h : r.plan scope = .ok p) (hn : p.descriptor.newtype = true) :
    p.generatedError = false ∧ p.descriptor.errorType = none := by
  obtain ⟨q, hdescribe, h⟩ := bind_eq_ok_iff.1 h
  obtain rfl := (RecordDescriptor.descriptors_of_plan h).1
  have hnewtype : r.newtype = true := by rw [← (RecordDecl.mirrors_of_describe hdescribe).newtype, hn]
  refine ⟨?_, errorType_of_describe hnewtype _ hdescribe⟩
  unfold RecordDescriptor.plan at h
  split at h
  · cases h
  · rw [if_pos hn] at h
    obtain ⟨x, -, hx⟩ := map_eq_ok_iff.1 h
    rw [← hx]

/-- What a surviving record that is no newtype says of its errors, from its descriptor and the plans of its fields. -/
theorem RecordDecl.eq_ofFields_of_plan {r : RecordDecl Value} {scope : Scope} {p : RecordPlan}
    (h : r.plan scope = .ok p) (hn : p.descriptor.newtype = false) : p = .ofFields p.descriptor p.fields := by
  obtain ⟨q, -, hq⟩ := bind_eq_ok_iff.1 h
  obtain rfl := (RecordDescriptor.descriptors_of_plan hq).1
  exact RecordDescriptor.eq_ofFields_of_plan hq hn

namespace FieldPlan.Planned

variable {scope : Scope} {r : RecordDescriptor} {x : FieldPlan}

theorem fallible_iff (h : x.Planned scope r) (hn : r.newtype = false) :
    x.artifact.fallible = true ↔ x.absence.kind = .error := by
  rw [fallible_of_convertField _ (h.converts hn), decide_eq_true_eq]

theorem usesGeneratedError_iff (h : x.Planned scope r) : x.absence.usesGeneratedError = true ↔
    x.descriptor.ExpectsUnbuiltError r ∧ (r.errorType = none ∨ x.descriptor.ignored = true) := by
  obtain ⟨rule, hresolved⟩ := h.absence
  exact WireBridge.usesGeneratedError_iff hresolved

/-- A field raises what is raised for its missing value, if it is not ignored. -/
theorem raised (h : x.Planned scope r) (hn : r.newtype = false) {e : RaisedError}
    (he : x.artifact.fromWire.raised? = some e) :
    missingAction scope x.descriptor x.absence r = .ok (.raise e) ∧ x.descriptor.ignored = false := by
  have hconverts := h.converts hn
  obtain ⟨test, name, present, hblock⟩ := Block.raised?_eq_some_iff.1 he
  refine ⟨(ensures_fromWire_convertField (ensures_answers_directions _) _ hconverts _ _ _ _ hblock).1, ?_⟩
  rw [Bool.eq_false_iff]
  intro hi
  rw [h.strategy, resolveStrategy_of_ignored _ hi] at hconverts
  have hfill : Ensures (directions scope x.descriptor (.ofKind .ignore) x.absence r) fun y => y.1.raised? = none :=
    .bind_last fun v => .pure rfl
  have hnone : x.artifact.fromWire.raised? = none :=
    ensures_fromWire_convertField (P := fun b => b.raised? = none) hfill _ hconverts
  rw [hnone] at he
  cases he

end FieldPlan.Planned

namespace RecordPlan

variable {p : RecordPlan} (h : p = .ofFields p.descriptor p.fields)

include h

theorem fallible_iff_exists : p.fallible = true ↔ ∃ x ∈ p.fields, x.artifact.fallible = true := by
  rw [h]
  exact List.any_eq_true

theorem generatedError_iff : p.generatedError = true ↔
    p.fallible = true ∧ ∃ x ∈ p.fields, x.absence.usesGeneratedError = true := by
  rw [h]
  simp [ofFields]

/-- A generated class is the error class of its record. -/
theorem errorClass_of_generatedError (hg : p.generatedError = true) : p.errorClass = some p.descriptor.errorClass := by
  rw [h] at hg ⊢
  simp only [ofFields] at hg ⊢
  simp [hg]

end RecordPlan

/-! ## Raised errors -/

/-- A record answers for an error that the code of one of its fields raises: a panic, or an error of its own class,
which is generated with it, or an error that a function builds, whose class is checked if the record declares one. -/
inductive RecordPlan.Backs (p : RecordPlan) (x : FieldPlan) : RaisedError → Prop
  | panic (hk : x.absence.kind = .panic) : Backs p x (.missing x.descriptor.wireName)
  | unhandled (hk : x.absence.kind = .unhandled) : Backs p x (.absent x.descriptor.wireName)
  | own (ha : x.absence = ⟨.error, none⟩) (ht : p.descriptor.errorType = none) (hg : p.generatedError = true)
      (hc : p.errorClass = some (p.name ++ "ConversionError")) (hf : p.fallible = true) :
      Backs p x (.ofClass (p.name ++ "ConversionError") x.descriptor.wireName)
  | built (g : FunctionRef) (ha : x.absence = ⟨.error, some g⟩) (hf : p.fallible = true) :
      Backs p x (.built g x.descriptor.wireName p.descriptor.errorType)

theorem RecordPlan.backs_of_planned {p : RecordPlan} (hp : p = .ofFields p.descriptor p.fields) {x : FieldPlan}
    (hx : x ∈ p.fields) {scope : Scope} (h : x.Planned scope p.descriptor) (hn : p.descriptor.newtype = false)
    {e : RaisedError} (he : x.artifact.fromWire.raised? = some e) : p.Backs x e := by
  obtain ⟨hmissing, hignored⟩ := h.raised hn he
  have hfallible (hk : x.absence.kind = .error) : p.fallible = true :=
    (fallible_iff_exists hp).2 ⟨x, hx, (h.fallible_iff hn).2 hk⟩
  rcases missingAction_raise hmissing with ⟨hk, rfl⟩ | ⟨hk, rfl⟩ | ⟨ha, rfl⟩ | ⟨g, ha, rfl⟩
  · exact .panic hk
  · exact .unhandled hk
  · have hgenerated : x.absence.usesGeneratedError = true := by rw [ha]; rfl
    have ht : p.descriptor.errorType = none :=
      (h.usesGeneratedError_iff.1 hgenerated).2.resolve_right (by simp [hignored])
    have hf := hfallible (by rw [ha])
    have hg : p.generatedError = true := (generatedError_iff hp).2 ⟨hf, x, hx, hgenerated⟩
    have hclass : p.descriptor.errorClass = p.name ++ "ConversionError" := by
      rw [RecordDescriptor.errorClass, ht]
      rfl
    rw [hclass]
    exact .own ha ht hg (by rw [errorClass_of_generatedError hp hg, hclass]) hf
  · exact .built g ha (hfallible (by rw [ha]))

namespace Definitions

/-- A surviving record answers for every error that its code raises, and its code has no other line that raises. Only
for a field with a space in its name may the line that binds its variable read like one. -/
theorem raised_backed (d : Definitions Value) (settings : Settings) :
    ∀ p ∈ (assemble d settings).records, p.descriptor.newtype = false → ∀ x ∈ p.fields,
      (∀ e, x.artifact.fromWire.raised? = some e → p.Backs x e) ∧
      ∀ line ∈ x.artifact.fromWire.lines, isRaiseLine line = true → ' ' ∈ x.descriptor.nativeName.toList ∨
        ∃ e, x.artifact.fromWire.raised? = some e ∧ line = "    raise " ++ e.text := by
  intro p hp hn x hx
  obtain ⟨r, -, hplan, hdescribes⟩ := exists_of_mem_records hp
  obtain ⟨f, -, hplanned⟩ := exists_of_forall₂ hdescribes.fields hx
  refine ⟨fun e he => ?_, fun line hline hraise => ?_⟩
  · exact RecordPlan.backs_of_planned (RecordDecl.eq_ofFields_of_plan hplan hn) hx hplanned.toPlanned hn he
  · have hbinds := ensures_fromWire_convertField (ensures_bindsOnly_directions _) _ (hplanned.converts hn)
    exact or_iff_not_imp_left.2 fun hname => hbinds.exists_raised hname hline hraise

/-- Fields whose absence is an error of their record's own, a panic or unhandled, and one with an error of a declared
type. -/
def raising : Definitions Value where
  enums := []
  records := [
    ⟨"Reading", [
      ⟨"size", .named "int32", none, [⟨"expect", []⟩]⟩,
      ⟨"unit", .named "string", none, [⟨"expect", [⟨none, .text "panic"⟩]⟩]⟩,
      ⟨"note", .named "string", none, [⟨"optional", []⟩]⟩], none, [], false⟩,
    ⟨"Packet", [⟨"size", .named "int32", none, [⟨"optional", []⟩]⟩], none,
      [⟨"error_type", [⟨none, .text "WireError"⟩]⟩, ⟨"error_fn", [⟨none, .text "missing"⟩]⟩], false⟩]
  options := []

/-- The lines of the fields of `raising` that raise. -/
def raisingLines : List (String × List String) :=
  [("Reading", ["    raise ReadingConversionError(\"size\")",
      "    raise ConversionPanic(\"Missing required field: unit\")",
      "    raise ConversionPanic(\"Wire field note is absent\")"]),
    ("Packet", ["    raise check_error(app.helpers.missing(\"size\"), app.helpers.WireError)"])]

theorem raised_backed_raising :
    (assemble raising sampleSettings).records.map (fun p =>
      (p.name, p.fields.flatMap fun x => x.artifact.fromWire.lines.filter isRaiseLine)) = raisingLines ∧
    ∀ p ∈ (assemble raising sampleSettings).records, p.descriptor.newtype = false ∧ ∀ x ∈ p.fields,
      ∃ e, x.artifact.fromWire.raised? = some e ∧ p.Backs x e := by
  refine ⟨by decide +kernel, fun p hp => ?_⟩
  have hall : ∀ p ∈ (assemble raising sampleSettings).records, p.descriptor.newtype = false ∧ ∀ x ∈ p.fields,
      x.artifact.fromWire.raised?.isSome = true := by decide +kernel
  obtain ⟨hn, hfields⟩ := hall p hp
  refine ⟨hn, fun x hx => ?_⟩
  obtain ⟨e, he⟩ := Option.isSome_iff_exists.1 (hfields x hx)
  exact ⟨e, he, (raised_backed raising sampleSettings p hp hn x hx).1 e he⟩

/-! ## Generated classes -/

theorem errorClass_of_mem_records {d : Definitions Value} {settings : Settings} {p : RecordPlan}
    (hp : p ∈ (assemble d settings).records) (hg : p.generatedError = true) :
    p.descriptor.newtype = false ∧ p.errorClass = some p.descriptor.errorClass := by
  obtain ⟨r, -, hplan, -⟩ := exists_of_mem_records hp
  cases hn : p.descriptor.newtype with
  | true =>
    rw [(RecordDecl.errors_of_newtype hplan hn).1] at hg
    cases hg
  | false => exact ⟨rfl, RecordPlan.errorClass_of_generatedError (RecordDecl.eq_ofFields_of_plan hplan hn) hg⟩

/-- The class that is generated with a surviving record is its own if it declares no error type. One that declares an
error type gets a class exactly if it ignores a field that expects an error no function builds, and the class has the
name of that error type. -/
theorem generated_error_class (d : Definitions Value) (settings : Settings) :
    ∀ p ∈ (assemble d settings).records,
      (p.descriptor.errorType = none → p.generatedError = true → p.errorClass = some (p.name ++ "ConversionError")) ∧
      ∀ t, p.descriptor.errorType = some t →
        (p.generatedError = true ↔
          ∃ x ∈ p.fields, x.descriptor.ignored = true ∧ x.descriptor.ExpectsUnbuiltError p.descriptor) ∧
        (p.generatedError = true → p.errorClass = some t.expression) := by
  intro p hp
  refine ⟨fun ht hg => ?_, fun t ht => ⟨?_, fun hg => ?_⟩⟩
  · rw [(errorClass_of_mem_records hp hg).2, RecordDescriptor.errorClass, ht]
    rfl
  · obtain ⟨r, -, hplan, hdescribes⟩ := exists_of_mem_records hp
    have hn : p.descriptor.newtype = false := by
      rw [Bool.eq_false_iff]
      intro hn
      simp [(RecordDecl.errors_of_newtype hplan hn).2] at ht
    have hp := RecordDecl.eq_ofFields_of_plan hplan hn
    have hplanned : ∀ x ∈ p.fields, x.Planned (d.scope settings) p.descriptor := by
      intro x hx
      obtain ⟨f, -, hf⟩ := exists_of_forall₂ hdescribes.fields hx
      exact hf.toPlanned
    rw [RecordPlan.generatedError_iff hp]
    constructor
    · rintro ⟨-, x, hx, hgenerated⟩
      obtain ⟨hexpects, hignored⟩ := (hplanned x hx).usesGeneratedError_iff.1 hgenerated
      exact ⟨x, hx, hignored.resolve_left (by simp [ht]), hexpects⟩
    · rintro ⟨x, hx, hignored, hexpects⟩
      have hgenerated := (hplanned x hx).usesGeneratedError_iff.2 ⟨hexpects, .inr hignored⟩
      have hkind : x.absence.kind = .error := by
        simp only [Absence.usesGeneratedError, Bool.and_eq_true, decide_eq_true_eq] at hgenerated
        exact hgenerated.1
      refine ⟨(RecordPlan.fallible_iff_exists hp).2 ⟨x, hx, ?_⟩, x, hx, hgenerated⟩
      exact ((hplanned x hx).fallible_iff hn).2 hkind
  · rw [(errorClass_of_mem_records hp hg).2, RecordDescriptor.errorClass, ht]

/-- A record with an error type that ignores a field for which an error is expected. -/
def ignoringText : String :=
  "@error_type(\"WireError\")\nstruct Reading \x7b\n  size: int32 @error_fn(\"missing\")\n  cache: int32 @ignore @expect\n\x7d\n"

theorem reading_of_ignoringText : ∃ d, ofText ignoringText = .ok d ∧
    ∃ p ∈ (assemble d sampleSettings).records, p.name = "Reading" ∧
      p.descriptor.errorType = some ⟨.text "app.helpers", "WireError"⟩ ∧ p.generatedError = true := by
  decide +kernel

theorem generated_error_class_ignoring :
    (∃ p ∈ (assemble raising sampleSettings).records, p.name = "Reading" ∧ p.generatedError = true ∧
      p.errorClass = some (p.name ++ "ConversionError")) ∧
    ∃ d, ofText ignoringText = .ok d ∧ ∃ p ∈ (assemble d sampleSettings).records, p.name = "Reading" ∧
      (∃ x ∈ p.fields, x.descriptor.ignored = true ∧ x.descriptor.ExpectsUnbuiltError p.descriptor) ∧
      p.errorClass = some "app.helpers.WireError" := by
  constructor
  · obtain ⟨p, hp, hname, ht, hg⟩ : ∃ p ∈ (assemble raising sampleSettings).records, p.name = "Reading" ∧
        p.descriptor.errorType = none ∧ p.generatedError = true := by decide +kernel
    exact ⟨p, hp, hname, hg, (generated_error_class raising sampleSettings p hp).1 ht hg⟩
  · obtain ⟨d, hd, p, hp, hname, ht, hg⟩ := reading_of_ignoringText
    obtain ⟨hiff, hclass⟩ := (generated_error_class d sampleSettings p hp).2 _ ht
    exact ⟨d, hd, p, hp, hname, hiff.1 hg, hclass hg⟩

/-- A generated class is not always the record's own, and not only records without an error type have one. -/
theorem not_generated_error_class_own : ¬ ∀ text d settings, ofText text = .ok d →
    ∀ p ∈ (assemble d settings).records, p.generatedError = true →
      p.descriptor.errorType = none ∧ p.errorClass = some (p.name ++ "ConversionError") := by
  intro hall
  obtain ⟨d, hd, p, hp, -, ht, hg⟩ := reading_of_ignoringText
  exact absurd (ht.symm.trans (hall _ d sampleSettings hd p hp hg).1) (Option.some_ne_none _)

end Definitions

end WireBridge
