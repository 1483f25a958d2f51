import WireBridge.Proofs.Assembly.Stages
import WireBridge.Proofs.Conversion.ByLookUp
import WireBridge.Proofs.Decision.Rules
import WireBridge.Proofs.Descriptor.ByLookUp
import WireBridge.Proofs.Descriptor.Directives

/-!
# Assemblies always come to an end

An assembly is made of whatever is declared: types with a wrong number of arguments, records without fields, newtypes
with any number of them, names that are declared twice, directives with any arguments that can be written out. It fails
by the problems that it collects and in no other way (`Definitions.assemble_total`).

* `ByLookUp.planRecord`, `ByLookUp.planEnum` : plans by look-ups, from the directives to the texts of the code;
* `Definitions.Total` : no look-up is undefined on the way to a plan, which has the texts of the plan without look-ups,
  or stops with the same problem; and every type is in the assembly with its plan, or a problem of it is.

Of the look-ups two rest on what a described field has: its key keys a map (`FieldDecl.keyFits_of_describe`), and it is
converted by functions of its own only if it has some (`isSome_custom_of_kind`). An argument that is an integer of too
many digits cannot be written out, and the problem that it makes is not raised
(`Definitions.not_assemble_total_oversized`).
-/

set_option autoImplicit false

namespace WireBridge

/-! ## Texts of plans -/

/-- The texts of the plan of a field. -/
structure FieldTexts where
  descriptor : FieldDescriptor
  absence : Absence
  strategy : Strategy
  artifact : ArtifactTexts
  type : String
  default : Option String
  deriving Repr

/-- The texts of the plan of a record. -/
structure RecordTexts where
  descriptor : RecordDescriptor
  fields : List FieldTexts
  fallible : Bool
  errorClass : Option String
  generatedError : Bool
  deriving Repr

def FieldPlan.texts (p : FieldPlan) : FieldTexts :=
  ⟨p.descriptor, p.absence, p.strategy, p.artifact.texts, p.nativeType, p.default⟩

def RecordPlan.texts (p : RecordPlan) : RecordTexts :=
  ⟨p.descriptor, p.fields.map FieldPlan.texts, p.fallible, p.errorClass, p.generatedError⟩

/-- The texts of the plan of a record whose fields are planned. -/
def RecordTexts.ofFields (r : RecordDescriptor) (fields : List FieldTexts) : RecordTexts :=
  let fallible := fields.any (·.artifact.fallible)
  let generated := fallible && fields.any (·.absence.usesGeneratedError)
  let raises := generated || fallible && r.errorType.isSome
  ⟨r, fields, fallible, if raises then some r.errorClass else none, generated⟩

theorem RecordPlan.texts_ofFields (r : RecordDescriptor) (ps : List FieldPlan) :
    (ofFields r ps).texts = .ofFields r (ps.map FieldPlan.texts) := by
  simp only [texts, ofFields, RecordTexts.ofFields, List.any_map]
  rfl

/-! ## Plans by look-ups -/

namespace ByLookUp

variable (scope : Scope)

/-- A reference in a report. -/
def referenceText (g : FunctionRef) : Partial String := do return (← Partial.print g.module) ++ ":" ++ g.path

theorem mapM_referenceText {g? : Option FunctionRef} (h : ∀ g ∈ g?, g.module.isPrintable = true) :
    g?.mapM referenceText = pure (g?.map FunctionRef.text) := by
  cases g? with
  | none => rfl
  | some g =>
    have htext : referenceText g = pure g.text := by
      rw [referenceText, Partial.print_eq (h g rfl)]
      rfl
    change some <$> referenceText g = _
    rw [htext]
    rfl

section Fields

variable (r : RecordDescriptor) (f : FieldDescriptor)

/-- The plan of a field, whose absence is shown in the log. -/
def planWith (code : Strategy → Absence → Partial ArtifactTexts) : Partial FieldTexts := do
  let absence ← Partial.of (resolveAbsence f r)
  let _ ← absence.outcome.function.mapM referenceText
  let strategy := (resolveStrategy f absence.outcome).outcome
  let artifact ← code strategy absence.outcome
  let type ← nativeType scope f.shape.raw
  return ⟨f, absence.outcome, strategy, artifact, type, ← nativeDefault scope f⟩

/-- The plan of a field of a record, whose shape is shown in the log. -/
def planField : Partial FieldTexts :=
  Partial.placedAt (r.name ++ "." ++ f.nativeName) do
    let _ ← f.shape.raw.text
    planWith scope r f fun s a => convertField scope f a r s

/-- The plan of the field of a newtype. -/
def planWrapped : Partial FieldTexts :=
  Partial.placedAt (r.name ++ "." ++ f.nativeName) (planWith scope r f fun _ _ => wrapField scope f)

/-- All modules that the code of the fields of a record may name can be written out. -/
structure PrintsRecord (scope : Scope) (r : RecordDescriptor) : Prop where
  helpers : PrintsHelpers scope.helpers
  errorType : ∀ g ∈ r.errorType, g.module.isPrintable = true
  errorFunction : ∀ g ∈ r.errorFunction, g.module.isPrintable = true

variable {scope r f}

theorem worded_firstAbsence {rules : List (String × AbsenceRule)} (h : ∀ y ∈ rules, Worded (y.2 f r)) :
    Worded (firstAbsence f r rules) := by
  induction rules with
  | nil => exact .pure _
  | cons y rules ih =>
    obtain ⟨hy, hrules⟩ := List.forall_mem_cons.1 h
    refine hy.bind fun a? _ => ?_
    cases a? with
    | some a => exact .pure _
    | none => exact ih hrules

theorem worded_byErrorType (hr : PrintsRecord scope r) : Worded (AbsenceRule.byErrorType f r) := by
  unfold AbsenceRule.byErrorType
  split
  · exact .pure _
  · next e he =>
    split
    · exact .pure _
    · split
      · exact .pure _
      · exact .problem (.of_singleton rfl (hr.errorType e he))

/-- Only the rule about the error type of a record has a problem. -/
theorem worded_resolveAbsence (hr : PrintsRecord scope r) : Worded (resolveAbsence f r) := by
  refine worded_firstAbsence fun y hy => ?_
  simp only [absenceRules, List.mem_cons, List.not_mem_nil, or_false] at hy
  rcases hy with rfl | rfl | rfl | rfl | rfl
  · exact .pure _
  · exact worded_byErrorType hr
  all_goals exact .pure _

/-- An absence has no functions but those of the field and of the record. -/
theorem PrintsRecord.modules (hr : PrintsRecord scope r) (hf : f.PrintsReferences) {a : Ruled Absence}
    (ha : resolveAbsence f r = .ok a) : PrintsModules scope f a.outcome r where
  helpers := hr.helpers
  references := hf
  absence g hg := by
    rcases function_of_resolveAbsence ha hg with hg | hg
    · exact isPrintable_of_default hf hg
    · rcases eq_some_of_orElse hg with hg | hg
      · exact hf g (FieldDescriptor.mem_references.2 (.inr (.inl hg)))
      · exact hr.errorFunction g hg
  errorType := hr.errorType

theorem renders_planWith (hr : PrintsRecord scope r) (hf : f.PrintsReferences)
    {code : Strategy → Absence → Except ConfigError Artifact} {code' : Strategy → Absence → Partial ArtifactTexts}
    (hcode : ∀ a, PrintsModules scope f a r → Renders Artifact.texts (code (resolveStrategy f a).outcome a)
      (code' (resolveStrategy f a).outcome a)) :
    Renders FieldPlan.texts (WireBridge.planWith scope r f code) (planWith scope r f code') := by
  refine (Renders.of (worded_resolveAbsence hr)).bind fun absence habsence => ?_
  have hp := hr.modules hf habsence
  dsimp only [id]
  rw [mapM_referenceText hp.absence, pure_bind]
  exact (hcode absence.outcome hp).bind fun _ _ => (renders_nativeType hr.helpers f.shape).bind fun _ _ =>
    (renders_nativeDefault hr.helpers hf).bind fun _ _ => .pure rfl

theorem renders_planField (hr : PrintsRecord scope r) (hf : f.PrintsReferences) (hkey : f.KeyFits) :
    Renders FieldPlan.texts (WireBridge.planField scope r f) (planField scope r f) := by
  unfold planField
  rw [f.shape.text_raw, pure_bind]
  exact (renders_planWith hr hf fun a hp => renders_convertField scope f a r hp _ hkey isSome_custom_of_kind).placedAt _

theorem renders_planWrapped (hr : PrintsRecord scope r) (hf : f.PrintsReferences) :
    Renders FieldPlan.texts (WireBridge.planWrapped scope r f) (planWrapped scope r f) :=
  (renders_planWith hr hf fun _ _ => renders_wrapField scope f hr.helpers).placedAt _

end Fields

/-- The texts of the plan of a record whose fields are planned. -/
def recordTexts (q : RecordDescriptor) (fields : List FieldTexts) : Partial RecordTexts := do
  let fallible := fields.any (·.artifact.fallible)
  let generated := fallible && fields.any (·.absence.usesGeneratedError)
  let errorClass ← if generated || fallible && q.errorType.isSome then some <$> errorClass q else pure none
  return ⟨q, fields, fallible, errorClass, generated⟩

theorem recordTexts_eq {q : RecordDescriptor} (hq : ∀ g ∈ q.errorType, g.module.isPrintable = true)
    (fields : List FieldTexts) : recordTexts q fields = pure (.ofFields q fields) := by
  unfold recordTexts RecordTexts.ofFields
  dsimp only
  rw [errorClass_eq q hq]
  split <;> rfl

/-- The plan of a record that is described. -/
def planDescribed (q : RecordDescriptor) : Partial RecordTexts :=
  if q.fields.isEmpty then Partial.of (.error ⟨.emptyRecord, some q.name⟩)
  else if q.newtype then do
    let f ← Partial.lookUp q.fields.head?
    let p ← planWrapped scope q f
    return ⟨q, [p], false, none, false⟩
  else do
    recordTexts q (← q.fields.mapM (planField scope q))

variable {scope} in
theorem renders_planDescribed {q : RecordDescriptor} (hq : PrintsRecord scope q)
    (hfields : ∀ f ∈ q.fields, f.KeyFits ∧ f.PrintsReferences) :
    Renders RecordPlan.texts (q.plan scope) (planDescribed scope q) := by
  have hall := Renders.mapM fun f hf => renders_planField hq (hfields f hf).2 (hfields f hf).1
  unfold RecordDescriptor.plan planDescribed
  cases hcons : q.fields with
  | nil => exact .raise (.of_nil rfl)
  | cons f fs =>
    rw [hcons] at hall
    cases q.newtype with
    | true =>
      have hf := (hfields f (hcons ▸ List.mem_cons_self)).2
      exact (renders_planWrapped hq hf).map fun _ _ => rfl
    | false =>
      refine hall.map fun ps _ => ?_
      rw [recordTexts_eq hq.errorType, RecordPlan.texts_ofFields]

/-- The plan of a record. -/
def planRecord (r : RecordDecl Value) : Partial RecordTexts := do
  planDescribed scope (← describeRecord scope.symbols scope.helpers r)

/-- The plan of an enum. -/
def planEnum (e : EnumDecl Value) : Partial EnumPlan := do
  let d ← describeEnum e
  return ⟨d, d.mapping⟩

/-- What the attempts at all types come to; nothing, if a look-up on the way has no answer. -/
def attempts (d : Definitions Value) :
    Option (List (Except ConfigError EnumPlan) × List (Except ConfigError RecordTexts)) := do
  let enums ← d.enums.mapM fun e => (planEnum e).run
  let records ← d.records.mapM fun r => (planRecord scope r).run
  return (enums, records)

end ByLookUp

/-! ## What can be written out -/

/-- Every argument of the directives of a record and of its fields can be written out. -/
structure RecordDecl.IsPrintable (r : RecordDecl Value) : Prop where
  directives : ∀ d ∈ r.directives, d.IsPrintable
  fields : ∀ f ∈ r.fields, ∀ d ∈ f.directives, d.IsPrintable

/-- Every argument of the directives of the types can be written out: no integer among them has too many digits. -/
structure Definitions.IsPrintable (d : Definitions Value) : Prop where
  enums : ∀ e ∈ d.enums, ∀ a ∈ e.directives, a.IsPrintable
  records : ∀ r ∈ d.records, r.IsPrintable

/-! ## Described fields -/

/-- A key is read only for a map, or an optional one. -/
theorem isMap_of_readKey {ds : List (Directive Value)} {shape : Shape} {key? : Option String}
    (h : readKey ds shape = .ok key?) (hsome : key?.isSome = true) : shape.unwrapped.isMap = true := by
  rcases given?_eq_ok_iff.1 h with ⟨-, rfl⟩ | ⟨d, key, -, hread, rfl⟩
  · cases hsome
  · obtain ⟨k, -, hread⟩ := bind_eq_ok_iff.1 hread
    by_contra hmap
    rw [Bool.not_eq_true] at hmap
    rw [hmap] at hread
    cases hread

theorem FieldDecl.keyFits_of_describe {f : FieldDecl Value} {s : Symbols} {helpers : Option Value} {b : Bool}
    {g : FieldDescriptor} (h : f.describe s helpers b = .ok g) : g.KeyFits := by
  simp only [FieldDecl.describe, bind_eq_ok_iff, pure_eq_ok_iff] at h
  obtain ⟨-, -, -, -, -, -, -, -, -, -, -, -, -, -, -, -, key, hkey, -, -, rfl⟩ := h
  exact isMap_of_readKey hkey

namespace ByLookUp

variable {scope : Scope}

theorem renders_planRecord (hh : PrintsHelpers scope.helpers) {r : RecordDecl Value} (hr : r.IsPrintable) :
    Renders RecordPlan.texts (r.plan scope) (planRecord scope r) := by
  refine (renders_describeRecord scope.symbols scope.helpers hr.directives hr.fields hh).bind fun q hq =>
    renders_planDescribed ?_ fun g hg => ?_
  · obtain ⟨head, hhead, -, hdescriptor⟩ := RecordDecl.describe_eq_ok hq
    obtain ⟨htype, hfunction⟩ := r.ensures_isOf_readHead scope.helpers head hhead
    rw [hdescriptor]
    exact ⟨hh, fun g hg => (htype g hg).isPrintable hh, fun g hg => (hfunction g hg).isPrintable hh⟩
  · obtain ⟨head, -, hfields, -⟩ := RecordDecl.describe_eq_ok hq
    obtain ⟨f, -, hf⟩ := exists_of_forall₂ hfields hg
    exact ⟨FieldDecl.keyFits_of_describe hf, fun k hk => (FieldDecl.isOf_of_describe _ hf k hk).isPrintable hh⟩

theorem renders_planEnum {e : EnumDecl Value} (he : ∀ d ∈ e.directives, d.IsPrintable) :
    Renders id e.plan (planEnum e) :=
  (renders_describeEnum he).bind fun _ _ => .pure rfl

theorem attempts_eq (hh : PrintsHelpers scope.helpers) {d : Definitions Value} (hd : d.IsPrintable) :
    attempts scope d = some (d.enums.map (·.plan), d.records.map fun r => (r.plan scope).map RecordPlan.texts) := by
  have henums : d.enums.mapM (fun e => (planEnum e).run) = d.enums.mapM fun e => pure e.plan :=
    mapM_congr fun e he => congrArg ExceptT.run (renders_planEnum (hd.enums e he)).eq
  have hrecords : d.records.mapM (fun r => (planRecord scope r).run) =
      d.records.mapM fun r => pure ((r.plan scope).map RecordPlan.texts) :=
    mapM_congr fun r hr => congrArg ExceptT.run (renders_planRecord hh (hd.records r hr))
  rw [attempts, henums, hrecords, List.mapM_pure, List.mapM_pure]
  rfl

end ByLookUp

/-! ## Assemblies -/

namespace Definitions

variable (d : Definitions Value) (settings : Settings)

/-- The assembly has the plan of an enum, or its problem. -/
def CollectsEnum (e : EnumDecl Value) : Prop :=
  (∃ p ∈ (assemble d settings).enums, e.plan = .ok p) ∨
    ∃ x, e.plan = .error x ∧ x.atPath e.name ∈ (assemble d settings).errors

/-- The assembly has the plan of a record, or its problem, or, of a plan that is dropped, that a record of its name uses
a failed type. -/
def CollectsRecord (r : RecordDecl Value) : Prop :=
  (∃ p ∈ (assemble d settings).records, r.plan (d.scope settings) = .ok p) ∨
    (∃ x, r.plan (d.scope settings) = .error x ∧ x.atPath r.name ∈ (assemble d settings).errors) ∨
    (∃ p, r.plan (d.scope settings) = .ok p) ∧
      ∃ member cause, ⟨.dependsOnFailed cause, some (r.name ++ "." ++ member)⟩ ∈ (assemble d settings).errors

/-- An assembly comes to its end by problems that are collected. -/
structure Total : Prop where
  /-- Classification makes records of shapes. -/
  shapes : ∀ enumFlag (t : TypeExpr), t.rawShape d.symbols enumFlag = (t.shape d.symbols enumFlag).raw
  /-- No look-up is undefined on the way to a plan or to a problem. -/
  attempts : ByLookUp.attempts (d.scope settings) d =
    some (d.enums.map (·.plan), d.records.map fun r => (r.plan (d.scope settings)).map RecordPlan.texts)
  enums : ∀ e ∈ d.enums, d.CollectsEnum settings e
  records : ∀ r ∈ d.records, d.CollectsRecord settings r

variable {d settings}

theorem mem_errors_of_report {x : Report} (hx : x ∈ d.reports settings) : x.error ∈ (assemble d settings).errors := by
  rw [assemble_errors]
  exact List.mem_map_of_mem hx

theorem collectsEnum_of_mem {e : EnumDecl Value} (he : e ∈ d.enums) : d.CollectsEnum settings e := by
  cases hplan : e.plan with
  | ok p =>
    refine .inl ⟨p, ?_, hplan⟩
    rw [assemble_enums]
    exact mem_plans_iff.2 ⟨e, he, hplan⟩
  | error x =>
    refine .inr ⟨x, hplan, mem_errors_of_report (x := ⟨e.name, x.atPath e.name⟩) ?_⟩
    exact List.mem_append_left _ (List.mem_append_left _ (mem_failures_iff.2 ⟨e, he, x, hplan, rfl⟩))

theorem collectsRecord_of_mem {r : RecordDecl Value} (hr : r ∈ d.records) : d.CollectsRecord settings r := by
  cases hplan : r.plan (d.scope settings) with
  | error x =>
    refine .inr (.inl ⟨x, hplan, mem_errors_of_report (x := ⟨r.name, x.atPath r.name⟩) ?_⟩)
    exact List.mem_append_left _ (List.mem_append_right _ (mem_failures_iff.2 ⟨r, hr, x, hplan, rfl⟩))
  | ok p =>
    have hp : p ∈ d.recordPlans settings := mem_plans_iff.2 ⟨r, hr, hplan⟩
    have hname := (RecordDecl.mirrors_of_plan hplan).name
    by_cases hdropped : p.name ∈ (d.drop settings).2.map (·.record)
    · -- Names may be declared twice, so it may be another record of this name that uses the failed type.
      obtain ⟨x, hx, hxname⟩ := List.mem_map.1 hdropped
      have herror := mem_errors_of_report (List.mem_append_right _ (List.mem_map_of_mem hx))
      rw [Dropped.error, hxname, hname] at herror
      exact .inr (.inr ⟨⟨p, hplan⟩, x.member, x.cause, herror⟩)
    · refine .inl ⟨p, ?_, hplan⟩
      rw [assemble_records, drop, dropDependents_left]
      exact List.mem_filter.2 ⟨hp, by simpa [drop] using hdropped⟩

/-- An assembly comes to its end, whatever is declared, if the arguments of the directives and the helpers module can be
written out. -/
theorem assemble_total (hd : d.IsPrintable) (hs : PrintsHelpers settings.helpers) : d.Total settings where
  shapes enumFlag t := t.rawShape_eq d.symbols enumFlag
  attempts := ByLookUp.attempts_eq hs hd
  enums _ he := collectsEnum_of_mem he
  records _ hr := collectsRecord_of_mem hr

end Definitions

/-! ## Numbers as defaults -/

/-- The least number of more than `k` digits. -/
def leastBeyond (k : Nat) : Nat := Nat.pow 10 k

theorem length_toDigits_le_iff_lt_leastBeyond {k : Nat} (hk : 0 < k) (n : Nat) :
    (Nat.toDigits 10 n).length ≤ k ↔ n < leastBeyond k :=
  Nat.length_toDigits_le_iff (by decide) hk

/-- A field whose default is a number. -/
def numberDefault (n : Int) : FieldDecl Value := ⟨"size", .named "int32", none, [⟨"default", [⟨none, .integer n⟩]⟩]⟩

section Numbers

variable (n : Int)

theorem directive?_numberDefault {name : String} (h : "default" ≠ name) :
    directive? (numberDefault n).directives name = none := by
  simp [numberDefault, directive?, h]

theorem checkAll_numberDefault : Directive.checkAll .field (numberDefault n).directives = .ok () := by
  simp [numberDefault, Directive.checkAll, Directive.firstFault?, DirectiveHost.directives, fieldDirectives]

theorem checkExclusive_numberDefault : checkExclusive (numberDefault n).directives = .ok () := by
  simp [checkExclusive, isGiven, directive?_numberDefault, pure, Except.pure]

theorem readOptionality_numberDefault : readOptionality (numberDefault n).directives = .ok none := by
  rw [readOptionality, given?, given?, directive?_numberDefault n (by simp), directive?_numberDefault n (by simp)]
  rfl

/-- A number is no reference to a function. -/
theorem readDefault_numberDefault (helpers : Option Value) : readDefault helpers (numberDefault n).directives =
    problem (.badReference .malformed (.integer n)) := by
  have hgiven : directive? (numberDefault n).directives "default" = some ⟨"default", [⟨none, .integer n⟩]⟩ := by
    simp [numberDefault, directive?]
  rw [readDefault, given?, hgiven]
  rfl

theorem describe_numberDefault (symbols : Symbols) (helpers : Option Value) (b : Bool) :
    (numberDefault n).describe symbols helpers b = problem (.badReference .malformed (.integer n)) := by
  unfold FieldDecl.describe
  dsimp only
  rw [checkAll_numberDefault, checkExclusive_numberDefault, readOptionality_numberDefault, readDefault_numberDefault]
  rfl

variable {n}

theorem isPrintable_integer_iff : (Value.integer n).isPrintable = true ↔ n.natAbs < leastBeyond maxDigits :=
  decide_eq_true_iff.trans (length_toDigits_le_iff_lt_leastBeyond (by decide) n.natAbs)

/-- The message about a number of too many digits cannot be written out. -/
theorem ByLookUp.describeField_numberDefault (h : leastBeyond maxDigits ≤ n.natAbs) (symbols : Symbols)
    (helpers : Option Value) (b : Bool) : describeField symbols helpers (numberDefault n) b = ExceptT.mk none := by
  have hmessage : (Problem.badReference .malformed (.integer n)).message? = none := by
    refine if_neg fun hall => ?_
    rw [Problem.shown, List.all_cons, Bool.and_eq_true] at hall
    exact absurd (isPrintable_integer_iff.1 hall.1) (Nat.not_lt.2 h)
  have hdefault :
      Partial.of (problem (.badReference .malformed (.integer n)) : Except ConfigError (Option DefaultFill)) =
        ExceptT.mk none := by
    rw [problem, Partial.of, Located.nowhere, hmessage]
    rfl
  unfold describeField
  dsimp only
  rw [checkAll_numberDefault, checkExclusive_numberDefault, readOptionality_numberDefault, readDefault_numberDefault,
    hdefault]
  rfl

/-- A record of such a field. -/
def numberRecord (n : Int) : RecordDecl Value := ⟨"Reading", [numberDefault n], none, [], false⟩

theorem RecordDecl.unknownIgnored?_nil (r : RecordDecl Value) : r.unknownIgnored? [] = none := by
  simp [unknownIgnored?, Text.sortTexts]

variable (n) in
theorem plan_numberRecord (scope : Scope) : (numberRecord n).plan scope =
    .error ⟨.badReference .malformed (.integer n), some ("Reading" ++ "." ++ "size")⟩ := by
  have hhead : (numberRecord n).readHead scope.helpers = .ok ⟨"Reading", none, none, []⟩ := rfl
  unfold RecordDecl.plan RecordDecl.describe RecordDecl.describeFields
  rw [hhead]
  dsimp only [placedAt, Except.mapError, bind, Except.bind]
  rw [RecordDecl.unknownIgnored?_nil, numberRecord, List.mapM_cons, describe_numberDefault]
  rfl

theorem ByLookUp.planRecord_numberRecord (h : leastBeyond maxDigits ≤ n.natAbs) (scope : Scope) :
    planRecord scope (numberRecord n) = ExceptT.mk none := by
  have hhead : Partial.placedAt (numberRecord n).name (readHead scope.helpers (numberRecord n)) =
    pure ⟨"Reading", none, none, []⟩ := rfl
  unfold planRecord describeRecord
  rw [hhead, pure_bind]
  dsimp only
  rw [RecordDecl.unknownIgnored?_nil, numberRecord, List.mapM_cons, describeField_numberDefault h]
  rfl

end Numbers

namespace Definitions

def numberDefaults (n : Int) : Definitions Value := ⟨[], [numberRecord n], []⟩

/-- A number that can be written out is no reference to a function, which is a problem of the field. -/
theorem assemble_total_numberDefaults : (numberDefaults 5).IsPrintable ∧ PrintsHelpers sampleSettings.helpers ∧
    ByLookUp.attempts ((numberDefaults 5).scope sampleSettings) (numberDefaults 5) =
      some ([], [.error ⟨.badReference .malformed (.integer 5), some "Reading.size"⟩]) := by
  have hd : (numberDefaults 5).IsPrintable := by
    refine ⟨List.forall_mem_nil _, List.forall_mem_singleton.2 ⟨List.forall_mem_nil _, ?_⟩⟩
    refine List.forall_mem_singleton.2 (List.forall_mem_singleton.2 (List.forall_mem_singleton.2 ?_))
    decide
  have hs : PrintsHelpers sampleSettings.helpers := by
    rintro v ⟨⟩
    rfl
  refine ⟨hd, hs, ?_⟩
  rw [(assemble_total hd hs).attempts, numberDefaults, List.map_singleton, plan_numberRecord]
  rfl

/-- With a default of too many digits there is no answer for the record. -/
theorem not_assemble_total_oversized : ¬ ∀ (d : Definitions Value) (settings : Settings), d.Total settings := by
  intro hall
  have hoversized : leastBeyond maxDigits ≤ (leastBeyond maxDigits : Int).natAbs := by rw [Int.natAbs_natCast]
  have hnone : ByLookUp.attempts ((numberDefaults (leastBeyond maxDigits)).scope sampleSettings)
      (numberDefaults (leastBeyond maxDigits)) = none := by
    rw [ByLookUp.attempts, numberDefaults, List.mapM_cons, ByLookUp.planRecord_numberRecord hoversized]
    rfl
  have hsome := (hall (numberDefaults (leastBeyond maxDigits)) sampleSettings).attempts
  rw [hnone] at hsome
  cases hsome

end Definitions

end WireBridge
