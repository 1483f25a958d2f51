import WireBridge.Proofs.Assembly.Fields
import WireBridge.Proofs.Code.Block
import WireBridge.Proofs.Conversion.Tests

/-!
# Absence in generated code

What the generated code of a surviving record does where a wire value is missing.

* `absence_policy` : when the code of a field tests for absence, and for which kind of it. The policy is stated in terms
  of the field and its resolved absence (`IsTested`, `IsTestedEmpty`), for all strategies at once;
* `missing_branch` : what follows the test. An error ends the branch, and the conversion comes after it. A default
  leaves the conversion to the other branch, unless the name of the field begins like a line that raises. Then the
  conversion comes after the default as well, and takes its place (`not_missing_branch_apart`).
-/

set_option autoImplicit false

namespace WireBridge

/-! ## Policy -/

namespace FieldDescriptor

variable (f : FieldDescriptor) (expects : Bool) (kind : AbsenceKind)

/-- The field is a collection or an optional one. -/
def HoldsCollection : Prop := f.shape.isCollection ∨ f.shape.isOptionalCollection

/-- The absence of the field is tested, where it is resolved to some kind and the field itself expects presence or
does not. -/
def IsTested : Prop :=
  (f.HoldsCollection ∧ (kind = .default ∨ expects ∧ (kind = .error ∨ kind = .panic))) ∨
    (¬ f.HoldsCollection ∧ f.wireOptional ∧ (¬ f.shape.isOptional ∨ kind = .default ∨ expects))

/-- An empty collection counts as absent. -/
def IsTestedEmpty : Prop :=
  (f.HoldsCollection ∧ expects ∧ (kind = .error ∨ kind = .panic)) ∨ (f.shape.isOptionalCollection ∧ kind = .default)

instance : Decidable f.HoldsCollection := inferInstanceAs (Decidable (_ ∨ _))

instance : Decidable (f.IsTested expects kind) := inferInstanceAs (Decidable (_ ∨ _))

instance : Decidable (f.IsTestedEmpty expects kind) := inferInstanceAs (Decidable (_ ∨ _))

/-- The condition of the absence test. -/
def condition : String :=
  if f.IsTestedEmpty expects kind then "not wire." ++ f.wireName else "wire." ++ f.wireName ++ " is None"

variable {f expects kind}

theorem holdsCollection_iff : f.HoldsCollection ↔ f.shape.unwrapped.isCollection = true := by
  unfold HoldsCollection Shape.isOptionalCollection
  cases f.shape <;> simp [Shape.unwrapped, Shape.isOptional, Shape.isCollection, Shape.collection?]

theorem absenceTest?_eq : absenceTest? f expects kind =
    if f.IsTested expects kind then
      some (if f.IsTestedEmpty expects kind then .isEmpty f.wireSource else .isNone f.wireSource)
    else none := by
  simp only [absenceTest?, IsTested, IsTestedEmpty, holdsCollection_iff, Shape.isOptionalCollection]
  cases f.shape.unwrapped.isCollection <;> cases f.shape.isOptional <;> cases f.wireOptional <;> cases expects <;>
    cases kind <;> simp

theorem text_absenceTest : AbsenceTest.text
    (if f.IsTestedEmpty expects kind then .isEmpty f.wireSource else .isNone f.wireSource) =
      f.condition expects kind := by
  have hnot : "not " ++ "wire." = "not wire." := by decide
  have hempty : (AbsenceTest.isEmpty f.wireSource).text = "not " ++ ("wire." ++ f.wireName) := rfl
  unfold condition
  split
  · rw [hempty, ← String.append_assoc, hnot]
  · rfl

end FieldDescriptor

/-- The plan of a field reads it from the wire by the policy. `expects` tells whether the field itself expects
presence. -/
structure FieldPlan.FollowsPolicy (scope : Scope) (r : RecordDescriptor) (expects : Bool) (x : FieldPlan) : Prop where
  resolved : ∃ rule, resolveAbsence x.descriptor r = .ok ⟨x.absence, rule⟩
  tested : x.descriptor.IsTested expects x.absence.kind → ∃ action present rest,
    missingAction scope x.descriptor x.absence r = .ok action ∧
    (x.absence.kind = .unhandled → action = .raise (.absent x.descriptor.wireName)) ∧
    x.artifact.fromWire.lines =
      ("if " ++ x.descriptor.condition expects x.absence.kind ++ ":") :: ("    " ++ action.line) :: rest ∧
    (rest = [assignment x.descriptor.localName present] ∨
      rest = ["else:", "    " ++ assignment x.descriptor.localName present])
  bound : ¬ x.descriptor.IsTested expects x.absence.kind →
    ∃ value, x.artifact.fromWire.lines = [assignment x.descriptor.localName value]

theorem FieldPlan.PlannedFrom.followsPolicy {scope : Scope} {r : RecordDescriptor} {f : FieldDecl Value}
    {x : FieldPlan} (h : x.PlannedFrom scope r f) (hn : r.newtype = false) (hi : x.descriptor.ignored = false)
    (hc : x.descriptor.custom = none) : x.FollowsPolicy scope r (isGiven f.directives "expect") := by
  obtain ⟨rule, hresolved⟩ := h.absence
  have hbinds : x.artifact.fromWire.Binds scope x.descriptor x.absence r
      (absenceTest? x.descriptor (isGiven f.directives "expect") x.absence.kind) := by
    have hconverts := h.converts hn
    rw [h.strategy] at hconverts
    rw [← h.expects]
    exact ensures_fromWire_convertField
      (ensures_absenceTest (kind_ne_unhandled_of_explicit hresolved) hi hc h.collection) _ hconverts
  rw [FieldDescriptor.absenceTest?_eq] at hbinds
  refine ⟨⟨rule, hresolved⟩, fun ht => ?_, fun ht => ?_⟩
  · rw [if_pos ht] at hbinds
    obtain ⟨action, present, haction, hblock⟩ := hbinds
    have hlines := congrArg Block.lines hblock
    rw [Block.lines_guarded, FieldDescriptor.text_absenceTest] at hlines
    refine ⟨action, present.text, _, haction, fun hk => ?_, hlines, ?_⟩
    · exact Except.ok.inj (haction.symm.trans (missingAction_of_unhandled scope _ r hk))
    · split
      · exact .inl rfl
      · exact .inr rfl
  · rw [if_neg ht] at hbinds
    obtain ⟨e, hblock⟩ := hbinds
    exact ⟨e.text, by rw [hblock]; rfl⟩

namespace Definitions

/-- The code of a surviving record follows the policy for every field that it converts itself. -/
theorem absence_policy (d : Definitions Value) (settings : Settings) :
    ∀ p ∈ (assemble d settings).records, p.descriptor.newtype = false →
      ∃ r ∈ d.records, r.plan (d.scope settings) = .ok p ∧
        List.Forall₂ (fun f x => x.descriptor.ignored = false → x.descriptor.custom = none →
          x.FollowsPolicy (d.scope settings) p.descriptor (isGiven f.directives "expect")) r.fields p.fields := by
  intro p hp hn
  obtain ⟨r, hr, hplan, hdescribes⟩ := exists_of_mem_records hp
  have hplanned : r.plannedFields = r.fields :=
    RecordDecl.plannedFields_eq fun h => by simp [← hdescribes.newtype, hn] at h
  refine ⟨r, hr, hplan, ?_⟩
  rw [← hplanned]
  exact hdescribes.fields.imp fun f x h hi hc => h.followsPolicy hn hi hc

/-- Fields with a default, one of them with a name that begins like a line that raises, one that is expected, and an
optional. -/
def absences : Definitions Value where
  enums := []
  records := [⟨"Reading", [
    ⟨"size", .named "int32", none, [⟨"default", []⟩]⟩,
    ⟨"raised", .named "int32", none, [⟨"default", []⟩]⟩,
    ⟨"tags", .mk "list" [.named "string"] false, none, [⟨"expect", []⟩]⟩,
    ⟨"note", .mk "optional" [.named "string"] false, none, []⟩], none, [], false⟩]
  options := []

/-- The first lines of each field of `absences`. -/
def absencesHeads : List (List String) :=
  [["if wire.size is None:", "    size_ = 0"],
    ["if wire.raised is None:", "    raised_ = 0"],
    ["if not wire.tags:", "    raise ReadingConversionError(\"tags\")"],
    ["note_ = wire.note"]]

theorem absence_policy_absences : ∃ p ∈ (assemble absences sampleSettings).records,
    p.descriptor.newtype = false ∧ p.fields.map (·.artifact.fromWire.lines.take 2) = absencesHeads ∧
    ∃ r ∈ absences.records, r.plan (absences.scope sampleSettings) = .ok p ∧
      List.Forall₂ (fun f x => x.descriptor.ignored = false → x.descriptor.custom = none →
        x.FollowsPolicy (absences.scope sampleSettings) p.descriptor (isGiven f.directives "expect")) r.fields
        p.fields := by
  obtain ⟨p, hp, hn, hlines⟩ : ∃ p ∈ (assemble absences sampleSettings).records, p.descriptor.newtype = false ∧
      p.fields.map (·.artifact.fromWire.lines.take 2) = absencesHeads := by decide +kernel
  exact ⟨p, hp, hn, hlines, absence_policy absences sampleSettings p hp hn⟩

/-! ## Branches -/

end Definitions

theorem missingAction_of_default {scope : Scope} {f : FieldDescriptor} {a : Absence} {r : RecordDescriptor}
    {action : MissingAction} (h : missingAction scope f a r = .ok action) (hk : a.kind = .default) :
    ∃ v, action = .fill f.localName v := by
  simp only [missingAction, hk] at h
  obtain ⟨v, -, h⟩ := bind_eq_ok_iff.1 h
  cases h
  exact ⟨v, rfl⟩

namespace Definitions

/-- What follows an absence test in the code of a surviving record: an error, and then the conversion at the margin, or
a default. The conversion stands apart from a default, in the other branch, unless the name of the field begins like a
line that raises. -/
theorem missing_branch (d : Definitions Value) (settings : Settings) :
    ∀ p ∈ (assemble d settings).records, p.descriptor.newtype = false → ∀ x ∈ p.fields,
      ∀ test action name present, x.artifact.fromWire = .guarded test action name present →
        (x.absence.kind = .default → ∃ v, action = .fill x.descriptor.localName v ∧
          x.artifact.fromWire.lines =
            if beginsLikeRaise x.descriptor.nativeName then
              ["if " ++ test.text ++ ":", "    " ++ assignment x.descriptor.localName v.text,
                assignment x.descriptor.localName present.text]
            else
              ["if " ++ test.text ++ ":", "    " ++ assignment x.descriptor.localName v.text,
                "else:", "    " ++ assignment x.descriptor.localName present.text]) ∧
        ∀ e, action = .raise e → x.artifact.fromWire.lines =
          ["if " ++ test.text ++ ":", "    raise " ++ e.text, assignment x.descriptor.localName present.text] := by
  intro p hp hn x hx test action name present hblock
  obtain ⟨r, -, -, hdescribes⟩ := exists_of_mem_records hp
  obtain ⟨f, -, hplanned⟩ := exists_of_forall₂ hdescribes.fields hx
  obtain ⟨haction, rfl⟩ := ensures_fromWire_convertField (ensures_answers_directions _) _ (hplanned.converts hn)
    test action name present hblock
  refine ⟨fun hk => ?_, fun e he => ?_⟩
  · obtain ⟨v, rfl⟩ := missingAction_of_default haction hk
    refine ⟨v, rfl, ?_⟩
    rw [hblock, Block.lines_guarded, FieldDescriptor.localName, leavesBranch_fill]
    split <;> rfl
  · subst he
    have hraise : "    " ++ (MissingAction.raise e).line = "    raise " ++ e.text := by
      simp [MissingAction.line, ← String.append_assoc]
    rw [hblock, Block.lines_guarded, leavesBranch_raise, if_pos rfl, hraise]

/-- The block of a number with a default. -/
def numberBlock (name : String) : Block :=
  .guarded (.isNone (.source ("wire." ++ name))) (.fill (localName name) (.constant .int32)) (localName name)
    (.source ("wire." ++ name))

theorem missing_branch_absences : ∃ p ∈ (assemble absences sampleSettings).records, p.descriptor.newtype = false ∧
    (∃ x ∈ p.fields, x.absence.kind = .default ∧ x.artifact.fromWire = numberBlock "size" ∧
      x.artifact.fromWire.lines = ["if wire.size is None:", "    size_ = 0", "else:", "    size_ = wire.size"]) ∧
    ∃ x ∈ p.fields, x.absence.kind = .default ∧ x.artifact.fromWire = numberBlock "raised" ∧
      x.artifact.fromWire.lines = ["if wire.raised is None:", "    raised_ = 0", "raised_ = wire.raised"] := by
  obtain ⟨p, hp, hn, ⟨x, hx, hname, hk, hblock⟩, y, hy, hname', hk', hblock'⟩ :
      ∃ p ∈ (assemble absences sampleSettings).records, p.descriptor.newtype = false ∧
        (∃ x ∈ p.fields, x.descriptor.nativeName = "size" ∧ x.absence.kind = .default ∧
          x.artifact.fromWire = numberBlock "size") ∧
        ∃ x ∈ p.fields, x.descriptor.nativeName = "raised" ∧ x.absence.kind = .default ∧
          x.artifact.fromWire = numberBlock "raised" := by decide +kernel
  obtain ⟨v, hv, hlines⟩ := (missing_branch absences sampleSettings p hp hn x hx _ _ _ _ hblock).1 hk
  obtain ⟨v', hv', hlines'⟩ := (missing_branch absences sampleSettings p hp hn y hy _ _ _ _ hblock').1 hk'
  obtain rfl : v = .constant .int32 := (MissingAction.fill.inj hv).2.symm
  obtain rfl : v' = .constant .int32 := (MissingAction.fill.inj hv').2.symm
  rw [FieldDescriptor.localName, hname] at hlines
  rw [FieldDescriptor.localName, hname'] at hlines'
  exact ⟨p, hp, hn, ⟨x, hx, hk, hblock, hlines⟩, y, hy, hk', hblock', hlines'⟩

/-- A default does not always keep the conversion in the other branch. -/
theorem not_missing_branch_apart : absences.typeNames.Nodup ∧
    ¬ ∀ p ∈ (assemble absences sampleSettings).records, p.descriptor.newtype = false → ∀ x ∈ p.fields,
      x.absence.kind = .default → ∀ test action name present,
        x.artifact.fromWire = .guarded test action name present → ∃ v,
          x.artifact.fromWire.lines =
            ["if " ++ test.text ++ ":", "    " ++ assignment x.descriptor.localName v,
              "else:", "    " ++ assignment x.descriptor.localName present.text] := by
  refine ⟨by decide, fun hall => ?_⟩
  obtain ⟨p, hp, hn, x, hx, hk, hblock, hlength⟩ : ∃ p ∈ (assemble absences sampleSettings).records,
      p.descriptor.newtype = false ∧ ∃ x ∈ p.fields, x.absence.kind = .default ∧
        x.artifact.fromWire = numberBlock "raised" ∧ x.artifact.fromWire.lines.length = 3 := by decide +kernel
  obtain ⟨v, hlines⟩ := hall p hp hn x hx hk _ _ _ _ hblock
  rw [hlines] at hlength
  exact absurd hlength (by simp)

end Definitions

end WireBridge
