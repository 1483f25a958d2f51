import WireBridge.Proofs.Assembly.Fields
import WireBridge.Proofs.Conversion.Defaults
import WireBridge.Proofs.Definition.WellFormed

/-!
# Defaults of surviving records

Two parts of a generated module have to agree. A field may take an object of a record as its default, which is built
without arguments, where the search for type defaults allows it; and the class of that record has to give a default to
every field for that. The search looks at the declaration, the class is written from the plan.

They agree for every record that is planned with all of its fields (`typeDefault_iff`), whatever cycles there are. A
newtype that is declared with more fields than it wraps has no plan for the others, but the search looks at those too
(`not_typeDefault_iff_planned`).
-/

set_option autoImplicit false

namespace WireBridge

theorem forall_mem_iff_of_forall₂ {α β : Type} {R : α → β → Prop} {P : α → Prop} {Q : β → Prop}
    (hR : ∀ a b, R a b → (P a ↔ Q b)) {as : List α} {bs : List β} (h : List.Forall₂ R as bs) :
    (∀ a ∈ as, P a) ↔ ∀ b ∈ bs, Q b := by
  induction h with
  | nil => simp
  | cons hab _ ih => rw [List.forall_mem_cons, List.forall_mem_cons, hR _ _ hab, ih]

/-! ## Fields -/

/-- The fields of a record that its plan leaves out. -/
def RecordDecl.unplannedFields (r : RecordDecl Value) : List (FieldDecl Value) :=
  if r.newtype then r.fields.drop 1 else []

theorem RecordDecl.planned_append_unplanned (r : RecordDecl Value) :
    r.plannedFields ++ r.unplannedFields = r.fields := by
  unfold plannedFields unplannedFields
  split
  · exact List.take_append_drop 1 r.fields
  · exact List.append_nil _

theorem RecordDecl.unplannedFields_of_wraps {r : RecordDecl Value} (h : r.Wraps) : r.unplannedFields = [] := by
  unfold unplannedFields
  split
  · next hn => exact List.drop_of_length_le (h hn).le
  · rfl

/-- The field names a function for its default, or its type has one. -/
def FieldDecl.HasDefault (scope : Scope) (f : FieldDecl Value) : Prop :=
  f.namesDefault = true ∨ hasTypeDefault scope [] (f.shape scope.symbols) = true

theorem FieldPlan.PlannedFrom.isSome_default_iff {scope : Scope} {r : RecordDescriptor} {f : FieldDecl Value}
    {x : FieldPlan} (h : x.PlannedFrom scope r f) : f.HasDefault scope ↔ x.default.isSome = true := by
  have hinitial := NativeDefault.isSome_of_ofField h.initial
  rw [h.namesDefault, h.shape] at hinitial
  rw [FieldPlan.default, Option.isSome_map, hinitial, Bool.or_eq_true, FieldDecl.HasDefault]

/-! ## Records -/

namespace Definitions

/-- The type of a surviving record has a default exactly if each planned field has one in the class and each field
without a plan would have one. -/
theorem typeDefault_iff (d : Definitions Value) (settings : Settings) (hn : d.typeNames.Nodup) :
    ∀ p ∈ (assemble d settings).records, ∃ r ∈ d.records, r.plan (d.scope settings) = .ok p ∧ r.name = p.name ∧
      (hasTypeDefault (d.scope settings) [] (.custom p.name) = true ↔
        (∀ x ∈ p.fields, x.default.isSome = true) ∧ ∀ f ∈ r.unplannedFields, f.HasDefault (d.scope settings)) ∧
      (r.Wraps → (hasTypeDefault (d.scope settings) [] (.custom p.name) = true ↔
        ∀ x ∈ p.fields, x.default.isSome = true)) := by
  intro p hp
  obtain ⟨r, hr, hplan, hdescribes⟩ := exists_of_mem_records hp
  have hrecord : d.symbols.record? p.name = some r :=
    (Symbols.record?_eq_some_iff (List.nodup_append.1 hn).2.1).2 ⟨hr, hdescribes.name.symm⟩
  have hsearch : hasTypeDefault (d.scope settings) [] (.custom p.name) = true ↔
      (∀ x ∈ p.fields, x.default.isSome = true) ∧ ∀ f ∈ r.unplannedFields, f.HasDefault (d.scope settings) := by
    rw [← forall_mem_iff_of_forall₂ (fun f x h => h.isSome_default_iff) hdescribes.fields, ← List.forall_mem_append,
      r.planned_append_unplanned]
    exact hasTypeDefault_custom_iff hrecord
  refine ⟨r, hr, hplan, hdescribes.name.symm, hsearch, fun hw => ?_⟩
  rw [hsearch, RecordDecl.unplannedFields_of_wraps hw]
  simp

/-- `Loop` holds itself, and `Node` may hold another of its kind. -/
def cycles : Definitions Value where
  enums := []
  records := [
    .plain "Loop" [("loop", .named "Loop")],
    .plain "Node" [("next", .mk "optional" [.named "Node"] false), ("size", .named "int32")]]
  options := []

theorem typeDefault_iff_cycles : cycles.typeNames.Nodup ∧
    (∃ p ∈ (assemble cycles sampleSettings).records, p.name = "Loop" ∧
      hasTypeDefault (cycles.scope sampleSettings) [] (.custom p.name) = false) ∧
    ∃ p ∈ (assemble cycles sampleSettings).records, p.name = "Node" ∧
      hasTypeDefault (cycles.scope sampleSettings) [] (.custom p.name) = true := by
  have hn : cycles.typeNames.Nodup := by decide
  have hwraps : ∀ r ∈ cycles.records, r.newtype = false := by decide
  obtain ⟨⟨p, hp, hname, x, hx, hnone⟩, q, hq, hname', hsome⟩ :
      (∃ p ∈ (assemble cycles sampleSettings).records, p.name = "Loop" ∧ ∃ x ∈ p.fields, x.default = none) ∧
      ∃ p ∈ (assemble cycles sampleSettings).records, p.name = "Node" ∧
        ∀ x ∈ p.fields, x.default.isSome = true := by decide +kernel
  obtain ⟨r, hr, -, -, -, hiff⟩ := typeDefault_iff cycles sampleSettings hn p hp
  obtain ⟨r', hr', -, -, -, hiff'⟩ := typeDefault_iff cycles sampleSettings hn q hq
  refine ⟨hn, ⟨p, hp, hname, ?_⟩, q, hq, hname', ?_⟩
  · rw [← Bool.not_eq_true, hiff fun h => by simp [hwraps r hr] at h]
    exact fun hall => by simpa [hnone] using hall x hx
  · exact (hiff' fun h => by simp [hwraps r' hr'] at h).2 hsome

/-- A newtype that is declared with a field besides the one it wraps, of a type without a default. -/
def undefaulted : Definitions Value where
  enums := []
  records := [
    { RecordDecl.plain "Wide" [("value", .named "int32"), ("other", .named "Unknown")] with newtype := true }]
  options := []

/-- The newtype survives, and the only field of its class has a default, but its type has none. -/
theorem not_typeDefault_iff_planned : undefaulted.typeNames.Nodup ∧
    ¬ ∀ p ∈ (assemble undefaulted sampleSettings).records,
      hasTypeDefault (undefaulted.scope sampleSettings) [] (.custom p.name) = true ↔
        ∀ x ∈ p.fields, x.default.isSome = true := by
  decide +kernel

end Definitions

end WireBridge
