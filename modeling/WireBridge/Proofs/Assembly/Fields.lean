import WireBridge.Proofs.Assembly.Stages
import WireBridge.Proofs.Descriptor.Directives

/-!
# Plans of fields

What a plan says of the fields of a record, all of it at once: `FieldPlan.Planned` is what every decision in the plan
of a field came from, and `PlanDescribes` what ties the planned fields to the declared ones, one by one. A record that
survives an assembly has a plan like that (`Definitions.exists_of_mem_records`).
-/

set_option autoImplicit false

namespace WireBridge

/-- The decisions in the plan of a field of a record, with the code of a newtype or of any other record. -/
structure FieldPlan.Planned (scope : Scope) (r : RecordDescriptor) (x : FieldPlan) : Prop where
  absence : ∃ rule, resolveAbsence x.descriptor r = .ok ⟨x.absence, rule⟩
  strategy : x.strategy = (resolveStrategy x.descriptor x.absence).outcome
  wraps : r.newtype = true → wrapField scope x.descriptor = .ok x.artifact
  converts : r.newtype = false → convertField scope x.descriptor x.strategy x.absence r = .ok x.artifact
  type : NativeType.ofShape scope x.descriptor.shape = .ok x.type
  initial : NativeDefault.ofField scope x.descriptor = .ok x.initial

theorem planWith_eq_ok {scope : Scope} {r : RecordDescriptor} {f : FieldDescriptor}
    {code : Strategy → Absence → Except ConfigError Artifact} {x : FieldPlan} (h : planWith scope r f code = .ok x) :
    x.descriptor = f ∧ (∃ rule, resolveAbsence f r = .ok ⟨x.absence, rule⟩) ∧
      x.strategy = (resolveStrategy f x.absence).outcome ∧ code x.strategy x.absence = .ok x.artifact ∧
      NativeType.ofShape scope f.shape = .ok x.type ∧ NativeDefault.ofField scope f = .ok x.initial := by
  simp only [planWith, bind_eq_ok_iff, pure_eq_ok_iff] at h
  obtain ⟨⟨absence, rule⟩, habsence, artifact, hartifact, type, htype, initial, hinitial, rfl⟩ := h
  exact ⟨rfl, ⟨rule, habsence⟩, rfl, hartifact, htype, hinitial⟩

theorem planned_of_planField {scope : Scope} {r : RecordDescriptor} {f : FieldDescriptor} {x : FieldPlan}
    (hr : r.newtype = false) (h : planField scope r f = .ok x) : x.descriptor = f ∧ x.Planned scope r := by
  obtain ⟨rfl, habsence, hstrategy, hartifact, htype, hinitial⟩ := planWith_eq_ok (placedAt_eq_ok_iff.1 h)
  exact ⟨rfl, habsence, hstrategy, fun hn => by simp [hr] at hn, fun _ => hartifact, htype, hinitial⟩

theorem planned_of_planWrapped {scope : Scope} {r : RecordDescriptor} {f : FieldDescriptor} {x : FieldPlan}
    (hr : r.newtype = true) (h : planWrapped scope r f = .ok x) : x.descriptor = f ∧ x.Planned scope r := by
  obtain ⟨rfl, habsence, hstrategy, hartifact, htype, hinitial⟩ := planWith_eq_ok (placedAt_eq_ok_iff.1 h)
  exact ⟨rfl, habsence, hstrategy, fun _ => hartifact, fun hn => by simp [hr] at hn, htype, hinitial⟩

/-! ## Records -/

/-- The planned fields of a record that is described. -/
theorem RecordDescriptor.forall₂_of_plan {q : RecordDescriptor} {scope : Scope} {p : RecordPlan}
    (h : q.plan scope = .ok p) : List.Forall₂ (fun g x => x.descriptor = g ∧ x.Planned scope q)
      (if q.newtype then q.fields.take 1 else q.fields) p.fields := by
  unfold RecordDescriptor.plan at h
  split at h
  · cases h
  · next g gs hgs =>
    split at h
    · next hn =>
      obtain ⟨x, hx, rfl⟩ := map_eq_ok_iff.1 h
      rw [if_pos hn, hgs]
      exact .cons (planned_of_planWrapped hn hx) .nil
    · next hn =>
      obtain ⟨xs, hxs, rfl⟩ := map_eq_ok_iff.1 h
      rw [if_neg hn]
      exact (forall₂_of_mapM_eq_ok hxs).imp fun g x hx => planned_of_planField (Bool.eq_false_iff.2 hn) hx

/-- The plan of a field beside its declaration. -/
structure FieldPlan.PlannedFrom (scope : Scope) (r : RecordDescriptor) (f : FieldDecl Value) (x : FieldPlan) : Prop
    extends x.Planned scope r, Mirrors scope.symbols f x.descriptor, DescribedBy f x.descriptor

/-- The plan of a record beside its declaration. -/
structure PlanDescribes (scope : Scope) (r : RecordDecl Value) (p : RecordPlan) : Prop where
  name : p.name = r.name
  newtype : p.descriptor.newtype = r.newtype
  fields : List.Forall₂ (FieldPlan.PlannedFrom scope p.descriptor) r.plannedFields p.fields

theorem forall₂_trans {α β γ : Type} {R : α → β → Prop} {S : β → γ → Prop} {T : α → γ → Prop}
    (hRS : ∀ a b c, R a b → S b c → T a c) {as : List α} {bs : List β} {cs : List γ} (hR : List.Forall₂ R as bs)
    (hS : List.Forall₂ S bs cs) : List.Forall₂ T as cs := by
  induction hR generalizing cs with
  | nil =>
    cases hS
    exact .nil
  | cons hab _ ih =>
    cases hS with
    | cons hbc hS => exact .cons (hRS _ _ _ hab hbc) (ih hS)

/-- A planned record, taken apart: what the directives of its declaration say, and the plans of its fields. -/
theorem RecordDecl.plan_eq_ok {r : RecordDecl Value} {scope : Scope} {p : RecordPlan}
    (h : r.plan scope = .ok p) : ∃ head, r.readHead scope.helpers = .ok head ∧
      p.descriptor = ⟨r.name, head.wireName, p.descriptor.fields, head.errorType, head.errorFunction, r.newtype,
        r.comment⟩ ∧
      List.Forall₂ (fun f x =>
        f.describe scope.symbols scope.helpers (head.ignored.contains f.name) = .ok x.descriptor ∧
          x.Planned scope p.descriptor) r.plannedFields p.fields := by
  obtain ⟨q, hq, hplan⟩ := bind_eq_ok_iff.1 h
  have hfields := RecordDescriptor.forall₂_of_plan hplan
  obtain rfl := (RecordDescriptor.descriptors_of_plan hplan).1
  obtain ⟨head, hhead, hdescribe, hdescriptor⟩ := describe_eq_ok hq
  have hnewtype : p.descriptor.newtype = r.newtype := by rw [hdescriptor]
  have hplanned : List.Forall₂ (fun f g => f.describe scope.symbols scope.helpers (head.ignored.contains f.name) = .ok g)
      r.plannedFields (if p.descriptor.newtype then p.descriptor.fields.take 1 else p.descriptor.fields) := by
    rw [hnewtype, RecordDecl.plannedFields]
    split
    · exact List.forall₂_take 1 hdescribe
    · exact hdescribe
  refine ⟨head, hhead, hdescriptor, forall₂_trans ?_ hplanned hfields⟩
  rintro f g x hg ⟨rfl, hx⟩
  exact ⟨hg, hx⟩

theorem RecordDecl.planDescribes_of_plan {r : RecordDecl Value} {scope : Scope} {p : RecordPlan}
    (h : r.plan scope = .ok p) : PlanDescribes scope r p := by
  obtain ⟨head, -, hdescriptor, hfields⟩ := RecordDecl.plan_eq_ok h
  refine ⟨by rw [RecordPlan.name, hdescriptor], by rw [hdescriptor], hfields.imp ?_⟩
  rintro f x ⟨hg, hx⟩
  exact ⟨hx, FieldDecl.mirrors_of_describe hg, FieldDecl.describedBy_of_describe hg⟩

/-- A record of an assembly is the plan of a declared record. -/
theorem Definitions.exists_of_mem_records {d : Definitions Value} {settings : Settings} {p : RecordPlan}
    (h : p ∈ (assemble d settings).records) :
    ∃ r ∈ d.records, r.plan (d.scope settings) = .ok p ∧ PlanDescribes (d.scope settings) r p := by
  rw [assemble_records] at h
  obtain ⟨r, hr, hplan⟩ := mem_plans_iff.1 ((d.left_sublist settings).mem h)
  exact ⟨r, hr, hplan, RecordDecl.planDescribes_of_plan hplan⟩

end WireBridge
