import WireBridge.Assembly.Plan
import WireBridge.Proofs.Conversion.Agreement
import WireBridge.Proofs.Conversion.Placement
import WireBridge.Proofs.Descriptor.Placement

/-!
# What plans keep of their declarations

* `RecordDecl.plannedFields` : the fields of a record that its plan holds. A newtype has a plan for its first
  field only;
* `PlanMirrors s r p` : the plan `p` has the name of the record `r` and mirrors its planned fields
  (`RecordDecl.mirrors_of_plan`);
* `RecordDecl.standsAt_of_plan`, `EnumDecl.standsAt_of_plan` : a type that cannot be planned stops with a problem
  that stands at the type or at one of its members;
* `RecordDecl.plan_congr`, `RecordDecl.decisions_congr` : tables that agree on the names in the fields of a record plan
  it alike, by the same decisions.
-/

set_option autoImplicit false

namespace WireBridge

/-! ## Mirrored fields -/

/-- The fields of a record that its plan holds. -/
def RecordDecl.plannedFields (r : RecordDecl Value) : List (FieldDecl Value) :=
  if r.newtype then r.fields.take 1 else r.fields

theorem RecordDecl.mem_of_mem_plannedFields {r : RecordDecl Value} {f : FieldDecl Value}
    (h : f ∈ r.plannedFields) : f ∈ r.fields := by
  unfold RecordDecl.plannedFields at h
  split at h
  · exact List.mem_of_mem_take h
  · exact h

/-- A newtype that wraps one field has no other to leave out. -/
theorem RecordDecl.plannedFields_eq {r : RecordDecl Value} (h : r.newtype = true → r.fields.length = 1) :
    r.plannedFields = r.fields := by
  unfold RecordDecl.plannedFields
  split
  · next hn => exact List.take_of_length_le (h hn).le
  · rfl

structure PlanMirrors (s : Symbols) (r : RecordDecl Value) (p : RecordPlan) : Prop where
  name : p.name = r.name
  fields : List.Forall₂ (Mirrors s) r.plannedFields (p.fields.map (·.descriptor))

theorem descriptor_of_planWith {scope : Scope} {r : RecordDescriptor} {f : FieldDescriptor}
    {code : Strategy → Absence → Except ConfigError Artifact} {p : FieldPlan}
    (h : planWith scope r f code = .ok p) : p.descriptor = f := by
  simp only [planWith, bind_eq_ok_iff, pure_eq_ok_iff] at h
  obtain ⟨-, -, -, -, -, -, -, -, rfl⟩ := h
  rfl

theorem descriptors_of_planFields {scope : Scope} {r : RecordDescriptor} {fs : List FieldDescriptor}
    {ps : List FieldPlan} (h : fs.mapM (planField scope r) = .ok ps) : ps.map (·.descriptor) = fs := by
  have hdescriptors : fs.map id = ps.map (·.descriptor) :=
    map_eq_map_of_forall₂ (forall₂_of_mapM_eq_ok h) fun _ _ hp =>
      (descriptor_of_planWith (placedAt_eq_ok_iff.1 hp)).symm
  rw [← hdescriptors, List.map_id]

/-- The plan of a described record holds its descriptor, and plans for all fields or for that of a newtype. -/
theorem RecordDescriptor.descriptors_of_plan {q : RecordDescriptor} {scope : Scope} {p : RecordPlan}
    (h : q.plan scope = .ok p) :
    p.descriptor = q ∧ p.fields.map (·.descriptor) = if q.newtype then q.fields.take 1 else q.fields := by
  unfold RecordDescriptor.plan at h
  split at h
  · cases h
  · next f fs hfs =>
    split at h
    · next hn =>
      obtain ⟨w, hw, rfl⟩ := map_eq_ok_iff.1 h
      refine ⟨rfl, ?_⟩
      rw [if_pos hn, hfs, List.map_singleton, descriptor_of_planWith (placedAt_eq_ok_iff.1 hw)]
      rfl
    · next hn =>
      obtain ⟨ps, hps, rfl⟩ := map_eq_ok_iff.1 h
      refine ⟨rfl, ?_⟩
      rw [if_neg hn]
      exact descriptors_of_planFields hps

theorem RecordDecl.mirrors_of_plan {r : RecordDecl Value} {scope : Scope} {p : RecordPlan}
    (h : r.plan scope = .ok p) : PlanMirrors scope.symbols r p := by
  obtain ⟨q, hq, h⟩ := bind_eq_ok_iff.1 h
  have hm := RecordDecl.mirrors_of_describe hq
  obtain ⟨hd, hf⟩ := RecordDescriptor.descriptors_of_plan h
  refine ⟨by rw [RecordPlan.name, hd, hm.name], ?_⟩
  rw [hf, hm.newtype, RecordDecl.plannedFields]
  split
  · exact List.forall₂_take 1 hm.fields
  · exact hm.fields

/-- A planned enum is as it is declared. -/
theorem EnumDecl.descriptor_of_plan {e : EnumDecl Value} {p : EnumPlan} (h : e.plan = .ok p) :
    p.descriptor = ⟨e.name, p.descriptor.wireName, e.variants.map (·.name), e.comment⟩ := by
  obtain ⟨q, hq, h⟩ := bind_eq_ok_iff.1 h
  obtain ⟨w, -, hq⟩ := bind_eq_ok_iff.1 hq
  rw [pure_eq_ok_iff] at h hq
  subst h hq
  rfl

theorem EnumDecl.name_of_plan {e : EnumDecl Value} {p : EnumPlan} (h : e.plan = .ok p) : p.name = e.name := by
  rw [EnumPlan.name, descriptor_of_plan h]

/-! ## Places of problems -/

theorem unplaced_planWith {scope : Scope} {r : RecordDescriptor} {f : FieldDescriptor}
    {code : Strategy → Absence → Except ConfigError Artifact} (hcode : ∀ k a, Unplaced (code k a)) :
    Unplaced (planWith scope r f code) :=
  (unplaced_resolveAbsence f r).bind fun _ => (hcode _ _).bind fun _ =>
    (NativeType.unplaced_ofShape scope _).bind fun _ => (NativeDefault.unplaced_ofField scope f).bind fun _ =>
      unplaced_pure _

theorem RecordDescriptor.standsAt_of_plan {q : RecordDescriptor} {scope : Scope} {e : ConfigError}
    (h : q.plan scope = .error e) : StandsAt q.name (q.fields.map (·.nativeName)) e := by
  unfold RecordDescriptor.plan at h
  split at h
  · cases h
    exact .inl rfl
  · next f fs hfs =>
    split at h
    · rw [map_eq_error_iff] at h
      refine .inr ⟨f.nativeName, by simp [hfs], ?_⟩
      exact (unplaced_planWith fun _ _ => unplaced_wrapField scope f).path_of_placedAt h
    · rw [map_eq_error_iff] at h
      obtain ⟨g, hg, h⟩ := exists_of_mapM_eq_error h
      refine .inr ⟨g.nativeName, List.mem_map_of_mem hg, ?_⟩
      exact (unplaced_planWith fun k a => unplaced_convertField scope g a q k).path_of_placedAt h

theorem RecordDecl.standsAt_of_plan {r : RecordDecl Value} {scope : Scope} {e : ConfigError}
    (h : r.plan scope = .error e) : StandsAt r.name (r.fields.map (·.name)) e := by
  rcases bind_eq_error_iff.1 h with h | ⟨q, hq, h⟩
  · exact RecordDecl.standsAt_of_describe h
  · have hm := RecordDecl.mirrors_of_describe hq
    rw [← hm.name, ← mirrors_nativeNames hm.fields]
    exact RecordDescriptor.standsAt_of_plan h

theorem EnumDecl.standsAt_of_plan {d : EnumDecl Value} {e : ConfigError} (h : d.plan = .error e) :
    StandsAt d.name (d.variants.map (·.name)) e := by
  rcases bind_eq_error_iff.1 h with h | ⟨q, -, h⟩
  · exact EnumDecl.standsAt_of_describe h
  · cases h

/-! ## Agreement -/

theorem RecordDecl.within_of_describe {s : Symbols} {N : Set String} {r : RecordDecl Value} {helpers : Option Value}
    {q : RecordDescriptor} (hr : ∀ f ∈ r.fields, (f.shape s).Within N) (hq : r.describe s helpers = .ok q) :
    ∀ g ∈ q.fields, g.shape.Within N := by
  intro g hg
  obtain ⟨f, hf, hfg⟩ := exists_of_forall₂ (RecordDecl.mirrors_of_describe hq).fields hg
  rw [hfg.shape]
  exact hr f hf

section Congr

variable {s t : Symbols} {N : Set String} (h : s.Agree t N) (helpers : Option Value)

include h

theorem planWith_congr (r : RecordDescriptor) {f : FieldDescriptor} (hf : f.shape.Within N)
    {code code' : Strategy → Absence → Except ConfigError Artifact} (hcode : code = code') :
    planWith ⟨s, helpers⟩ r f code = planWith ⟨t, helpers⟩ r f code' := by
  simp only [planWith, NativeType.ofShape_congr h helpers hf, NativeDefault.ofField_congr h helpers hf, hcode]

theorem planField_congr (r : RecordDescriptor) {f : FieldDescriptor} (hf : f.shape.Within N) :
    planField ⟨s, helpers⟩ r f = planField ⟨t, helpers⟩ r f := by
  unfold planField
  rw [planWith_congr h helpers r hf]
  funext k a
  exact convertField_congr h helpers hf a r k

theorem planWrapped_congr (r : RecordDescriptor) {f : FieldDescriptor} (hf : f.shape.Within N) :
    planWrapped ⟨s, helpers⟩ r f = planWrapped ⟨t, helpers⟩ r f := by
  unfold planWrapped
  rw [planWith_congr h helpers r hf]
  funext _ _
  exact wrapField_congr h helpers hf

theorem RecordDescriptor.plan_congr {q : RecordDescriptor} (hq : ∀ f ∈ q.fields, f.shape.Within N) :
    q.plan ⟨s, helpers⟩ = q.plan ⟨t, helpers⟩ := by
  have hall : q.fields.mapM (planField ⟨s, helpers⟩ q) = q.fields.mapM (planField ⟨t, helpers⟩ q) :=
    mapM_congr fun f hf => planField_congr h helpers q (hq f hf)
  unfold RecordDescriptor.plan
  cases hfs : q.fields with
  | nil => rfl
  | cons f fs =>
    rw [hfs] at hall
    simp only [hall, planWrapped_congr h helpers q (hq f (by simp [hfs]))]

theorem decisionsUpTo_congr (r : RecordDescriptor) {fs : List FieldDescriptor} (hfs : ∀ f ∈ fs, f.shape.Within N) :
    decisionsUpTo ⟨s, helpers⟩ r fs = decisionsUpTo ⟨t, helpers⟩ r fs := by
  induction fs with
  | nil => rfl
  | cons f fs ih =>
    obtain ⟨hf, hfs⟩ := List.forall_mem_cons.1 hfs
    rw [decisionsUpTo, decisionsUpTo, planField_congr h helpers r hf, ih hfs]

theorem RecordDescriptor.decisions_congr {q : RecordDescriptor} (hq : ∀ f ∈ q.fields, f.shape.Within N) :
    q.decisions ⟨s, helpers⟩ = q.decisions ⟨t, helpers⟩ := by
  unfold RecordDescriptor.decisions
  rw [plan_congr h helpers hq, decisionsUpTo_congr h helpers q hq]

section Record

variable {r : RecordDecl Value} (hr : ∀ f ∈ r.fields, (f.shape s).Within N)

include hr

/-- A record that uses only names on which two tables agree is planned alike from either. -/
theorem RecordDecl.plan_congr : r.plan ⟨s, helpers⟩ = r.plan ⟨t, helpers⟩ := by
  unfold RecordDecl.plan
  rw [← RecordDecl.describe_congr h hr]
  exact bind_congr_of_ok fun q hq => RecordDescriptor.plan_congr h helpers (within_of_describe hr hq)

theorem RecordDecl.decisions_congr : r.decisions ⟨s, helpers⟩ = r.decisions ⟨t, helpers⟩ := by
  unfold RecordDecl.decisions
  rw [← RecordDecl.describe_congr h hr]
  cases hq : r.describe s helpers with
  | error e => rfl
  | ok q => exact RecordDescriptor.decisions_congr h helpers (within_of_describe hr hq)

end Record

end Congr

end WireBridge
