import WireBridge.Descriptor.Record
import WireBridge.Proofs.Descriptor.Directives
import WireBridge.Proofs.Problem.Ensures

/-!
# Modules of references

A reference in a directive names its module by a text, or is one to the helpers module (`FunctionRef.IsOf`). So it is
with all references of a field (`FieldDecl.isOf_of_describe`) and with those of a record
(`RecordDecl.ensures_isOf_readHead`).
-/

set_option autoImplicit false

namespace WireBridge

/-- The reference is one to a module that is named by a text, or to the helpers module. -/
def FunctionRef.IsOf (helpers : Option Value) (g : FunctionRef) : Prop :=
  (∃ m, g.module = .text m) ∨ helpers = some g.module

/-! ## Single references -/

section References

variable (helpers : Option Value)

theorem ensures_isOf_referenceOf (v : Value) : Ensures (referenceOf helpers v) (FunctionRef.IsOf helpers) := by
  intro g h
  unfold referenceOf at h
  split at h
  · next g' hg =>
    cases h
    unfold FunctionRef.ofValue at hg
    split at hg
    · split at hg
      · cases hg
      · cases hg
        exact .inl ⟨_, rfl⟩
      · split at hg
        · cases hg
          exact .inr rfl
        · cases hg
    · cases hg
  · cases h

theorem ensures_isOf_reference (d : Directive Value) : Ensures (d.reference helpers) (FunctionRef.IsOf helpers) :=
  .bind_last fun _ => ensures_isOf_referenceOf helpers _

omit helpers in
theorem ensures_given? {α : Type} {P : α → Prop} {read : Directive Value → Except ConfigError α}
    (h : ∀ d, Ensures (read d) P) (ds : List (Directive Value)) (name : String) :
    Ensures (given? ds name read) fun a? => ∀ a ∈ a?, P a := by
  intro a? ha a hmem
  rcases given?_eq_ok_iff.1 ha with ⟨-, rfl⟩ | ⟨d, b, -, hb, rfl⟩
  · cases hmem
  · cases hmem
    exact h d _ hb

/-! ## Fields and records -/

theorem ensures_isOf_readDefault (ds : List (Directive Value)) :
    Ensures (readDefault helpers ds) fun fill? => ∀ g ∈ fill?.bind (·.function), g.IsOf helpers := by
  refine (ensures_given? (P := fun fill => ∀ g ∈ fill.function, g.IsOf helpers) (fun d => ?_) ds "default").imp
    fun fill? h g hg => ?_
  · refine .bind_last fun vs => ?_
    split
    · exact .pure (by simp)
    · exact .bind (ensures_isOf_referenceOf helpers _) fun g hg => .pure (by simpa using hg)
  obtain ⟨fill, hfill, hg⟩ := Option.bind_eq_some_iff.1 hg
  exact h fill hfill g hg

theorem ensures_isOf_readCustom (ds : List (Directive Value)) :
    Ensures (readCustom helpers ds) fun c? =>
      (∀ g ∈ c?.bind (·.fromWire), g.IsOf helpers) ∧ ∀ g ∈ c?.bind (·.toWire), g.IsOf helpers := by
  refine .bind (ensures_given? (ensures_isOf_reference helpers) ds "from_fn") fun fromWire? hfrom => ?_
  refine .bind (ensures_given? (ensures_isOf_reference helpers) ds "to_fn") fun toWire? hto => .pure ?_
  split
  · exact ⟨hfrom, hto⟩
  · simp

/-- The functions that the directives of a field refer to. -/
def FieldDescriptor.references (f : FieldDescriptor) : List FunctionRef :=
  [f.default.bind (·.function), f.expectation.function, f.custom.bind (·.fromWire),
    f.custom.bind (·.toWire)].filterMap id

omit helpers in
theorem FieldDescriptor.mem_references {f : FieldDescriptor} {g : FunctionRef} : g ∈ f.references ↔
    f.default.bind (·.function) = some g ∨ f.expectation.function = some g ∨
      f.custom.bind (·.fromWire) = some g ∨ f.custom.bind (·.toWire) = some g := by
  simp [references, List.mem_filterMap, eq_comm (a := some g)]

theorem FieldDecl.isOf_of_describe {f : FieldDecl Value} {s : Symbols} {b : Bool} {q : FieldDescriptor}
    (h : f.describe s helpers b = .ok q) : ∀ g ∈ q.references, g.IsOf helpers := by
  simp only [FieldDecl.describe, bind_eq_ok_iff, pure_eq_ok_iff] at h
  obtain ⟨_, -, -, -, -, -, _, hdefault, -, -, _, hfunction, _, hcustom, -, -, -, -, -, -, rfl⟩ := h
  intro g hg
  rcases FieldDescriptor.mem_references.1 hg with hg | hg | hg | hg
  · exact ensures_isOf_readDefault helpers _ _ hdefault g hg
  · exact ensures_given? (ensures_isOf_reference helpers) _ _ _ hfunction g hg
  · exact (ensures_isOf_readCustom helpers _ _ hcustom).1 g hg
  · exact (ensures_isOf_readCustom helpers _ _ hcustom).2 g hg

theorem RecordDecl.ensures_isOf_readHead (r : RecordDecl Value) : Ensures (r.readHead helpers) fun head =>
    (∀ g ∈ head.errorType, g.IsOf helpers) ∧ ∀ g ∈ head.errorFunction, g.IsOf helpers := by
  refine .bind_last fun _ => .bind_last fun wireName => ?_
  refine .bind (ensures_given? (ensures_isOf_reference helpers) _ "error_type") fun errorType htype => ?_
  refine .bind (ensures_given? (ensures_isOf_reference helpers) _ "error_fn") fun errorFunction hfunction => ?_
  refine .bind_last fun ignored => ?_
  dsimp only
  split
  · exact .bind (P := fun _ => False) .problem fun _ h => h.elim
  · exact .pure ⟨htype, hfunction⟩

end References

end WireBridge
