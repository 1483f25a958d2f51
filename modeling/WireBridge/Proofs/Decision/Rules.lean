import WireBridge.Decision.Strategy
import WireBridge.Proofs.Problem.Placement

/-!
# What the rules decide

* `kind_of_default` : the absence of a field with a default is filled by it;
* `kind_ne_unhandled_of_explicit` : a field that expects presence never has its absence left unhandled. A rule before
  those about expectations may decide, and none of them leaves it unhandled;
* `function_of_resolveAbsence` : no function answers an absence but that of the default and that of the error;
* `usesGeneratedError_iff` : when an error is left to the class of the record. A record with an error type leaves none
  to it, unless it ignores the field;
* `resolveStrategy_of_ignored`, `resolveStrategy_of_custom`, `resolveStrategy_converted` : the strategy of a field
  that is ignored, of one that functions of its own convert, and of one that is converted without them.
-/

set_option autoImplicit false

namespace WireBridge

/-! ## Absence -/

/-- Some rule applied, or none did and the absence is unhandled. -/
theorem firstAbsence_eq_ok {f : FieldDescriptor} {r : RecordDescriptor} {rules : List (String × AbsenceRule)}
    {x : Ruled Absence} (h : firstAbsence f r rules = .ok x) :
    (∃ y ∈ rules, y.2 f r = .ok (some x.outcome)) ∨
      (x.outcome = .unhandled ∧ ∀ y ∈ rules, y.2 f r = .ok none) := by
  induction rules with
  | nil =>
    cases h
    exact .inr ⟨rfl, by simp⟩
  | cons y rules ih =>
    obtain ⟨a?, ha, h⟩ := bind_eq_ok_iff.1 h
    cases a? with
    | some a =>
      cases h
      exact .inl ⟨y, List.mem_cons_self, ha⟩
    | none =>
      rcases ih h with ⟨z, hz, hzx⟩ | ⟨hx, hnone⟩
      · exact .inl ⟨z, List.mem_cons_of_mem _ hz, hzx⟩
      · exact .inr ⟨hx, List.forall_mem_cons.2 ⟨ha, hnone⟩⟩

/-- The rule about defaults comes first. -/
theorem kind_of_default {f : FieldDescriptor} {r : RecordDescriptor} {x : Ruled Absence}
    (h : resolveAbsence f r = .ok x) (hd : f.default.isSome = true) : x.outcome.kind = .default := by
  obtain ⟨d, hd⟩ := Option.isSome_iff_exists.1 hd
  obtain ⟨a?, ha, h⟩ := bind_eq_ok_iff.1 h
  simp only [AbsenceRule.byDefault, hd, pure_eq_ok_iff] at ha
  subst ha
  cases h
  rfl

/-- A rule that applies handles the absence. -/
theorem kind_ne_unhandled_of_rule {f : FieldDescriptor} {r : RecordDescriptor} {y : String × AbsenceRule}
    (hy : y ∈ absenceRules) {a : Absence} (h : y.2 f r = .ok (some a)) : a.kind ≠ .unhandled := by
  simp only [absenceRules, List.mem_cons, List.not_mem_nil, or_false] at hy
  rcases hy with rfl | rfl | rfl | rfl | rfl
  · simp only [AbsenceRule.byDefault, pure_eq_ok_iff, Option.map_eq_some_iff] at h
    obtain ⟨_, -, rfl⟩ := h
    simp
  · simp only [AbsenceRule.byErrorType] at h
    split at h
    · cases h
    · split at h
      · cases h
      · split at h
        · cases h
          simp
        · cases h
  -- The other rules each have one outcome, under a condition.
  all_goals
    simp only [AbsenceRule.byPanic, AbsenceRule.byError, AbsenceRule.byCustom, pure_eq_ok_iff] at h
    split at h <;> cases h
    simp

/-- What a rule comes to has the function of the default or that of the error. -/
theorem function_of_rule {f : FieldDescriptor} {r : RecordDescriptor} {y : String × AbsenceRule}
    (hy : y ∈ absenceRules) {a : Absence} (h : y.2 f r = .ok (some a)) {g : FunctionRef} (hg : a.function = some g) :
    f.default.bind (·.function) = some g ∨ errorFunction? f r = some g := by
  simp only [absenceRules, List.mem_cons, List.not_mem_nil, or_false] at hy
  rcases hy with rfl | rfl | rfl | rfl | rfl
  · simp only [AbsenceRule.byDefault, pure_eq_ok_iff, Option.map_eq_some_iff] at h
    obtain ⟨d, hd, rfl⟩ := h
    exact .inl (by rw [hd]; exact hg)
  · simp only [AbsenceRule.byErrorType] at h
    split at h
    · cases h
    · split at h
      · cases h
      · split at h
        · next g' hg' =>
          cases h
          exact .inr (hg'.trans hg)
        · cases h
  -- The other rules each have one outcome, under a condition.
  all_goals
    simp only [AbsenceRule.byPanic, AbsenceRule.byError, AbsenceRule.byCustom, pure_eq_ok_iff] at h
    split at h <;> cases h
  · cases hg
  · exact .inr hg
  · cases hg

theorem function_of_resolveAbsence {f : FieldDescriptor} {r : RecordDescriptor} {x : Ruled Absence}
    (h : resolveAbsence f r = .ok x) {g : FunctionRef} (hg : x.outcome.function = some g) :
    f.default.bind (·.function) = some g ∨ errorFunction? f r = some g := by
  rcases firstAbsence_eq_ok h with ⟨y, hy, h⟩ | ⟨hx, -⟩
  · exact function_of_rule hy h hg
  · rw [hx] at hg
    cases hg

theorem kind_ne_unhandled_of_explicit {f : FieldDescriptor} {r : RecordDescriptor} {x : Ruled Absence}
    (h : resolveAbsence f r = .ok x) (he : f.expectation.explicit = true) : x.outcome.kind ≠ .unhandled := by
  rcases firstAbsence_eq_ok h with ⟨y, hy, hyx⟩ | ⟨-, hnone⟩
  · exact kind_ne_unhandled_of_rule hy hyx
  · have hpanic := hnone ("expect(panic)", .byPanic) (by simp [absenceRules])
    have herror := hnone ("expect(error)", .byError) (by simp [absenceRules])
    simp only [AbsenceRule.byPanic, AbsenceRule.byError, pure_eq_ok_iff] at hpanic herror
    simp only [Expectation.explicit, Bool.or_eq_true] at he
    rcases he with he | he
    · simp [he] at hpanic
    · simp [he] at herror

/-- The field expects an error and nothing comes before that, but no function builds the error. -/
structure FieldDescriptor.ExpectsUnbuiltError (f : FieldDescriptor) (r : RecordDescriptor) : Prop where
  default : f.default = none
  panic : f.expectation.panic = false
  error : f.expectation.error = true
  function : errorFunction? f r = none

/-- The rule about the error type of a record has a function wherever it applies. -/
theorem exists_function_of_byErrorType {f : FieldDescriptor} {r : RecordDescriptor} {a? : Option Absence}
    (h : AbsenceRule.byErrorType f r = .ok a?) :
    (r.errorType = none ∨ f.ignored = true) ∧ a? = none ∨
      ¬ (r.errorType = none ∨ f.ignored = true) ∧ ∃ g, a? = some ⟨.error, some g⟩ := by
  unfold AbsenceRule.byErrorType at h
  cases ht : r.errorType with
  | none =>
    rw [ht] at h
    cases h
    exact .inl ⟨.inl rfl, rfl⟩
  | some e =>
    rw [ht] at h
    dsimp only at h
    split at h
    · next hi =>
      cases h
      exact .inl ⟨.inr hi, rfl⟩
    · next hi =>
      split at h
      · next g _ =>
        cases h
        exact .inr ⟨by simp [hi], g, rfl⟩
      · cases h

/-- The rules after those about defaults and error types always come to an outcome. -/
theorem usesGeneratedError_of_expectations {f : FieldDescriptor} {r : RecordDescriptor} {x : Ruled Absence}
    (h : firstAbsence f r [("expect(panic)", .byPanic), ("expect(error)", .byError), ("custom conversion", .byCustom)] =
      .ok x) : x.outcome.usesGeneratedError = true ↔
        f.expectation.panic = false ∧ f.expectation.error = true ∧ errorFunction? f r = none := by
  simp only [firstAbsence, AbsenceRule.byPanic, AbsenceRule.byError, AbsenceRule.byCustom] at h
  cases hp : f.expectation.panic with
  | true =>
    rw [hp] at h
    cases h
    simp [Absence.usesGeneratedError]
  | false =>
    rw [hp] at h
    cases he : f.expectation.error with
    | true =>
      rw [he] at h
      cases h
      simp [Absence.usesGeneratedError]
    | false =>
      -- What is left is a panic for functions of both directions, or nothing.
      rw [he] at h
      cases hc : f.custom.any (·.complete) && !f.shape.isPrimitive && !f.shape.isOptional <;> rw [hc] at h <;>
        cases h <;> simp [Absence.usesGeneratedError, Absence.unhandled]

/-- An error without a function comes from an expectation, where the record has no error type or ignores the field. -/
theorem usesGeneratedError_iff {f : FieldDescriptor} {r : RecordDescriptor} {x : Ruled Absence}
    (h : resolveAbsence f r = .ok x) : x.outcome.usesGeneratedError = true ↔
      f.ExpectsUnbuiltError r ∧ (r.errorType = none ∨ f.ignored = true) := by
  obtain ⟨a?, ha, h⟩ := bind_eq_ok_iff.1 h
  cases hd : f.default with
  | some d =>
    simp only [AbsenceRule.byDefault, hd, pure_eq_ok_iff] at ha
    subst ha
    cases h
    refine ⟨fun hx => ?_, fun hx => ?_⟩
    · cases hx
    · simp [hx.1.default] at hd
  | none =>
    simp only [AbsenceRule.byDefault, hd, pure_eq_ok_iff] at ha
    subst ha
    obtain ⟨b?, hb, h⟩ := bind_eq_ok_iff.1 h
    obtain ⟨hpass, rfl⟩ | ⟨hpass, g, rfl⟩ := exists_function_of_byErrorType hb
    · rw [usesGeneratedError_of_expectations h]
      exact ⟨fun hx => ⟨⟨hd, hx.1, hx.2.1, hx.2.2⟩, hpass⟩, fun hx => ⟨hx.1.panic, hx.1.error, hx.1.function⟩⟩
    · cases h
      simp [Absence.usesGeneratedError, hpass]

/-! ## Strategies -/

theorem resolveStrategy_of_ignored {f : FieldDescriptor} (a : Absence) (hi : f.ignored = true) :
    (resolveStrategy f a).outcome = .ofKind .ignore := by
  simp [resolveStrategy, strategyRules, StrategyRule.byIgnore, hi]

theorem resolveStrategy_of_custom {f : FieldDescriptor} (a : Absence) (hi : f.ignored = false)
    (hc : f.custom.isSome = true) : (resolveStrategy f a).outcome = .ofKind .custom := by
  simp [resolveStrategy, strategyRules, StrategyRule.byIgnore, StrategyRule.byCustom, hi, hc]

/-- A field without functions of its own that is not ignored is transparent, a collection, an optional or one whose
absence is handled, or none of these. -/
theorem resolveStrategy_converted {f : FieldDescriptor} (a : Absence) (hi : f.ignored = false)
    (hc : f.custom = none) : (resolveStrategy f a).outcome =
      if f.transparent then .ofKind .transparent
      else
        match f.collection with
        | some c => ⟨.collection, some c, f.expectation.explicit && (a.kind = .error || a.kind = .panic)⟩
        | none =>
          if f.shape.isOptional || a.kind ≠ .unhandled then .ofKind .optionOrDefault else .ofKind .direct := by
  simp only [resolveStrategy, strategyRules, List.findSome?_cons, List.findSome?_nil, StrategyRule.byIgnore, hi,
    StrategyRule.byCustom, hc, StrategyRule.byTransparent, StrategyRule.byCollection, StrategyRule.byOptionality]
  cases f.transparent with
  | true => rfl
  | false =>
    cases f.collection with
    | some c => rfl
    | none => cases f.shape.isOptional || a.kind ≠ .unhandled <;> rfl

/-- Only a field with functions of its own is converted by them. -/
theorem isSome_custom_of_kind {f : FieldDescriptor} {a : Absence}
    (h : (resolveStrategy f a).outcome.kind = .custom) : f.custom.isSome = true := by
  cases hi : f.ignored with
  | true =>
    rw [resolveStrategy_of_ignored a hi] at h
    cases h
  | false =>
    cases hc : f.custom with
    | some c => rfl
    | none =>
      rw [resolveStrategy_converted a hi hc] at h
      split at h
      · cases h
      · split at h
        · cases h
        · split at h <;> cases h

end WireBridge
