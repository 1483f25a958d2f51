import Mathlib.Data.Option.Basic
import WireBridge.Proofs.Decision.Rules
import WireBridge.Proofs.Descriptor.Source

/-!
# Error functions are looked for early

A record with an error type is refused when it is described, if some field may raise that type and no function builds the
error. The rules for absent values look for such a function again, field by field.

* `resolveAbsence_eq_error_iff` : the rules come to a problem for a field exactly if the record has an error type and no
  error function, and the field lacks one. A default or an ignored field takes another rule before;
* `RecordDecl.describe_of_unchecked` : describing a record is describing it without the check, then the check;
* `RecordDecl.error_functions_checked` : the two agree. A described record has an outcome for every field, and a record
  in which some field names an error function is refused at the first field for which there is none.
-/

set_option autoImplicit false

namespace WireBridge

/-! ## Rules that come to a problem -/

section Rules

variable {f : FieldDescriptor} {r : RecordDescriptor} {err : ConfigError}

/-- Rules that come to no problem have an outcome together. -/
theorem exists_firstAbsence_eq_ok {rules : List (String × AbsenceRule)} (h : ∀ y ∈ rules, ∃ a?, y.2 f r = .ok a?) :
    ∃ x, firstAbsence f r rules = .ok x := by
  induction rules with
  | nil => exact ⟨_, rfl⟩
  | cons y rules ih =>
    obtain ⟨⟨a?, ha⟩, hrules⟩ := List.forall_mem_cons.1 h
    cases a? with
    | some a => exact ⟨⟨a, y.1⟩, bind_eq_ok_iff.2 ⟨some a, ha, rfl⟩⟩
    | none =>
      obtain ⟨x, hx⟩ := ih hrules
      exact ⟨x, bind_eq_ok_iff.2 ⟨none, ha, hx⟩⟩

theorem byErrorType_eq_error_iff : AbsenceRule.byErrorType f r = .error err ↔
    ∃ e, r.errorType = some e ∧ f.ignored = false ∧ errorFunction? f r = none ∧
      err = .nowhere (.fieldWithoutErrorFunction e) := by
  unfold AbsenceRule.byErrorType
  cases r.errorType with
  | none => simp [pure, Except.pure]
  | some e =>
    cases f.ignored with
    | true => simp [pure, Except.pure]
    | false => cases errorFunction? f r <;> simp [pure, Except.pure, problem, eq_comm]

theorem errorFunction?_eq_none_iff :
    errorFunction? f r = none ↔ f.expectation.function = none ∧ r.errorFunction = none :=
  Option.orElse_eq_none _ _

theorem FieldDescriptor.lacksErrorFunction_iff :
    f.lacksErrorFunction = true ↔ f.ignored = false ∧ f.default = none ∧ f.expectation.function = none := by
  simp [lacksErrorFunction, and_assoc]

/-- Only the rule about error types may come to a problem. -/
theorem exists_resolveAbsence_eq_ok (h : ∃ a?, AbsenceRule.byErrorType f r = .ok a?) :
    ∃ x, resolveAbsence f r = .ok x := by
  apply exists_firstAbsence_eq_ok
  simp only [absenceRules, List.forall_mem_cons]
  exact ⟨⟨_, rfl⟩, h, ⟨_, rfl⟩, ⟨_, rfl⟩, ⟨_, rfl⟩, fun _ hy => absurd hy List.not_mem_nil⟩

theorem resolveAbsence_of_default {d : DefaultFill} (hd : f.default = some d) :
    resolveAbsence f r = .ok ⟨⟨.default, d.function⟩, "default"⟩ := by
  have hrule : AbsenceRule.byDefault f r = .ok (some ⟨.default, d.function⟩) := by
    rw [AbsenceRule.byDefault, hd]
    rfl
  exact bind_eq_ok_iff.2 ⟨_, hrule, rfl⟩

theorem resolveAbsence_of_byErrorType (hd : f.default = none) (h : AbsenceRule.byErrorType f r = .error err) :
    resolveAbsence f r = .error err := by
  have hrule : AbsenceRule.byDefault f r = .ok none := by
    rw [AbsenceRule.byDefault, hd]
    rfl
  exact bind_eq_error_iff.2 (.inr ⟨none, hrule, bind_eq_error_iff.2 (.inl h)⟩)

theorem resolveAbsence_eq_error_iff : resolveAbsence f r = .error err ↔
    ∃ e, r.errorType = some e ∧ r.errorFunction = none ∧ f.lacksErrorFunction = true ∧
      err = .nowhere (.fieldWithoutErrorFunction e) := by
  constructor
  · intro h
    cases hdefault : f.default with
    | some d =>
      rw [resolveAbsence_of_default hdefault] at h
      cases h
    | none =>
      cases hrule : AbsenceRule.byErrorType f r with
      | ok a? =>
        obtain ⟨x, hx⟩ := exists_resolveAbsence_eq_ok ⟨a?, hrule⟩
        rw [hx] at h
        cases h
      | error err' =>
        rw [resolveAbsence_of_byErrorType hdefault hrule] at h
        cases h
        obtain ⟨e, he, hignored, hfunction, rfl⟩ := byErrorType_eq_error_iff.1 hrule
        obtain ⟨hfield, hrecord⟩ := errorFunction?_eq_none_iff.1 hfunction
        exact ⟨e, he, hrecord, FieldDescriptor.lacksErrorFunction_iff.2 ⟨hignored, hdefault, hfield⟩, rfl⟩
  · rintro ⟨e, he, hrecord, hlacks, rfl⟩
    obtain ⟨hignored, hdefault, hfield⟩ := FieldDescriptor.lacksErrorFunction_iff.1 hlacks
    apply resolveAbsence_of_byErrorType hdefault
    exact byErrorType_eq_error_iff.2 ⟨e, he, hignored, errorFunction?_eq_none_iff.2 ⟨hfield, hrecord⟩, rfl⟩

end Rules

/-! ## Records without the check -/

/-- The field has no outcome where its value is absent. -/
def RecordDescriptor.LeavesOpen (q : RecordDescriptor) (f : FieldDescriptor) : Prop :=
  ∃ err, resolveAbsence f q = .error err

namespace RecordDescriptor

variable {q : RecordDescriptor} {f : FieldDescriptor} {e : FunctionRef}

theorem not_leavesOpen_iff : ¬ q.LeavesOpen f ↔ ∃ x, resolveAbsence f q = .ok x := by
  unfold LeavesOpen
  cases resolveAbsence f q <;> simp

theorem leavesOpen_iff (he : q.errorType = some e) :
    q.LeavesOpen f ↔ q.errorFunction = none ∧ f.lacksErrorFunction = true := by
  simp [LeavesOpen, resolveAbsence_eq_error_iff, he]

/-- What the check reads of the directives of a record, from its descriptor. -/
def head (q : RecordDescriptor) : RecordHead := ⟨q.wireName, q.errorType, q.errorFunction, []⟩

end RecordDescriptor

namespace RecordDecl

variable {r : RecordDecl Value} {s : Symbols} {helpers : Option Value} {q : RecordDescriptor} {e : FunctionRef}

/-- The descriptor of a record, without the check that there are error functions. -/
def describeUnchecked (r : RecordDecl Value) (s : Symbols) (helpers : Option Value) :
    Except ConfigError RecordDescriptor := do
  let head ← placedAt r.name (r.readHead helpers)
  if let some n := r.unknownIgnored? head.ignored then throw ⟨.unknownIgnored n, some r.name⟩
  let fields ← r.describeFields s helpers head.ignored
  return {
    name := r.name
    wireName := head.wireName
    fields
    errorType := head.errorType
    errorFunction := head.errorFunction
    newtype := r.newtype
    comment := r.comment }

/-- A record is described without the check, and then checked. -/
theorem describe_eq_unchecked_bind (r : RecordDecl Value) (s : Symbols) (helpers : Option Value) :
    r.describe s helpers =
      r.describeUnchecked s helpers >>= fun q => (errorFunctionFault? r.name q.head q.fields).elim (.ok q) .error := by
  unfold describe describeUnchecked
  rw [bind_assoc]
  refine bind_congr fun head => ?_
  cases r.unknownIgnored? head.ignored with
  | some n => rfl
  | none =>
    dsimp only
    rw [bind_assoc]
    refine bind_congr fun fields => ?_
    -- the check reads what the descriptor keeps of the directives
    show _ = (errorFunctionFault? r.name head fields).elim (Except.ok _) Except.error
    cases errorFunctionFault? r.name head fields <;> rfl

theorem describe_of_unchecked (hq : r.describeUnchecked s helpers = .ok q) :
    r.describe s helpers = (errorFunctionFault? r.name q.head q.fields).elim (.ok q) .error := by
  rw [describe_eq_unchecked_bind, hq]
  rfl

/-- A described record has passed the check. -/
theorem errorFunctionFault?_of_describe (h : r.describe s helpers = .ok q) :
    errorFunctionFault? r.name q.head q.fields = none := by
  rw [describe_eq_unchecked_bind] at h
  obtain ⟨p, -, hp⟩ := bind_eq_ok_iff.1 h
  cases hfault : errorFunctionFault? r.name p.head p.fields with
  | none =>
    rw [hfault] at hp
    cases hp
    exact hfault
  | some err =>
    rw [hfault] at hp
    cases hp

end RecordDecl

/-! ## The check and the rules -/

namespace RecordDescriptor

variable {q : RecordDescriptor} {f : FieldDescriptor} {e : FunctionRef} {n : String} {err : ConfigError}

/-- The check finds every field without an outcome. -/
theorem not_leavesOpen_of_unfaulted (h : errorFunctionFault? n q.head q.fields = none) (hf : f ∈ q.fields) :
    ¬ q.LeavesOpen f := by
  rintro ⟨err, herr⟩
  obtain ⟨e, he, hrecord, hlacks, -⟩ := resolveAbsence_eq_error_iff.1 herr
  simp only [errorFunctionFault?, head, he, hrecord] at h
  split at h
  · cases h
  · exact List.find?_eq_none.1 (Option.map_eq_none_iff.1 h) f hf hlacks

theorem find?_lacksErrorFunction_eq_some_iff (he : q.errorType = some e) (hrecord : q.errorFunction = none) :
    q.fields.find? (·.lacksErrorFunction) = some f ↔ IsFirst q.LeavesOpen q.fields f :=
  find?_eq_some_iff_isFirst fun g => by rw [leavesOpen_iff he, and_iff_right hrecord]

/-- Where some field names an error function, the check finds the first field without an outcome and nothing else. -/
theorem errorFunctionFault?_eq_some_iff (he : q.errorType = some e)
    (hnamed : ∃ f ∈ q.fields, f.expectation.function.isSome) :
    errorFunctionFault? n q.head q.fields = some err ↔
      ∃ f, IsFirst q.LeavesOpen q.fields f ∧ err = ⟨.fieldWithoutErrorFunction e, some s!"{n}.{f.nativeName}"⟩ := by
  cases hrecord : q.errorFunction with
  | some g => simp [errorFunctionFault?, head, he, hrecord, IsFirst, leavesOpen_iff he]
  | none =>
    have hall : ¬ q.fields.all (·.expectation.function.isNone) = true := by
      obtain ⟨f, hf, hfunction⟩ := hnamed
      intro hall
      have hnone := List.all_eq_true.1 hall f hf
      rw [Option.isNone_iff_eq_none.1 hnone] at hfunction
      cases hfunction
    simp only [errorFunctionFault?, head, he, hrecord, if_neg hall, Option.map_eq_some_iff,
      find?_lacksErrorFunction_eq_some_iff he hrecord, @eq_comm _ err]

end RecordDescriptor

/-- A described record has an outcome for every field whose value is absent. A record with an error type that is
described up to the check, and in which some field names an error function, is refused for a missing error function
exactly if some field has no outcome, with the place of the first one; it is refused for nothing else. -/
theorem RecordDecl.error_functions_checked (r : RecordDecl Value) (s : Symbols) (helpers : Option Value) :
    (∀ q, r.describe s helpers = .ok q → ∀ f ∈ q.fields, ∃ x, resolveAbsence f q = .ok x) ∧
      ∀ q e, r.describeUnchecked s helpers = .ok q → q.errorType = some e →
        (∃ f ∈ q.fields, f.expectation.function.isSome) →
        ((∃ path, r.describe s helpers = .error ⟨.fieldWithoutErrorFunction e, path⟩) ↔
          ∃ f ∈ q.fields, ∃ err, resolveAbsence f q = .error err) ∧
        ∀ err, r.describe s helpers = .error err ↔
          ∃ f, IsFirst q.LeavesOpen q.fields f ∧ err = ⟨.fieldWithoutErrorFunction e, some s!"{r.name}.{f.nativeName}"⟩ := by
  refine ⟨fun q hq f hf => ?_, fun q e hq he hnamed => ?_⟩
  · exact RecordDescriptor.not_leavesOpen_iff.1
      (RecordDescriptor.not_leavesOpen_of_unfaulted (errorFunctionFault?_of_describe hq) hf)
  · have herror (err : ConfigError) : r.describe s helpers = .error err ↔
        ∃ f, IsFirst q.LeavesOpen q.fields f ∧ err = ⟨.fieldWithoutErrorFunction e, some s!"{r.name}.{f.nativeName}"⟩ := by
      rw [← RecordDescriptor.errorFunctionFault?_eq_some_iff he hnamed, describe_of_unchecked hq]
      cases errorFunctionFault? r.name q.head q.fields <;> simp
    refine ⟨?_, herror⟩
    calc (∃ path, r.describe s helpers = .error ⟨.fieldWithoutErrorFunction e, path⟩)
      _ ↔ ∃ f, IsFirst q.LeavesOpen q.fields f := by simp [herror]
      _ ↔ ∃ f ∈ q.fields, q.LeavesOpen f := exists_isFirst_iff

/-- One field names a function, one is ignored, one has a default, and two have no function. -/
def reading : RecordDecl Value where
  name := "Reading"
  fields := [
    ⟨"id", .named "string", none, [⟨"error_fn", [⟨none, .text "missing"⟩]⟩]⟩,
    ⟨"cache", .named "string", none, [⟨"ignore", []⟩]⟩,
    ⟨"unit", .named "string", none, [⟨"default", []⟩]⟩,
    ⟨"size", .named "int32", none, []⟩,
    ⟨"count", .named "int32", none, []⟩]
  comment := none
  directives := [⟨"error_type", [⟨none, .text "WireError"⟩]⟩]
  newtype := false

/-- The first of the two fields is where the record is refused; with a function for the record there is an outcome for
both. -/
theorem RecordDecl.error_functions_checked_reading :
    let helpers := some (.text "app.helpers")
    let covered : RecordDecl Value :=
      { reading with directives := reading.directives ++ [⟨"error_fn", [⟨none, .text "missing"⟩]⟩] }
    reading.describe ⟨[], []⟩ helpers =
        .error ⟨.fieldWithoutErrorFunction ⟨.text "app.helpers", "WireError"⟩, some "Reading.size"⟩ ∧
      ∃ q, covered.describe ⟨[], []⟩ helpers = .ok q ∧ q.fields.length = 5 ∧
        ∀ f ∈ q.fields, ∃ x, resolveAbsence f q = .ok x := by
  intro helpers covered
  constructor
  · obtain ⟨q, hq, hchecks⟩ := exists_ok_of_any (x := reading.describeUnchecked ⟨[], []⟩ helpers)
      (P := fun q => q.errorType = some ⟨.text "app.helpers", "WireError"⟩ && q.errorFunction = none &&
        q.fields.any (·.expectation.function.isSome) &&
        (q.fields.find? (·.lacksErrorFunction)).any (·.nativeName = "size")) (by decide +kernel)
    simp only [Bool.and_eq_true, decide_eq_true_eq, List.any_eq_true, Option.any_eq_true] at hchecks
    obtain ⟨⟨⟨he, hrecord⟩, hnamed⟩, f, hf, hname⟩ := hchecks
    have hfirst := (RecordDescriptor.find?_lacksErrorFunction_eq_some_iff he hrecord).1 hf
    obtain ⟨-, herror⟩ := (error_functions_checked reading ⟨[], []⟩ helpers).2 q _ hq he hnamed
    exact (herror _).2 ⟨f, hfirst, by rw [hname]; rfl⟩
  · obtain ⟨q, hq, hlength⟩ := exists_ok_of_any (x := covered.describe ⟨[], []⟩ helpers)
      (P := fun q => q.fields.length = 5) (by decide +kernel)
    exact ⟨q, hq, of_decide_eq_true hlength, (error_functions_checked covered ⟨[], []⟩ helpers).1 q hq⟩

end WireBridge
