import WireBridge.Assembly.Basic
import WireBridge.Proofs.Assembly.Dependents
import WireBridge.Proofs.Assembly.Plan

/-!
# Stages of an assembly

An assembly plans every enum and every record on its own (`enumPlans`, `recordPlans`), and then drops the dependents
of those that cannot be planned (`drop`). `reports` are its problems with the type that each one is about; all of
them stand there (`standsAt_of_report`).

`perm_reports_survivors` is the account of the declared types: of distinct ones each is reported once or survives.
-/

set_option autoImplicit false

namespace WireBridge

/-! ## Planning a list of declarations -/

/-- A problem and the declared type that it is about. -/
structure Report where
  type : String
  error : ConfigError
  deriving DecidableEq, Repr

/-- The report about a type that cannot be planned. -/
def failure? {α : Type} (type : String) : Except ConfigError α → Option Report
  | .ok _ => none
  | .error e => some ⟨type, e.atPath type⟩

section Planning

variable {α γ : Type} {name : γ → String} {plan : γ → Except ConfigError α} {planName : α → String} {xs : List γ}

theorem mem_plans_iff {p : α} : p ∈ xs.filterMap (fun x => (plan x).toOption) ↔ ∃ x ∈ xs, plan x = .ok p := by
  rw [List.mem_filterMap]
  refine exists_congr fun x => and_congr_right fun _ => ?_
  cases plan x <;> simp [Except.toOption]

theorem mem_failures_iff {e : Report} : e ∈ xs.filterMap (fun x => failure? (name x) (plan x)) ↔
    ∃ x ∈ xs, ∃ e₀, plan x = .error e₀ ∧ e = ⟨name x, e₀.atPath (name x)⟩ := by
  rw [List.mem_filterMap]
  refine exists_congr fun x => and_congr_right fun _ => ?_
  cases plan x <;> simp [failure?, eq_comm]

variable (hname : ∀ x p, plan x = .ok p → planName p = name x)

include hname

theorem mem_planNames_iff {n : String} : n ∈ (xs.filterMap fun x => (plan x).toOption).map planName ↔
    ∃ x ∈ xs, name x = n ∧ ∃ p, plan x = .ok p := by
  simp only [List.mem_map, mem_plans_iff]
  constructor
  · rintro ⟨p, ⟨x, hx, hp⟩, rfl⟩
    exact ⟨x, hx, (hname x p hp).symm, p, hp⟩
  · rintro ⟨x, hx, rfl, p, hp⟩
    exact ⟨p, ⟨x, hx, hp⟩, hname x p hp⟩

/-- Plans keep the order of the declarations. -/
theorem planNames_sublist : ((xs.filterMap fun x => (plan x).toOption).map planName).Sublist (xs.map name) := by
  induction xs with
  | nil => exact .slnil
  | cons x xs ih =>
    cases hp : plan x with
    | error e => simpa [hp, Except.toOption] using ih.cons _
    | ok p => simpa [hp, Except.toOption, hname x p hp] using ih.cons_cons (name x)

/-- A declaration is planned or reported. -/
theorem perm_failures_plans : ((xs.filterMap fun x => failure? (name x) (plan x)).map (·.type) ++
    (xs.filterMap fun x => (plan x).toOption).map planName).Perm (xs.map name) := by
  induction xs with
  | nil => exact .nil
  | cons x xs ih =>
    cases hp : plan x with
    | error e => simpa [hp, failure?, Except.toOption] using ih
    | ok p =>
      simp only [List.filterMap_cons, hp, failure?, Except.toOption, List.map_cons, hname x p hp]
      exact List.perm_middle.trans (ih.cons _)

end Planning

/-! ## Stages -/

theorem PlanMirrors.uses_iff {s : Symbols} {r : RecordDecl Value} {p : RecordPlan} (h : PlanMirrors s r p)
    {n : String} : p.Uses n ↔ ∃ f ∈ r.plannedFields, n ∈ (f.shape s).referenced := by
  rw [← mirrors_uses_iff h.fields]
  simp [RecordPlan.Uses]

namespace Definitions

section Stages

variable (d : Definitions Value) (settings : Settings)

def symbols : Symbols := .ofDefinitions d

def scope : Scope := .of d.symbols settings

def enumPlans : List EnumPlan := d.enums.filterMap fun e => e.plan.toOption

def recordPlans : List RecordPlan := d.records.filterMap fun r => (r.plan (d.scope settings)).toOption

/-- The declared types that cannot be planned on their own. -/
def failedNames : List String := failedTypes d.symbols (d.recordPlans settings) d.enumPlans

/-- The records that survive, and those that are dropped. -/
def drop : List RecordPlan × List Dropped := dropDependents (d.failedNames settings) (d.recordPlans settings)

/-- The problems of an assembly, each with the type that it is about. -/
def reports : List Report :=
  (d.enums.filterMap fun e => failure? e.name e.plan) ++
    (d.records.filterMap fun r => failure? r.name (r.plan (d.scope settings))) ++
    (d.drop settings).2.map fun x => ⟨x.record, x.error⟩

/-- The variants or fields of the declared types of a name. -/
def members (type : String) : List String :=
  (d.enums.filter (·.name = type)).flatMap (fun e => e.variants.map (·.name)) ++
    (d.records.filter (·.name = type)).flatMap fun r => r.fields.map (·.name)

/-- The names of the types that survive. -/
def survivorNames : List String :=
  (assemble d settings).enums.map (·.name) ++ (assemble d settings).records.map (·.name)

/-- A type can be planned on its own. -/
def Plannable (type : String) : Prop :=
  (∃ e ∈ d.enums, e.name = type ∧ ∃ p, e.plan = .ok p) ∨
    ∃ r ∈ d.records, r.name = type ∧ ∃ p, r.plan (d.scope settings) = .ok p

end Stages

variable {d : Definitions Value} {settings : Settings}

instance {ε α : Type} : (x : Except ε α) → Decidable (∃ a, x = .ok a)
  | .ok a => .isTrue ⟨a, rfl⟩
  | .error _ => .isFalse (by rintro ⟨_, ⟨⟩⟩)

instance {ε α : Type} {P : α → Prop} [DecidablePred P] : (x : Except ε α) → Decidable (∃ a, x = .ok a ∧ P a)
  | .ok a => decidable_of_iff (P a) (by simp)
  | .error _ => .isFalse (by rintro ⟨_, ⟨⟩, _⟩)

instance (type : String) : Decidable (d.Plannable settings type) := inferInstanceAs (Decidable (_ ∨ _))

theorem assemble_enums (d : Definitions Value) (settings : Settings) :
    (assemble d settings).enums = d.enumPlans := by
  unfold assemble
  dsimp only
  rw [List.filterMap_map]
  rfl

theorem assemble_records (d : Definitions Value) (settings : Settings) :
    (assemble d settings).records = (d.drop settings).1 := by
  unfold assemble
  dsimp only
  rw [List.filterMap_map, List.filterMap_map]
  rfl

theorem assemble_errors (d : Definitions Value) (settings : Settings) :
    (assemble d settings).errors = (d.reports settings).map (·.error) := by
  have hfailure {α : Type} (a : Attempt α) : a.error? = (failure? a.name a.result).map (·.error) := by
    unfold Attempt.error? failure?
    cases a.result <;> rfl
  unfold assemble
  dsimp only
  simp only [List.filterMap_map, reports, List.map_append, List.map_filterMap, List.map_map, Function.comp_def,
    hfailure]
  rfl

/-! ## Names -/

theorem mem_typeNames_iff {n : String} :
    n ∈ d.typeNames ↔ (∃ e ∈ d.enums, e.name = n) ∨ ∃ r ∈ d.records, r.name = n := by
  simp [typeNames]

theorem mem_enumPlans_names_iff {n : String} :
    n ∈ d.enumPlans.map (·.name) ↔ ∃ e ∈ d.enums, e.name = n ∧ ∃ p, e.plan = .ok p :=
  mem_planNames_iff fun _ _ h => EnumDecl.name_of_plan h

theorem mem_recordPlans_names_iff {n : String} : n ∈ (d.recordPlans settings).map (·.name) ↔
    ∃ r ∈ d.records, r.name = n ∧ ∃ p, r.plan (d.scope settings) = .ok p :=
  mem_planNames_iff fun _ _ h => (RecordDecl.mirrors_of_plan h).name

theorem enumPlans_sublist (d : Definitions Value) : (d.enumPlans.map (·.name)).Sublist (d.enums.map (·.name)) :=
  planNames_sublist fun _ _ h => EnumDecl.name_of_plan h

theorem recordPlans_sublist (d : Definitions Value) (settings : Settings) :
    ((d.recordPlans settings).map (·.name)).Sublist (d.records.map (·.name)) :=
  planNames_sublist fun _ _ h => (RecordDecl.mirrors_of_plan h).name

theorem left_sublist (d : Definitions Value) (settings : Settings) :
    (d.drop settings).1.Sublist (d.recordPlans settings) := by
  rw [drop, dropDependents_left]
  exact List.filter_sublist

/-- Survivors keep the order of the declarations. -/
theorem assemble_enums_sublist (d : Definitions Value) (settings : Settings) :
    ((assemble d settings).enums.map (·.name)).Sublist (d.enums.map (·.name)) := by
  rw [assemble_enums]
  exact d.enumPlans_sublist

theorem assemble_records_sublist (d : Definitions Value) (settings : Settings) :
    ((assemble d settings).records.map (·.name)).Sublist (d.records.map (·.name)) := by
  rw [assemble_records]
  exact ((d.left_sublist settings).map _).trans (d.recordPlans_sublist settings)

theorem mem_typeNames_of_survivor {n : String} (hn : n ∈ d.survivorNames settings) : n ∈ d.typeNames :=
  ((d.assemble_enums_sublist settings).append (d.assemble_records_sublist settings)).mem hn

theorem mem_failedNames_iff {n : String} :
    n ∈ d.failedNames settings ↔ n ∈ d.typeNames ∧ ¬ d.Plannable settings n := by
  rw [failedNames, failedTypes, List.mem_filter, decide_eq_true_eq, List.mem_append, mem_recordPlans_names_iff,
    mem_enumPlans_names_iff, Plannable, or_comm (a := ∃ e ∈ d.enums, _)]
  simp only [Symbols.names, symbols, Symbols.ofDefinitions, typeNames, List.mem_append, or_comm]

/-! ## Account of the declared types -/

/-- Of distinct declared types each is reported once or survives. -/
theorem perm_reports_survivors (hn : d.typeNames.Nodup) (settings : Settings) :
    ((d.reports settings).map (·.type) ++ d.survivorNames settings).Perm d.typeNames := by
  rw [survivorNames, assemble_enums, assemble_records]
  have henums : ((d.enums.filterMap fun e => failure? e.name e.plan).map (·.type) ++
      d.enumPlans.map (·.name)).Perm (d.enums.map (·.name)) :=
    perm_failures_plans fun _ _ h => EnumDecl.name_of_plan h
  have hrecords : ((d.records.filterMap fun r => failure? r.name (r.plan (d.scope settings))).map (·.type) ++
      (d.recordPlans settings).map (·.name)).Perm (d.records.map (·.name)) :=
    perm_failures_plans fun _ _ h => (RecordDecl.mirrors_of_plan h).name
  have hdrop := perm_dropped_left (d.failedNames settings) (d.recordPlans settings)
    ((List.nodup_append.1 hn).2.1.sublist (d.recordPlans_sublist settings))
  have hall := henums.append ((hdrop.append_left _).trans hrecords)
  refine List.Perm.trans ?_ hall
  simp only [reports, List.map_append, List.map_map, Function.comp_def, List.append_assoc]
  refine List.Perm.append_left _ ?_
  rw [← List.append_assoc]
  refine (List.perm_append_comm_assoc _ _ _).trans ?_
  rw [List.append_assoc]
  rfl

/-- A problem stands at the type that it is about, or at a member of that type. -/
theorem standsAt_of_report {x : Report} (hx : x ∈ d.reports settings) :
    x.type ∈ d.typeNames ∧ StandsAt x.type (d.members x.type) x.error := by
  have henum : ∀ e ∈ d.enums, ∀ m ∈ e.variants.map (·.name), m ∈ d.members e.name := by
    intro e he m hm
    exact List.mem_append_left _ (List.mem_flatMap.2 ⟨e, by simpa using he, hm⟩)
  have hrecord : ∀ r ∈ d.records, ∀ m ∈ r.fields.map (·.name), m ∈ d.members r.name := by
    intro r hr m hm
    exact List.mem_append_right _ (List.mem_flatMap.2 ⟨r, by simpa using hr, hm⟩)
  rcases List.mem_append.1 hx with hx | hx
  · rcases List.mem_append.1 hx with hx | hx
    · obtain ⟨e, he, e₀, hp, rfl⟩ := mem_failures_iff.1 hx
      exact ⟨mem_typeNames_iff.2 (.inl ⟨e, he, rfl⟩), ((EnumDecl.standsAt_of_plan hp).mono (henum e he)).atPath⟩
    · obtain ⟨r, hr, e₀, hp, rfl⟩ := mem_failures_iff.1 hx
      exact ⟨mem_typeNames_iff.2 (.inr ⟨r, hr, rfl⟩), ((RecordDecl.standsAt_of_plan hp).mono (hrecord r hr)).atPath⟩
  · obtain ⟨y, hy, rfl⟩ := List.mem_map.1 hx
    obtain ⟨p, hp, hname, hmem⟩ := (dropInvariant_rest _ _).member y hy
    obtain ⟨r, hr, hplan⟩ := mem_plans_iff.1 hp
    have hm := RecordDecl.mirrors_of_plan hplan
    have hrname : r.name = y.record := hm.name.symm.trans hname
    refine ⟨mem_typeNames_iff.2 (.inr ⟨r, hr, hrname⟩), .inr ⟨y.member, ?_, rfl⟩⟩
    rw [← hrname]
    refine hrecord r hr _ ?_
    have hnames := mirrors_nativeNames hm.fields
    rw [List.map_map] at hnames
    obtain ⟨f, hf, hfy⟩ := List.mem_map.1 (hnames ▸ hmem)
    exact List.mem_map.2 ⟨f, RecordDecl.mem_of_mem_plannedFields hf, hfy⟩

end Definitions

/-! ## A sample -/

/-- A record without directives. -/
def RecordDecl.plain (name : String) (fields : List (String × TypeExpr)) : RecordDecl Value :=
  ⟨name, fields.map fun (n, t) => ⟨n, t, none, []⟩, none, [], false⟩

/-- An enum without directives. -/
def EnumDecl.plain (name : String) (variants : List String) : EnumDecl Value :=
  ⟨name, variants.map fun n => ⟨n, none, []⟩, none, []⟩

/-- `Void` cannot be planned. `Knot` and `Chain` use each other, and `Knot` uses `Void`. -/
def sample : Definitions Value where
  enums := [.plain "Color" ["RED"], .plain "Void" []]
  records := [
    .plain "Chain" [("knots", .mk "list" [.named "Knot"] false)],
    .plain "Pixel" [("x", .named "int32"), ("color", .named "Color")],
    .plain "Knot" [("chain", .mk "optional" [.named "Chain"] false), ("void", .named "Void")]]
  options := []

def sampleSettings : Settings := ⟨.text "app.wire", some (.text "app.helpers"), defaultRuntime⟩

end WireBridge
