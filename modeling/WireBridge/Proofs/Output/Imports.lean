import WireBridge.Proofs.Descriptor.Modules
import WireBridge.Proofs.Output.Bindings

/-!
# Imports of generated modules

The code of a surviving record has names that are no types of the definitions (`RecordPlan.names`): functions and
classes that the directives refer to, classes of enums that are not declared, and those that every module has. In a
module of the assembly each of them has a place to come from (`RecordPlan.Resolves`). For a function, a class or an
enum of another module this is an import of that module (`imports_complete`).

The imports are collected from descriptors and absences, and the names come from the conversions, so the two meet in
`FieldPlan.Planned.within`: it asks for the references of a field and of its record, all of which are collected. The
collected modules can be put in order, so that there is a list of imports at all, unless they are mixed
(`modules?_eq_none_iff`): the helpers module may be set to a number, and every other module is named by a text.
-/

set_option autoImplicit false

namespace WireBridge

/-! ## References of plans -/

theorem FieldPlan.mem_references {x : FieldPlan} {g : FunctionRef} :
    g ∈ x.references ↔ x.absence.function = some g ∨ g ∈ x.descriptor.references := by
  rw [FieldDescriptor.mem_references]
  simp [references, List.mem_filterMap, eq_comm (a := some g)]

theorem RecordPlan.mem_references {p : RecordPlan} {g : FunctionRef} : g ∈ p.references ↔
    p.descriptor.errorType = some g ∨ p.descriptor.errorFunction = some g ∨ ∃ x ∈ p.fields, g ∈ x.references := by
  simp [references, List.mem_filterMap, eq_comm (a := some g), or_assoc]

/-- An absence has no functions but those that the directives of the field and of the record refer to. -/
theorem FieldPlan.Planned.references_subset {scope : Scope} {r : RecordDescriptor} {x : FieldPlan}
    (h : x.Planned scope r) {g : FunctionRef} (hg : g ∈ x.references) :
    g ∈ x.descriptor.references ∨ r.errorFunction = some g := by
  rcases FieldPlan.mem_references.1 hg with hg | hg
  · obtain ⟨rule, hresolved⟩ := h.absence
    rw [FieldDescriptor.mem_references]
    rcases function_of_resolveAbsence hresolved hg with hg | hg
    · exact .inl (.inl hg)
    · rcases eq_some_of_orElse hg with hg | hg
      · exact .inl (.inr (.inl hg))
      · exact .inr hg
  · exact .inl hg

/-- All references of a planned record are to modules that are named by texts, or to the helpers module. -/
theorem RecordDecl.isOf_of_plan {r : RecordDecl Value} {scope : Scope} {p : RecordPlan} (h : r.plan scope = .ok p) :
    ∀ g ∈ p.references, g.IsOf scope.helpers := by
  obtain ⟨head, hhead, hdescriptor, hfields⟩ := plan_eq_ok h
  obtain ⟨htype, hfunction⟩ := r.ensures_isOf_readHead scope.helpers head hhead
  have herrorType : p.descriptor.errorType = head.errorType := by rw [hdescriptor]
  have herrorFunction : p.descriptor.errorFunction = head.errorFunction := by rw [hdescriptor]
  intro g hg
  rcases RecordPlan.mem_references.1 hg with hg | hg | ⟨x, hx, hg⟩
  · exact htype g (herrorType ▸ hg)
  · exact hfunction g (herrorFunction ▸ hg)
  · obtain ⟨f, -, hdescribe, hplanned⟩ := exists_of_forall₂ hfields hx
    rcases hplanned.references_subset hg with hg | hg
    · exact FieldDecl.isOf_of_describe _ hdescribe g hg
    · exact hfunction g (herrorFunction ▸ hg)

/-- All references are to modules that are named by texts, if the helpers module is one. -/
theorem RecordDecl.named_of_plan {r : RecordDecl Value} {scope : Scope} {p : RecordPlan}
    (hh : ∀ v ∈ scope.helpers, ∃ m, v = .text m) (h : r.plan scope = .ok p) :
    ∀ g ∈ p.references, ∃ m, g.module = .text m := fun g hg => (isOf_of_plan h g hg).elim id (hh g.module)

/-! ## Imported modules -/

theorem exists_mapM_text? {modules : List Value} (h : ∀ v ∈ modules, ∃ m, v = .text m) :
    ∃ texts, modules.mapM Value.text? = some texts ∧ ∀ m, m ∈ texts ↔ Value.text m ∈ modules := by
  induction modules with
  | nil => exact ⟨[], rfl, by simp⟩
  | cons v modules ih =>
    obtain ⟨m, rfl⟩ := h v List.mem_cons_self
    obtain ⟨texts, htexts, hmem⟩ := ih fun v hv => h v (List.mem_cons_of_mem _ hv)
    refine ⟨m :: texts, by rw [List.mapM_cons, htexts]; rfl, fun n => ?_⟩
    simp only [List.mem_cons, hmem, Value.text.injEq]

/-- Modules that are named by texts can be put in order, each once. -/
theorem exists_orderModules? {modules : List Value} (h : ∀ v ∈ modules, ∃ m, v = .text m) :
    ∃ texts, orderModules? modules = some texts ∧ ∀ m, m ∈ texts ↔ Value.text m ∈ modules := by
  obtain ⟨texts, htexts, hmem⟩ := exists_mapM_text? h
  refine ⟨Text.sortTexts texts.eraseDups, by unfold orderModules?; rw [htexts], fun m => ?_⟩
  rw [Text.mem_sortTexts, List.mem_eraseDups, hmem]

theorem mapM_text?_eq_none_iff {modules : List Value} :
    modules.mapM Value.text? = none ↔ ∃ v ∈ modules, v.text? = none := by
  induction modules with
  | nil => simp
  | cons v modules ih =>
    rw [List.mapM_cons, List.exists_mem_cons_iff, ← ih]
    cases v.text? with
    | none => simp
    | some m => cases modules.mapM Value.text? <;> simp

/-- Modules cannot be put in order exactly if one of them is no text and there is another one. -/
theorem orderModules?_eq_none_iff {modules : List Value} :
    orderModules? modules = none ↔ ∃ v ∈ modules, v.text? = none ∧ ∃ w ∈ modules, w ≠ v := by
  unfold orderModules?
  split
  · next texts htexts =>
    have hall : ¬ ∃ v ∈ modules, v.text? = none := by simp [← mapM_text?_eq_none_iff, htexts]
    refine iff_of_false (by simp) fun h => hall ?_
    obtain ⟨v, hv, hnone, -⟩ := h
    exact ⟨v, hv, hnone⟩
  · next hnone =>
    obtain ⟨v, hv, hv'⟩ := mapM_text?_eq_none_iff.1 hnone
    cases modules with
    | nil => cases hv
    | cons m rest =>
      dsimp only
      rw [ite_eq_right_iff]
      constructor
      · intro hdiffer
        have hrest : ¬ ∀ w ∈ rest, w = m := fun h => absurd (hdiffer (by simpa using h)) (by simp)
        push Not at hrest
        obtain ⟨w, hw, hne⟩ := hrest
        rcases eq_or_ne v m with rfl | hvm
        · exact ⟨v, hv, hv', w, List.mem_cons_of_mem _ hw, hne⟩
        · exact ⟨v, hv, hv', m, List.mem_cons_self, hvm.symm⟩
      · rintro ⟨u, hu, -, w, hw, hne⟩ hall
        have hsame : ∀ w ∈ m :: rest, w = m := by simpa using hall
        exact absurd ((hsame w hw).trans (hsame u hu).symm) hne

theorem mem_referencedModules {a : Assembly} {v : Value} : v ∈ a.referencedModules ↔
    (a.settings.helpers = some v ∧ v.isPresent = true) ∨ ∃ p ∈ a.records, ∃ g ∈ p.references, g.module = v := by
  simp [Assembly.referencedModules, Option.filter_eq_some_iff]

namespace Assembly

/-- The helpers module is named by no text, and there is another module that code is taken from. -/
def MixesModules (a : Assembly) : Prop :=
  ∃ v ∈ a.settings.helpers, v.text? = none ∧ v ∈ a.referencedModules ∧ ∃ w ∈ a.referencedModules, w ≠ v

end Assembly

theorem import_mem_moduleLines (a : Assembly) {modules : List String} {m : String} (hm : m ∈ modules) :
    "import " ++ m ∈ moduleLines a modules := by
  refine List.mem_append_left _ (List.mem_append_left _ ?_)
  simp [headerLines, hm]

/-! ## Names -/

/-- The names in the code of a record, other than those of types. -/
def RecordPlan.names (p : RecordPlan) : List String := p.errorClass.toList ++ p.fields.flatMap (·.names)

/-- Where a name in the code of a record comes from, in a module that imports `modules`. -/
inductive RecordPlan.Resolves (p : RecordPlan) (scope : Scope) (modules : List String) : String → Prop
  /-- A container of the language. -/
  | container {n : String} (h : n ∈ ["list", "set", "dict"]) : p.Resolves scope modules n
  /-- A name that every module imports. -/
  | header {n : String} (h : n ∈ importedNames) : p.Resolves scope modules n
  /-- A type of the wire module, which every module imports. -/
  | wireType (n : String) : p.Resolves scope modules (wireTypeText n)
  /-- The error class that comes with the record. -/
  | errorClass (h : p.descriptor.errorType = none) : p.Resolves scope modules (p.name ++ "ConversionError")
  /-- A function or class that the directives of the record refer to. -/
  | reference {g : FunctionRef} {m : String} (hg : g ∈ p.references) (hm : g.module = .text m) (hi : m ∈ modules) :
    p.Resolves scope modules (m ++ "." ++ g.path)
  /-- An enum of the helpers module. -/
  | externalEnum {n m : String} (hn : scope.symbols.isEnum n = false) (hm : scope.helpers = some (.text m))
    (hi : m ∈ modules) : p.Resolves scope modules (m ++ "." ++ n)

section Resolves

variable {scope : Scope} {p : RecordPlan} {modules : List String}

theorem namesWithin_resolves (hh : ∀ v ∈ scope.helpers, ∃ m, v = .text m ∧ m ∈ modules) :
    scope.NamesWithin {n | p.Resolves scope modules n} where
  support n hn := by
    simp only [supportNames, List.mem_cons, List.not_mem_nil, or_false] at hn
    rcases hn with rfl | rfl | rfl | rfl | rfl | rfl | rfl | rfl
    · exact .container (by decide)
    · exact .container (by decide)
    · exact .header (by decide)
    · exact .container (by decide)
    all_goals exact .header (by decide)
  wireType n := .wireType n
  externalEnum n path hn h := by
    unfold Scope.externalEnum at h
    split at h
    · next v hv =>
      obtain ⟨m, rfl, hm⟩ := hh v hv
      cases h
      exact .externalEnum hn hv hm
    · cases h

variable (href : ∀ g ∈ p.references, ∃ m ∈ modules, g.module = .text m)

include href

theorem resolves_expression {g : FunctionRef} (hg : g ∈ p.references) : p.Resolves scope modules g.expression := by
  obtain ⟨m, hm, hmodule⟩ := href g hg
  rw [FunctionRef.expression, hmodule]
  exact .reference hg hmodule hm

theorem resolves_errorClass : p.Resolves scope modules p.descriptor.errorClass := by
  unfold RecordDescriptor.errorClass
  split
  · next e he => exact resolves_expression href (RecordPlan.mem_references.2 (.inl he))
  · next he => exact .errorClass he

theorem refersWithin_resolves {x : FieldPlan} (hx : x ∈ p.fields) :
    x.descriptor.RefersWithin x.absence p.descriptor {n | p.Resolves scope modules n} := by
  have hdirectives {g : FunctionRef} (hg : g ∈ x.descriptor.references) : g ∈ p.references :=
    RecordPlan.mem_references.2 (.inr (.inr ⟨x, hx, FieldPlan.mem_references.2 (.inr hg)⟩))
  have hmem {g : FunctionRef} := FieldDescriptor.mem_references (f := x.descriptor) (g := g)
  exact {
    default := fun g hg => resolves_expression href (hdirectives (hmem.2 (.inl hg)))
    fromWire := fun g hg => resolves_expression href (hdirectives (hmem.2 (.inr (.inr (.inl hg)))))
    toWire := fun g hg => resolves_expression href (hdirectives (hmem.2 (.inr (.inr (.inr hg)))))
    absence := fun g hg => resolves_expression href
      (RecordPlan.mem_references.2 (.inr (.inr ⟨x, hx, FieldPlan.mem_references.2 (.inl hg)⟩)))
    errorType := fun g hg => resolves_expression href (RecordPlan.mem_references.2 (.inl hg))
    errorClass := resolves_errorClass href }

end Resolves

/-- The error class of a plan is that of its record. -/
theorem RecordDecl.errorClass_of_plan {r : RecordDecl Value} {scope : Scope} {p : RecordPlan}
    (h : r.plan scope = .ok p) : ∀ c ∈ p.errorClass, c = p.descriptor.errorClass := by
  obtain ⟨q, -, h⟩ := bind_eq_ok_iff.1 h
  unfold RecordDescriptor.plan at h
  split at h
  · cases h
  · split at h
    · obtain ⟨x, -, rfl⟩ := map_eq_ok_iff.1 h
      simp
    · obtain ⟨xs, -, rfl⟩ := map_eq_ok_iff.1 h
      intro c hc
      simp only [RecordPlan.ofFields, Option.mem_def] at hc ⊢
      split at hc
      · exact (Option.some.inj hc).symm
      · cases hc

/-- All names in the code of a planned record have a place to come from, if the module imports those of the references
and the helpers module. -/
theorem RecordPlan.resolves_of_mem_names {r : RecordDecl Value} {scope : Scope} {p : RecordPlan} {modules : List String}
    (h : r.plan scope = .ok p) (hh : ∀ v ∈ scope.helpers, ∃ m, v = .text m ∧ m ∈ modules)
    (href : ∀ g ∈ p.references, ∃ m ∈ modules, g.module = .text m) : ∀ n ∈ p.names, p.Resolves scope modules n := by
  intro n hn
  rcases List.mem_append.1 hn with hn | hn
  · obtain rfl := RecordDecl.errorClass_of_plan h n (Option.mem_toList.1 hn)
    exact resolves_errorClass href
  · obtain ⟨x, hx, hn⟩ := List.mem_flatMap.1 hn
    obtain ⟨head, -, -, hfields⟩ := RecordDecl.plan_eq_ok h
    obtain ⟨f, -, -, hplanned⟩ := exists_of_forall₂ hfields hx
    -- Nothing is asked of the types, so every name may be one.
    have hwithin : x.descriptor.shape.Within Set.univ := fun _ _ => trivial
    have htarget : TargetWithin scope Set.univ x.descriptor := fun _ _ => ⟨trivial, fun _ _ => trivial⟩
    exact (hplanned.within (namesWithin_resolves hh) (refersWithin_resolves href hx) hwithin htarget).2 n hn

namespace Definitions

/-- The modules of an assembly can be listed, unless it mixes them. -/
theorem modules?_eq_none_iff (d : Definitions Value) (settings : Settings) :
    (assemble d settings).modules? = none ↔ (assemble d settings).MixesModules := by
  rw [Assembly.modules?, orderModules?_eq_none_iff]
  constructor
  · rintro ⟨v, hv, hnone, hw⟩
    refine ⟨v, ?_, hnone, hv, hw⟩
    rcases mem_referencedModules.1 hv with ⟨hv, -⟩ | ⟨p, hp, g, hg, rfl⟩
    · exact hv
    · obtain ⟨r, -, hplan, -⟩ := exists_of_mem_records hp
      refine (RecordDecl.isOf_of_plan hplan g hg).resolve_left ?_
      rintro ⟨m, hm⟩
      rw [hm] at hnone
      cases hnone
  · rintro ⟨v, -, hnone, hv, hw⟩
    exact ⟨v, hv, hnone, hw⟩

/-- The modules of an assembly can be listed, and a module of generated code that imports them has a place for every
name: all functions and classes that a surviving record refers to are of imported modules, and so are the enums of the
helpers module that its code names. -/
theorem imports_complete (d : Definitions Value) (settings : Settings)
    (hh : ∀ v ∈ settings.helpers, ∃ m, m ≠ "" ∧ v = .text m) :
    ∃ modules, (assemble d settings).modules? = some modules ∧
      (∀ m ∈ modules, "import " ++ m ∈ moduleLines (assemble d settings) modules) ∧
      (∀ v ∈ settings.helpers, v.plain ∈ modules) ∧
      ∀ p ∈ (assemble d settings).records, (∀ g ∈ p.references, ∃ m ∈ modules, g.module = .text m) ∧
        ∀ n ∈ p.names, p.Resolves (d.scope settings) modules n := by
  have hnamed : ∀ p ∈ (assemble d settings).records, ∀ g ∈ p.references, ∃ m, g.module = .text m := by
    intro p hp
    obtain ⟨r, -, hplan, -⟩ := exists_of_mem_records hp
    exact RecordDecl.named_of_plan (fun v hv => (hh v hv).imp fun _ h => h.2) hplan
  have htexts : ∀ v ∈ (assemble d settings).referencedModules, ∃ m, v = .text m := by
    intro v hv
    rcases mem_referencedModules.1 hv with ⟨hv, -⟩ | ⟨p, hp, g, hg, rfl⟩
    · exact (hh v hv).imp fun _ h => h.2
    · exact hnamed p hp g hg
  obtain ⟨modules, hmodules, hmem⟩ := exists_orderModules? htexts
  have hhelpers : ∀ v ∈ settings.helpers, ∃ m, v = .text m ∧ m ∈ modules := by
    intro v hv
    obtain ⟨m, hm, rfl⟩ := hh v hv
    exact ⟨m, rfl, (hmem m).2 (mem_referencedModules.2 (.inl ⟨hv, (Value.isPresent_text m).2 hm⟩))⟩
  refine ⟨modules, hmodules, fun m hm => import_mem_moduleLines _ hm, fun v hv => ?_, fun p hp => ?_⟩
  · obtain ⟨m, rfl, hm⟩ := hhelpers v hv
    exact hm
  obtain ⟨r, -, hplan, -⟩ := exists_of_mem_records hp
  have href : ∀ g ∈ p.references, ∃ m ∈ modules, g.module = .text m := by
    intro g hg
    obtain ⟨m, hm⟩ := hnamed p hp g hg
    exact ⟨m, (hmem m).2 (mem_referencedModules.2 (.inr ⟨p, hp, g, hg, hm⟩)), hm⟩
  exact ⟨href, RecordPlan.resolves_of_mem_names hplan hhelpers href⟩

/-- `Mood` is no declared enum. `Person` has it in a list, and stands for `Feeling`, which has it too; every other field
refers to a function of its own module. -/
def referring : Definitions Value where
  enums := []
  records := [
    ⟨"Feeling", [⟨"mood", .named "Mood", none, [⟨"enum", []⟩]⟩], none, [], false⟩,
    ⟨"Person", [
      ⟨"feeling", .named "Feeling", none, [⟨"transparent", []⟩, ⟨"default", [⟨none, .text "app.moods:calm"⟩]⟩]⟩,
      ⟨"moods", .mk "list" [.named "Mood"] false, none, [⟨"enum", []⟩]⟩,
      ⟨"name", .named "string", none,
        [⟨"from_fn", [⟨none, .text "app.codecs:read"⟩]⟩, ⟨"to_fn", [⟨none, .text "app.texts:write"⟩]⟩]⟩,
      ⟨"size", .named "int32", none, [⟨"expect", []⟩, ⟨"error_fn", [⟨none, .text "app.checks:size"⟩]⟩]⟩],
      none, [⟨"error_type", [⟨none, .text "app.errors:PersonError"⟩]⟩,
        ⟨"error_fn", [⟨none, .text "app.reports:missing"⟩]⟩], false⟩]
  options := []

theorem imports_complete_referring : (∀ v ∈ sampleSettings.helpers, ∃ m, m ≠ "" ∧ v = .text m) ∧
    ∃ modules, (assemble referring sampleSettings).modules? = some modules ∧
      "app.helpers" ∈ modules ∧ "app.moods" ∈ modules ∧ "app.codecs" ∈ modules ∧ "app.texts" ∈ modules ∧
      ∃ p ∈ (assemble referring sampleSettings).records, p.name = "Person" ∧
        ["app.helpers.Mood", "app.moods.calm", "app.codecs.read", "app.texts.write", "app.checks.size",
          "app.errors.PersonError"] ⊆ p.names ∧
        ∀ n ∈ p.names, p.Resolves (referring.scope sampleSettings) modules n := by
  have hh : ∀ v ∈ sampleSettings.helpers, ∃ m, m ≠ "" ∧ v = .text m := by
    rintro v hv
    cases hv
    exact ⟨"app.helpers", by decide, rfl⟩
  obtain ⟨p, hp, hname, hnames, hmodules⟩ : ∃ p ∈ (assemble referring sampleSettings).records, p.name = "Person" ∧
      ["app.helpers.Mood", "app.moods.calm", "app.codecs.read", "app.texts.write", "app.checks.size",
        "app.errors.PersonError"] ⊆ p.names ∧
      ∀ m ∈ ["app.moods", "app.codecs", "app.texts"], ∃ g ∈ p.references, g.module = .text m := by decide +kernel
  obtain ⟨modules, hlisted, -, hhelpers, hrecords⟩ := imports_complete referring sampleSettings hh
  have himported : ∀ m ∈ ["app.moods", "app.codecs", "app.texts"], m ∈ modules := by
    intro m hm
    obtain ⟨g, hg, hmodule⟩ := hmodules m hm
    obtain ⟨m', hm', htext⟩ := (hrecords p hp).1 g hg
    rw [hmodule, Value.text.injEq] at htext
    exact htext ▸ hm'
  exact ⟨hh, modules, hlisted, hhelpers _ rfl, himported _ (by decide), himported _ (by decide),
    himported _ (by decide), p, hp, hname, hnames, (hrecords p hp).2⟩

end Definitions

end WireBridge
