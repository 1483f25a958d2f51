import WireBridge.Output.Generation
import WireBridge.Proofs.Assembly.Reports
import WireBridge.Proofs.Assembly.Restriction
import WireBridge.Proofs.Assembly.Survival
import WireBridge.Proofs.Definition.WellFormed

/-!
# Isolation of closed parts

Declarations that refer to each other only are assembled alone as they are beside others. The survivors of a
definition file are such a part: generated alone they have no problem and come to the same module.

A part is given as sublists of the declarations; `eq_restrict_of_isPart` finds it back as a restriction.
-/

set_option autoImplicit false

namespace WireBridge

theorem eq_filter_of_sublist {α : Type} {name : α → String} {xs ys : List α} (h : ys.Sublist xs)
    (hn : (xs.map name).Nodup) : ys = xs.filter (name · ∈ ys.map name) := by
  induction h with
  | slnil => rfl
  | @cons ys xs x hsub ih =>
    rw [List.map_cons, List.nodup_cons] at hn
    have hx : name x ∉ ys.map name := fun hx => hn.1 ((hsub.map name).mem hx)
    rw [List.filter_cons_of_neg (by simpa using hx)]
    exact ih hn.2
  | @cons_cons ys xs x hsub ih =>
    rw [List.map_cons, List.nodup_cons] at hn
    rw [List.filter_cons_of_pos (by simp)]
    congr 1
    refine (ih hn.2).trans (List.filter_congr fun z hz => ?_)
    have hne : name z ≠ name x := fun heq => hn.1 (heq ▸ List.mem_map_of_mem hz)
    simp [hne]

namespace Definitions

/-! ## Parts -/

/-- The enums and the records of `s` are among those of `d`, in the same order. -/
structure IsPart (s d : Definitions Value) : Prop where
  enums : s.enums.Sublist d.enums
  records : s.records.Sublist d.records

/-- No field of a record in `s` uses a type that is declared in `d` and not in `s`. -/
def ClosedIn (s d : Definitions Value) : Prop :=
  ∀ r ∈ s.records, ∀ f ∈ r.fields, ∀ n ∈ (f.shape d.symbols).referenced, n ∈ d.typeNames → n ∈ s.typeNames

/-- The names that are declared in `s` if they are declared in `d`. -/
def namesIn (s d : Definitions Value) : Set String := {n | n ∈ d.typeNames → n ∈ s.typeNames}

instance (s d : Definitions Value) : DecidablePred (· ∈ s.namesIn d) := fun n =>
  inferInstanceAs (Decidable (n ∈ d.typeNames → n ∈ s.typeNames))

variable {s d : Definitions Value}

theorem mem_namesIn_iff {n : String} (hn : n ∈ d.typeNames) : n ∈ s.namesIn d ↔ n ∈ s.typeNames :=
  ⟨fun h => h hn, fun h _ => h⟩

/-- The declarations of a part are found back by name. -/
theorem eq_restrict_of_isPart (hn : d.typeNames.Nodup) (h : s.IsPart d) :
    s.enums = (d.restrict (s.namesIn d)).enums ∧ s.records = (d.restrict (s.namesIn d)).records := by
  obtain ⟨henums, hrecords, hdisjoint⟩ := List.nodup_append.1 hn
  constructor
  · refine (eq_filter_of_sublist h.enums henums).trans (List.filter_congr fun e he => ?_)
    have hname := List.mem_map_of_mem (f := EnumDecl.name) he
    rw [decide_eq_decide, mem_namesIn_iff (List.mem_append_left _ hname), typeNames, List.mem_append]
    refine ⟨.inl, fun hmem => hmem.resolve_right fun hr => ?_⟩
    exact hdisjoint _ hname _ ((h.records.map _).mem hr) rfl
  · refine (eq_filter_of_sublist h.records hrecords).trans (List.filter_congr fun r hr => ?_)
    have hname := List.mem_map_of_mem (f := RecordDecl.name) hr
    rw [decide_eq_decide, mem_namesIn_iff (List.mem_append_right _ hname), typeNames, List.mem_append]
    refine ⟨.inr, fun hmem => hmem.resolve_left fun he => ?_⟩
    exact hdisjoint _ ((h.enums.map _).mem he) _ hname rfl

theorem closed_namesIn (hn : d.typeNames.Nodup) (h : s.IsPart d) (hc : s.ClosedIn d) : d.Closed (s.namesIn d) := by
  intro r hr hN f hf n hmem hdecl
  have hrs : r ∈ s.records := by
    rw [(eq_restrict_of_isPart hn h).2]
    exact List.mem_filter.2 ⟨hr, decide_eq_true hN⟩
  exact hc r hrs f hf n hmem hdecl

/-- Options have no influence on an assembly. -/
theorem stages_congr (he : s.enums = d.enums) (hr : s.records = d.records) (settings : Settings) :
    assemble s settings = assemble d settings ∧ s.reports settings = d.reports settings := by
  obtain ⟨es, rs, os⟩ := s
  obtain ⟨es', rs', os'⟩ := d
  subst he hr
  exact ⟨rfl, rfl⟩

/-- A closed part is assembled as it is beside the other declarations. -/
theorem assemble_of_isPart (settings : Settings) (hn : d.typeNames.Nodup) (h : s.IsPart d) (hc : s.ClosedIn d) :
    (assemble s settings).enums = (assemble d settings).enums.filter (·.name ∈ s.typeNames) ∧
      (assemble s settings).records = (assemble d settings).records.filter (·.name ∈ s.typeNames) ∧
      s.reports settings = (d.reports settings).filter (·.type ∈ s.typeNames) := by
  obtain ⟨he, hr⟩ := eq_restrict_of_isPart hn h
  obtain ⟨hassemble, hreports⟩ := stages_congr he hr settings
  have hclosed := closed_namesIn hn h hc
  have henums : (assemble s settings).enums = (assemble d settings).enums.filter (·.name ∈ s.namesIn d) := by
    rw [hassemble, assemble_enums, assemble_enums, enumPlans_restrict]
  have hrecords : (assemble s settings).records = (assemble d settings).records.filter (·.name ∈ s.namesIn d) := by
    rw [hassemble, assemble_records, assemble_records, drop_restrict hclosed]
  rw [henums, hrecords, hreports, reports_restrict hclosed]
  refine ⟨List.filter_congr fun p hp => ?_, List.filter_congr fun p hp => ?_, List.filter_congr fun x hx => ?_⟩
  · rw [decide_eq_decide]
    exact mem_namesIn_iff (mem_typeNames_of_survivor (List.mem_append_left _ (List.mem_map_of_mem hp)))
  · rw [decide_eq_decide]
    exact mem_namesIn_iff (mem_typeNames_of_survivor (List.mem_append_right _ (List.mem_map_of_mem hp)))
  · rw [decide_eq_decide]
    exact mem_namesIn_iff (standsAt_of_report hx).1

/-! ## Survivors -/

/-- The definitions cut down to the types that survive. -/
def surviving (d : Definitions Value) (settings : Settings) : Definitions Value :=
  { d with
    enums := d.enums.filter (·.name ∈ d.survivorNames settings)
    records := d.records.filter (·.name ∈ d.survivorNames settings) }

variable {settings : Settings}

theorem surviving_isPart (d : Definitions Value) (settings : Settings) : (d.surviving settings).IsPart d :=
  ⟨List.filter_sublist, List.filter_sublist⟩

theorem mem_typeNames_surviving {n : String} :
    n ∈ (d.surviving settings).typeNames ↔ n ∈ d.typeNames ∧ n ∈ d.survivorNames settings :=
  mem_typeNames_restrict (N := {n | n ∈ d.survivorNames settings})

theorem recordSurvives_of_mem (hn : d.typeNames.Nodup) {r : RecordDecl Value} (hr : r ∈ d.records)
    (hs : r.name ∈ d.survivorNames settings) : d.RecordSurvives settings r := by
  obtain ⟨-, hrecords, hdisjoint⟩ := List.nodup_append.1 hn
  rcases List.mem_append.1 hs with hs | hs
  · exact absurd rfl (hdisjoint _ ((d.assemble_enums_sublist settings).mem hs) _ (List.mem_map_of_mem hr))
  · obtain ⟨p, hp, hname⟩ := List.mem_map.1 hs
    obtain ⟨r', hr', hplan⟩ := mem_plans_iff.1 ((d.left_sublist settings).mem (assemble_records d settings ▸ hp))
    have hname' : r'.name = r.name := (RecordDecl.mirrors_of_plan hplan).name.symm.trans hname
    obtain rfl := List.inj_on_of_nodup_map hrecords hr' hr hname'
    exact ⟨p, hp, hplan⟩

theorem surviving_closedIn (hn : d.typeNames.Nodup) (hw : ∀ r ∈ d.records, r.Wraps) :
    (d.surviving settings).ClosedIn d := by
  intro r hr f hf n hmem hdecl
  obtain ⟨hr, hs⟩ := List.mem_filter.1 hr
  have hsurvives := recordSurvives_of_mem hn hr (of_decide_eq_true hs)
  rw [← RecordDecl.plannedFields_eq (hw r hr)] at hf
  have hrefers : d.Refers RecordDecl.plannedFields r.name n := ⟨hdecl, r, hr, rfl, f, hf, hmem⟩
  exact mem_typeNames_surviving.2 ⟨hdecl, mem_survivorNames_of_refers hn hr hsurvives hrefers⟩

/-- The survivors are assembled alone as they are beside the others, without a problem. -/
theorem assemble_surviving (settings : Settings) (hn : d.typeNames.Nodup) (hw : ∀ r ∈ d.records, r.Wraps) :
    (assemble (d.surviving settings) settings).enums = (assemble d settings).enums ∧
      (assemble (d.surviving settings) settings).records = (assemble d settings).records ∧
      (assemble (d.surviving settings) settings).errors = [] := by
  obtain ⟨he, hr, hreports⟩ :=
    assemble_of_isPart settings hn (surviving_isPart d settings) (surviving_closedIn hn hw)
  have hkept {n : String} (h : n ∈ d.survivorNames settings) : n ∈ (d.surviving settings).typeNames :=
    mem_typeNames_surviving.2 ⟨mem_typeNames_of_survivor h, h⟩
  refine ⟨he.trans ?_, hr.trans ?_, ?_⟩
  · apply List.filter_eq_self.2
    intro p hp
    exact decide_eq_true (hkept (List.mem_append_left _ (List.mem_map_of_mem hp)))
  · apply List.filter_eq_self.2
    intro p hp
    exact decide_eq_true (hkept (List.mem_append_right _ (List.mem_map_of_mem hp)))
  · rw [assemble_errors, hreports, List.map_eq_nil_iff, List.filter_eq_nil_iff]
    intro x hx hmem
    have hdisjoint := (List.nodup_append.1 ((perm_reports_survivors hn settings).nodup_iff.2 hn)).2.2
    have hs := (mem_typeNames_surviving.1 (of_decide_eq_true hmem)).2
    exact hdisjoint _ (List.mem_map_of_mem hx) _ hs rfl

/-- The text that is generated where no problem is refused. -/
theorem generate_text (request : GenerationRequest)
    (hs : Settings.ofOptions d.options request.runtimeImport request.wireModule request.helpers = .ok settings)
    (hok : request.strict = false ∨ (assemble d settings).errors = []) :
    (generate d request).map (·.text) =
      match (assemble d settings).modules? with
      | some modules => .ok (moduleText (assemble d settings) modules)
      | none => .error .unorderedModules := by
  have hpass : (request.strict && !(assemble d settings).errors.isEmpty) = false := by
    rcases hok with h | h
    · rw [h, Bool.false_and]
    · rw [h, List.isEmpty_nil, Bool.not_true, Bool.and_false]
  unfold generate
  rw [hs]
  simp only [Except.mapError, bind, Except.bind, hpass]
  cases (assemble d settings).modules? <;> rfl

/-- What is generated leniently from some definitions is generated strictly from their survivors. -/
theorem generate_surviving (hn : d.typeNames.Nodup) (hw : ∀ r ∈ d.records, r.Wraps) {request : GenerationRequest}
    (hs : Settings.ofOptions d.options request.runtimeImport request.wireModule request.helpers = .ok settings) :
    (generate d { request with strict := false }).map (·.text) =
      (generate (d.surviving settings) { request with strict := true }).map (·.text) := by
  obtain ⟨he, hr, herrors⟩ := assemble_surviving settings hn hw
  have hmodules : (assemble (d.surviving settings) settings).modules? = (assemble d settings).modules? := by
    unfold Assembly.modules? Assembly.referencedModules
    rw [hr]
    rfl
  have htext (modules : List String) : moduleText (assemble (d.surviving settings) settings) modules =
      moduleText (assemble d settings) modules := by
    unfold moduleText
    rw [he, hr]
    rfl
  rw [generate_text { request with strict := false } hs (.inl rfl),
    generate_text (d := d.surviving settings) { request with strict := true } hs (.inr herrors), hmodules]
  simp only [htext]

/-! ## Isolation -/

theorem typeNames_subset_of_isPart (h : s.IsPart d) {n : String} (hn : n ∈ s.typeNames) : n ∈ d.typeNames :=
  ((h.enums.map _).append (h.records.map _)).mem hn

/-- A closed part is assembled alone as it is within the whole, and generating only what survives of a definition
file does not tell it from the file cut down to that. -/
theorem closed_part_isolated :
    (∀ (d s : Definitions Value) (settings : Settings), d.typeNames.Nodup → s.IsPart d → s.ClosedIn d →
      (assemble s settings).enums = (assemble d settings).enums.filter (·.name ∈ s.typeNames) ∧
      (assemble s settings).records = (assemble d settings).records.filter (·.name ∈ s.typeNames) ∧
      (assemble d settings).errors = (d.reports settings).map (·.error) ∧
      (assemble s settings).errors = ((d.reports settings).filter (·.type ∈ s.typeNames)).map (·.error) ∧
      ((∀ n ∈ d.typeNames, '.' ∉ n.toList) →
        (assemble s settings).errors = (assemble d settings).errors.filter fun e => s.typeNames.any (e.isAt ·))) ∧
    ∀ (text : String) (d : Definitions Value) (request : GenerationRequest) (settings : Settings),
      ofText text = .ok d →
      Settings.ofOptions d.options request.runtimeImport request.wireModule request.helpers = .ok settings →
      (assemble (d.surviving settings) settings).errors = [] ∧
      (generate d { request with strict := false }).map (·.text) =
        (generate (d.surviving settings) { request with strict := true }).map (·.text) := by
  constructor
  · intro d s settings hn h hc
    obtain ⟨he, hr, hreports⟩ := assemble_of_isPart settings hn h hc
    have herrors : (assemble s settings).errors =
        ((d.reports settings).filter (·.type ∈ s.typeNames)).map (·.error) := by
      rw [assemble_errors, hreports]
    refine ⟨he, hr, assemble_errors d settings, herrors, fun hdot => ?_⟩
    rw [herrors, filter_errors_any_isAt settings hdot fun n => typeNames_subset_of_isPart h]
  · intro text d request settings htext hs
    have hn := nodup_typeNames_of_ofText htext
    have hw := wraps_of_ofText htext
    exact ⟨(assemble_surviving settings hn hw).2.2, generate_surviving hn hw hs⟩

/-- `Pixel` and the enum that it uses. -/
def samplePart : Definitions Value :=
  { sample with
    enums := sample.enums.filter (·.name = "Color")
    records := sample.records.filter (·.name = "Pixel") }

/-- A definition file of which `Pixel` survives. -/
def sampleText : String := "enum Void \x7b\x7d struct Pixel \x7b x: int32 \x7d struct Knot \x7b void: Void \x7d"

def sampleRequest : GenerationRequest := ⟨defaultRuntime, some (.text "app.wire"), none, true⟩

theorem closed_part_isolated_sample :
    (sample.typeNames.Nodup ∧ samplePart.IsPart sample ∧ samplePart.ClosedIn sample ∧
      (assemble samplePart sampleSettings).records =
        (assemble sample sampleSettings).records.filter (·.name ∈ samplePart.typeNames)) ∧
    ∃ d settings, ofText sampleText = .ok d ∧
      Settings.ofOptions d.options sampleRequest.runtimeImport sampleRequest.wireModule sampleRequest.helpers =
        .ok settings ∧
      (assemble (d.surviving settings) settings).errors = [] ∧
      (generate d { sampleRequest with strict := false }).map (·.text) =
        (generate (d.surviving settings) { sampleRequest with strict := true }).map (·.text) := by
  have hn : sample.typeNames.Nodup := by decide
  have hpart : samplePart.IsPart sample := ⟨List.filter_sublist, List.filter_sublist⟩
  have hclosed : samplePart.ClosedIn sample := by
    unfold ClosedIn
    decide +kernel
  refine ⟨⟨hn, hpart, hclosed, (closed_part_isolated.1 sample samplePart sampleSettings hn hpart hclosed).2.1⟩, ?_⟩
  obtain ⟨d, hd⟩ : ∃ d, ofText sampleText = .ok d := by decide +kernel
  obtain ⟨settings, hs⟩ : ∃ settings, Settings.ofOptions d.options sampleRequest.runtimeImport
      sampleRequest.wireModule sampleRequest.helpers = .ok settings := ⟨_, rfl⟩
  exact ⟨d, settings, hd, hs, closed_part_isolated.2 sampleText d sampleRequest settings hd hs⟩

end Definitions

end WireBridge
