import WireBridge.Proofs.Assembly.Stages

/-!
# Order of declarations

The order in which types are declared has no influence on an assembly but on the order of what it holds. Tables of
declarations in another order agree on all names (`Definitions.agree_of_perm`), so every type is planned alike, and
the drop of dependents takes the same records.
-/

set_option autoImplicit false

namespace WireBridge

namespace Definitions

variable {d d' : Definitions Value} {settings : Settings}

theorem agree_of_perm (hn : d.typeNames.Nodup) (he : d.enums.Perm d'.enums) (hr : d.records.Perm d'.records) :
    d.symbols.Agree d'.symbols Set.univ where
  isEnum n _ := by
    rw [Symbols.isEnum, Symbols.isEnum, Bool.eq_iff_iff, List.contains_iff_mem, List.contains_iff_mem]
    exact (he.map _).mem_iff
  record? n _ := by
    have hrecords : (d.records.map (·.name)).Nodup := (List.nodup_append.1 hn).2.1
    have hrecords' : (d'.records.map (·.name)).Nodup := (hr.map _).nodup_iff.1 hrecords
    refine Symbols.rel_record?_of_eq (Option.ext fun r => ?_)
    rw [Symbols.record?_eq_some_iff hrecords, Symbols.record?_eq_some_iff hrecords']
    exact and_congr_left' hr.mem_iff
  closed _ _ _ _ _ _ _ _ := Set.mem_univ _

section Permuted

variable (hn : d.typeNames.Nodup) (he : d.enums.Perm d'.enums) (hr : d.records.Perm d'.records)

include hn he hr

theorem plan_eq_of_perm (settings : Settings) (r : RecordDecl Value) :
    r.plan (d.scope settings) = r.plan (d'.scope settings) :=
  RecordDecl.plan_congr (agree_of_perm hn he hr) settings.helpers fun _ _ _ _ => Set.mem_univ _

theorem recordPlans_perm (settings : Settings) : (d.recordPlans settings).Perm (d'.recordPlans settings) :=
  filterMap_perm_of_congr (fun r _ => by rw [plan_eq_of_perm hn he hr]) hr

theorem mem_failedNames_iff_of_perm (settings : Settings) (n : String) :
    n ∈ d.failedNames settings ↔ n ∈ d'.failedNames settings := by
  rw [failedNames, failedNames, failedTypes, failedTypes, List.mem_filter, List.mem_filter, decide_eq_true_eq,
    decide_eq_true_eq]
  have hnames : d.symbols.names.Perm d'.symbols.names := (hr.map _).append (he.map _)
  have hplans : ((d.recordPlans settings).map (·.name) ++ d.enumPlans.map (·.name)).Perm
      ((d'.recordPlans settings).map (·.name) ++ d'.enumPlans.map (·.name)) :=
    ((recordPlans_perm hn he hr settings).map _).append ((he.filterMap _).map _)
  exact and_congr hnames.mem_iff (not_congr hplans.mem_iff)

theorem reports_perm (settings : Settings) : (d.reports settings).Perm (d'.reports settings) := by
  have hdrop := (perm_dropDependents (mem_failedNames_iff_of_perm hn he hr settings)
    (recordPlans_perm hn he hr settings)).2
  refine ((he.filterMap _).append (filterMap_perm_of_congr (fun r _ => ?_) hr)).append (hdrop.map _)
  rw [plan_eq_of_perm hn he hr]

end Permuted

/-- Declarations in another order come to the same plans and problems in another order. -/
theorem assemble_perm (d d' : Definitions Value) (settings : Settings) (hn : d.typeNames.Nodup)
    (he : d.enums.Perm d'.enums) (hr : d.records.Perm d'.records) :
    (assemble d settings).enums.Perm (assemble d' settings).enums ∧
      (assemble d settings).records.Perm (assemble d' settings).records ∧
      (assemble d settings).errors.Perm (assemble d' settings).errors := by
  refine ⟨?_, ?_, ?_⟩
  · rw [assemble_enums, assemble_enums]
    exact he.filterMap _
  · rw [assemble_records, assemble_records]
    exact (perm_dropDependents (mem_failedNames_iff_of_perm hn he hr settings)
      (recordPlans_perm hn he hr settings)).1
  · rw [assemble_errors, assemble_errors]
    exact (reports_perm hn he hr settings).map _

theorem assemble_perm_sample : sample.typeNames.Nodup ∧
    (assemble sample sampleSettings).errors.Perm
      (assemble { sample with enums := sample.enums.reverse, records := sample.records.reverse }
        sampleSettings).errors := by
  have hn : sample.typeNames.Nodup := by decide
  exact ⟨hn, (assemble_perm sample _ sampleSettings hn (List.reverse_perm _).symm (List.reverse_perm _).symm).2.2⟩

end Definitions

end WireBridge
