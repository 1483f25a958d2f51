import WireBridge.Proofs.Assembly.Stages

/-!
# Assembly of a part of the declarations

`Definitions.restrict` leaves out the declarations whose names are not in a set. If those that are kept use no name
outside the set (`Definitions.Closed`), both tables of declarations agree on it, and every stage of the assembly of
the part is the same stage of the whole, restricted: the plans, the drop of dependents (`drop_restrict`) and the
reports (`reports_restrict`).
-/

set_option autoImplicit false

namespace WireBridge

section Planning

variable {α γ : Type} {N : Set String} [DecidablePred (· ∈ N)] {name : γ → String}
  {plan plan' : γ → Except ConfigError α} {xs : List γ} (hplan : ∀ x ∈ xs, name x ∈ N → plan' x = plan x)

include hplan

theorem plans_filter {planName : α → String} (hname : ∀ x p, plan x = .ok p → planName p = name x) :
    (xs.filter (name · ∈ N)).filterMap (fun x => (plan' x).toOption) =
      (xs.filterMap fun x => (plan x).toOption).filter (planName · ∈ N) := by
  apply filterMap_filter_of_congr
  · intro x _ p hp
    cases hx : plan x with
    | error e => simp [hx, Except.toOption] at hp
    | ok p' =>
      obtain rfl : p' = p := by simpa [hx, Except.toOption] using hp
      rw [hname x p' hx]
  · intro x hx hN
    rw [hplan x hx (of_decide_eq_true hN)]

theorem failures_filter : (xs.filter (name · ∈ N)).filterMap (fun x => failure? (name x) (plan' x)) =
    (xs.filterMap fun x => failure? (name x) (plan x)).filter (·.type ∈ N) := by
  apply filterMap_filter_of_congr
  · intro x _ e he
    cases hx : plan x with
    | error e₀ =>
      obtain rfl : ⟨name x, e₀.atPath (name x)⟩ = e := by simpa [hx, failure?] using he
      rfl
    | ok p => simp [hx, failure?] at he
  · intro x hx hN
    rw [hplan x hx (of_decide_eq_true hN)]

end Planning

namespace Definitions

variable (d : Definitions Value) (N : Set String) [DecidablePred (· ∈ N)]

/-- The declarations with names in `N`. -/
def restrict : Definitions Value :=
  { d with enums := d.enums.filter (·.name ∈ N), records := d.records.filter (·.name ∈ N) }

/-- The records with names in `N` use names in `N` only. -/
def Closed : Prop := ∀ r ∈ d.records, r.name ∈ N → ∀ f ∈ r.fields, (f.shape d.symbols).Within N

variable {d N}

theorem mem_typeNames_restrict {n : String} : n ∈ (d.restrict N).typeNames ↔ n ∈ d.typeNames ∧ n ∈ N := by
  rw [mem_typeNames_iff, mem_typeNames_iff, or_and_right]
  refine or_congr ⟨?_, ?_⟩ ⟨?_, ?_⟩
  · rintro ⟨e, he, rfl⟩
    have he' := List.mem_filter.1 he
    exact ⟨⟨e, he'.1, rfl⟩, of_decide_eq_true he'.2⟩
  · rintro ⟨⟨e, he, rfl⟩, hN⟩
    exact ⟨e, List.mem_filter.2 ⟨he, decide_eq_true hN⟩, rfl⟩
  · rintro ⟨r, hr, rfl⟩
    have hr' := List.mem_filter.1 hr
    exact ⟨⟨r, hr'.1, rfl⟩, of_decide_eq_true hr'.2⟩
  · rintro ⟨⟨r, hr, rfl⟩, hN⟩
    exact ⟨r, List.mem_filter.2 ⟨hr, decide_eq_true hN⟩, rfl⟩

theorem enumPlans_restrict (d : Definitions Value) : (d.restrict N).enumPlans = d.enumPlans.filter (·.name ∈ N) :=
  plans_filter (fun _ _ _ => rfl) fun _ _ h => EnumDecl.name_of_plan h

section Closed

variable (hc : d.Closed N)

include hc

theorem agree_restrict : d.symbols.Agree (d.restrict N).symbols N where
  isEnum n hn := by
    rw [Symbols.isEnum, Symbols.isEnum, Bool.eq_iff_iff, List.contains_iff_mem, List.contains_iff_mem]
    constructor
    · intro h
      obtain ⟨e, he, rfl⟩ := List.mem_map.1 h
      exact List.mem_map_of_mem (List.mem_filter.2 ⟨he, decide_eq_true hn⟩)
    · exact fun h => (List.filter_sublist.map _).mem h
  record? n hn := by
    apply Symbols.rel_record?_of_eq
    unfold Symbols.record?
    congr 1
    show d.records.filter _ = (d.records.filter _).filter _
    rw [List.filter_filter]
    apply List.filter_congr
    intro r _
    by_cases h : r.name = n <;> simp [h, hn]
  closed n hn r hr := hc r (Symbols.mem_of_record? hr) (by rwa [Symbols.name_of_record? hr])

variable (settings : Settings)

theorem plan_restrict {r : RecordDecl Value} (hr : r ∈ d.records) (hN : r.name ∈ N) :
    r.plan ((d.restrict N).scope settings) = r.plan (d.scope settings) :=
  (RecordDecl.plan_congr (agree_restrict hc) settings.helpers (hc r hr hN)).symm

theorem recordPlans_restrict :
    (d.restrict N).recordPlans settings = (d.recordPlans settings).filter (·.name ∈ N) :=
  plans_filter (fun _ hr hN => plan_restrict hc settings hr hN) fun _ _ h => (RecordDecl.mirrors_of_plan h).name

theorem mem_failedNames_restrict {n : String} (hn : n ∈ N) :
    n ∈ d.failedNames settings ↔ n ∈ (d.restrict N).failedNames settings := by
  rw [mem_failedNames_iff, mem_failedNames_iff, mem_typeNames_restrict, and_iff_left hn]
  refine and_congr_right fun _ => not_congr ?_
  rw [Plannable, Plannable, ← mem_enumPlans_names_iff, ← mem_enumPlans_names_iff, ← mem_recordPlans_names_iff,
    ← mem_recordPlans_names_iff, recordPlans_restrict hc, enumPlans_restrict]
  simp only [List.mem_map, List.mem_filter, decide_eq_true_eq]
  refine or_congr (exists_congr fun p => ?_) (exists_congr fun p => ?_)
  all_goals
    rw [and_assoc]
    refine and_congr_right fun _ => (and_iff_right_of_imp ?_).symm
    rintro rfl
    exact hn

theorem drop_restrict : (d.restrict N).drop settings =
    ((d.drop settings).1.filter (·.name ∈ N), (d.drop settings).2.filter (·.record ∈ N)) := by
  unfold drop
  rw [recordPlans_restrict hc]
  apply dropDependents_filter
  · exact fun m hm => mem_failedNames_restrict hc settings hm
  · intro p hp hN m hu
    obtain ⟨r, hr, hplan⟩ := mem_plans_iff.1 hp
    have hm := RecordDecl.mirrors_of_plan hplan
    obtain ⟨f, hf, hmf⟩ := hm.uses_iff.1 hu
    exact hc r hr (hm.name ▸ hN) f (RecordDecl.mem_of_mem_plannedFields hf) m hmf

theorem reports_restrict :
    (d.restrict N).reports settings = (d.reports settings).filter (·.type ∈ N) := by
  unfold reports
  rw [List.filter_append, List.filter_append, drop_restrict hc, List.filter_map]
  congr 2
  · exact failures_filter fun _ _ _ => rfl
  · exact failures_filter fun _ hr hN => plan_restrict hc settings hr hN

end Closed

end Definitions

end WireBridge
