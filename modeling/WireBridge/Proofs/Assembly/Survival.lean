import Mathlib.Data.List.Nodup
import WireBridge.Proofs.Assembly.Stages

/-!
# Which types survive

A record survives if it can be planned, and with it every declared type that it leads to
(`recordSurvives_iff_chain`). Only the fields that a plan holds count. `Refers` takes a selection of fields, since all
fields would say too much of a newtype that is declared with more than the field it wraps.
-/

set_option autoImplicit false

namespace WireBridge

namespace Definitions

/-! ## References between declarations -/

variable {d : Definitions Value} {settings : Settings}

/-- A field of the first type, among those that are selected, uses the second, which is declared too. -/
def Refers (d : Definitions Value) (select : RecordDecl Value → List (FieldDecl Value)) (a b : String) : Prop :=
  b ∈ d.typeNames ∧ ∃ r ∈ d.records, r.name = a ∧ ∃ f ∈ select r, b ∈ (f.shape d.symbols).referenced

instance (select : RecordDecl Value → List (FieldDecl Value)) (a b : String) : Decidable (d.Refers select a b) :=
  inferInstanceAs (Decidable (_ ∧ _))

theorem refers_of_links {a b : String} (h : Links (d.recordPlans settings) a b) (hb : b ∈ d.typeNames) :
    d.Refers RecordDecl.plannedFields a b := by
  obtain ⟨p, hp, rfl, hu⟩ := h
  obtain ⟨r, hr, hplan⟩ := mem_plans_iff.1 hp
  have hm := RecordDecl.mirrors_of_plan hplan
  exact ⟨hb, r, hr, hm.name.symm, hm.uses_iff.1 hu⟩

theorem links_of_refers (hn : d.typeNames.Nodup) {a b : String} (ha : d.Plannable settings a)
    (h : d.Refers RecordDecl.plannedFields a b) : Links (d.recordPlans settings) a b := by
  obtain ⟨-, r, hr, rfl, hu⟩ := h
  have hnodup := List.nodup_append.1 hn
  rcases ha with ⟨e, he, hname, -⟩ | ⟨r', hr', hname, p, hplan⟩
  · exact absurd hname (hnodup.2.2 _ (List.mem_map_of_mem he) _ (List.mem_map_of_mem hr))
  · obtain rfl := List.inj_on_of_nodup_map hnodup.2.1 hr' hr hname
    have hm := RecordDecl.mirrors_of_plan hplan
    exact ⟨p, mem_plans_iff.2 ⟨r', hr', hplan⟩, hm.name, hm.uses_iff.2 hu⟩

theorem mem_typeNames_of_links {a b : String} (h : Links (d.recordPlans settings) a b) : a ∈ d.typeNames := by
  obtain ⟨p, hp, rfl, -⟩ := h
  obtain ⟨r, hr, hplan⟩ := mem_plans_iff.1 hp
  exact mem_typeNames_iff.2 (.inr ⟨r, hr, (RecordDecl.mirrors_of_plan hplan).name.symm⟩)

theorem refers_chain_of_links {a b : String} (h : Relation.TransGen (Links (d.recordPlans settings)) a b)
    (hb : b ∈ d.typeNames) : Relation.TransGen (d.Refers RecordDecl.plannedFields) a b := by
  induction h with
  | single hl => exact .single (refers_of_links hl hb)
  | tail _ hl ih => exact .tail (ih (mem_typeNames_of_links hl)) (refers_of_links hl hb)

/-! ## Dropped records -/

/-- A dropped record leads to a declared type that cannot be planned. -/
theorem chain_of_dropped {a : String} (h : a ∈ (d.drop settings).2.map (·.record)) :
    ∃ t, Relation.TransGen (d.Refers RecordDecl.plannedFields) a t ∧ ¬ d.Plannable settings t := by
  obtain ⟨t, ht, hchain⟩ := (mem_dropped_iff _ _).1 h
  obtain ⟨hdecl, hfail⟩ := mem_failedNames_iff.1 ht
  exact ⟨t, refers_chain_of_links hchain hdecl, hfail⟩

/-- A record that is planned and not dropped leads to types that can be planned only. -/
theorem plannable_of_chain (hn : d.typeNames.Nodup) {a t : String} (ha : d.Plannable settings a)
    (hkept : a ∉ (d.drop settings).2.map (·.record))
    (hchain : Relation.TransGen (d.Refers RecordDecl.plannedFields) a t) : d.Plannable settings t := by
  -- By induction from the start of the chain, each type on it is linked to the record, so it would drop the record.
  have hlast : ∀ u, Relation.TransGen (Links (d.recordPlans settings)) a u → u ∈ d.typeNames →
      d.Plannable settings u := by
    intro u hlinks hu
    by_contra hfail
    exact hkept ((mem_dropped_iff _ _).2 ⟨u, mem_failedNames_iff.2 ⟨hu, hfail⟩, hlinks⟩)
  have hboth : d.Plannable settings t ∧ Relation.TransGen (Links (d.recordPlans settings)) a t := by
    induction hchain with
    | single hr =>
      have hlinks := Relation.TransGen.single (links_of_refers hn ha hr)
      exact ⟨hlast _ hlinks hr.1, hlinks⟩
    | tail _ hr ih =>
      have hlinks := ih.2.tail (links_of_refers hn ih.1 hr)
      exact ⟨hlast _ hlinks hr.1, hlinks⟩
  exact hboth.1

/-! ## Survivors -/

variable (d settings)

/-- The plan of a record is part of the assembly. -/
def RecordSurvives (r : RecordDecl Value) : Prop :=
  ∃ p ∈ (assemble d settings).records, r.plan (d.scope settings) = .ok p

/-- The plan of an enum is part of the assembly. -/
def EnumSurvives (e : EnumDecl Value) : Prop := ∃ p ∈ (assemble d settings).enums, e.plan = .ok p

variable {d settings}

theorem recordSurvives_iff {r : RecordDecl Value} (hr : r ∈ d.records) : d.RecordSurvives settings r ↔
    (∃ p, r.plan (d.scope settings) = .ok p) ∧ r.name ∉ (d.drop settings).2.map (·.record) := by
  have hleft : ∀ p, r.plan (d.scope settings) = .ok p →
      (p ∈ (d.drop settings).1 ↔ r.name ∉ (d.drop settings).2.map (·.record)) := by
    intro p hp
    rw [drop, dropDependents_left, List.mem_filter, decide_eq_true_eq, (RecordDecl.mirrors_of_plan hp).name]
    exact and_iff_right (mem_plans_iff.2 ⟨r, hr, hp⟩)
  rw [RecordSurvives, assemble_records]
  constructor
  · rintro ⟨p, hmem, hp⟩
    exact ⟨⟨p, hp⟩, (hleft p hp).1 hmem⟩
  · rintro ⟨⟨p, hp⟩, hkept⟩
    exact ⟨p, (hleft p hp).2 hkept, hp⟩

theorem enumSurvives_iff {e : EnumDecl Value} (he : e ∈ d.enums) :
    d.EnumSurvives settings e ↔ ∃ p, e.plan = .ok p := by
  rw [EnumSurvives, assemble_enums]
  constructor
  · rintro ⟨p, -, hp⟩
    exact ⟨p, hp⟩
  · rintro ⟨p, hp⟩
    exact ⟨p, mem_plans_iff.2 ⟨e, he, hp⟩, hp⟩

theorem mem_survivorNames_of_record {r : RecordDecl Value} (h : d.RecordSurvives settings r) :
    r.name ∈ d.survivorNames settings := by
  obtain ⟨p, hmem, hp⟩ := h
  rw [← (RecordDecl.mirrors_of_plan hp).name]
  exact List.mem_append_right _ (List.mem_map_of_mem hmem)

theorem mem_survivorNames_of_enum {e : EnumDecl Value} (h : d.EnumSurvives settings e) :
    e.name ∈ d.survivorNames settings := by
  obtain ⟨p, hmem, hp⟩ := h
  rw [← EnumDecl.name_of_plan hp]
  exact List.mem_append_left _ (List.mem_map_of_mem hmem)

theorem recordSurvives_iff_chain (hn : d.typeNames.Nodup) {r : RecordDecl Value} (hr : r ∈ d.records) :
    d.RecordSurvives settings r ↔ (∃ p, r.plan (d.scope settings) = .ok p) ∧
      ∀ t, Relation.TransGen (d.Refers RecordDecl.plannedFields) r.name t → d.Plannable settings t := by
  rw [recordSurvives_iff hr]
  refine and_congr_right fun hp => ⟨?_, ?_⟩
  · intro hkept t hchain
    exact plannable_of_chain hn (.inr ⟨r, hr, rfl, hp⟩) hkept hchain
  · intro hall hdropped
    obtain ⟨t, hchain, hfail⟩ := chain_of_dropped hdropped
    exact hfail (hall t hchain)

/-- A declared type that a surviving record refers to survives. -/
theorem mem_survivorNames_of_refers (hn : d.typeNames.Nodup) {r : RecordDecl Value} (hr : r ∈ d.records)
    (hs : d.RecordSurvives settings r) {t : String} (ht : d.Refers RecordDecl.plannedFields r.name t) :
    t ∈ d.survivorNames settings := by
  have hall := ((recordSurvives_iff_chain hn hr).1 hs).2
  rcases hall t (.single ht) with ⟨e, he, rfl, hp⟩ | ⟨r', hr', rfl, hp⟩
  · exact mem_survivorNames_of_enum ((enumSurvives_iff he).2 hp)
  · refine mem_survivorNames_of_record ((recordSurvives_iff_chain hn hr').2 ⟨hp, fun u hu => ?_⟩)
    exact hall u (.head ht hu)

/-- The drop of dependents ends, and a record survives it exactly if every declared type that it leads to can be
planned. -/
theorem survives_iff (d : Definitions Value) (settings : Settings) (hn : d.typeNames.Nodup) :
    (∃ k ≤ (d.recordPlans settings).length + 1,
      DropState.next^[k] (.start (d.failedNames settings) (d.recordPlans settings)) =
        ⟨[], (assemble d settings).records, (d.drop settings).2⟩) ∧
    (∀ r ∈ d.records, d.RecordSurvives settings r ↔ (∃ p, r.plan (d.scope settings) = .ok p) ∧
      ∀ t, Relation.TransGen (d.Refers RecordDecl.plannedFields) r.name t → d.Plannable settings t) ∧
    (∀ e ∈ d.enums, d.EnumSurvives settings e ↔ ∃ p, e.plan = .ok p) ∧
    (∀ r ∈ d.records, d.RecordSurvives settings r →
      ∀ t, d.Refers RecordDecl.plannedFields r.name t → t ∈ d.survivorNames settings) ∧
    ∀ x ∈ (d.drop settings).2,
      ∃ t, Relation.TransGen (d.Refers RecordDecl.plannedFields) x.record t ∧ ¬ d.Plannable settings t := by
  refine ⟨⟨_, le_rfl, ?_⟩, fun r hr => recordSurvives_iff_chain hn hr, fun e he => enumSurvives_iff he,
    fun r hr hs t ht => mem_survivorNames_of_refers hn hr hs ht, fun x hx => ?_⟩
  · rw [assemble_records]
    exact DropState.iterate_next_eq_rest _ (Nat.lt_succ_self _)
  · exact chain_of_dropped (List.mem_map_of_mem hx)

/-- `Pixel` leads to `Color` only; `Chain` leads to `Void` by way of `Knot`. -/
theorem survives_iff_sample : sample.typeNames.Nodup ∧
    (∀ r ∈ sample.records, r.name = "Pixel" → sample.RecordSurvives sampleSettings r) ∧
    ∀ r ∈ sample.records, r.name = "Chain" → ¬ sample.RecordSurvives sampleSettings r := by
  have hn : sample.typeNames.Nodup := by decide
  have hiff := (survives_iff sample sampleSettings hn).2.1
  have hpixel : ∀ t ∈ sample.typeNames, sample.Refers RecordDecl.plannedFields "Pixel" t → t = "Color" := by
    decide +kernel
  have hcolor : ∀ t ∈ sample.typeNames, ¬ sample.Refers RecordDecl.plannedFields "Color" t := by decide +kernel
  refine ⟨hn, fun r hr hname => (hiff r hr).2 ⟨?_, fun t ht => ?_⟩, fun r hr hname hs => ?_⟩
  · revert r
    decide +kernel
  · rw [hname] at ht
    have hlast : t = "Color" := by
      induction ht with
      | single h => exact hpixel _ h.1 h
      | tail _ h ih =>
        rw [ih] at h
        exact absurd h (hcolor _ h.1)
    rw [hlast]
    decide +kernel
  · have hchain : Relation.TransGen (sample.Refers RecordDecl.plannedFields) "Chain" "Void" :=
      .tail (.single (b := "Knot") (by decide +kernel)) (by decide +kernel)
    rw [← hname] at hchain
    exact absurd (((hiff r hr).1 hs).2 "Void" hchain) (by decide +kernel)

/-! ## Fields that no plan holds -/

/-- A newtype that is declared with a field besides the one it wraps. `Bad` has no field and cannot be planned. -/
def wideNewtype : Definitions Value where
  enums := []
  records := [
    .plain "Bad" [],
    { RecordDecl.plain "Wide" [("value", .named "int32"), ("other", .named "Bad")] with newtype := true }]
  options := []

/-- The newtype survives, though its other field uses a type that cannot be planned. -/
theorem not_survives_iff_all_fields : wideNewtype.typeNames.Nodup ∧
    ¬ ∀ r ∈ wideNewtype.records, wideNewtype.RecordSurvives sampleSettings r ↔
      (∃ p, r.plan (wideNewtype.scope sampleSettings) = .ok p) ∧
        ∀ t, Relation.TransGen (wideNewtype.Refers RecordDecl.fields) r.name t →
          wideNewtype.Plannable sampleSettings t := by
  refine ⟨by decide, fun hall => ?_⟩
  have hwide : ∀ r ∈ wideNewtype.records, r.name = "Wide" → (∃ p, r.plan (wideNewtype.scope sampleSettings) = .ok p) ∧
      r.name ∉ (wideNewtype.drop sampleSettings).2.map (·.record) := by
    decide +kernel
  obtain ⟨r, hr, hname⟩ : ∃ r ∈ wideNewtype.records, r.name = "Wide" := by decide
  have hs : wideNewtype.RecordSurvives sampleSettings r := (recordSurvives_iff hr).2 (hwide r hr hname)
  have hrefers : wideNewtype.Refers RecordDecl.fields r.name "Bad" := by
    rw [hname]
    decide +kernel
  exact absurd (((hall r hr).1 hs).2 "Bad" (.single hrefers)) (by decide +kernel)

end Definitions

end WireBridge
