import Mathlib.Data.List.Nodup
import WireBridge.Proofs.Enum.Matching
import WireBridge.Proofs.Text.Naming

/-!
# Enums whose names on the wire do not collide

A variant is known by its bare name and by one in capitals with a prefix and an underscore. The variants of an enum in
camel case hold no underscore and differ in their screaming forms, so none of these names meets another
(`EnumMapping.unshared_of_isCamelCase`), and the table keeps them all (`EnumMapping.camelCase_collisionFree`). Elsewhere
the prefixed name of one variant may be the bare name of another, and the earlier variant has it.
-/

set_option autoImplicit false

namespace WireBridge

/-! ## Candidates of camel case names -/

theorem underscore_mem_prefixed (enum v : String) :
    '_' ∈ (upperCase enum ++ "_" ++ screamingSnake v).toList := by
  have hmark : '_' ∈ "_".toList := by decide
  simp only [String.toList_append, List.mem_append]
  exact .inl (.inr hmark)

/-- A bare name in camel case is no prefixed name. -/
theorem ne_prefixed_of_isCamelCase {n : String} (hn : Naming.isCamelCase n.toList = true) (enum v : String) :
    n ≠ upperCase enum ++ "_" ++ screamingSnake v := by
  rintro rfl
  exact Naming.underscore_not_mem_of_isCamelCase hn (underscore_mem_prefixed enum v)

theorem prefixed_inj {enum v v' : String} (hv : Naming.isCamelCase v.toList = true)
    (hv' : Naming.isCamelCase v'.toList = true)
    (h : upperCase enum ++ "_" ++ screamingSnake v = upperCase enum ++ "_" ++ screamingSnake v') : v = v' :=
  screamingSnake_inj hv hv' ((String.append_right_inj _).1 h)

theorem mem_candidateNames {enum v n : String} :
    n ∈ candidateNames enum v ↔ n = v ∨ n = upperCase enum ++ "_" ++ screamingSnake v := by
  rw [candidateNames, List.mem_cons, List.mem_singleton]

theorem nodup_candidateNames {v : String} (hv : Naming.isCamelCase v.toList = true) (enum : String) :
    (candidateNames enum v).Nodup :=
  List.nodup_cons.2 ⟨fun h => ne_prefixed_of_isCamelCase hv enum v (List.mem_singleton.1 h), List.nodup_singleton _⟩

namespace EnumMapping

variable {enum wireName : String} {variants : List String}

theorem unshared_of_isCamelCase (hcamel : ∀ v ∈ variants, Naming.isCamelCase v.toList = true) :
    Unshared enum variants := by
  intro v hv v' hv' n hn hn'
  rcases mem_candidateNames.1 hn with rfl | rfl
  · rcases mem_candidateNames.1 hn' with rfl | hprefixed
    · rfl
    · exact absurd hprefixed (ne_prefixed_of_isCamelCase (hcamel _ hv) enum v')
  · rcases mem_candidateNames.1 hn' with hbare | hprefixed
    · exact absurd hbare.symm (ne_prefixed_of_isCamelCase (hcamel _ hv') enum v)
    · exact prefixed_inj (hcamel _ hv) (hcamel _ hv') hprefixed

/-! ## The whole table -/

/-- Entries with names of their own are all kept. -/
theorem foldl_addEntry_of_nodup {es table : List (String × String)} (h : ((table ++ es).map (·.1)).Nodup) :
    es.foldl addEntry table = table ++ es := by
  induction es generalizing table with
  | nil => rw [List.foldl_nil, List.append_nil]
  | cons e es ih =>
    have hnone : table.lookup e.1 = none := by
      rw [List.lookup_eq_none_iff]
      intro x hx
      rw [bne_iff_ne]
      rw [List.map_append, List.nodup_append] at h
      exact (h.2.2 x.1 (List.mem_map_of_mem hx) e.1 (List.mem_map_of_mem List.mem_cons_self)).symm
    have hadd : addEntry table e = table ++ [e] := by
      rw [addEntry, hnone]
      rfl
    rw [List.append_cons] at h
    rw [List.foldl_cons, hadd, ih h, ← List.append_cons]

theorem length_wireNames : (of enum wireName variants).wireNames.length = 2 * variants.length := by
  simp only [wireNames_of, candidateNames, List.map_cons, List.map_nil, List.length_flatMap, List.length_cons,
    List.length_nil, List.map_const', List.sum_replicate_nat]
  omega

theorem nodup_wireNames (hdistinct : variants.Nodup) (hnames : ∀ v ∈ variants, (candidateNames enum v).Nodup)
    (hunshared : Unshared enum variants) : ((of enum wireName variants).wireNames.map (·.1)).Nodup := by
  have hkeys : (of enum wireName variants).wireNames.map (·.1) = variants.flatMap (candidateNames enum) := by
    rw [wireNames_of, List.map_flatMap]
    simp only [List.map_map, Function.comp_def, List.map_id']
  rw [hkeys, List.nodup_flatMap]
  refine ⟨hnames, hdistinct.pairwise_of_forall_ne fun v hv v' hv' hne n hn hn' => ?_⟩
  exact hne (hunshared v hv v' hv' n hn hn')

/-- The entries of a variant are those of its candidates. -/
theorem filter_wireNames (hdistinct : variants.Nodup) {v : String} (hv : v ∈ variants) :
    (of enum wireName variants).wireNames.filter (·.2 = v) = (candidateNames enum v).map fun n => (n, v) := by
  obtain ⟨before, after, rfl⟩ := List.append_of_mem hv
  have hother {vs : List String} (hvs : v ∉ vs) :
      (vs.flatMap fun u => (candidateNames enum u).map fun n => (n, u)).filter (·.2 = v) = [] := by
    rw [List.filter_eq_nil_iff]
    intro e he
    obtain ⟨u, hu, he⟩ := List.mem_flatMap.1 he
    obtain ⟨n, -, rfl⟩ := List.mem_map.1 he
    rw [decide_eq_true_eq]
    rintro rfl
    exact hvs hu
  obtain ⟨hbefore, hafter⟩ : v ∉ before ∧ v ∉ after := by
    rw [List.nodup_middle, List.nodup_cons, List.mem_append, not_or] at hdistinct
    exact hdistinct.1
  rw [wireNames_of, List.flatMap_append, List.flatMap_cons, List.filter_append, List.filter_append, hother hbefore,
    hother hafter, List.nil_append, List.append_nil, List.filter_eq_self]
  intro e he
  obtain ⟨n, -, rfl⟩ := List.mem_map.1 he
  exact decide_eq_true rfl

/-- No name is a candidate of two camel case variants. The table has both candidates of every variant and no other
entry, and each of them comes back to its variant. -/
theorem camelCase_collisionFree (enum wireName : String) {variants : List String} (hdistinct : variants.Nodup)
    (hcamel : ∀ v ∈ variants, Naming.isCamelCase v.toList = true) :
    let mapping := of enum wireName variants
    Unshared enum variants ∧
      (mapping.fromWireTable.map (·.1)).Nodup ∧
      mapping.fromWireTable.length = 2 * variants.length ∧
      (∀ v ∈ variants, (mapping.fromWireTable.filter (·.2 = v)).length = 2) ∧
      ∀ v ∈ variants, ∃ names, mapping.candidates? v = some names ∧
        ∀ n ∈ names, mapping.resolveWire n = some v := by
  intro mapping
  have hunshared : Unshared enum variants := unshared_of_isCamelCase hcamel
  have hnodup : (mapping.wireNames.map (·.1)).Nodup :=
    nodup_wireNames hdistinct (fun v hv => nodup_candidateNames (hcamel v hv) enum) hunshared
  have htable : mapping.fromWireTable = mapping.wireNames := foldl_addEntry_of_nodup hnodup
  rw [htable]
  refine ⟨hunshared, hnodup, length_wireNames, fun v hv => ?_, fun v hv => ?_⟩
  · rw [filter_wireNames hdistinct hv]
    rfl
  · refine ⟨_, candidates?_eq_some_iff.2 ⟨hv, rfl⟩, fun n hn => ?_⟩
    exact lookup_fromWireTable_of_mem hunshared hv hn

/-- Runs of capitals are told apart. -/
theorem camelCase_collisionFree_errors :
    let variants := ["HTTPError", "HttpError", "V2"]
    let mapping := of "Status" "StatusCode" variants
    variants.Nodup ∧ (∀ v ∈ variants, Naming.isCamelCase v.toList = true) ∧
      mapping.fromWireTable.length = 6 ∧
      mapping.resolveWire "STATUS_H_T_T_P_ERROR" = some "HTTPError" ∧
      mapping.resolveWire "STATUS_HTTP_ERROR" = some "HttpError" := by
  intro variants mapping
  have hdistinct : variants.Nodup := by decide
  have hcamel : ∀ v ∈ variants, Naming.isCamelCase v.toList = true := by decide
  obtain ⟨-, -, hlength, -, hback⟩ := camelCase_collisionFree "Status" "StatusCode" hdistinct hcamel
  have hresolve {v : String} (hv : v ∈ variants) : ∀ n ∈ candidateNames "Status" v, mapping.resolveWire n = some v := by
    obtain ⟨names, hnames, hall⟩ := hback v hv
    obtain ⟨-, rfl⟩ := candidates?_eq_some_iff.1 hnames
    exact hall
  have hruns : candidateNames "Status" "HTTPError" = ["HTTPError", "STATUS_H_T_T_P_ERROR"] := by decide +kernel
  have hword : candidateNames "Status" "HttpError" = ["HttpError", "STATUS_HTTP_ERROR"] := by decide +kernel
  refine ⟨hdistinct, hcamel, hlength, ?_, ?_⟩
  · apply hresolve (v := "HTTPError") (by decide)
    rw [hruns]
    decide
  · apply hresolve (v := "HttpError") (by decide)
    rw [hword]
    decide

end EnumMapping

end WireBridge
