import Mathlib.Data.List.TakeWhile
import WireBridge.Proofs.Assembly.Stages

/-!
# Problems of an assembly by type

The path of a problem begins with the name of its type, up to the first point (`owner`). Where no name holds a
point, as no identifier does, the paths alone tell which problem is about which type (`isAt_iff`).
-/

set_option autoImplicit false

namespace WireBridge

/-! ## Owners of paths -/

/-- A path up to its first point. -/
def owner (path : String) : List Char := path.toList.takeWhile (· ≠ '.')

theorem owner_name {type : String} (h : '.' ∉ type.toList) : owner type = type.toList := by
  apply List.takeWhile_eq_self_iff.2
  intro c hc
  rw [decide_eq_true_eq]
  rintro rfl
  exact h hc

theorem owner_of_toList {type path : String} {rest : List Char} (h : '.' ∉ type.toList)
    (hp : path.toList = type.toList ++ '.' :: rest) : owner path = type.toList := by
  rw [owner, hp, List.takeWhile_append_of_pos, List.takeWhile_cons_of_neg, List.append_nil]
  · simp
  · intro c hc
    rw [decide_eq_true_eq]
    rintro rfl
    exact h hc

theorem toList_memberPath (type member : String) :
    (type ++ "." ++ member).toList = type.toList ++ '.' :: member.toList := by
  rw [String.toList_append, String.toList_append, List.append_assoc]
  rfl

/-- The problem stands at the type, or its path starts with the type and a point. -/
def ConfigError.isAt (type : String) (e : ConfigError) : Bool :=
  e.path.any fun p => p = type || (type ++ ".").toList.isPrefixOf p.toList

theorem StandsAt.owner_eq {type : String} {members : List String} {e : ConfigError} (h : StandsAt type members e)
    (hdot : '.' ∉ type.toList) {p : String} (hp : e.path = some p) : owner p = type.toList := by
  rcases h with h | ⟨m, -, h⟩
  · obtain rfl := Option.some.inj (hp.symm.trans h)
    exact owner_name hdot
  · obtain rfl := Option.some.inj (hp.symm.trans h)
    exact owner_of_toList hdot (toList_memberPath type m)

theorem owner_of_isAt {type : String} {e : ConfigError} (h : e.isAt type = true) (hdot : '.' ∉ type.toList) :
    ∃ p, e.path = some p ∧ owner p = type.toList := by
  obtain ⟨p, hp, h⟩ := (Option.any_eq_true _ _).1 h
  refine ⟨p, hp, ?_⟩
  rw [Bool.or_eq_true, decide_eq_true_eq, List.isPrefixOf_iff_prefix] at h
  rcases h with rfl | ⟨rest, h⟩
  · exact owner_name hdot
  · have hp : p.toList = type.toList ++ '.' :: rest := by
      rw [← h, String.toList_append, List.append_assoc]
      rfl
    exact owner_of_toList hdot hp

theorem StandsAt.isAt {type : String} {members : List String} {e : ConfigError} (h : StandsAt type members e) :
    e.isAt type = true := by
  unfold ConfigError.isAt
  rcases h with h | ⟨m, -, h⟩
  · rw [h, Option.any_some, decide_eq_true rfl, Bool.true_or]
  · rw [h, Option.any_some, Bool.or_eq_true, List.isPrefixOf_iff_prefix]
    right
    exact ⟨m.toList, String.toList_append.symm⟩

/-- Among names without a point, a problem is at the one type where it stands. -/
theorem isAt_iff {type name : String} {members : List String} {e : ConfigError} (h : StandsAt type members e)
    (hname : '.' ∉ name.toList) (htype : '.' ∉ type.toList) : e.isAt name = true ↔ type = name := by
  constructor
  · intro hat
    obtain ⟨p, hp, howner⟩ := owner_of_isAt hat hname
    exact String.toList_inj.1 ((h.owner_eq htype hp).symm.trans howner)
  · rintro rfl
    exact h.isAt

namespace Definitions

variable {d : Definitions Value} {settings : Settings}

/-- The reports about some types are told by their paths. -/
theorem filter_errors_any_isAt (settings : Settings) (hdot : ∀ n ∈ d.typeNames, '.' ∉ n.toList)
    {names : List String} (hnames : ∀ n ∈ names, n ∈ d.typeNames) :
    (assemble d settings).errors.filter (fun e => names.any (e.isAt ·)) =
      ((d.reports settings).filter (·.type ∈ names)).map (·.error) := by
  rw [assemble_errors, List.filter_map]
  congr 1
  apply List.filter_congr
  intro x hx
  obtain ⟨htype, hstands⟩ := standsAt_of_report hx
  rw [Function.comp_apply, Bool.eq_iff_iff, List.any_eq_true, decide_eq_true_eq]
  constructor
  · rintro ⟨n, hn, hat⟩
    rwa [(isAt_iff hstands (hdot n (hnames n hn)) (hdot x.type htype)).1 hat]
  · exact fun hmem => ⟨x.type, hmem, hstands.isAt⟩

theorem filter_errors_isAt (settings : Settings) (hdot : ∀ n ∈ d.typeNames, '.' ∉ n.toList) {n : String}
    (hn : n ∈ d.typeNames) : (assemble d settings).errors.filter (·.isAt n) =
      ((d.reports settings).filter (·.type = n)).map (·.error) := by
  have h := filter_errors_any_isAt settings hdot (List.forall_mem_singleton.2 hn)
  simpa using h

theorem filter_type_eq_singleton {xs : List Report} (hn : (xs.map (·.type)).Nodup) {x : Report} (hx : x ∈ xs) :
    xs.filter (·.type = x.type) = [x] := by
  induction xs with
  | nil => cases hx
  | cons y ys ih =>
    rw [List.map_cons, List.nodup_cons] at hn
    rcases List.mem_cons.1 hx with rfl | hx
    · rw [List.filter_cons_of_pos (by simp), List.filter_eq_nil_iff.2]
      intro z hz heq
      rw [decide_eq_true_eq] at heq
      exact hn.1 (heq ▸ List.mem_map_of_mem hz)
    · rw [List.filter_cons_of_neg, ih hn.2 hx]
      intro heq
      rw [decide_eq_true_eq] at heq
      exact hn.1 (heq ▸ List.mem_map_of_mem hx)

/-- Every declared type survives without a problem or has one problem, at the type or at a member of it. -/
theorem survives_or_one_error (d : Definitions Value) (settings : Settings) (hn : d.typeNames.Nodup)
    (hdot : ∀ n ∈ d.typeNames, '.' ∉ n.toList) :
    (∀ n ∈ d.typeNames,
      (n ∈ d.survivorNames settings ∧ ∀ e ∈ (assemble d settings).errors, e.isAt n = false) ∨
      (n ∉ d.survivorNames settings ∧
        ∃ e, (assemble d settings).errors.filter (·.isAt n) = [e] ∧ StandsAt n (d.members n) e)) ∧
    (∀ e ∈ (assemble d settings).errors, ∃ n ∈ d.typeNames, StandsAt n (d.members n) e) ∧
    ((assemble d settings).enums.map (·.name)).Sublist (d.enums.map (·.name)) ∧
    ((assemble d settings).records.map (·.name)).Sublist (d.records.map (·.name)) ∧
    (assemble d settings).errors.length + (assemble d settings).records.length + (assemble d settings).enums.length =
      d.typeNames.length := by
  have hperm := perm_reports_survivors hn settings
  have hnodup := List.nodup_append.1 (hperm.nodup_iff.2 hn)
  refine ⟨fun n hmem => ?_, fun e he => ?_, d.assemble_enums_sublist settings,
    d.assemble_records_sublist settings, ?_⟩
  · rcases List.mem_append.1 (hperm.mem_iff.2 hmem) with hreport | hsurvives
    · obtain ⟨x, hx, rfl⟩ := List.mem_map.1 hreport
      right
      refine ⟨fun hs => hnodup.2.2 _ hreport _ hs rfl, x.error, ?_, (standsAt_of_report hx).2⟩
      rw [filter_errors_isAt settings hdot hmem, filter_type_eq_singleton hnodup.1 hx, List.map_singleton]
    · left
      refine ⟨hsurvives, ?_⟩
      have hnone : (assemble d settings).errors.filter (·.isAt n) = [] := by
        rw [filter_errors_isAt settings hdot hmem, List.map_eq_nil_iff, List.filter_eq_nil_iff]
        intro x hx heq
        rw [decide_eq_true_eq] at heq
        exact hnodup.2.2 _ (List.mem_map_of_mem hx) _ hsurvives heq
      intro e he
      exact Bool.eq_false_iff.2 (List.filter_eq_nil_iff.1 hnone e he)
  · rw [assemble_errors] at he
    obtain ⟨x, hx, rfl⟩ := List.mem_map.1 he
    exact ⟨x.type, standsAt_of_report hx⟩
  · have hlength := hperm.length_eq
    rw [List.length_append, survivorNames, List.length_append, List.length_map, List.length_map,
      List.length_map] at hlength
    rw [assemble_errors, List.length_map]
    omega

theorem survives_or_one_error_sample : sample.typeNames.Nodup ∧ (∀ n ∈ sample.typeNames, '.' ∉ n.toList) ∧
    ∃ e, (assemble sample sampleSettings).errors.filter (·.isAt "Chain") = [e] ∧ StandsAt "Chain" ["knots"] e := by
  have hn : sample.typeNames.Nodup := by decide
  have hdot : ∀ n ∈ sample.typeNames, '.' ∉ n.toList := by decide
  refine ⟨hn, hdot, ?_⟩
  rcases (survives_or_one_error sample sampleSettings hn hdot).1 "Chain" (by decide) with ⟨hs, -⟩ | ⟨-, h⟩
  · exact absurd hs (by decide +kernel)
  · exact h

end Definitions

end WireBridge
