import Mathlib.Logic.Relation
import WireBridge.Conversion.Native
import WireBridge.Proofs.Problem.Placement

/-!
# Defaults of types

The search for the default of a type keeps the records on its way and gives up where it meets one of them again. What
it finds is the least solution of the rule that a record has a default if each of its fields names a function for one
or has a shape with one: `HasDefault` holds of a shape if there is a derivation by that rule, and the search finds
exactly those (`hasTypeDefault_iff`). It never goes through more records than are declared, and records on its way can
only keep it from a default (`hasTypeDefault_least`).

A derivation is finite, so a record with a default never leads back to itself by fields without a function
(`not_needs_cycle`). This is why the records on the way do not matter.
-/

set_option autoImplicit false

namespace WireBridge

variable {scope : Scope}

/-- The shape has a default by a derivation that goes through the fields of records. -/
inductive HasDefault (scope : Scope) : Shape → Prop
  | primitive (p : Primitive) : HasDefault scope (.primitive p)
  | wire (n : String) : HasDefault scope (.wire n)
  | enum {n : String} (h : scope.symbols.isEnum n || scope.helpers.isSome) : HasDefault scope (.enum n)
  | optional (s : Shape) : HasDefault scope (.optional s)
  | sequence (k : SequenceKind) (s : Shape) : HasDefault scope (.sequence k s)
  | map (k v : Shape) : HasDefault scope (.map k v)
  | custom {n : String} {r : RecordDecl Value} (hr : scope.symbols.record? n = some r)
      (hf : ∀ f ∈ r.fields, f.namesDefault = false → HasDefault scope (f.shape scope.symbols)) :
      HasDefault scope (.custom n)

/-- What the search finds has a derivation. -/
theorem hasDefault_of_hasTypeDefault {seen : List String} {s : Shape} (h : hasTypeDefault scope seen s = true) :
    HasDefault scope s := by
  induction seen, s using hasTypeDefault.induct scope with
  | case1 seen n =>
    rw [hasTypeDefault_enum] at h
    exact .enum h
  | case2 seen n hr =>
    rw [hasTypeDefault_custom_of_none hr] at h
    cases h
  | case3 seen n r hr hs =>
    rw [hasTypeDefault_custom_of_some hr] at h
    simp [hs] at h
  | case4 seen n r hr hs ih =>
    rw [hasTypeDefault_custom_of_some hr, Bool.and_eq_true, List.all_eq_true] at h
    refine .custom hr fun f hf hnamed => ih f ?_
    simpa [hnamed] using h.2 f hf
  | case5 seen s henum hcustom =>
    cases s with
    | enum n => exact absurd rfl (henum n)
    | custom n => exact absurd rfl (hcustom n)
    | primitive p => exact .primitive p
    | wire n => exact .wire n
    | optional s => exact .optional s
    | sequence k s => exact .sequence k s
    | map k v => exact .map k v

/-! ## Cycles -/

/-- A field of the first record, without a function for its default, holds the second. -/
def Needs (scope : Scope) (n m : String) : Prop :=
  ∃ r, scope.symbols.record? n = some r ∧ ∃ f ∈ r.fields, f.namesDefault = false ∧
    f.shape scope.symbols = .custom m

theorem acc_of_hasDefault {n : String} (h : HasDefault scope (.custom n)) :
    Acc (Function.swap (Needs scope)) n := by
  generalize hs : Shape.custom n = s at h
  induction h generalizing n with
  | custom hr hf ih =>
    obtain rfl := Shape.custom.inj hs
    refine .intro _ fun m hm => ?_
    obtain ⟨r', hr', f, hmem, hnamed, hshape⟩ := hm
    obtain rfl := Option.some.inj (hr.symm.trans hr')
    exact ih f hmem hnamed hshape.symm
  | _ => cases hs

theorem not_needs_cycle {n : String} (h : HasDefault scope (.custom n)) : ¬ Relation.TransGen (Needs scope) n n := by
  have hacc := (acc_of_hasDefault h).transGen
  clear h
  induction hacc with
  | intro n _ ih => exact fun hcycle => ih n (Relation.transGen_swap.2 hcycle) hcycle

/-- The records on the way do not keep the search from finding a derivation, if each of them leads to the shape. -/
theorem hasTypeDefault_of_hasDefault {s : Shape} (h : HasDefault scope s) (seen : List String)
    (hseen : ∀ k ∈ seen, ∀ n, s = .custom n → Relation.TransGen (Needs scope) k n) :
    hasTypeDefault scope seen s = true := by
  induction h generalizing seen with
  | @custom n r hr hf ih =>
    have hn : n ∉ seen := fun hmem => not_needs_cycle (.custom hr hf) (hseen n hmem n rfl)
    rw [hasTypeDefault_custom_of_some hr, Bool.and_eq_true, List.all_eq_true]
    refine ⟨decide_eq_true hn, fun f hmem => ?_⟩
    cases hnamed : f.namesDefault with
    | true => rfl
    | false =>
      refine ih f hmem hnamed _ fun k hk m hm => ?_
      have hlast : Needs scope n m := ⟨r, hr, f, hmem, hnamed, hm⟩
      rcases List.mem_cons.1 hk with rfl | hk
      · exact .single hlast
      · exact (hseen k hk n rfl).tail hlast
  | enum h => rw [hasTypeDefault_enum, h]
  | _ => rw [hasTypeDefault.eq_def]

theorem hasTypeDefault_iff {s : Shape} : hasTypeDefault scope [] s = true ↔ HasDefault scope s :=
  ⟨hasDefault_of_hasTypeDefault, fun h => hasTypeDefault_of_hasDefault h [] (by simp)⟩

/-- A record has a default exactly if each of its fields names a function for one or has a shape with one. -/
theorem hasTypeDefault_custom_iff {n : String} {r : RecordDecl Value} (hr : scope.symbols.record? n = some r) :
    hasTypeDefault scope [] (.custom n) = true ↔
      ∀ f ∈ r.fields, f.namesDefault = true ∨ hasTypeDefault scope [] (f.shape scope.symbols) = true := by
  simp only [hasTypeDefault_iff]
  constructor
  · rintro (_ | _ | _ | _ | _ | _ | ⟨hr', hf⟩) f hmem
    obtain rfl := Option.some.inj (hr.symm.trans hr')
    cases hnamed : f.namesDefault with
    | true => exact .inl rfl
    | false => exact .inr (hf f hmem hnamed)
  · intro hall
    refine .custom hr fun f hmem hnamed => ?_
    simpa [hnamed] using hall f hmem

/-! ## The search -/

/-- From a shape and the records that are met on the way to it, the search goes on to a field of the record. -/
inductive SearchStep (scope : Scope) : List String × Shape → List String × Shape → Prop
  | field {seen : List String} {n : String} {r : RecordDecl Value} {f : FieldDecl Value}
      (hr : scope.symbols.record? n = some r) (hs : n ∉ seen) (hf : f ∈ r.fields) (hnamed : f.namesDefault = false) :
      SearchStep scope (seen, .custom n) (n :: seen, f.shape scope.symbols)

/-- Every step meets a record that is not met before. -/
theorem length_le_of_searchSteps {start : List String × Shape} {steps : List (List String × Shape)}
    (h : List.IsChain (SearchStep scope) (start :: steps)) : steps.length ≤ (scope.symbols.unseen start.1).length := by
  induction steps generalizing start with
  | nil => exact Nat.zero_le _
  | cons next steps ih =>
    obtain ⟨hstep, hrest⟩ := List.isChain_cons_cons.1 h
    have hsteps := ih hrest
    cases hstep with
    | field hr hs hf hnamed => exact Nat.lt_of_le_of_lt hsteps (Symbols.length_unseen_lt hr hs)

/-- With fewer records on the way, the search finds all that it finds with more. -/
theorem hasTypeDefault_of_subset {seen seen' : List String} (hsub : seen ⊆ seen') {s : Shape}
    (h : hasTypeDefault scope seen' s = true) : hasTypeDefault scope seen s = true := by
  induction seen', s using hasTypeDefault.induct scope generalizing seen with
  | case1 seen' n => rwa [hasTypeDefault_enum] at h ⊢
  | case2 seen' n hr =>
    rw [hasTypeDefault_custom_of_none hr] at h
    cases h
  | case3 seen' n r hr hs =>
    rw [hasTypeDefault_custom_of_some hr] at h
    simp [hs] at h
  | case4 seen' n r hr hs ih =>
    rw [hasTypeDefault_custom_of_some hr, Bool.and_eq_true, List.all_eq_true] at h ⊢
    refine ⟨decide_eq_true fun hmem => hs (hsub hmem), fun f hf => ?_⟩
    cases hnamed : f.namesDefault with
    | true => rfl
    | false => exact ih f (List.cons_subset_cons n hsub) (by simpa [hnamed] using h.2 f hf)
  | case5 seen' s henum hcustom =>
    cases s with
    | enum n => exact absurd rfl (henum n)
    | custom n => exact absurd rfl (hcustom n)
    | _ => rw [hasTypeDefault.eq_def]

/-- The search ends after at most one step for each declared record, finds a default exactly where there is a
derivation of one, and more records on the way never lead to a default that fewer do not lead to. -/
theorem hasTypeDefault_least (scope : Scope) (s : Shape) :
    (∀ seen steps, List.IsChain (SearchStep scope) ((seen, s) :: steps) →
      steps.length ≤ scope.symbols.records.length) ∧
    (hasTypeDefault scope [] s = true ↔ HasDefault scope s) ∧
    ∀ seen seen', seen ⊆ seen' → hasTypeDefault scope seen' s = true → hasTypeDefault scope seen s = true :=
  ⟨fun _ _ h => Nat.le_trans (length_le_of_searchSteps h) (List.length_filter_le _ _), hasTypeDefault_iff,
    fun _ _ hsub h => hasTypeDefault_of_subset hsub h⟩

/-- `Loop` holds itself. `Pair` holds a `Loop`, for which it names a function, and perhaps another `Pair`. -/
def loops : Scope where
  symbols := ⟨[], [
    ⟨"Loop", [⟨"loop", .named "Loop", none, []⟩], none, [], false⟩,
    ⟨"Pair", [⟨"loop", .named "Loop", none, [⟨"default", [⟨none, .text "loop"⟩]⟩]⟩,
      ⟨"next", .mk "optional" [.named "Pair"] false, none, []⟩], none, [], false⟩]⟩
  helpers := none

theorem hasTypeDefault_least_loops :
    (∀ steps, List.IsChain (SearchStep loops) (([], .custom "Loop") :: steps) → steps.length ≤ 2) ∧
    ¬ HasDefault loops (.custom "Loop") ∧ HasDefault loops (.custom "Pair") ∧
    hasTypeDefault loops [] (.custom "Pair") = true ∧ hasTypeDefault loops ["Pair"] (.custom "Pair") = false := by
  obtain ⟨hsteps, hloop, -⟩ := hasTypeDefault_least loops (.custom "Loop")
  obtain ⟨-, hpair, hseen⟩ := hasTypeDefault_least loops (.custom "Pair")
  have hfound : hasTypeDefault loops ["Loop"] (.custom "Pair") = true := by decide +kernel
  have hempty := hseen [] ["Loop"] (List.nil_subset _) hfound
  exact ⟨hsteps [], fun h => absurd (hloop.2 h) (by decide +kernel), hpair.1 hempty, hempty, by decide +kernel⟩

/-- A field of the native class has a default exactly if it names a function for one or its shape has one. -/
theorem NativeDefault.isSome_of_ofField {f : FieldDescriptor} {v : Option NativeDefault}
    (h : NativeDefault.ofField scope f = .ok v) :
    v.isSome = ((f.default.bind (·.function)).isSome || hasTypeDefault scope [] f.shape) := by
  unfold NativeDefault.ofField at h
  split at h
  · next g hg =>
    cases h
    simp [hg]
  · next hg =>
    split at h
    · next hs =>
      obtain ⟨w, -, h⟩ := bind_eq_ok_iff.1 h
      cases h
      simp [hs]
    · next hs =>
      cases h
      simp [hg, hs]

end WireBridge
