import WireBridge.Conversion.Fields
import WireBridge.Proofs.Descriptor.Source

/-!
# Conversions under tables that agree

The code of a field is the same under two tables of symbols that agree on the names in its shape: every conversion
of values (`fromWire_congr`, `toWire_congr`), the native type, the default of its type, although that looks into
the fields of records (`hasTypeDefault_congr`), the record that a transparent field stands for, and so both
directions of every strategy (`directions_congr`).
-/

set_option autoImplicit false

namespace WireBridge

theorem mapValueShape_within {N : Set String} {sh v : Shape} (hs : sh.Within N) (hv : mapValueShape sh = .ok v) :
    v.Within N := by
  cases sh with
  | map k w =>
    cases hv
    exact ((Shape.within_map k v).1 hs).2
  | _ => cases hv

theorem collectionShape_within {N : Set String} {f : FieldDescriptor} (hf : f.shape.Within N) :
    (collectionShape f).Within N := by
  unfold collectionShape
  split
  · exact hf.unwrapped
  · exact hf

/-- A transparent field stands for a declared record of one field. -/
theorem transparentTarget_eq_ok {scope : Scope} {f : FieldDescriptor} {x : String × String × Shape}
    (h : transparentTarget scope f = .ok x) : ∃ n q g, f.shape.unwrapped = .custom n ∧
      scope.symbols.record? n = some q ∧ q.fields = [g] ∧ x = (q.name, g.name, g.shape scope.symbols) := by
  unfold transparentTarget at h
  cases hshape : f.shape.unwrapped with
  | custom n =>
    rw [hshape] at h
    dsimp only at h
    cases hq : scope.symbols.record? n with
    | none =>
      rw [hq] at h
      cases h
    | some q =>
      rw [hq] at h
      dsimp only at h
      split at h
      · next g hg =>
        cases h
        exact ⟨n, q, g, rfl, hq, hg, rfl⟩
      · cases h
  | _ =>
    rw [hshape] at h
    cases h

theorem all_eq_of_forall₂ {α β : Type} {R : α → β → Prop} {p : α → Bool} {q : β → Bool} {as : List α} {bs : List β}
    (h : List.Forall₂ R as bs) (hpq : ∀ a ∈ as, ∀ b, R a b → p a = q b) : as.all p = bs.all q := by
  induction h with
  | nil => rfl
  | cons hab _ ih =>
    rw [List.all_cons, List.all_cons, hpq _ List.mem_cons_self _ hab,
      ih fun a ha b hab => hpq a (List.mem_cons_of_mem _ ha) b hab]

section Congr

variable {s t : Symbols} {N : Set String} (h : s.Agree t N) (helpers : Option Value)

include h

/-! ## Values and types -/

theorem isRecord_congr {n : String} (hn : n ∈ N) : Scope.isRecord ⟨s, helpers⟩ n = Scope.isRecord ⟨t, helpers⟩ n := by
  cases hr : s.record? n with
  | none => simp only [Scope.isRecord, hr, h.record?_eq_none hn hr]
  | some r =>
    obtain ⟨q, hq, -⟩ := h.exists_record? hn hr
    simp only [Scope.isRecord, hr, hq, Option.isSome_some]

theorem fromWire_congr {sh : Shape} (hs : sh.Within N) (e : Expr) (d : Int) :
    fromWire ⟨s, helpers⟩ sh e d = fromWire ⟨t, helpers⟩ sh e d := by
  induction sh generalizing e d with
  | primitive p => rfl
  | wire n => rfl
  | enum n =>
    simp only [fromWire, h.isEnum n ((Shape.within_enum n).1 hs)]
    rfl
  | custom n => simp only [fromWire, isRecord_congr h helpers ((Shape.within_custom n).1 hs)]
  | optional sh ih => simp only [fromWire, ih ((Shape.within_optional sh).1 hs)]
  | sequence k sh ih => simp only [fromWire, ih ((Shape.within_sequence k sh).1 hs)]
  | map k v ihk ihv =>
    obtain ⟨hk, hv⟩ := (Shape.within_map k v).1 hs
    simp only [fromWire, ihk hk, ihv hv]

theorem toWire_congr {sh : Shape} (hs : sh.Within N) (e : Expr) (d : Int) :
    toWire ⟨s, helpers⟩ sh e d = toWire ⟨t, helpers⟩ sh e d := by
  induction sh generalizing e d with
  | primitive p => rfl
  | wire n => rfl
  | enum n => simp only [toWire, h.isEnum n ((Shape.within_enum n).1 hs)]
  | custom n => simp only [toWire, isRecord_congr h helpers ((Shape.within_custom n).1 hs)]
  | optional sh ih => simp only [toWire, ih ((Shape.within_optional sh).1 hs)]
  | sequence k sh ih => simp only [toWire, ih ((Shape.within_sequence k sh).1 hs)]
  | map k v ihk ihv =>
    obtain ⟨hk, hv⟩ := (Shape.within_map k v).1 hs
    simp only [toWire, ihk hk, ihv hv]

theorem keyedFromWire_congr {sh : Shape} (hs : sh.Within N) (member : String) (e : Expr) :
    keyedFromWire ⟨s, helpers⟩ sh member e = keyedFromWire ⟨t, helpers⟩ sh member e := by
  refine bind_congr_of_ok fun v hv => ?_
  rw [fromWire_congr h helpers (mapValueShape_within hs hv)]

theorem keyedToWire_congr {sh : Shape} (hs : sh.Within N) (e : Expr) :
    keyedToWire ⟨s, helpers⟩ sh e = keyedToWire ⟨t, helpers⟩ sh e := by
  refine bind_congr_of_ok fun v hv => ?_
  rw [toWire_congr h helpers (mapValueShape_within hs hv)]

theorem NativeType.ofShape_congr {sh : Shape} (hs : sh.Within N) :
    ofShape ⟨s, helpers⟩ sh = ofShape ⟨t, helpers⟩ sh := by
  induction sh with
  | primitive p => rfl
  | wire n => rfl
  | enum n =>
    simp only [ofShape, h.isEnum n ((Shape.within_enum n).1 hs)]
    rfl
  | custom n => rfl
  | optional sh ih => simp only [ofShape, ih ((Shape.within_optional sh).1 hs)]
  | sequence k sh ih => simp only [ofShape, ih ((Shape.within_sequence k sh).1 hs)]
  | map k v ihk ihv =>
    obtain ⟨hk, hv⟩ := (Shape.within_map k v).1 hs
    simp only [ofShape, ihk hk, ihv hv]

/-! ## Defaults -/

/-- The search for a default stays within closed names, on whatever path it meets a record. -/
theorem hasTypeDefault_congr {sh : Shape} (hs : sh.Within N) (seen : List String) :
    hasTypeDefault ⟨s, helpers⟩ seen sh = hasTypeDefault ⟨t, helpers⟩ seen sh := by
  induction seen, sh using hasTypeDefault.induct ⟨s, helpers⟩ with
  | case1 seen n => simp only [hasTypeDefault_enum, h.isEnum n ((Shape.within_enum n).1 hs)]
  | case2 seen n hr =>
    have hr' : t.record? n = none := h.record?_eq_none ((Shape.within_custom n).1 hs) hr
    rw [hasTypeDefault_custom_of_none hr, hasTypeDefault_custom_of_none hr']
  | case3 seen n r hr hmem =>
    obtain ⟨q, hr', -⟩ := h.exists_record? ((Shape.within_custom n).1 hs) hr
    rw [hasTypeDefault_custom_of_some hr, hasTypeDefault_custom_of_some hr']
    simp [hmem]
  | case4 seen n r hr hmem ih =>
    have hn : n ∈ N := (Shape.within_custom n).1 hs
    obtain ⟨q, hr', halike⟩ := h.exists_record? hn hr
    rw [hasTypeDefault_custom_of_some hr, hasTypeDefault_custom_of_some hr']
    congr 1
    refine all_eq_of_forall₂ halike.fields fun f hf g hfg => ?_
    have hwithin : (f.shape s).Within N := h.closed n hn r hr f hf
    rw [ih f hwithin, FieldDecl.shape_congr h hwithin, hfg.shape_eq, hfg.namesDefault]
  | case5 seen sh he hc =>
    rw [hasTypeDefault.eq_def, hasTypeDefault.eq_def ⟨t, helpers⟩]
    cases sh <;> first | rfl | exact absurd rfl (he _) | exact absurd rfl (hc _)

theorem DefaultValue.ofShape_congr {sh : Shape} (hs : sh.Within N) :
    ofShape ⟨s, helpers⟩ sh = ofShape ⟨t, helpers⟩ sh := by
  cases sh with
  | enum n => simp only [ofShape, NativeType.ofShape_congr h helpers hs]
  | custom n => simp only [ofShape, hasTypeDefault_congr h helpers hs]
  | _ => rfl

theorem NativeDefault.ofField_congr {f : FieldDescriptor} (hf : f.shape.Within N) :
    ofField ⟨s, helpers⟩ f = ofField ⟨t, helpers⟩ f := by
  simp only [ofField, hasTypeDefault_congr h helpers hf, DefaultValue.ofShape_congr h helpers hf]

theorem DefaultValue.ofField_congr {f : FieldDescriptor} (hf : f.shape.Within N) (a : Absence) :
    ofField ⟨s, helpers⟩ f a = ofField ⟨t, helpers⟩ f a := by
  simp only [ofField, ofShape_congr h helpers hf]

/-! ## Fields -/

section Field

variable {f : FieldDescriptor} (hf : f.shape.Within N) (a : Absence) (r : RecordDescriptor)

include hf

theorem guard_congr (test : AbsenceTest) (e : Expr) :
    guard ⟨s, helpers⟩ f a r test e = guard ⟨t, helpers⟩ f a r test e := by
  simp only [guard, missingAction, DefaultValue.ofField_congr h helpers hf]

theorem guardIfEnforced_congr (e : Expr) {x y : Except ConfigError Block} (hxy : x = y) :
    guardIfEnforced ⟨s, helpers⟩ f a r e x = guardIfEnforced ⟨t, helpers⟩ f a r e y := by
  simp only [guardIfEnforced, guard_congr h helpers hf, hxy]

theorem convertCustom_congr : convertCustom ⟨s, helpers⟩ f a r = convertCustom ⟨t, helpers⟩ f a r := by
  simp only [convertCustom, fromWire_congr h helpers hf, toWire_congr h helpers hf,
    guardIfEnforced_congr h helpers hf _ _ _ rfl]

/-- The field of the record that a transparent field stands for has a shape within the closed names. -/
theorem transparentTarget_within {p : String × String × Shape} (hp : transparentTarget ⟨s, helpers⟩ f = .ok p) :
    p.2.2.Within N := by
  obtain ⟨n, q, g, hshape, hq, hg, rfl⟩ := transparentTarget_eq_ok hp
  have hn : n ∈ N := by simpa [hshape] using hf.unwrapped
  exact h.closed n hn q hq g (by simp [hg])

theorem transparentTarget_congr : transparentTarget ⟨s, helpers⟩ f = transparentTarget ⟨t, helpers⟩ f := by
  have hu := hf.unwrapped
  unfold transparentTarget
  cases hsh : f.shape.unwrapped with
  | custom n =>
    rw [hsh, Shape.within_custom] at hu
    dsimp only
    cases hr : s.record? n with
    | none => rw [h.record?_eq_none hu hr]
    | some r =>
      obtain ⟨q, hq, halike⟩ := h.exists_record? hu hr
      rw [hq]
      dsimp only
      have hfields := halike.fields
      cases hin : r.fields with
      | nil =>
        rw [hin] at hfields
        rw [List.forall₂_nil_left_iff.1 hfields]
      | cons inner rest =>
        rw [hin] at hfields
        obtain ⟨inner', rest', hinner, hrest, hq'⟩ := List.forall₂_cons_left_iff.1 hfields
        rw [hq']
        cases hrest with
        | nil =>
          have hshape := FieldDecl.shape_congr h (h.closed n hu r hr inner (by simp [hin]))
          simp only [halike.name, hinner.name, hshape, hinner.shape_eq]
        | cons _ _ => rfl
  | _ => rfl

theorem convertTransparent_congr :
    convertTransparent ⟨s, helpers⟩ f a r = convertTransparent ⟨t, helpers⟩ f a r := by
  unfold convertTransparent
  rw [← transparentTarget_congr h helpers hf]
  refine bind_congr_of_ok fun p hp => ?_
  have hin := transparentTarget_within h helpers hf hp
  simp only [fromWire_congr h helpers hin, toWire_congr h helpers hin, guard_congr h helpers hf,
    guardIfEnforced_congr h helpers hf _ _ _ rfl]

theorem collectionFromWire_congr (e : Expr) :
    collectionFromWire ⟨s, helpers⟩ f e = collectionFromWire ⟨t, helpers⟩ f e := by
  simp only [collectionFromWire, keyedFromWire_congr h helpers (collectionShape_within hf),
    fromWire_congr h helpers (collectionShape_within hf)]

theorem collectionToWire_congr :
    collectionToWire ⟨s, helpers⟩ f = collectionToWire ⟨t, helpers⟩ f := by
  simp only [collectionToWire, keyedToWire_congr h helpers (collectionShape_within hf),
    toWire_congr h helpers (collectionShape_within hf)]

theorem convertCollection_congr (k : Strategy) :
    convertCollection ⟨s, helpers⟩ f k a r = convertCollection ⟨t, helpers⟩ f k a r := by
  simp only [convertCollection, collectionBlock, collectionFromWire_congr h helpers hf,
    collectionToWire_congr h helpers hf, guard_congr h helpers hf]

theorem convertOptionOrDefault_congr :
    convertOptionOrDefault ⟨s, helpers⟩ f a r = convertOptionOrDefault ⟨t, helpers⟩ f a r := by
  unfold convertOptionOrDefault
  cases hsh : f.shape with
  | optional inner =>
    have hin : inner.Within N := by simpa [hsh] using hf
    simp only [fromWire_congr h helpers hin, toWire_congr h helpers (hsh ▸ hf),
      guardIfEnforced_congr h helpers hf _ _ _ rfl]
  | _ =>
    simp only [fromWire_congr h helpers (hsh ▸ hf), toWire_congr h helpers (hsh ▸ hf),
      guardIfEnforced_congr h helpers hf _ _ _ rfl]

theorem convertDirect_congr : convertDirect ⟨s, helpers⟩ f a r = convertDirect ⟨t, helpers⟩ f a r := by
  simp only [convertDirect, fromWire_congr h helpers hf, toWire_congr h helpers hf, guard_congr h helpers hf]

theorem directions_congr (k : Strategy) :
    directions ⟨s, helpers⟩ f k a r = directions ⟨t, helpers⟩ f k a r := by
  simp only [directions, convertIgnored, DefaultValue.ofField_congr h helpers hf, convertCustom_congr h helpers hf,
    convertTransparent_congr h helpers hf, convertCollection_congr h helpers hf,
    convertOptionOrDefault_congr h helpers hf, convertDirect_congr h helpers hf]

theorem convertField_congr (k : Strategy) :
    convertField ⟨s, helpers⟩ f k a r = convertField ⟨t, helpers⟩ f k a r := by
  simp only [convertField, directions_congr h helpers hf]

theorem wrapField_congr : wrapField ⟨s, helpers⟩ f = wrapField ⟨t, helpers⟩ f := by
  simp only [wrapField, fromWire_congr h helpers hf, toWire_congr h helpers hf]

end Field

end Congr

end WireBridge
