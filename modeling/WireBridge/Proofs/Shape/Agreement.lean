import Mathlib.Data.List.Nodup
import Mathlib.Data.Set.Basic
import WireBridge.Conversion.Native

/-!
# Tables that agree on some names

A stage asks a table of symbols only about the names in the shapes that it meets. `Symbols.Agree s t N` says that
two tables give the same answers about the names in `N`, and that the names in `N` are closed: the fields of a
record among them use no other. Everything that is computed from shapes within `N` is then the same from either
table; here it is proved for classification (`TypeExpr.shape_congr`) and for the optionality of a field on the
wire (`Shape.wireOptional_congr`).

A record that is looked up need not be the same in both tables. Of the directives of its fields a stage that meets the
record in a shape looks for two only, so records that differ in others are `RecordDecl.Alike`.

Agreement is met in three ways: where the declarations outside `N` are left out, and, for all names, where the
declarations are put in another order or where a field of one of them is given another directive.
-/

set_option autoImplicit false

namespace WireBridge

namespace Shape

/-- All names in a shape are in `N`. -/
def Within (N : Set String) (s : Shape) : Prop := ∀ n ∈ s.referenced, n ∈ N

variable {N : Set String}

@[simp] theorem within_primitive (p : Primitive) : Within N (primitive p) := List.forall_mem_nil _

@[simp] theorem within_wire (n : String) : Within N (wire n) := List.forall_mem_nil _

@[simp] theorem within_enum (n : String) : Within N (enum n) ↔ n ∈ N := List.forall_mem_singleton

@[simp] theorem within_custom (n : String) : Within N (custom n) ↔ n ∈ N := List.forall_mem_singleton

@[simp] theorem within_optional (s : Shape) : Within N (optional s) ↔ Within N s := Iff.rfl

@[simp] theorem within_sequence (k : SequenceKind) (s : Shape) : Within N (sequence k s) ↔ Within N s := Iff.rfl

@[simp] theorem within_map (k v : Shape) : Within N (map k v) ↔ Within N k ∧ Within N v :=
  List.forall_mem_append

theorem Within.unwrapped {s : Shape} (h : s.Within N) : s.unwrapped.Within N := by
  cases s <;> exact h

end Shape

namespace Symbols

/-- Of records with distinct names, the declared record of a name is the one that has it. -/
theorem record?_eq_some_iff {s : Symbols} (hn : (s.records.map (·.name)).Nodup) {n : String} {r : RecordDecl Value} :
    s.record? n = some r ↔ r ∈ s.records ∧ r.name = n := by
  constructor
  · exact fun h => ⟨mem_of_record? h, name_of_record? h⟩
  · rintro ⟨hr, rfl⟩
    cases h : s.record? r.name with
    | none =>
      rw [record?, List.getLast?_eq_none_iff, List.filter_eq_nil_iff] at h
      exact absurd (decide_eq_true rfl) (h r hr)
    | some r' =>
      exact congrArg some (List.inj_on_of_nodup_map hn (mem_of_record? h) hr (name_of_record? h))

end Symbols

/-- The declared fields differ in no directive that is looked for where their record is met in a shape. -/
structure FieldDecl.Alike (f g : FieldDecl Value) : Prop where
  name : f.name = g.name
  type : f.type = g.type
  enum : f.directives.any (·.name = "enum") = g.directives.any (·.name = "enum")
  namesDefault : f.namesDefault = g.namesDefault

structure RecordDecl.Alike (r q : RecordDecl Value) : Prop where
  name : r.name = q.name
  newtype : r.newtype = q.newtype
  fields : List.Forall₂ FieldDecl.Alike r.fields q.fields

theorem FieldDecl.Alike.refl (f : FieldDecl Value) : f.Alike f := ⟨rfl, rfl, rfl, rfl⟩

theorem RecordDecl.Alike.refl (r : RecordDecl Value) : r.Alike r :=
  ⟨rfl, rfl, List.forall₂_same.2 fun f _ => FieldDecl.Alike.refl f⟩

theorem FieldDecl.Alike.shape_eq {f g : FieldDecl Value} (h : f.Alike g) (s : Symbols) : f.shape s = g.shape s := by
  rw [FieldDecl.shape, FieldDecl.shape, h.type, h.enum]

namespace Symbols

/-- The two tables say the same of the names in `N`, up to directives that nobody asks for, and a record among them only
uses names in `N`. -/
structure Agree (s t : Symbols) (N : Set String) : Prop where
  isEnum : ∀ n ∈ N, s.isEnum n = t.isEnum n
  record? : ∀ n ∈ N, Option.Rel RecordDecl.Alike (s.record? n) (t.record? n)
  closed : ∀ n ∈ N, ∀ r, s.record? n = some r → ∀ f ∈ r.fields, (f.shape s).Within N

theorem rel_record?_of_eq {s t : Symbols} {n : String} (h : s.record? n = t.record? n) :
    Option.Rel RecordDecl.Alike (s.record? n) (t.record? n) := by
  rw [h]
  cases t.record? n with
  | none => exact .none
  | some r => exact .some (RecordDecl.Alike.refl r)

variable {s t : Symbols} {N : Set String} {n : String} (h : s.Agree t N) (hn : n ∈ N)

include h hn

theorem Agree.record?_eq_none (hr : s.record? n = none) : t.record? n = none := by
  have hrel := h.record? n hn
  rw [hr] at hrel
  generalize t.record? n = q? at hrel ⊢
  cases hrel
  rfl

theorem Agree.exists_record? {r : RecordDecl Value} (hr : s.record? n = some r) :
    ∃ q, t.record? n = some q ∧ r.Alike q := by
  have hrel := h.record? n hn
  rw [hr] at hrel
  generalize t.record? n = q? at hrel ⊢
  cases hrel with
  | some hq => exact ⟨_, rfl, hq⟩

end Symbols

theorem rel_getLast?_of_forall₂ {α β : Type} {R : α → β → Prop} {as : List α} {bs : List β} (h : List.Forall₂ R as bs) :
    Option.Rel R as.getLast? bs.getLast? := by
  have hreverse := List.forall₂_reverse_iff.2 h
  rw [List.getLast?_eq_head?_reverse, List.getLast?_eq_head?_reverse]
  generalize as.reverse = as', bs.reverse = bs' at hreverse
  cases hreverse with
  | nil => exact .none
  | cons hab _ => exact .some hab

theorem exists_getElem?_of_forall₂ {α β : Type} {R : α → β → Prop} {as : List α} {bs : List β}
    (h : List.Forall₂ R as bs) {i : Nat} {a : α} (ha : as[i]? = some a) : ∃ b, bs[i]? = some b ∧ R a b := by
  induction h generalizing i with
  | nil => cases ha
  | cons hab _ ih =>
    cases i with
    | zero =>
      cases ha
      exact ⟨_, rfl, hab⟩
    | succ i => exact ih ha

/-- Tables whose records differ in directives that nobody asks for agree on all names. -/
theorem Symbols.agree_of_alike {s t : Symbols} (he : s.enums = t.enums)
    (hr : List.Forall₂ RecordDecl.Alike s.records t.records) : s.Agree t Set.univ where
  isEnum n _ := by rw [isEnum, isEnum, he]
  record? n _ := by
    refine rel_getLast?_of_forall₂ (List.rel_filter ?_ hr)
    intro r q hrq
    simp only [decide_eq_true_eq, hrq.name]
  closed _ _ _ _ _ _ _ _ := Set.mem_univ _

section Congr

variable {s t : Symbols} {N : Set String} (h : s.Agree t N)

include h

theorem namedShape_congr {b : Bool} {n : String} (hn : (namedShape s b n).Within N) :
    namedShape s b n = namedShape t b n := by
  unfold namedShape at hn ⊢
  cases hp : Primitive.ofName? n with
  | some p => rfl
  | none =>
    have hmem : n ∈ N := by
      rw [hp] at hn
      dsimp only at hn
      split at hn <;> simpa using hn
    simp only [h.isEnum n hmem]

theorem TypeExpr.shape_congr {b : Bool} {e : TypeExpr} (he : (e.shape s b).Within N) :
    e.shape s b = e.shape t b := by
  fun_induction TypeExpr.shape s b e with
  | case1 b n as => rw [TypeExpr.shape.eq_def]; rfl
  | case2 b n w hw => simpa [TypeExpr.shape, hw] using namedShape_congr h he
  | case3 b w hw e ih => simpa [TypeExpr.shape, hw] using ih (by simpa using he)
  | case4 b n w hw e ho k hk ih => simpa [TypeExpr.shape, hw, ho, hk] using ih (by simpa using he)
  | case5 b n w hw e ho hk => simp [TypeExpr.shape, hw, ho, hk]
  | case6 b w hw k v ihk ihv =>
    obtain ⟨hk, hv⟩ := (Shape.within_map _ _).1 he
    simpa [TypeExpr.shape, hw] using ⟨ihk hk, ihv hv⟩
  | case7 b n w hw k v hd => simp [TypeExpr.shape, hw, hd]
  | case8 b n as w hw h0 h1 h2 => simp [TypeExpr.shape, hw]

theorem FieldDecl.shape_congr {f : FieldDecl Value} (hf : (f.shape s).Within N) : f.shape s = f.shape t :=
  TypeExpr.shape_congr h hf

theorem isNewtype_congr {sh : Shape} (hs : sh.Within N) : isNewtype s sh = isNewtype t sh := by
  cases sh with
  | custom n =>
    have hn : n ∈ N := (Shape.within_custom n).1 hs
    cases hr : s.record? n with
    | none => simp only [isNewtype, hr, h.record?_eq_none hn hr]
    | some r =>
      obtain ⟨q, hq, halike⟩ := h.exists_record? hn hr
      simp only [isNewtype, hr, hq, Option.any_some, halike.newtype]
  | _ => rfl

theorem Shape.wireOptional_congr {sh : Shape} (hs : sh.Within N) : sh.wireOptional s = sh.wireOptional t := by
  funext c
  simp only [Shape.wireOptional, isNewtype_congr h hs]

end Congr

end WireBridge
