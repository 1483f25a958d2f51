import Mathlib.Data.List.Nodup
import Mathlib.Data.Option.Basic
import WireBridge.Definition.Validation

/-!
# What validation accepts

* `TypeExpr.WellFormed` : a type of the wire module is well formed, a type with arguments if its name is a generic
  constructor of as many arguments and all of them are well formed, and a bare name if it is no generic constructor;
* `Definitions.WellFormed` : the names of types, of the variants of an enum and of the fields of a record differ and are
  not reserved (`ProperNames`), the types of all fields are well formed, and options are known and given once;
* `Definitions.validate_accepts_iff` : validation accepts the well-formed definitions and no others.

Validation looks for the first fault, by a list of the names that it has seen or by counting a name in the list of all.
Both come to the same (`typeNameFault?_eq_none_iff`, `forall_memberFault?_eq_none_iff`).
-/

set_option autoImplicit false

namespace WireBridge

/-! ## Types -/

/-- The generic constructors and the numbers of their arguments. -/
inductive GenericType : String → Nat → Prop
  | optional : GenericType "optional" 1
  | list : GenericType "list" 1
  | set : GenericType "set" 1
  | deque : GenericType "deque" 1
  | dict : GenericType "dict" 2

theorem genericArity?_eq_some_iff {n : String} {k : Nat} : genericArity? n = some k ↔ GenericType n k := by
  constructor
  · intro h
    obtain ⟨before, after, htable, -⟩ := List.lookup_eq_some_iff.1 h
    have hmem : (n, k) ∈ before ++ (n, k) :: after := by simp
    rw [← htable] at hmem
    simp only [List.mem_cons, Prod.mk.injEq, List.not_mem_nil, or_false] at hmem
    rcases hmem with ⟨rfl, rfl⟩ | ⟨rfl, rfl⟩ | ⟨rfl, rfl⟩ | ⟨rfl, rfl⟩ | ⟨rfl, rfl⟩
    · exact .optional
    · exact .list
    · exact .set
    · exact .deque
    · exact .dict
  · intro h
    cases h <;> rfl

theorem genericArity?_eq_none_iff {n : String} : genericArity? n = none ↔ ∀ k, ¬ GenericType n k := by
  simp only [Option.eq_none_iff_forall_ne_some, ne_eq, genericArity?_eq_some_iff]

theorem not_genericType_zero {n : String} : ¬ GenericType n 0 := by
  rintro ⟨⟩

inductive TypeExpr.WellFormed : TypeExpr → Prop
  | wire (n : String) (as : List TypeExpr) : WellFormed (.mk n as true)
  | generic {n : String} {as : List TypeExpr} (hn : GenericType n as.length) (has : ∀ a ∈ as, WellFormed a) :
      WellFormed (.mk n as false)
  | named {n : String} (hn : ∀ k, ¬ GenericType n k) : WellFormed (.mk n [] false)

namespace TypeExpr

variable {n : String} {as : List TypeExpr}

theorem wellFormed_named_iff : WellFormed (.mk n [] false) ↔ ∀ k, ¬ GenericType n k := by
  constructor
  · intro h
    cases h with
    | generic hn => exact absurd hn not_genericType_zero
    | named hn => exact hn
  · exact .named

theorem wellFormed_generic_iff (has : as ≠ []) :
    WellFormed (.mk n as false) ↔ GenericType n as.length ∧ ∀ a ∈ as, a.WellFormed := by
  constructor
  · intro h
    cases h with
    | generic hn hall => exact ⟨hn, hall⟩
    | named => exact absurd rfl has
  · rintro ⟨hn, hall⟩
    exact .generic hn hall

mutual

theorem fault?_eq_none_iff (place : String) : ∀ t : TypeExpr, t.fault? place = none ↔ t.WellFormed
  | .mk n as true => iff_of_true rfl (.wire n as)
  | .mk n [] false => by
    rw [wellFormed_named_iff, ← genericArity?_eq_none_iff]
    exact Option.map_eq_none_iff
  | .mk n (a :: as) false => by
    rw [wellFormed_generic_iff (List.cons_ne_nil a as), ← genericArity?_eq_some_iff,
      ← firstFault?_eq_none_iff place (a :: as), fault?]
    cases genericArity? n with
    | none => simp
    | some arity =>
      rw [List.length_cons]
      by_cases harity : arity = as.length + 1 <;> simp [harity]

theorem firstFault?_eq_none_iff (place : String) :
    ∀ ts : List TypeExpr, firstFault? place ts = none ↔ ∀ t ∈ ts, t.WellFormed
  | [] => iff_of_true rfl fun _ ht => absurd ht List.not_mem_nil
  | t :: ts => by
    rw [firstFault?, Option.orElse_eq_none, fault?_eq_none_iff place t, firstFault?_eq_none_iff place ts,
      List.forall_mem_cons]

end

instance (t : TypeExpr) : Decidable t.WellFormed := decidable_of_iff _ (fault?_eq_none_iff "" t)

end TypeExpr

example : (TypeExpr.mk "dict" [.named "string", .mk "list" [.named "int32"] false] false).WellFormed := by decide

/-! ## Names -/

/-- The names differ, and none is reserved. -/
structure ProperNames (ns : List String) : Prop where
  nodup : ns.Nodup
  allowed : ∀ n ∈ ns, n ∉ reservedWords

theorem typeNameFault?_eq_none_iff {seen ns : List String} :
    typeNameFault? seen ns = none ↔ ProperNames ns ∧ ∀ n ∈ ns, n ∉ seen := by
  fun_induction typeNameFault? seen ns with
  | case1 seen => simpa using ⟨List.nodup_nil, fun _ hn => absurd hn List.not_mem_nil⟩
  | case2 seen n rest hseen => simp [hseen]
  | case3 seen n rest hseen hreserved =>
    refine iff_of_false (Option.some_ne_none _) fun h => ?_
    exact h.1.allowed n List.mem_cons_self hreserved
  | case4 seen n rest hseen hreserved ih =>
    rw [ih]
    constructor
    · rintro ⟨⟨hnodup, hallowed⟩, hfresh⟩
      refine ⟨⟨List.nodup_cons.2 ⟨fun hn => hfresh n hn List.mem_cons_self, hnodup⟩, ?_⟩, ?_⟩
      · exact List.forall_mem_cons.2 ⟨hreserved, hallowed⟩
      · exact List.forall_mem_cons.2 ⟨hseen, fun m hm hs => hfresh m hm (List.mem_cons_of_mem n hs)⟩
    · rintro ⟨⟨hnodup, hallowed⟩, hfresh⟩
      obtain ⟨hn, hnodup⟩ := List.nodup_cons.1 hnodup
      refine ⟨⟨hnodup, (List.forall_mem_cons.1 hallowed).2⟩, fun m hm hs => ?_⟩
      rcases List.mem_cons.1 hs with rfl | hs
      · exact hn hm
      · exact hfresh m (List.mem_cons_of_mem n hm) hs

/-- Names differ if none of them is counted twice. -/
theorem nodup_iff_forall_mem_count {ns : List String} : ns.Nodup ↔ ∀ n ∈ ns, ¬ 1 < ns.count n := by
  rw [List.nodup_iff_count_le_one]
  refine ⟨fun h n _ => Nat.not_lt.2 (h n), fun h n => ?_⟩
  by_cases hn : n ∈ ns
  · exact Nat.not_lt.1 (h n hn)
  · rw [List.count_eq_zero_of_not_mem hn]
    exact Nat.zero_le 1

theorem memberFault?_eq_none_iff {owner n : String} {ns : List String} :
    memberFault? owner ns n = none ↔ ¬ 1 < ns.count n ∧ n ∉ reservedWords := by
  unfold memberFault?
  split
  · next hcount => simp [hcount]
  · next hcount => simp [hcount]

theorem forall_memberFault?_eq_none_iff {owner : String} {ns : List String} :
    (∀ n ∈ ns, memberFault? owner ns n = none) ↔ ProperNames ns := by
  simp only [memberFault?_eq_none_iff, forall_and]
  rw [← nodup_iff_forall_mem_count]
  exact ⟨fun h => ⟨h.1, h.2⟩, fun h => ⟨h.nodup, h.allowed⟩⟩

theorem optionFault?_eq_none_iff {n : String} {ns : List String} :
    optionFault? ns n = none ↔ n ∈ knownOptions ∧ ¬ 1 < ns.count n := by
  unfold optionFault?
  split
  · next hknown => simp [hknown]
  · next hknown => simp [not_not.1 hknown]

/-! ## Definitions -/

section Definitions

variable {V : Type}

structure RecordDecl.WellFormed (r : RecordDecl V) : Prop where
  names : ProperNames (r.fields.map (·.name))
  types : ∀ f ∈ r.fields, f.type.WellFormed

theorem EnumDecl.fault?_eq_none_iff {e : EnumDecl V} : e.fault? = none ↔ ProperNames (e.variants.map (·.name)) := by
  rw [fault?, List.findSome?_eq_none_iff, forall_memberFault?_eq_none_iff]

theorem RecordDecl.fault?_eq_none_iff {r : RecordDecl V} : r.fault? = none ↔ r.WellFormed := by
  have hnames : (∀ f ∈ r.fields, memberFault? r.name (r.fields.map (·.name)) f.name = none) ↔
      ProperNames (r.fields.map (·.name)) :=
    List.forall_mem_map.symm.trans forall_memberFault?_eq_none_iff
  rw [fault?, List.findSome?_eq_none_iff]
  simp only [Option.orElse_eq_none, TypeExpr.fault?_eq_none_iff, forall_and, hnames]
  exact ⟨fun h => ⟨h.1, h.2⟩, fun h => ⟨h.names, h.types⟩⟩

namespace Definitions

structure WellFormed (d : Definitions V) : Prop where
  types : ProperNames d.typeNames
  enums : ∀ e ∈ d.enums, ProperNames (e.variants.map (·.name))
  records : ∀ r ∈ d.records, r.WellFormed
  optionsKnown : ∀ o ∈ d.options, o.name ∈ knownOptions
  optionsDistinct : (d.options.map (·.name)).Nodup

variable {d : Definitions V}

theorem validate_eq_ok_iff : d.validate = .ok () ↔ d.fault? = none := by
  unfold validate
  cases d.fault? <;> simp

theorem fault?_eq_none_iff : d.fault? = none ↔ d.WellFormed := by
  have htypes : typeNameFault? [] d.typeNames = none ↔ ProperNames d.typeNames := by
    simp [typeNameFault?_eq_none_iff]
  have hoptions : (d.options.map (·.name)).findSome? (optionFault? (d.options.map (·.name))) = none ↔
      (∀ o ∈ d.options, o.name ∈ knownOptions) ∧ (d.options.map (·.name)).Nodup := by
    simp only [List.findSome?_eq_none_iff, optionFault?_eq_none_iff, forall_and]
    rw [← nodup_iff_forall_mem_count, List.forall_mem_map]
  simp only [fault?, Option.orElse_eq_none, htypes, hoptions, List.findSome?_eq_none_iff,
    EnumDecl.fault?_eq_none_iff, RecordDecl.fault?_eq_none_iff]
  exact ⟨fun h => ⟨h.1, h.2.1, h.2.2.1, h.2.2.2.1, h.2.2.2.2⟩,
    fun h => ⟨h.types, h.enums, h.records, h.optionsKnown, h.optionsDistinct⟩⟩

theorem wellFormed_of_validate (h : d.validate = .ok ()) : d.WellFormed :=
  fault?_eq_none_iff.1 (validate_eq_ok_iff.1 h)

/-- Validation accepts exactly the well-formed definitions. -/
theorem validate_accepts_iff (d : Definitions V) : d.validate = .ok () ↔ d.WellFormed :=
  validate_eq_ok_iff.trans fault?_eq_none_iff

end Definitions

end Definitions

end WireBridge
