import Mathlib.Data.List.Basic
import WireBridge.Conversion.Native
import WireBridge.Conversion.Values
import WireBridge.Proofs.Problem.Placement

/-!
# Which shapes can be converted

The conversions of a shape and its native type go down to the same leaves (`Shape.leaves`): through optionals and
sequences, and through the keys of a map before its values. Each of them stops at the first leaf that it has no name
for, with the problem of that leaf (`fault?_fromWire`, `fault?_toWire`, `fault?_ofShape`), and the three differ in the
leaves that they can name:

* a custom type is converted by the functions of its record, in both directions, and its class needs no declaration;
* the class of an enum that is not declared is looked up in the helpers module, which the native type and the
  conversion from the wire need and the conversion to the wire does not.

So a shape that can be read from the wire can be written to it, and what keeps a shape from being read keeps it from
being written or from having a native type (`conversions_exist_iff`).
-/

set_option autoImplicit false

namespace WireBridge

/-! ## Problems of computations -/

section Fault

variable {α β : Type}

theorem fault?_pure (a : α) : fault? (pure a) = none := rfl

theorem fault?_problem (p : Problem) : fault? (problem p : Except ConfigError α) = some (.nowhere p) := rfl

/-- A first step and one whose problem does not depend on its result. -/
theorem fault?_bind {x : Except ConfigError α} {f : α → Except ConfigError β} {e? : Option ConfigError}
    (h : ∀ a, fault? (f a) = e?) : fault? (x >>= f) = (fault? x).or e? := by
  cases x with
  | error e => rfl
  | ok a => exact h a

theorem fault?_map (x : Except ConfigError α) (f : α → β) : fault? (x.map f) = fault? x := by
  cases x <;> rfl

theorem isSome_fault?_iff {x : Except ConfigError α} : (fault? x).isSome = true ↔ ∃ e, x = .error e := by
  cases x <;> simp [fault?]

end Fault

/-! ## Leaves -/

namespace Scope

variable (scope : Scope)

/-- The problem of a leaf whose functions are not generated. -/
def customFault? : Shape → Option Problem
  | .custom n => if scope.isRecord n then none else some (.undeclared n)
  | _ => none

/-- The problem of a leaf whose class is not known. -/
def enumFault? : Shape → Option Problem
  | .enum n => if scope.symbols.isEnum n || scope.helpers.isSome then none else some (.enumWithoutHelpers n)
  | _ => none

/-- The problem of a leaf that cannot be read from the wire. -/
def readingFault? (s : Shape) : Option Problem := (scope.enumFault? s).or (scope.customFault? s)

/-- The problem of the first leaf that has one. -/
def firstFault? (faultOf : Shape → Option Problem) (s : Shape) : Option ConfigError :=
  (s.leaves.findSome? faultOf).map .nowhere

section FirstFault

variable (faultOf : Shape → Option Problem)

theorem firstFault?_leaf {s : Shape} (h : s.leaves = [s]) : firstFault? faultOf s = (faultOf s).map .nowhere := by
  rw [firstFault?, h, List.findSome?_singleton]

theorem firstFault?_map (k v : Shape) :
    firstFault? faultOf (.map k v) = (firstFault? faultOf k).or (firstFault? faultOf v) := by
  rw [firstFault?, Shape.leaves, List.findSome?_append, Option.map_or]
  rfl

theorem isSome_firstFault?_iff {s : Shape} :
    (firstFault? faultOf s).isSome = true ↔ ∃ l ∈ s.leaves, (faultOf l).isSome = true := by
  rw [firstFault?, Option.isSome_map, List.findSome?_isSome_iff]

end FirstFault

theorem fault?_externalEnum (n : String) :
    fault? (scope.externalEnum n) = if scope.helpers.isSome then none else some (.nowhere (.enumWithoutHelpers n)) := by
  unfold externalEnum
  cases scope.helpers <;> rfl

end Scope

section Conversions

variable (scope : Scope)

open Scope

theorem fault?_fromWire (s : Shape) (e : Expr) (d : Int) :
    fault? (fromWire scope s e d) = firstFault? scope.readingFault? s := by
  induction s generalizing e d with
  | primitive p => rfl
  | wire n => rfl
  | enum n =>
    rw [firstFault?_leaf _ rfl]
    unfold fromWire
    cases hn : scope.symbols.isEnum n with
    | true => simp [readingFault?, enumFault?, customFault?, hn, fault?_pure]
    | false =>
      rw [if_neg Bool.false_ne_true, fault?_bind fun _ => fault?_pure _, fault?_externalEnum]
      cases hh : scope.helpers <;> simp [readingFault?, enumFault?, customFault?, hn, hh]
  | custom n =>
    rw [firstFault?_leaf _ rfl]
    unfold fromWire
    cases hn : scope.isRecord n with
    | true => simp [readingFault?, enumFault?, customFault?, hn, fault?_pure]
    | false => simp [readingFault?, enumFault?, customFault?, hn, fault?_problem]
  | optional s ih => rw [fromWire, fault?_bind fun _ => fault?_pure _, ih, Option.or_none]; rfl
  | sequence k s ih => rw [fromWire, fault?_bind fun _ => fault?_pure _, ih, Option.or_none]; rfl
  | map k v ihk ihv =>
    rw [fromWire, fault?_bind fun _ => (fault?_bind fun _ => fault?_pure _), ihk, ihv, Option.or_none,
      firstFault?_map]

theorem fault?_toWire (s : Shape) (e : Expr) (d : Int) :
    fault? (toWire scope s e d) = firstFault? scope.customFault? s := by
  induction s generalizing e d with
  | primitive p => rfl
  | wire n => rfl
  | enum n =>
    unfold toWire
    split <;> rfl
  | custom n =>
    rw [firstFault?_leaf _ rfl]
    unfold toWire
    cases hn : scope.isRecord n with
    | true => simp [customFault?, hn, fault?_pure]
    | false => simp [customFault?, hn, fault?_problem]
  | optional s ih => rw [toWire, fault?_bind fun _ => fault?_pure _, ih, Option.or_none]; rfl
  | sequence k s ih => rw [toWire, fault?_bind fun _ => fault?_pure _, ih, Option.or_none]; rfl
  | map k v ihk ihv =>
    rw [toWire, fault?_bind fun _ => (fault?_bind fun _ => fault?_pure _), ihk, ihv, Option.or_none, firstFault?_map]

theorem fault?_ofShape (s : Shape) : fault? (NativeType.ofShape scope s) = firstFault? scope.enumFault? s := by
  induction s with
  | primitive p => rfl
  | wire n => rfl
  | custom n => rfl
  | enum n =>
    rw [firstFault?_leaf _ rfl]
    unfold NativeType.ofShape
    cases hn : scope.symbols.isEnum n with
    | true => simp [enumFault?, hn, fault?_pure]
    | false =>
      rw [if_neg Bool.false_ne_true, fault?_bind fun _ => fault?_pure _, fault?_externalEnum]
      cases hh : scope.helpers <;> simp [enumFault?, hn, hh]
  | optional s ih => rw [NativeType.ofShape, fault?_bind fun _ => fault?_pure _, ih, Option.or_none]; rfl
  | sequence k s ih => rw [NativeType.ofShape, fault?_bind fun _ => fault?_pure _, ih, Option.or_none]; rfl
  | map k v ihk ihv =>
    rw [NativeType.ofShape, fault?_bind fun _ => (fault?_bind fun _ => fault?_pure _), ihk, ihv, Option.or_none,
      firstFault?_map]

/-! ## Existence -/

/-- Some leaf is a custom type that is not a declared record. -/
def Shape.HasUndeclaredRecord (s : Shape) : Prop := ∃ n, .custom n ∈ s.leaves ∧ scope.symbols.record? n = none

/-- Some leaf is an enum that is not declared, and there is no helpers module to look it up in. -/
def Shape.HasUnknownEnum (s : Shape) : Prop :=
  scope.helpers = none ∧ ∃ n, .enum n ∈ s.leaves ∧ scope.symbols.isEnum n = false

variable {scope} {s : Shape}

theorem exists_customFault?_iff :
    (∃ l ∈ s.leaves, (scope.customFault? l).isSome = true) ↔ s.HasUndeclaredRecord scope := by
  constructor
  · rintro ⟨l, hl, hfault⟩
    cases l with
    | custom n =>
      refine ⟨n, hl, ?_⟩
      cases hr : scope.symbols.record? n with
      | none => rfl
      | some r => simp [customFault?, isRecord, hr] at hfault
    | _ => cases hfault
  · rintro ⟨n, hl, hr⟩
    exact ⟨.custom n, hl, by simp [customFault?, isRecord, hr]⟩

theorem exists_enumFault?_iff : (∃ l ∈ s.leaves, (scope.enumFault? l).isSome = true) ↔ s.HasUnknownEnum scope := by
  constructor
  · rintro ⟨l, hl, hfault⟩
    cases l with
    | enum n =>
      cases hn : scope.symbols.isEnum n with
      | true => simp [enumFault?, hn] at hfault
      | false =>
        cases hh : scope.helpers with
        | some h => simp [enumFault?, hh] at hfault
        | none => exact ⟨hh, n, hl, hn⟩
    | _ => cases hfault
  · rintro ⟨hh, n, hl, hn⟩
    exact ⟨.enum n, hl, by simp [enumFault?, hn, hh]⟩

theorem exists_readingFault?_iff : (∃ l ∈ s.leaves, (scope.readingFault? l).isSome = true) ↔
    s.HasUndeclaredRecord scope ∨ s.HasUnknownEnum scope := by
  rw [← exists_customFault?_iff, ← exists_enumFault?_iff, ← exists_or]
  refine exists_congr fun l => ?_
  rw [readingFault?, Option.isSome_or, Bool.or_eq_true, and_or_left, or_comm]

variable (scope s)

/-- A shape can be read from the wire if all its custom types are declared records and all its enums are known; it can
be written to the wire if the former holds, and has a native type if the latter does. -/
theorem conversions_exist_iff (e e' : Expr) (d d' : Int) :
    ((∃ x, fromWire scope s e d = .error x) ↔ s.HasUndeclaredRecord scope ∨ s.HasUnknownEnum scope) ∧
      ((∃ x, toWire scope s e' d' = .error x) ↔ s.HasUndeclaredRecord scope) ∧
      ((∃ x, nativeType scope s = .error x) ↔ s.HasUnknownEnum scope) ∧
      ((∃ x, fromWire scope s e d = .ok x) → ∃ x, toWire scope s e' d' = .ok x) ∧
      ((∃ x, fromWire scope s e d = .error x) ↔
        (∃ x, toWire scope s e' d' = .error x) ∨ ∃ x, nativeType scope s = .error x) := by
  have hread : (∃ x, fromWire scope s e d = .error x) ↔ s.HasUndeclaredRecord scope ∨ s.HasUnknownEnum scope := by
    rw [← isSome_fault?_iff, fault?_fromWire, isSome_firstFault?_iff, exists_readingFault?_iff]
  have hwrite : (∃ x, toWire scope s e' d' = .error x) ↔ s.HasUndeclaredRecord scope := by
    rw [← isSome_fault?_iff, fault?_toWire, isSome_firstFault?_iff, exists_customFault?_iff]
  have htype : (∃ x, nativeType scope s = .error x) ↔ s.HasUnknownEnum scope := by
    rw [← isSome_fault?_iff, nativeType, fault?_map, fault?_ofShape, isSome_firstFault?_iff, exists_enumFault?_iff]
  refine ⟨hread, hwrite, htype, ?_, by rw [hread, hwrite, htype]⟩
  rintro ⟨x, hx⟩
  cases hy : toWire scope s e' d' with
  | ok y => exact ⟨y, rfl⟩
  | error y =>
    obtain ⟨z, hz⟩ := hread.2 (.inl (hwrite.1 ⟨y, hy⟩))
    rw [hx] at hz
    cases hz

/-- The key of a map is met before its value. -/
example : fault? (fromWire ⟨⟨[], []⟩, none⟩ (.map (.enum "Color") (.custom "Void")) (.source "x") 0) =
    some (.nowhere (.enumWithoutHelpers "Color")) := by
  decide

end Conversions

end WireBridge
