import WireBridge.Code.Native
import WireBridge.Conversion.Scope
import WireBridge.Descriptor.Field

/-!
# Native types and their defaults

* `NativeType.ofShape` : the type of the generated language for a shape;
* `hasTypeDefault` : a shape has a default of its own. An undeclared enum has one if a helpers module is
  configured; a record has one if every field names a default function or has a shape with one; a record that is
  met again in its own fields has none, which is what `seen` keeps;
* `DefaultValue.ofShape` : the expression of that default;
* `NativeDefault.ofField` : the right-hand side of a field in the native class, none for a field that must be given.

`nativeType`, `typeDefault` and `nativeDefault` are their texts.
-/

set_option autoImplicit false

namespace WireBridge

/-- The native type of a shape. -/
def NativeType.ofShape (scope : Scope) : Shape → Except ConfigError NativeType
  | .primitive p => return builtIn p
  | .wire n => return imported (wireTypeText n)
  | .enum n => do
    if scope.symbols.isEnum n then return named n else return imported (← scope.externalEnum n)
  | .custom n => return named n
  | .optional s => return optional (← ofShape scope s)
  | .sequence k s => return sequence k (← ofShape scope s)
  | .map k v => return map (← ofShape scope k) (← ofShape scope v)

namespace FieldDecl

variable (f : FieldDecl Value)

/-- The shape of a field, by its type and its enum flag alone. -/
def shape (symbols : Symbols) : Shape := f.type.shape symbols (f.directives.any (·.name = "enum"))

/-- The field names a function for its default. -/
def namesDefault : Bool := f.directives.any fun d => d.name = "default" && !d.arguments.isEmpty

end FieldDecl

namespace Symbols

/-- The declared records whose names are not among `seen`. -/
def unseen (symbols : Symbols) (seen : List String) : List (RecordDecl Value) :=
  symbols.records.filter (·.name ∉ seen)

theorem length_unseen_lt {symbols : Symbols} {seen : List String} {name : String} {r : RecordDecl Value}
    (hr : symbols.record? name = some r) (hs : name ∉ seen) :
    (symbols.unseen (name :: seen)).length < (symbols.unseen seen).length := by
  have hn := name_of_record? hr
  have hmem := mem_of_record? hr
  have hsub : symbols.unseen (name :: seen) = (symbols.unseen seen).filter (·.name ≠ name) := by
    simp only [unseen, List.filter_filter]
    apply List.filter_congr
    intro x _
    by_cases h : x.name = name <;> simp [h]
  rw [hsub]
  apply List.length_filter_lt_length_iff_exists.2
  exact ⟨r, List.mem_filter.2 ⟨hmem, by simp [hn, hs]⟩, by simp [hn]⟩

end Symbols

/-- The shape has a default of its own, where the records `seen` are met on the way. -/
def hasTypeDefault (scope : Scope) (seen : List String) (s : Shape) : Bool :=
  match s with
  | .enum n => scope.symbols.isEnum n || scope.helpers.isSome
  | .custom n =>
    match _hr : scope.symbols.record? n with
    | none => false
    | some r =>
      if _hs : n ∈ seen then false
      else r.fields.all fun f => f.namesDefault || hasTypeDefault scope (n :: seen) (f.shape scope.symbols)
  | _ => true
termination_by (scope.symbols.unseen seen).length
decreasing_by exact Symbols.length_unseen_lt _hr _hs

theorem hasTypeDefault_enum (scope : Scope) (seen : List String) (n : String) :
    hasTypeDefault scope seen (.enum n) = (scope.symbols.isEnum n || scope.helpers.isSome) := by
  rw [hasTypeDefault.eq_def]

theorem hasTypeDefault_custom_of_none {scope : Scope} {n : String} (h : scope.symbols.record? n = none)
    (seen : List String) : hasTypeDefault scope seen (.custom n) = false := by
  rw [hasTypeDefault.eq_def]
  dsimp only
  split
  · rfl
  · next r hr => simp [h] at hr

theorem hasTypeDefault_custom_of_some {scope : Scope} {n : String} {r : RecordDecl Value}
    (h : scope.symbols.record? n = some r) (seen : List String) :
    hasTypeDefault scope seen (.custom n) = (n ∉ seen && r.fields.all fun f =>
      f.namesDefault || hasTypeDefault scope (n :: seen) (f.shape scope.symbols)) := by
  rw [hasTypeDefault.eq_def]
  dsimp only
  split
  · next hr => simp [h] at hr
  · next r' hr =>
    obtain rfl : r = r' := Option.some.inj (h.symm.trans hr)
    split <;> simp [*]

/-- The default of a shape. -/
def DefaultValue.ofShape (scope : Scope) : Shape → Except ConfigError DefaultValue
  | .primitive p => return constant p
  | .optional _ => return nothing
  | .sequence k _ => return emptySequence k
  | .map _ _ => return emptyMap
  | .wire n => return new (.imported (wireTypeText n))
  | .enum n => return firstOf (← NativeType.ofShape scope (.enum n))
  | .custom n => if hasTypeDefault scope [] (.custom n) then return new (.named n) else problem (.noTypeDefault n)

/-- The default of a field in the native class. -/
def NativeDefault.ofField (scope : Scope) (f : FieldDescriptor) : Except ConfigError (Option NativeDefault) :=
  match f.default.bind (·.function) with
  | some g => return some (builtBy g)
  | none =>
    if hasTypeDefault scope [] f.shape then do
      let v ← DefaultValue.ofShape scope f.shape
      let isFixed := f.shape.isPrimitive || f.shape.isOptional || f.shape.isEnum
      return some (if (containerFactory? v.text).isNone && isFixed then value v else builtAnew v)
    else return none

/-! ## Texts -/

def nativeType (scope : Scope) (s : Shape) : Except ConfigError String :=
  (NativeType.ofShape scope s).map NativeType.text

def typeDefault (scope : Scope) (s : Shape) : Except ConfigError String :=
  (DefaultValue.ofShape scope s).map DefaultValue.text

def nativeDefault (scope : Scope) (f : FieldDescriptor) : Except ConfigError (Option String) :=
  (NativeDefault.ofField scope f).map (Option.map NativeDefault.text)

end WireBridge
