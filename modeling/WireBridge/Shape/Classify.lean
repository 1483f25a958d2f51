import WireBridge.Definition.Basic
import WireBridge.Shape.Basic

/-!
# Classification of native types

`Symbols` are the names that a definition file declares; they are collected before any type is classified, so
the order of declarations has no influence. `TypeExpr.shape` is total: a type that is nothing else is custom.

An enum flag marks the innermost types as enums, through all containers but not in the keys of maps.
-/

set_option autoImplicit false

namespace WireBridge

/-- The declared enums and records. -/
structure Symbols where
  enums : List String
  records : List (RecordDecl Value)

namespace Symbols

def ofDefinitions (d : Definitions Value) : Symbols := ⟨d.enums.map (·.name), d.records⟩

def isEnum (s : Symbols) (name : String) : Bool := s.enums.contains name

/-- The declared record of a name; of several the last. -/
def record? (s : Symbols) (name : String) : Option (RecordDecl Value) :=
  (s.records.filter fun r => r.name = name).getLast?

/-- All declared names. -/
def names (s : Symbols) : List String := s.records.map (·.name) ++ s.enums

theorem name_of_record? {s : Symbols} {name : String} {r : RecordDecl Value} (h : s.record? name = some r) :
    r.name = name := by
  have := List.mem_of_getLast? h
  simpa using (List.mem_filter.1 this).2

theorem mem_of_record? {s : Symbols} {name : String} {r : RecordDecl Value} (h : s.record? name = some r) :
    r ∈ s.records :=
  (List.mem_filter.1 (List.mem_of_getLast? h)).1

end Symbols

/-- The shape of a name without arguments. -/
def namedShape (symbols : Symbols) (enumFlag : Bool) (name : String) : Shape :=
  match Primitive.ofName? name with
  | some p => .primitive p
  | none => if enumFlag || symbols.isEnum name then .enum name else .custom name

/-- The shape of a native type. -/
def TypeExpr.shape (symbols : Symbols) : (enumFlag : Bool) → TypeExpr → Shape
  | enumFlag, .mk n as w =>
    if w then .wire n
    else
      match as with
      | [] => namedShape symbols enumFlag n
      | [t] =>
        if n = "optional" then .optional (t.shape symbols enumFlag)
        else
          match SequenceKind.ofName? n with
          | some k => .sequence k (t.shape symbols enumFlag)
          | none => .custom (TypeExpr.mk n as w).text
      | [k, v] =>
        if n = "dict" then .map (k.shape symbols false) (v.shape symbols enumFlag)
        else .custom (TypeExpr.mk n as w).text
      | _ => .custom (TypeExpr.mk n as w).text

namespace TypeExpr

def isPrimitive (t : TypeExpr) : Bool := !t.wire && t.args.isEmpty && (Primitive.ofName? t.name).isSome

end TypeExpr

end WireBridge
