/-!
# Shapes of native types

A `Shape` is what a conversion needs to know of a native type: a value that crosses as it is (`primitive`,
`wire`), a named type with functions of its own (`enum`, `custom`), or a container. Optionals and sequences hold
one inner shape and maps two, by construction.

* `text` : the shape as it is shown in reports;
* `referenced` : the names of the enums and custom types in it, from left to right;
* `leaves` : the shapes at its ends;
* `collection?` : the family of containers that a sequence or a map belongs to;
* `unwrapped` : what an optional holds, and any other shape itself.
-/

set_option autoImplicit false

namespace WireBridge

inductive Primitive
  | bool
  | int8
  | int16
  | int32
  | int64
  | uint8
  | uint16
  | uint32
  | uint64
  | float32
  | float64
  | bytes
  | string
  deriving DecidableEq, Repr

namespace Primitive

def all : List Primitive :=
  [bool, int8, int16, int32, int64, uint8, uint16, uint32, uint64, float32, float64, bytes, string]

theorem mem_all (p : Primitive) : p ∈ all := by cases p <;> decide

def name : Primitive → String
  | bool => "bool"
  | int8 => "int8"
  | int16 => "int16"
  | int32 => "int32"
  | int64 => "int64"
  | uint8 => "uint8"
  | uint16 => "uint16"
  | uint32 => "uint32"
  | uint64 => "uint64"
  | float32 => "float32"
  | float64 => "float64"
  | bytes => "bytes"
  | string => "string"

def ofName? (n : String) : Option Primitive := all.find? (·.name == n)

theorem name_mem_all (p : Primitive) : p.name ∈ all.map (·.name) := List.mem_map_of_mem p.mem_all

theorem ofName?_name (p : Primitive) : ofName? p.name = some p := by cases p <;> rfl

theorem name_of_ofName? {n : String} {p : Primitive} (h : ofName? n = some p) : p.name = n := by
  simpa using List.find?_some h

theorem ofName?_eq_none_iff {n : String} : ofName? n = none ↔ n ∉ all.map (·.name) := by
  simp [ofName?, List.find?_eq_none]

/-- The type of the generated language that holds a primitive. -/
def nativeType : Primitive → String
  | bool => "bool"
  | float32 | float64 => "float"
  | bytes => "bytes"
  | string => "str"
  | _ => "int"

/-- The value of a primitive where nothing is given. -/
def default : Primitive → String
  | bool => "False"
  | float32 | float64 => "0.0"
  | bytes => "b\"\""
  | string => "\"\""
  | _ => "0"

end Primitive

inductive SequenceKind
  | list
  | set
  | deque
  deriving DecidableEq, Repr

namespace SequenceKind

def name : SequenceKind → String
  | list => "list"
  | set => "set"
  | deque => "deque"

def ofName? (n : String) : Option SequenceKind := [list, set, deque].find? (·.name == n)

theorem ofName?_name (k : SequenceKind) : ofName? k.name = some k := by cases k <;> rfl

theorem name_of_ofName? {n : String} {k : SequenceKind} (h : ofName? n = some k) : k.name = n := by
  simpa using List.find?_some h

end SequenceKind

/-- The family of containers that a field belongs to. -/
inductive CollectionKind
  | vec
  | set
  | deque
  | map
  deriving DecidableEq, Repr

def CollectionKind.name : CollectionKind → String
  | vec => "vec"
  | set => "set"
  | deque => "deque"
  | map => "map"

def SequenceKind.collection : SequenceKind → CollectionKind
  | list => .vec
  | set => .set
  | deque => .deque

inductive Shape
  | primitive (p : Primitive)
  | wire (name : String)
  | enum (name : String)
  | custom (name : String)
  | optional (inner : Shape)
  | sequence (kind : SequenceKind) (element : Shape)
  | map (key value : Shape)
  deriving DecidableEq, Repr, Inhabited

namespace Shape

/-- The shape as it is shown in reports. -/
def text : Shape → String
  | primitive p => p.name
  | wire n => n
  | enum n => n
  | custom n => n
  | optional s => s!"Optional<{s.text}>"
  | sequence k s => s!"{k.name}<{s.text}>"
  | map k v => s!"Map<{k.text}, {v.text}>"

/-- The enums and custom types in a shape. -/
def referenced : Shape → List String
  | enum n => [n]
  | custom n => [n]
  | primitive _ => []
  | wire _ => []
  | optional s => s.referenced
  | sequence _ s => s.referenced
  | map k v => k.referenced ++ v.referenced

/-- The shapes at the ends of a shape, the keys of a map before its values. -/
def leaves : Shape → List Shape
  | optional s => s.leaves
  | sequence _ s => s.leaves
  | map k v => k.leaves ++ v.leaves
  | primitive p => [primitive p]
  | wire n => [wire n]
  | enum n => [enum n]
  | custom n => [custom n]

def collection? : Shape → Option CollectionKind
  | sequence k _ => some k.collection
  | map _ _ => some .map
  | _ => none

def isCollection (s : Shape) : Bool := s.collection?.isSome

def isOptional : Shape → Bool
  | optional _ => true
  | _ => false

theorem isOptional_of_isCollection {s : Shape} (h : s.isCollection = true) : s.isOptional = false := by
  cases s <;> first | rfl | cases h

def isPrimitive : Shape → Bool
  | primitive _ => true
  | _ => false

def isEnum : Shape → Bool
  | enum _ => true
  | _ => false

def isMap : Shape → Bool
  | map _ _ => true
  | _ => false

/-- What an optional holds, and any other shape itself. -/
def unwrapped : Shape → Shape
  | optional s => s
  | s => s

def isOptionalCollection (s : Shape) : Bool := s.isOptional && s.unwrapped.isCollection

end Shape

end WireBridge
