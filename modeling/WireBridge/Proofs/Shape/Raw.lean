import WireBridge.Proofs.Problem.Partial
import WireBridge.Proofs.Shape.Agreement

/-!
# Shapes as records

A shape can be kept as a record of its kind, its name, its arguments and the family of containers that it belongs to.
Nothing in the form of a `RawShape` says that these fit: an optional may lack its argument, and the name of a primitive
may be none. What is taken out of such a record is therefore looked up (`RawShape.inner?`, `RawShape.args`).

* `TypeExpr.rawShape` : classification to a record, by a table of sequences;
* `TypeExpr.rawShape_eq` : the records that it makes are those of shapes (`Shape.raw`), whose parts fit: optionals and
  sequences have one argument and maps two, and kind, name and family agree;
* `RawShape.fold` : functions of records by recursion on the arguments. `RawShape.text` is one of them, and finds all
  it looks up in the record of a shape (`Shape.renders_text`).
-/

set_option autoImplicit false

namespace WireBridge

inductive ShapeKind
  | primitive
  | optional
  | sequence
  | map
  | wire
  | enum
  | custom
  deriving DecidableEq, Repr

/-- A shape as a record. -/
inductive RawShape
  | mk (kind : ShapeKind) (name : String) (args : List RawShape) (collection : Option CollectionKind)
  deriving Repr

namespace RawShape

def kind : RawShape → ShapeKind
  | mk k _ _ _ => k

def name : RawShape → String
  | mk _ n _ _ => n

def args : RawShape → List RawShape
  | mk _ _ as _ => as

def collection : RawShape → Option CollectionKind
  | mk _ _ _ c => c

/-- The last argument, which an optional or a sequence should have. -/
def inner? (s : RawShape) : Option RawShape := s.args.getLast?

def isCollection (s : RawShape) : Bool := s.kind = .sequence || s.kind = .map

/-- What an optional holds, and any other shape itself. -/
def unwrapped (s : RawShape) : Partial RawShape := if s.kind = .optional then Partial.lookUp s.inner? else return s

def isOptionalCollection (s : RawShape) : Partial Bool := do
  if s.kind = .optional then return (← Partial.lookUp s.inner?).isCollection else return false

section Fold

variable {β : Type} (step : RawShape → List β → β)

mutual

/-- A function of a record that is given by its values for the arguments. -/
def fold : RawShape → β
  | mk k n as c => step (mk k n as c) (foldAll as)

def foldAll : List RawShape → List β
  | [] => []
  | s :: ss => fold s :: foldAll ss

end

end Fold

/-- The shape as it is shown in reports. -/
def text : RawShape → Partial String :=
  fold fun s args =>
    match s.kind with
    | .optional => do return "Optional<" ++ (← Partial.last args) ++ ">"
    | .sequence => do return s.name ++ "<" ++ (← Partial.last args) ++ ">"
    | .map => do return "Map<" ++ (← Partial.nth args 0) ++ ", " ++ (← Partial.nth args 1) ++ ">"
    | _ => return s.name

end RawShape

/-! ## Classification -/

/-- The sequences by their names. -/
def sequenceCollections : List (String × CollectionKind) := [("list", .vec), ("set", .set), ("deque", .deque)]

/-- The shape of a native type as a record. -/
def TypeExpr.rawShape (symbols : Symbols) : (enumFlag : Bool) → TypeExpr → RawShape
  | enumFlag, .mk n as w =>
    if w then .mk .wire n [] none
    else
      match as with
      | [] =>
        if n ∈ Primitive.all.map (·.name) then .mk .primitive n [] none
        else if enumFlag || symbols.isEnum n then .mk .enum n [] none
        else .mk .custom n [] none
      | [t] =>
        if n = "optional" then .mk .optional "optional" [t.rawShape symbols enumFlag] none
        else
          match sequenceCollections.lookup n with
          | some c => .mk .sequence n [t.rawShape symbols enumFlag] (some c)
          | none => .mk .custom (TypeExpr.mk n as w).text [] none
      | [k, v] =>
        if n = "dict" then .mk .map "dict" [k.rawShape symbols false, v.rawShape symbols enumFlag] (some .map)
        else .mk .custom (TypeExpr.mk n as w).text [] none
      | _ => .mk .custom (TypeExpr.mk n as w).text [] none

namespace Shape

/-- The record of a shape. -/
def raw : Shape → RawShape
  | primitive p => .mk .primitive p.name [] none
  | wire n => .mk .wire n [] none
  | enum n => .mk .enum n [] none
  | custom n => .mk .custom n [] none
  | optional s => .mk .optional "optional" [s.raw] none
  | sequence k s => .mk .sequence k.name [s.raw] (some k.collection)
  | map k v => .mk .map "dict" [k.raw, v.raw] (some .map)

end Shape

/-! ## Look-ups in the record of a shape -/

namespace Shape

variable (s : Shape)

theorem isCollection_raw : s.raw.isCollection = s.isCollection := by cases s <;> rfl

/-- The family of containers of a collection is that of its record. -/
theorem collection_raw : (if s.raw.isCollection then s.raw.collection else none) = s.collection? := by
  cases s <;> rfl

theorem kind_raw_eq_optional_iff : s.raw.kind = .optional ↔ s.isOptional = true := by
  cases s <;> simp [raw, RawShape.kind, isOptional]

theorem kind_raw_eq_map_iff : s.raw.kind = .map ↔ s.isMap = true := by
  cases s <;> simp [raw, RawShape.kind, isMap]

theorem unwrapped_raw : s.raw.unwrapped = pure s.unwrapped.raw := by cases s <;> rfl

theorem isOptionalCollection_raw : s.raw.isOptionalCollection = pure s.isOptionalCollection := by
  cases s with
  | optional s =>
    rw [isOptionalCollection, isOptional, Bool.true_and, unwrapped, ← isCollection_raw]
    rfl
  | _ => rfl

theorem text_raw : s.raw.text = pure s.text := by
  induction s with
  | optional s ih =>
    have hstep : (optional s).raw.text = (do return "Optional<" ++ (← s.raw.text) ++ ">") := rfl
    rw [hstep, ih]
    rfl
  | sequence k s ih =>
    have hstep : (sequence k s).raw.text = (do return k.name ++ "<" ++ (← s.raw.text) ++ ">") := rfl
    rw [hstep, ih]
    rfl
  | map k v ihk ihv =>
    have hstep : (map k v).raw.text = (do return "Map<" ++ (← k.raw.text) ++ ", " ++ (← v.raw.text) ++ ">") := rfl
    rw [hstep, ihk, ihv]
    rfl
  | _ => rfl

/-- A record whose parts do not fit has no text. -/
example : (RawShape.mk .optional "optional" [] none).text = Partial.lookUp none := rfl

end Shape

/-! ## Records that classification makes -/

/-- The table of sequences has the families of all sequences, and nothing else. -/
theorem SequenceKind.lookup_sequenceCollections (n : String) :
    sequenceCollections.lookup n = (ofName? n).map collection := by
  cases h : ofName? n with
  | some k =>
    obtain rfl := name_of_ofName? h
    cases k <;> rfl
  | none =>
    have hnone : ∀ k : SequenceKind, k.name ≠ n := by
      rintro k rfl
      rw [ofName?_name] at h
      cases h
    have htable : sequenceCollections = [list, set, deque].map fun k => (k.name, k.collection) := rfl
    rw [htable, List.lookup_eq_none_iff.2]
    · rfl
    · intro p hp
      obtain ⟨k, -, rfl⟩ := List.mem_map.1 hp
      simpa using (hnone k).symm

/-- Classification makes the records of shapes. -/
theorem TypeExpr.rawShape_eq (symbols : Symbols) (enumFlag : Bool) (t : TypeExpr) :
    t.rawShape symbols enumFlag = (t.shape symbols enumFlag).raw := by
  fun_induction TypeExpr.shape symbols enumFlag t with
  | case1 b n as => rw [rawShape.eq_def]; rfl
  | case2 b n w hw =>
    rw [rawShape, if_neg hw]
    unfold namedShape
    cases hp : Primitive.ofName? n with
    | some p =>
      obtain rfl := Primitive.name_of_ofName? hp
      exact if_pos (List.mem_map_of_mem p.mem_all)
    | none =>
      rw [if_neg (Primitive.ofName?_eq_none_iff.1 hp)]
      split <;> rfl
  | case3 b w hw e ih => simp [rawShape, hw, ih, Shape.raw]
  | case4 b n w hw e ho k hk ih =>
    -- A sequence is known by its name, and has its family from the table.
    obtain rfl := SequenceKind.name_of_ofName? hk
    simp [rawShape, hw, ho, SequenceKind.lookup_sequenceCollections, hk, ih, Shape.raw]
  | case5 b n w hw e ho hk => simp [rawShape, hw, ho, SequenceKind.lookup_sequenceCollections, hk, Shape.raw]
  | case6 b w hw k v ihk ihv => simp [rawShape, hw, ihk, ihv, Shape.raw]
  | case7 b n w hw k v hd => simp [rawShape, hw, hd, Shape.raw]
  | case8 b n as w hw h0 h1 h2 => simp [rawShape, hw, Shape.raw]

end WireBridge
