import WireBridge.Conversion.Fields
import WireBridge.Proofs.Conversion.ByText
import WireBridge.Proofs.Descriptor.ByLookUp

/-!
# Conversions by look-ups

The code of a field can be made from the record of its shape, with texts for all that is generated. What is a match on
the form of a shape elsewhere is a look-up here: the argument of an optional or a sequence, the two arguments of a map,
the texts for a primitive or a sequence in their tables, the functions of a field that is converted by its own, the
first of the lines for a missing value. The modules of functions and of enums that are not declared are written out.

Every function stands beside the theorem that it is defined on the records of shapes, with the texts of the trees that
are made from the shapes themselves, if the modules can be written out (`PrintsModules`). Two look-ups need more than
that: the values of a map that is keyed (`FieldDescriptor.KeyFits`), and the functions of a field
(`renders_directions`).
-/

set_option autoImplicit false

namespace WireBridge

/-- The key of a field, if it has one, keys a map. -/
def FieldDescriptor.KeyFits (f : FieldDescriptor) : Prop := f.key.isSome = true → f.shape.unwrapped.isMap = true

/-- The modules of all functions that a field refers to can be written out. -/
def FieldDescriptor.PrintsReferences (f : FieldDescriptor) : Prop := ∀ g ∈ f.references, g.module.isPrintable = true

/-- All modules that the code of a field may name can be written out. -/
structure PrintsModules (scope : Scope) (f : FieldDescriptor) (a : Absence) (r : RecordDescriptor) : Prop where
  helpers : PrintsHelpers scope.helpers
  references : f.PrintsReferences
  absence : ∀ g ∈ a.function, g.module.isPrintable = true
  errorType : ∀ g ∈ r.errorType, g.module.isPrintable = true

theorem PrintsModules.unhandled {scope : Scope} {f : FieldDescriptor} {a : Absence} {r : RecordDescriptor}
    (h : PrintsModules scope f a r) : PrintsModules scope f .unhandled r :=
  { h with absence := fun _ hg => nomatch hg }

namespace ByLookUp

/-! ## Names of modules -/

/-- A function in the code. -/
def expression (g : FunctionRef) : Partial String := do return (← Partial.print g.module) ++ "." ++ g.path

theorem expression_eq {g : FunctionRef} (h : g.module.isPrintable = true) : expression g = pure g.expression := by
  rw [expression, Partial.print_eq h]
  rfl

/-- The class of an enum that is not declared. -/
def externalEnum (scope : Scope) (name : String) : Partial String :=
  match scope.helpers with
  | some v => do return (← Partial.print v) ++ "." ++ name
  | none => Partial.of (problem (.enumWithoutHelpers name))

theorem renders_externalEnum {scope : Scope} (h : PrintsHelpers scope.helpers) (name : String) :
    Renders id (scope.externalEnum name) (externalEnum scope name) := by
  unfold Scope.externalEnum externalEnum
  cases hv : scope.helpers with
  | some v =>
    dsimp only
    rw [Partial.print_eq (h v hv)]
    rfl
  | none => exact .problem (.of_nil rfl)

/-! ## Native types and defaults -/

def primitiveTypes : List (String × String) :=
  [("bool", "bool"), ("int8", "int"), ("int16", "int"), ("int32", "int"), ("int64", "int"), ("uint8", "int"),
    ("uint16", "int"), ("uint32", "int"), ("uint64", "int"), ("float32", "float"), ("float64", "float"),
    ("bytes", "bytes"), ("string", "str")]

def primitiveDefaults : List (String × String) :=
  [("bool", "False"), ("int8", "0"), ("int16", "0"), ("int32", "0"), ("int64", "0"), ("uint8", "0"), ("uint16", "0"),
    ("uint32", "0"), ("uint64", "0"), ("float32", "0.0"), ("float64", "0.0"), ("bytes", "b\"\""), ("string", "\"\"")]

def sequenceTypes : List (CollectionKind × String) := [(.vec, "list"), (.set, "set"), (.deque, "deque")]

def sequenceDefaults : List (String × String) := [("list", "[]"), ("set", "set()"), ("deque", "deque()")]

theorem lookup_primitiveTypes (p : Primitive) : primitiveTypes.lookup p.name = some p.nativeType := by
  cases p <;> rfl

theorem lookup_primitiveDefaults (p : Primitive) : primitiveDefaults.lookup p.name = some p.default := by
  cases p <;> rfl

theorem lookup_sequenceTypes (k : SequenceKind) : sequenceTypes.lookup k.collection = some k.container := by
  cases k <;> rfl

theorem lookup_sequenceDefaults (k : SequenceKind) :
    sequenceDefaults.lookup k.name = some (DefaultValue.emptySequence k).text := by
  cases k <;> rfl

section Types

variable (scope : Scope) (hh : PrintsHelpers scope.helpers)

/-- The native type of a shape. -/
def nativeType : RawShape → Partial String :=
  RawShape.fold fun s args =>
    match s.kind with
    | .primitive => Partial.lookUp (primitiveTypes.lookup s.name)
    | .optional => do return (← Partial.last args) ++ " | None"
    | .sequence => do
      let container ← Partial.lookUp (s.collection.bind fun c => sequenceTypes.lookup c)
      return container ++ "[" ++ (← Partial.last args) ++ "]"
    | .map => do return "dict[" ++ (← Partial.nth args 0) ++ ", " ++ (← Partial.nth args 1) ++ "]"
    | .wire => return wireTypeText s.name
    | .enum => if scope.symbols.isEnum s.name then return s.name else externalEnum scope s.name
    | .custom => return s.name

variable {scope} in
include hh in
theorem renders_nativeType (s : Shape) :
    Renders NativeType.text (NativeType.ofShape scope s) (nativeType scope s.raw) := by
  induction s with
  | primitive p => exact .lookUp (lookup_primitiveTypes p)
  | wire n => exact .pure rfl
  | enum n =>
    have hstep : nativeType scope (Shape.enum n).raw =
      if scope.symbols.isEnum n then pure n else externalEnum scope n := rfl
    rw [hstep, NativeType.ofShape]
    split
    · exact .pure rfl
    · rw [← bind_pure (externalEnum scope n)]
      exact (renders_externalEnum hh n).bind fun _ _ => .pure rfl
  | custom n => exact .pure rfl
  | optional s ih => exact ih.bind fun t _ => .pure rfl
  | sequence k s ih =>
    have hstep : nativeType scope (Shape.sequence k s).raw = (do
      let container ← Partial.lookUp (sequenceTypes.lookup k.collection)
      return container ++ "[" ++ (← nativeType scope s.raw) ++ "]") := rfl
    rw [hstep, lookup_sequenceTypes]
    exact ih.bind fun t _ => .pure rfl
  | map k v ihk ihv => exact ihk.bind fun t _ => ihv.bind fun u _ => .pure rfl

/-- The default of a shape. -/
def typeDefault (s : RawShape) : Partial String :=
  match s.kind with
  | .primitive => Partial.lookUp (primitiveDefaults.lookup s.name)
  | .optional => return "None"
  | .sequence => Partial.lookUp (sequenceDefaults.lookup s.name)
  | .map => return "\x7b\x7d"
  | .wire => return wireTypeText s.name ++ "()"
  | .enum =>
    if scope.symbols.isEnum s.name then return "next(iter(" ++ s.name ++ "))"
    else do return "next(iter(" ++ (← externalEnum scope s.name) ++ "))"
  | .custom =>
    if hasTypeDefault scope [] (.custom s.name) then return s.name ++ "()"
    else Partial.of (problem (.noTypeDefault s.name))

variable {scope} in
include hh in
theorem renders_typeDefault (s : Shape) :
    Renders DefaultValue.text (DefaultValue.ofShape scope s) (typeDefault scope s.raw) := by
  cases s with
  | primitive p => exact .lookUp (lookup_primitiveDefaults p)
  | sequence k s => exact .lookUp (lookup_sequenceDefaults k)
  | enum n =>
    have hstep : typeDefault scope (Shape.enum n).raw =
      if scope.symbols.isEnum n then pure ("next(iter(" ++ n ++ "))")
      else do return "next(iter(" ++ (← externalEnum scope n) ++ "))" := rfl
    rw [hstep, DefaultValue.ofShape, NativeType.ofShape]
    split
    · exact .pure rfl
    · rw [bind_assoc]
      exact (renders_externalEnum hh n).bind fun _ _ => .pure rfl
  | custom n =>
    have hstep : typeDefault scope (Shape.custom n).raw =
      if hasTypeDefault scope [] (.custom n) then pure (n ++ "()")
      else Partial.of (problem (.noTypeDefault n)) := rfl
    rw [hstep, DefaultValue.ofShape]
    split
    · exact .pure rfl
    · exact .problem (.of_nil rfl)
  | _ => exact .pure rfl

/-- The default of a field in the native class. -/
def nativeDefault (f : FieldDescriptor) : Partial (Option String) :=
  match f.default.bind (·.function) with
  | some g => return some (builtDefault (← expression g))
  | none =>
    if hasTypeDefault scope [] f.shape then do
      let value ← typeDefault scope f.shape.raw
      if ["[]", "\x7b\x7d", "set()", "deque()"].contains value then
        let factory ← Partial.lookUp (containerFactory? value)
        return some (builtDefault factory)
      else if [.primitive, .optional, .enum].contains f.shape.raw.kind then return some value
      else return some (builtDefault ("lambda: " ++ value))
    else return none

/-- The values in the table of factories are those of containers. -/
theorem isSome_containerFactory? (value : String) :
    (containerFactory? value).isSome = ["[]", "\x7b\x7d", "set()", "deque()"].contains value := by
  rw [Bool.eq_iff_iff, containerFactory?, List.lookup_isSome_iff, List.contains_iff_mem]
  simp

theorem contains_kind_raw (s : Shape) : [ShapeKind.primitive, .optional, .enum].contains s.raw.kind =
    (s.isPrimitive || s.isOptional || s.isEnum) := by
  cases s <;> rfl

/-- The function of the default of a field is one that the field refers to. -/
theorem isPrintable_of_default {f : FieldDescriptor} {g : FunctionRef} (hf : f.PrintsReferences)
    (hg : f.default.bind (·.function) = some g) : g.module.isPrintable = true :=
  hf g (FieldDescriptor.mem_references.2 (.inl hg))

variable {scope} in
include hh in
theorem renders_nativeDefault {f : FieldDescriptor} (hf : f.PrintsReferences) :
    Renders (Option.map NativeDefault.text) (NativeDefault.ofField scope f) (nativeDefault scope f) := by
  unfold NativeDefault.ofField nativeDefault
  cases hg : f.default.bind (·.function) with
  | some g =>
    dsimp only
    rw [expression_eq (isPrintable_of_default hf hg)]
    exact .pure rfl
  | none =>
    dsimp only
    cases hasTypeDefault scope [] f.shape with
    | false => exact .pure rfl
    | true =>
      refine (renders_typeDefault hh f.shape).bind fun v _ => ?_
      rw [← isSome_containerFactory?, contains_kind_raw]
      have hvalue (d : NativeDefault) {t : String} (ht : d.text = t) :
          Renders (Option.map NativeDefault.text) (pure (some d)) (pure (some t)) := .pure (congrArg some ht)
      cases hfactory : containerFactory? v.text with
      | some factory => exact hvalue (.builtAnew v) (by rw [NativeDefault.text, hfactory, Option.getD_some])
      | none =>
        cases f.shape.isPrimitive || f.shape.isOptional || f.shape.isEnum with
        | true => exact hvalue (.value v) rfl
        | false => exact hvalue (.builtAnew v) (by rw [NativeDefault.text, hfactory, Option.getD_none])

/-- The default of a field for a missing value. -/
def defaultValue (f : FieldDescriptor) (a : Absence) : Partial String :=
  let resolved := if a.kind = .default then a.function else none
  match resolved <|> f.default.bind (·.function) with
  | some g => return (← expression g) ++ "()"
  | none => typeDefault scope f.shape.raw

variable {scope} in
theorem renders_defaultValue {f : FieldDescriptor} {a : Absence} {r : RecordDescriptor}
    (h : PrintsModules scope f a r) :
    Renders DefaultValue.text (DefaultValue.ofField scope f a) (defaultValue scope f a) := by
  unfold DefaultValue.ofField defaultValue
  dsimp only
  cases hg : (if a.kind = .default then a.function else none) <|> f.default.bind (·.function) with
  | some g =>
    have hprint : g.module.isPrintable = true := by
      rcases eq_some_of_orElse hg with hg | hg
      · exact h.absence g (Option.ite_none_right_eq_some.1 hg).2
      · exact isPrintable_of_default h.references hg
    dsimp only
    rw [expression_eq hprint]
    exact .pure rfl
  | none => exact renders_typeDefault h.helpers f.shape

end Types

/-! ## Values -/

/-- The kind of sequence of a family of containers. -/
def sequenceKind : Option CollectionKind → SequenceKind
  | some .vec => .list
  | some .set => .set
  | _ => .deque

theorem sequenceKind_collection (k : SequenceKind) : sequenceKind (some k.collection) = k := by cases k <;> rfl

/-- The conversion of the value `e`, where `enum` converts a variant. -/
def convert (rules : TextRules) (enum : (name value : String) → Partial String) :
    RawShape → (e : String) → (number : Int) → Partial String :=
  RawShape.fold fun s args e d =>
    match s.kind with
    | .primitive => return e
    | .wire => return e
    | .enum => enum s.name e
    | .custom => Partial.of (rules.custom s.name e)
    | .optional => do
      let inner ← Partial.last (args.map fun convert => convert e d)
      return if inner = e then e else "None if " ++ e ++ " is None else " ++ inner
    | .sequence => do
      let v := (LoopVar.value d).name
      let inner ← Partial.last (args.map fun convert => convert v (d + 1))
      return if inner = v then callText (rules.copy (sequenceKind s.collection)) [e]
        else (rules.brackets (sequenceKind s.collection)).enclose (inner ++ " for " ++ v ++ " in " ++ e)
    | .map => do
      let k := (LoopVar.key d).name
      let v := (LoopVar.value d).name
      let key ← Partial.nth (args.map fun convert => convert k (d + 1)) 0
      let value ← Partial.nth (args.map fun convert => convert v (d + 1)) 1
      return if key = k ∧ value = v then callText "dict" [e]
        else "\x7b" ++ key ++ ": " ++ value ++ " for " ++ k ++ ", " ++ v ++ " in " ++ e ++ ".items()\x7d"

theorem renders_convert {rules : TextRules} {enum : (name value : String) → Partial String}
    (henum : ∀ n e, Renders id (rules.enum n e) (enum n e)) (hcustom : ∀ n e, Worded (rules.custom n e)) (s : Shape)
    (e : String) (d : Int) : Renders id (rules.convert s e d) (convert rules enum s.raw e d) := by
  induction s generalizing e d with
  | primitive p => exact .pure rfl
  | wire n => exact .pure rfl
  | enum n => exact henum n e
  | custom n => exact .of (hcustom n e)
  | optional s ih => exact (ih e d).bind fun inner _ => .pure rfl
  | sequence k s ih =>
    refine (ih _ (d + 1)).bind fun inner _ => .pure ?_
    simp only [RawShape.collection, sequenceKind_collection]
    rfl
  | map k v ihk ihv => exact (ihk _ (d + 1)).bind fun key _ => (ihv _ (d + 1)).bind fun value _ => .pure rfl

section Values

variable (scope : Scope)

def enumFromWire (n e : String) : Partial String := do
  if scope.symbols.isEnum n then return callText (fromWireFunction n) [e]
  else return callText "enum_from_wire" [← externalEnum scope n, wireTypeText n, e]

def fromWire : RawShape → (e : String) → (number : Int) → Partial String :=
  convert (fromWireRules scope) (enumFromWire scope)

def toWire : RawShape → (e : String) → (number : Int) → Partial String :=
  convert (toWireRules scope) fun n e => Partial.of ((toWireRules scope).enum n e)

def keyedFromWire (s : RawShape) (member e : String) : Partial String := do
  let v := (LoopVar.value 0).name
  let w := (LoopVar.wire 0).name
  let held ← Partial.lookUp s.args[1]?
  let value ← fromWire scope held w 1
  let values := if value = w then e else Brackets.lazy.enclose (value ++ " for " ++ w ++ " in " ++ e)
  return "\x7b" ++ v ++ "." ++ member ++ ": " ++ v ++ " for " ++ v ++ " in " ++ values ++ "\x7d"

def keyedToWire (s : RawShape) (e : String) : Partial String := do
  let v := (LoopVar.value 0).name
  let held ← Partial.lookUp s.args[1]?
  let value ← toWire scope held v 1
  let values := e ++ ".values()"
  return if value = v then callText "list" [values]
    else Brackets.list.enclose (value ++ " for " ++ v ++ " in " ++ values)

variable {scope}

/-- A conversion by texts is one by trees. -/
theorem renders_text {x : Except ConfigError Expr} {y : Except ConfigError String} {z : Partial String}
    (hxy : x.map Expr.text = y) (hz : Renders id y z) : Renders Expr.text x z := by
  rw [hz.eq, ← hxy]
  rfl

theorem renders_fromWireText (hh : PrintsHelpers scope.helpers) (s : Shape) (e : String) (d : Int) :
    Renders id (fromWireText scope s e d) (fromWire scope s.raw e d) := by
  refine renders_convert (fun n e => ?_) (fun n e => ?_) s e d
  · unfold fromWireRules enumFromWire
    dsimp only
    split
    · exact .pure rfl
    · exact (renders_externalEnum hh n).bind fun _ _ => .pure rfl
  · unfold fromWireRules
    dsimp only
    split
    · exact .pure _
    · exact .problem (.of_nil rfl)

theorem renders_toWireText (s : Shape) (e : String) (d : Int) :
    Renders id (toWireText scope s e d) (toWire scope s.raw e d) := by
  refine renders_convert (fun n e => .of ?_) (fun n e => ?_) s e d
  · unfold toWireRules
    dsimp only
    split <;> exact .pure _
  · unfold toWireRules
    dsimp only
    split
    · exact .pure _
    · exact .problem (.of_nil rfl)

theorem renders_fromWire (hh : PrintsHelpers scope.helpers) (s : Shape) (e : Expr) (d : Int) :
    Renders Expr.text (WireBridge.fromWire scope s e d) (fromWire scope s.raw e.text d) :=
  renders_text (map_text_fromWire scope s e d) (renders_fromWireText hh s e.text d)

/-- The text of a conversion from the wire is that of the value only where the value crosses as it is. -/
theorem text_eq_iff_isVerbatim {s : Shape} {e x : Expr} {d : Int} (h : WireBridge.fromWire scope s e d = .ok x) :
    x.text = e.text ↔ s.isVerbatim = true := by
  have htext : fromWireText scope s e.text d = .ok x.text := by rw [← map_text_fromWire, h, Except.map]
  exact (lengthens_fromWireRules scope).eq_self_iff htext

theorem renders_toWire (scope : Scope) (s : Shape) (e : Expr) (d : Int) :
    Renders Expr.text (WireBridge.toWire scope s e d) (toWire scope s.raw e.text d) :=
  renders_text (map_text_toWire scope s e d) (renders_toWireText s e.text d)

theorem renders_keyedFromWire (hh : PrintsHelpers scope.helpers) {s : Shape} (hs : s.isMap = true) (member : String)
    (e : Expr) :
    Renders Expr.text (WireBridge.keyedFromWire scope s member e) (keyedFromWire scope s.raw member e.text) := by
  refine renders_text (map_text_keyedFromWire scope s member e) ?_
  cases s with
  | map k v => exact (renders_fromWireText hh v _ 1).bind fun value _ => .pure rfl
  | _ => cases hs

theorem renders_keyedToWire {s : Shape} (hs : s.isMap = true) (e : Expr) :
    Renders Expr.text (WireBridge.keyedToWire scope s e) (keyedToWire scope s.raw e.text) := by
  refine renders_text (map_text_keyedToWire scope s e) ?_
  cases s with
  | map k v => exact (renders_toWireText v _ 1).bind fun value _ => .pure rfl
  | _ => cases hs

end Values

/-! ## Absence -/

section Fields

variable (scope : Scope) (f : FieldDescriptor) (a : Absence) (r : RecordDescriptor)

/-- The error class of a record in the code. -/
def errorClass : Partial String :=
  match r.errorType with
  | some g => expression g
  | none => return r.name ++ "ConversionError"

/-- An error that a function builds and whose class may be checked. -/
def builtError (g : FunctionRef) (n : String) (checked : Option FunctionRef) : Partial String := do
  let error := (← expression g) ++ "(\"" ++ n ++ "\")"
  match checked with
  | some c => return "check_error(" ++ error ++ ", " ++ (← expression c) ++ ")"
  | none => return error

/-- The lines for a missing value. -/
def onMissing : Partial (List String) :=
  match a.kind with
  | .default => do return [assignment f.localName (← defaultValue scope f a)]
  | .panic => return ["raise " ++ (RaisedError.missing f.wireName).text]
  | .error =>
    match a.function with
    | none => return ["raise " ++ (RaisedError.ofClass (← errorClass r) f.wireName).text]
    | some g => return ["raise " ++ (← builtError g f.wireName r.errorType)]
  | .unhandled => return ["raise " ++ (RaisedError.absent f.wireName).text]

theorem errorClass_eq (hr : ∀ g ∈ r.errorType, g.module.isPrintable = true) : errorClass r = pure r.errorClass := by
  unfold errorClass RecordDescriptor.errorClass
  cases hg : r.errorType with
  | some g => exact expression_eq (hr g hg)
  | none => rfl

theorem builtError_eq {g : FunctionRef} (hg : g.module.isPrintable = true) (n : String) {checked : Option FunctionRef}
    (hchecked : ∀ c ∈ checked, c.module.isPrintable = true) :
    builtError g n checked = pure (RaisedError.built g n checked).text := by
  rw [builtError, expression_eq hg]
  cases hc : checked with
  | some c =>
    rw [pure_bind]
    dsimp only
    rw [expression_eq (hchecked c hc)]
    rfl
  | none => rfl

theorem renders_onMissing (hp : PrintsModules scope f a r) :
    Renders (fun m => [m.line]) (missingAction scope f a r) (onMissing scope f a r) := by
  unfold missingAction onMissing
  cases a.kind with
  | default => exact (renders_defaultValue hp).bind fun v _ => .pure rfl
  | error =>
    cases hg : a.function with
    | none =>
      dsimp only
      rw [errorClass_eq r hp.errorType]
      exact .pure rfl
    | some g =>
      dsimp only
      rw [builtError_eq (hp.absence g hg) f.wireName hp.errorType]
      exact .pure rfl
  | _ => exact .pure rfl

/-- The lines of a conversion behind a test. -/
def guarded (condition present : String) : Partial (List String) := do
  let missing ← onMissing scope f a r
  let first ← Partial.lookUp missing.head?
  let head := ("if " ++ condition ++ ":") :: indent 1 missing
  let binding := [assignment f.localName present]
  return if leavesBranch first then head ++ binding else head ++ "else:" :: indent 1 binding

theorem renders_guarded (hp : PrintsModules scope f a r) (test : AbsenceTest) (e : Expr) :
    Renders Block.lines (guard scope f a r test e) (guarded scope f a r test.text e.text) :=
  (renders_onMissing scope f a r hp).bind fun _ _ => .pure rfl

/-- The lines of a conversion that are behind a test where absence is handled. -/
def guardedIfEnforced (present : String) (otherwise : Partial (List String)) : Partial (List String) :=
  if enforcesPresence f a then guarded scope f a r ("wire." ++ f.wireName ++ " is None") present else otherwise

theorem renders_guardedIfEnforced (hp : PrintsModules scope f a r) (e : Expr) {x : Except ConfigError Block}
    {y : Partial (List String)} (hxy : Renders Block.lines x y) :
    Renders Block.lines (guardIfEnforced scope f a r e x) (guardedIfEnforced scope f a r e.text y) := by
  unfold guardIfEnforced guardedIfEnforced
  split
  · exact renders_guarded scope f a r hp (.isNone f.wireSource) e
  · exact hxy

/-! ## Strategies -/

/-- The texts of a block and of the wire counterpart. -/
def directionTexts (p : Block × Option Expr) : List String × Option String := (p.1.lines, p.2.map Expr.text)

def convertIgnored : Partial (List String × Option String) := do
  return ([assignment f.localName (← defaultValue scope f .unhandled)], none)

theorem renders_convertIgnored (hp : PrintsModules scope f a r) :
    Renders directionTexts (WireBridge.convertIgnored scope f) (convertIgnored scope f) :=
  (renders_defaultValue hp.unhandled).bind fun _ _ => .pure rfl

/-- A call of a function. -/
def call (g : FunctionRef) (e : String) : Partial String := do return callText (← expression g) [e]

theorem renders_call {g : FunctionRef} (hg : g.module.isPrintable = true) (e : Expr) :
    Renders Expr.text (pure (.call g.expression [] e)) (call g e.text) := by
  rw [call, expression_eq hg]
  exact .pure rfl

def convertCustom : Partial (List String × Option String) := do
  let src := "wire." ++ f.wireName
  let value := "native." ++ f.nativeName
  let c ← Partial.lookUp f.custom
  let present ← match c.fromWire with
    | some g => call g src
    | none => fromWire scope f.shape.raw src 0
  let lines ← guardedIfEnforced scope f a r present (return [assignment f.localName present])
  let counterpart ← match c.toWire with
    | some g => call g value
    | none => toWire scope f.shape.raw value 0
  return (lines, some counterpart)

/-- Both directions by two conversions. -/
theorem renders_bothDirections (hp : PrintsModules scope f a r) {x y : Except ConfigError Expr}
    {x' y' : Partial String} (hx : Renders Expr.text x x') (hy : Renders Expr.text y y') :
    Renders directionTexts
      (do
        let present ← x
        let block ← guardIfEnforced scope f a r present (return .bind f.localName present)
        return (block, some (← y)))
      (do
        let present ← x'
        let lines ← guardedIfEnforced scope f a r present (return [assignment f.localName present])
        return (lines, some (← y'))) :=
  hx.bind fun present _ => (renders_guardedIfEnforced scope f a r hp present (.pure rfl)).bind fun _ _ =>
    hy.bind fun _ _ => .pure rfl

theorem renders_convertCustom (hp : PrintsModules scope f a r) (hf : f.custom.isSome = true) :
    Renders directionTexts (WireBridge.convertCustom scope f a r) (convertCustom scope f a r) := by
  obtain ⟨c, hc⟩ := Option.isSome_iff_exists.1 hf
  unfold WireBridge.convertCustom convertCustom
  simp only [hc, Partial.lookUp_bind]
  have hread := renders_fromWire hp.helpers f.shape f.wireSource 0
  have hwrite := renders_toWire scope f.shape f.nativeSource 0
  have hfrom : ∀ g ∈ c.fromWire, g.module.isPrintable = true := fun g hg =>
    hp.references g (FieldDescriptor.mem_references.2 (.inr (.inr (.inl (by rw [hc]; exact hg)))))
  have hto : ∀ g ∈ c.toWire, g.module.isPrintable = true := fun g hg =>
    hp.references g (FieldDescriptor.mem_references.2 (.inr (.inr (.inr (by rw [hc]; exact hg)))))
  cases hg : c.fromWire with
  | some g =>
    have hcall := renders_call (hfrom g hg) f.wireSource
    cases hh : c.toWire with
    | some h => exact renders_bothDirections scope f a r hp hcall (renders_call (hto h hh) f.nativeSource)
    | none => exact renders_bothDirections scope f a r hp hcall hwrite
  | none =>
    cases hh : c.toWire with
    | some h => exact renders_bothDirections scope f a r hp hread (renders_call (hto h hh) f.nativeSource)
    | none => exact renders_bothDirections scope f a r hp hread hwrite

/-- A field that does not stand for a record of one field, in a message that shows its shape. -/
def notSingleField {α : Type} : Partial α := do
  let _ ← f.shape.raw.text
  Partial.of (problem (.notSingleField f.shape))

theorem renders_notSingleField {α β : Type} (render : α → β) :
    Renders render (problem (.notSingleField f.shape)) (notSingleField f) := by
  unfold notSingleField
  rw [f.shape.text_raw]
  exact .problem (.of_nil rfl)

/-- The record that a transparent field stands for, its only field and the shape of that. -/
def transparentTarget : Partial (String × String × RawShape) := do
  let shape ← f.shape.raw.unwrapped
  let record? := if shape.kind = .custom then scope.symbols.record? shape.name else none
  match record? with
  | none => notSingleField f
  | some record =>
    if record.fields.length = 1 then
      let inner ← Partial.lookUp record.fields.head?
      return (record.name, inner.name, inner.type.rawShape scope.symbols (inner.directives.any (·.name = "enum")))
    else notSingleField f

def targetTexts (t : String × String × Shape) : String × String × RawShape := (t.1, t.2.1, t.2.2.raw)

theorem renders_transparentTarget :
    Renders targetTexts (WireBridge.transparentTarget scope f) (transparentTarget scope f) := by
  unfold WireBridge.transparentTarget transparentTarget
  rw [f.shape.unwrapped_raw, pure_bind]
  cases f.shape.unwrapped with
  | custom n =>
    have hrecord : (if (Shape.custom n).raw.kind = .custom then scope.symbols.record? (Shape.custom n).raw.name
      else none) = scope.symbols.record? n := rfl
    dsimp only
    rw [hrecord]
    cases scope.symbols.record? n with
    | none => exact renders_notSingleField f _
    | some record =>
      dsimp only
      cases record.fields with
      | nil => exact renders_notSingleField f _
      | cons inner rest =>
        cases rest with
        | nil =>
          refine .pure ?_
          rw [TypeExpr.rawShape_eq]
          rfl
        | cons _ _ => exact renders_notSingleField f _
  | _ => exact renders_notSingleField f _

def convertTransparent : Partial (List String × Option String) := do
  let src := "wire." ++ f.wireName
  let value := "native." ++ f.nativeName
  let target ← transparentTarget scope f
  let wrapped := target.1 ++ "(" ++ target.2.1 ++ "=" ++ (← fromWire scope target.2.2 src 0) ++ ")"
  let lines ← guardedIfEnforced scope f a r wrapped
    (if f.shape.raw.kind = .optional then
      return [assignment f.localName ("None if " ++ src ++ " is None else " ++ wrapped)]
    else if f.wireOptional then guarded scope f .unhandled r (src ++ " is None") wrapped
    else return [assignment f.localName wrapped])
  let unwrapped ← toWire scope target.2.2 (value ++ "." ++ target.2.1) 0
  return (lines, some (if f.shape.raw.kind = .optional then "None if " ++ value ++ " is None else " ++ unwrapped
    else unwrapped))

theorem renders_convertTransparent (hp : PrintsModules scope f a r) :
    Renders directionTexts (WireBridge.convertTransparent scope f a r) (convertTransparent scope f a r) := by
  unfold WireBridge.convertTransparent convertTransparent
  simp only [Shape.kind_raw_eq_optional_iff]
  refine (renders_transparentTarget scope f).bind fun target _ => ?_
  refine (renders_fromWire hp.helpers target.2.2 f.wireSource 0).bind fun inner _ => ?_
  refine (renders_guardedIfEnforced scope f a r hp (.construct target.1 target.2.1 inner) ?_).bind fun block _ => ?_
  · split
    · exact .pure rfl
    · split
      · exact renders_guarded scope f .unhandled r hp.unhandled (.isNone f.wireSource)
          (.construct target.1 target.2.1 inner)
      · exact .pure rfl
  · refine (renders_toWire scope target.2.2 (.source ("native." ++ f.nativeName ++ "." ++ target.2.1)) 0).bind
      fun unwrapped _ => .pure ?_
    cases f.shape.isOptional <;> rfl

/-! ## Collections -/

def collectionFromWire (shape : RawShape) (e : String) : Partial String :=
  match f.key with
  | some k => keyedFromWire scope shape k e
  | none => fromWire scope shape e 0

def collectionToWire (shape : RawShape) : Partial String :=
  match f.key with
  | some _ => keyedToWire scope shape ("native." ++ f.nativeName)
  | none => toWire scope shape ("native." ++ f.nativeName) 0

/-- The shape of a collection that an optional may hold. -/
def collectionShape (optional : Bool) : Partial RawShape :=
  if optional then Partial.lookUp f.shape.raw.inner? else return f.shape.raw

theorem collectionShape_eq :
    collectionShape f f.shape.isOptionalCollection = pure (WireBridge.collectionShape f).raw := by
  unfold collectionShape WireBridge.collectionShape
  cases f.shape with
  | optional s => cases s.optional.isOptionalCollection <;> rfl
  | _ => rfl

/-- The lines of a collection, whose shape may stand in an optional. -/
def collectionLines (s : Strategy) (optional : Bool) (shape : RawShape) : Partial (List String) := do
  let src := "wire." ++ f.wireName
  if s.withError then guarded scope f a r ("not " ++ src) (← collectionFromWire scope f shape src)
  else if a.kind = .default then
    let condition := if optional then "not " ++ src else src ++ " is None"
    guarded scope f a r condition (← collectionFromWire scope f shape src)
  else if optional then
    return [assignment f.localName ((← collectionFromWire scope f shape src) ++ " if " ++ src ++ " else " ++ "None")]
  else if shape.kind = .map && f.key.isNone then
    return [assignment f.localName (← collectionFromWire scope f shape ("(" ++ (src ++ " or " ++ "\x7b\x7d") ++ ")"))]
  else return [assignment f.localName (← collectionFromWire scope f shape (src ++ " or " ++ "()"))]

def convertCollection (s : Strategy) : Partial (List String × Option String) := do
  let value := "native." ++ f.nativeName
  let optional ← f.shape.raw.isOptionalCollection
  let shape ← collectionShape f optional
  let counterpart ← collectionToWire scope f shape
  let lines ← collectionLines scope f a r s optional shape
  if optional then
    return (lines, some (counterpart ++ " if " ++ value ++ " else " ++ if f.wireOptional then "None" else "[]"))
  else return (lines, some counterpart)

section Collections

variable {f} (hf : f.KeyFits)

include hf

theorem isMap_collectionShape (hkey : f.key.isSome = true) : (WireBridge.collectionShape f).isMap = true := by
  have hmap := hf hkey
  unfold WireBridge.collectionShape
  split
  · exact hmap
  · next hoptional =>
    cases hshape : f.shape with
    | optional s =>
      rw [hshape] at hmap hoptional
      cases s with
      | map k v => exact absurd rfl hoptional
      | _ => cases hmap
    | _ =>
      rw [hshape] at hmap
      exact hmap

theorem renders_collectionFromWire (hh : PrintsHelpers scope.helpers) (e : Expr) :
    Renders Expr.text (WireBridge.collectionFromWire scope f e)
      (collectionFromWire scope f (WireBridge.collectionShape f).raw e.text) := by
  unfold WireBridge.collectionFromWire collectionFromWire
  cases hkey : f.key with
  | some k => exact renders_keyedFromWire hh (isMap_collectionShape hf (by rw [hkey]; rfl)) k e
  | none => exact renders_fromWire hh _ e 0

theorem renders_collectionToWire :
    Renders Expr.text (WireBridge.collectionToWire scope f)
      (collectionToWire scope f (WireBridge.collectionShape f).raw) := by
  unfold WireBridge.collectionToWire collectionToWire
  cases hkey : f.key with
  | some k => exact renders_keyedToWire (isMap_collectionShape hf (by rw [hkey]; rfl)) f.nativeSource
  | none => exact renders_toWire scope _ f.nativeSource 0

theorem renders_collectionLines (hp : PrintsModules scope f a r) (s : Strategy) :
    Renders Block.lines (collectionBlock scope f s a r)
      (collectionLines scope f a r s f.shape.isOptionalCollection (WireBridge.collectionShape f).raw) := by
  unfold collectionBlock collectionLines
  simp only [Shape.kind_raw_eq_map_iff, Bool.decide_eq_true]
  have hread := renders_collectionFromWire scope hf hp.helpers
  split
  · exact (hread f.wireSource).bind fun e _ => renders_guarded scope f a r hp (.isEmpty f.wireSource) e
  · split
    · refine (hread f.wireSource).bind fun e _ => ?_
      cases f.shape.isOptionalCollection with
      | true => exact renders_guarded scope f a r hp (.isEmpty f.wireSource) e
      | false => exact renders_guarded scope f a r hp (.isNone f.wireSource) e
    · split
      · exact (hread f.wireSource).bind fun e _ => .pure rfl
      · cases (WireBridge.collectionShape f).isMap && f.key.isNone with
        | true => exact (hread (.parens (.orEmpty f.wireSource .map))).bind fun e _ => .pure rfl
        | false => exact (hread (.orEmpty f.wireSource .tuple)).bind fun e _ => .pure rfl

theorem renders_convertCollection (hp : PrintsModules scope f a r) (s : Strategy) :
    Renders directionTexts (WireBridge.convertCollection scope f s a r) (convertCollection scope f a r s) := by
  unfold WireBridge.convertCollection convertCollection
  rw [f.shape.isOptionalCollection_raw, pure_bind, collectionShape_eq, pure_bind]
  refine (renders_collectionToWire scope hf).bind fun counterpart _ =>
    (renders_collectionLines scope a r hf hp s).bind fun block _ => ?_
  cases f.shape.isOptionalCollection <;> cases f.wireOptional <;> exact .pure rfl

end Collections

/-! ## Fields -/

def convertOptionOrDefault : Partial (List String × Option String) := do
  let src := "wire." ++ f.wireName
  let value := "native." ++ f.nativeName
  if f.shape.raw.kind = .optional then
    let held ← Partial.lookUp f.shape.raw.inner?
    let present ← fromWire scope held src 0
    let bound := if present = src then src else "None if " ++ src ++ " is None else " ++ present
    let lines ← guardedIfEnforced scope f a r present (return [assignment f.localName bound])
    return (lines, some (← toWire scope f.shape.raw value 0))
  else
    let present ← fromWire scope f.shape.raw src 0
    let lines ← guardedIfEnforced scope f a r present (return [assignment f.localName present])
    return (lines, some (← toWire scope f.shape.raw value 0))

theorem renders_convertOptionOrDefault (hp : PrintsModules scope f a r) :
    Renders directionTexts (WireBridge.convertOptionOrDefault scope f a r) (convertOptionOrDefault scope f a r) := by
  have hwrite := renders_toWire scope f.shape f.nativeSource 0
  have hread := renders_fromWire hp.helpers f.shape f.wireSource 0
  unfold WireBridge.convertOptionOrDefault convertOptionOrDefault
  cases hshape : f.shape with
  | optional inner =>
    rw [hshape] at hwrite
    refine (renders_fromWire hp.helpers inner f.wireSource 0).bind fun present hpresent => ?_
    refine (renders_guardedIfEnforced scope f a r hp present (.pure ?_)).bind fun block _ =>
      hwrite.bind fun _ _ => .pure rfl
    -- The tree asks the shape whether the value crosses as it is; here the texts are compared.
    have hsame : present.text = "wire." ++ f.wireName ↔ inner.isVerbatim = true := text_eq_iff_isVerbatim hpresent
    simp only [hsame]
    split <;> rfl
  | _ =>
    rw [hshape] at hwrite hread
    exact hread.bind fun present _ => (renders_guardedIfEnforced scope f a r hp present (.pure rfl)).bind fun _ _ =>
      hwrite.bind fun _ _ => .pure rfl

def convertDirect : Partial (List String × Option String) := do
  let src := "wire." ++ f.wireName
  let present ← fromWire scope f.shape.raw src 0
  let lines ←
    if f.wireOptional then guarded scope f a r (src ++ " is None") present
    else pure [assignment f.localName present]
  return (lines, some (← toWire scope f.shape.raw ("native." ++ f.nativeName) 0))

theorem renders_convertDirect (hp : PrintsModules scope f a r) :
    Renders directionTexts (WireBridge.convertDirect scope f a r) (convertDirect scope f a r) := by
  unfold WireBridge.convertDirect convertDirect
  refine (renders_fromWire hp.helpers f.shape f.wireSource 0).bind fun present _ => ?_
  have hwrite := renders_toWire scope f.shape f.nativeSource 0
  dsimp only
  split
  · exact (renders_guarded scope f a r hp (.isNone f.wireSource) present).bind fun _ _ =>
      hwrite.bind fun _ _ => .pure rfl
  · exact hwrite.bind fun _ _ => .pure rfl

/-- Both directions of a field by its strategy. -/
def directions (s : Strategy) : Partial (List String × Option String) :=
  match s.kind with
  | .ignore => convertIgnored scope f
  | .custom => convertCustom scope f a r
  | .transparent => convertTransparent scope f a r
  | .collection => convertCollection scope f a r s
  | .optionOrDefault => convertOptionOrDefault scope f a r
  | .direct => convertDirect scope f a r

theorem renders_directions (hp : PrintsModules scope f a r) (s : Strategy) (hkey : f.KeyFits)
    (hcustom : s.kind = .custom → f.custom.isSome = true) :
    Renders directionTexts (WireBridge.directions scope f s a r) (directions scope f a r s) := by
  unfold WireBridge.directions directions
  cases hkind : s.kind with
  | ignore => exact renders_convertIgnored scope f a r hp
  | custom => exact renders_convertCustom scope f a r hp (hcustom hkind)
  | transparent => exact renders_convertTransparent scope f a r hp
  | collection => exact renders_convertCollection scope a r hkey hp s
  | optionOrDefault => exact renders_convertOptionOrDefault scope f a r hp
  | direct => exact renders_convertDirect scope f a r hp

end Fields

end ByLookUp

/-! ## Artifacts -/

/-- The texts of the code of a field. -/
structure ArtifactTexts where
  nativeName : String
  wireName : String
  fromWire : List String
  toWire : Option String
  fallible : Bool
  deriving DecidableEq, Repr

def Artifact.texts (x : Artifact) : ArtifactTexts :=
  ⟨x.nativeName, x.wireName, x.fromWire.lines, x.toWire.map Expr.text, x.fallible⟩

namespace ByLookUp

variable (scope : Scope) (f : FieldDescriptor) (a : Absence) (r : RecordDescriptor)

def convertField (s : Strategy) : Partial ArtifactTexts := do
  let texts ← directions scope f a r s
  return ⟨f.nativeName, f.wireName, texts.1, texts.2, a.kind = .error⟩

theorem renders_convertField (hp : PrintsModules scope f a r) (s : Strategy) (hkey : f.KeyFits)
    (hcustom : s.kind = .custom → f.custom.isSome = true) :
    Renders Artifact.texts (WireBridge.convertField scope f s a r) (convertField scope f a r s) :=
  (renders_directions scope f a r hp s hkey hcustom).bind fun _ _ => .pure rfl

def wrapField : Partial ArtifactTexts := do
  let wrapped ← fromWire scope f.shape.raw "wire" 0
  return ⟨f.nativeName, f.wireName, [wrapped], some (← toWire scope f.shape.raw ("native." ++ f.nativeName) 0), false⟩

theorem renders_wrapField (hh : PrintsHelpers scope.helpers) :
    Renders Artifact.texts (WireBridge.wrapField scope f) (wrapField scope f) :=
  (renders_fromWire hh f.shape (.source "wire") 0).bind fun _ _ =>
    (renders_toWire scope f.shape f.nativeSource 0).bind fun _ _ => .pure rfl

end ByLookUp

end WireBridge
