import WireBridge.Descriptor.Enum
import WireBridge.Proofs.Descriptor.Modules
import WireBridge.Proofs.Shape.Raw

/-!
# Descriptions by look-ups

Descriptors can be made with look-ups where a directive has a single argument, which is taken out of the list of its
arguments, and where a shape is looked into for a key and for the family of its containers. The fields that a record
ignores are named by values, which are written out, and so is an argument that a problem is about.

`Directive.exists_singleton_values` is why the single argument is there: the arguments are counted before. So whatever
the directives and the types, if their arguments and the helpers module can be written out (`Directive.IsPrintable`,
`PrintsHelpers`), fields, records and enums have their descriptors or a problem (`renders_describeField`,
`renders_describeRecord`, `renders_describeEnum`).
-/

set_option autoImplicit false

namespace WireBridge

/-! ## What can be written out -/

/-- Every argument of the directive can be written out. -/
def Directive.IsPrintable (d : Directive Value) : Prop := ∀ x ∈ d.arguments, x.value.isPrintable = true

/-- The helpers module, if there is one, can be written out. -/
def PrintsHelpers (helpers : Option Value) : Prop := ∀ v ∈ helpers, v.isPrintable = true

theorem FunctionRef.IsOf.isPrintable {helpers : Option Value} {g : FunctionRef} (h : g.IsOf helpers)
    (hh : PrintsHelpers helpers) : g.module.isPrintable = true := by
  rcases h with ⟨m, hm⟩ | hm
  · rw [hm]
    rfl
  · exact hh g.module hm

section Worded

variable {d : Directive Value} {ds : List (Directive Value)}

theorem worded_values (d : Directive Value) (least : Nat) (most : Option Nat) : Worded (d.values least most) := by
  unfold Directive.values
  dsimp only
  split
  · exact .problem (.of_nil rfl)
  · split
    · exact .problem (.of_nil rfl)
    · exact .ok _

theorem Directive.IsPrintable.values (h : d.IsPrintable) {least : Nat} {most : Option Nat} {vs : List Value}
    (hvs : d.values least most = .ok vs) : ∀ v ∈ vs, v.isPrintable = true := by
  unfold Directive.values at hvs
  dsimp only at hvs
  split at hvs
  · cases hvs
  · split at hvs
    · cases hvs
    · cases hvs
      intro v hv
      obtain ⟨x, hx, rfl⟩ := List.mem_map.1 hv
      exact h x hx

theorem worded_referenceOf (helpers : Option Value) {v : Value} (h : v.isPrintable = true) :
    Worded (referenceOf helpers v) := by
  unfold referenceOf
  split
  · exact .ok _
  · exact .problem (.of_singleton rfl h)

theorem worded_given? {α : Type} {read : Directive Value → Except ConfigError α} (h : ∀ d ∈ ds, Worded (read d))
    (name : String) : Worded (given? ds name read) := by
  unfold given? directive?
  cases hd : ds.find? fun d => d.name = name with
  | none => exact .pure none
  | some d => exact (h d (List.mem_of_find?_eq_some hd)).bind fun _ _ => .pure _

theorem worded_checkAll (host : DirectiveHost) (ds : List (Directive Value)) : Worded (Directive.checkAll host ds) := by
  have hfault : ∀ (ds : List (Directive Value)) (seen : List String) (p : Problem),
      Directive.firstFault? host seen ds = some p → p.IsWorded := by
    intro ds
    induction ds with
    | nil => exact fun _ _ h => nomatch h
    | cons d ds ih =>
      intro seen p h
      unfold Directive.firstFault? at h
      split at h
      · cases h
        exact .of_nil rfl
      · split at h
        · cases h
          exact .of_nil rfl
        · exact ih _ p h
  unfold Directive.checkAll
  split
  · next p hp => exact .problem (hfault ds [] p hp)
  · exact .ok _

theorem worded_bare (d : Directive Value) : Worded d.bare := (worded_values d 0 (some 0)).bind fun _ _ => .ok _

theorem worded_checkExclusive (ds : List (Directive Value)) : Worded (checkExclusive ds) := by
  unfold checkExclusive
  dsimp only
  split
  · exact (Worded.problem (.of_nil rfl)).bind fun _ h => nomatch h
  · split
    · exact .problem (.of_nil rfl)
    · exact .ok _

theorem worded_flagValue (h : d.IsPrintable) : Worded d.flagValue := by
  refine (worded_values d 0 (some 1)).bind fun vs hvs => ?_
  cases vs with
  | nil => exact .ok _
  | cons v vs =>
    dsimp only
    split
    · exact .ok _
    · split
      · exact .ok _
      · exact .problem (.of_singleton rfl (h.values hvs v List.mem_cons_self))

theorem worded_readOptionality (h : ∀ d ∈ ds, d.IsPrintable) : Worded (readOptionality ds) := by
  refine (worded_given? (fun d hd => worded_flagValue (h d hd)) "optional").bind fun b? _ => ?_
  cases b? with
  | some b => exact .ok _
  | none => exact (worded_given? (fun d _ => worded_bare d) "required").bind fun _ _ => .pure _

theorem worded_readDefault (helpers : Option Value) (h : ∀ d ∈ ds, d.IsPrintable) :
    Worded (readDefault helpers ds) := by
  refine worded_given? (fun d hd => (worded_values d 0 (some 1)).bind fun vs hvs => ?_) "default"
  cases vs with
  | nil => exact .ok _
  | cons v vs =>
    exact (worded_referenceOf helpers ((h d hd).values hvs v List.mem_cons_self)).bind fun _ _ => .ok _

theorem worded_readExpectation (h : ∀ d ∈ ds, d.IsPrintable) : Worded (readExpectation ds) := by
  refine (worded_given? (fun d _ => worded_values d 0 (some 1)) "expect").bind fun vs? hvs? => ?_
  rcases given?_eq_ok_iff.1 hvs? with ⟨-, rfl⟩ | ⟨d, vs, hd, hvs, rfl⟩
  · exact .ok _
  · have hkind : (vs.headD (.text "error")).isPrintable = true := by
      cases vs with
      | nil => rfl
      | cons v vs => exact (h d (List.mem_of_find?_eq_some hd)).values hvs v List.mem_cons_self
    dsimp only
    split
    · exact .ok _
    · split
      · exact .ok _
      · exact .problem (.of_singleton rfl hkind)

theorem worded_checkBare (ds : List (Directive Value)) : Worded (checkBare ds) := by
  have hname : ∀ name, Worded (do let _ ← given? ds name Directive.bare) := fun name =>
    (worded_given? (fun d _ => worded_bare d) name).bind fun _ _ => .ok _
  exact (hname _).bind fun _ _ => (hname _).bind fun _ _ => (hname _).bind fun _ _ => .ok _

end Worded

/-- A directive with a single argument has it. -/
theorem Directive.exists_singleton_values {d : Directive Value} {vs : List Value}
    (h : d.values 1 (some 1) = .ok vs) : ∃ v, vs = [v] := by
  unfold values at h
  dsimp only at h
  split at h
  · cases h
  · split at h
    · cases h
    · next hcount =>
      cases h
      refine List.length_eq_one_iff.1 ?_
      simp only [Option.any_some, Bool.or_eq_true, decide_eq_true_eq, not_or, Nat.not_lt] at hcount
      exact Nat.le_antisymm hcount.2 hcount.1

namespace ByLookUp

/-! ## Arguments -/

/-- The element of a list that has one. -/
def only? {α : Type} : List α → Option α
  | [a] => some a
  | _ => none

section Arguments

variable (d : Directive Value)

/-- The only argument of a directive. -/
def onlyValue : Partial Value := do
  let vs ← Partial.of (d.values 1 (some 1))
  Partial.lookUp (only? vs)

/-- The only argument of a directive, as a name that is not empty. -/
def nameValue : Partial String := do
  match ← onlyValue d with
  | .text s => if s = "" then Partial.of (problem (.noName d.name (.text s))) else return s
  | v => Partial.of (problem (.noName d.name v))

variable {d}

theorem renders_nameValue (h : d.IsPrintable) : Renders id d.nameValue (nameValue d) := by
  unfold Directive.nameValue nameValue onlyValue
  rw [bind_assoc]
  refine (Renders.of (worded_values d 1 (some 1))).bind fun vs hvs => ?_
  -- The arguments are counted before one is taken out, so it is there.
  obtain ⟨v, rfl⟩ := Directive.exists_singleton_values hvs
  have hv : v.isPrintable = true := h.values hvs v List.mem_cons_self
  cases v with
  | text s =>
    change Renders id (if s = "" then problem (.noName d.name (.text s)) else pure s)
      (if s = "" then Partial.of (problem (.noName d.name (.text s))) else pure s)
    split
    · exact .problem (.of_singleton rfl hv)
    · exact .pure rfl
  | _ => exact .problem (.of_singleton rfl hv)

variable (d)

/-- The only argument of a directive, as an identifier. -/
def identifierValue : Partial String := do
  let s ← nameValue d
  if Text.isIdentifier (Text.dropFinalNewline s.toList) then return s
  else Partial.of (problem (.noIdentifier d.name (.text s)))

theorem renders_identifierValue (h : d.IsPrintable) : Renders id d.identifierValue (identifierValue d) := by
  refine (renders_nameValue h).bind fun s _ => ?_
  dsimp only [id]
  split
  · exact .pure rfl
  · exact .problem (.of_singleton rfl rfl)

/-- The only argument of a directive, as a reference to a function. -/
def reference (helpers : Option Value) : Partial FunctionRef := do
  Partial.of (referenceOf helpers (.text (← nameValue d)))

theorem renders_reference (helpers : Option Value) (h : d.IsPrintable) :
    Renders id (d.reference helpers) (reference d helpers) :=
  (renders_nameValue h).bind fun _ _ => .of (worded_referenceOf helpers rfl)

end Arguments

/-! ## Directives -/

section Directives

variable {α : Type} (ds : List (Directive Value))

/-- What a directive says, if it is given. -/
def given (name : String) (read : Directive Value → Partial α) : Partial (Option α) :=
  match directive? ds name with
  | none => return none
  | some d => do return some (← read d)

variable {ds} in
theorem renders_given {read : Directive Value → Except ConfigError α} {read' : Directive Value → Partial α}
    (h : ∀ d ∈ ds, Renders id (read d) (read' d)) (name : String) :
    Renders id (given? ds name read) (given ds name read') := by
  unfold given? given directive?
  cases hd : ds.find? fun d => d.name = name with
  | none => exact .pure rfl
  | some d => exact (h d (List.mem_of_find?_eq_some hd)).map (f := some) fun _ _ => rfl

variable (helpers : Option Value)

def readCustom : Partial (Option CustomFunctions) := do
  let fromWire ← given ds "from_fn" (reference · helpers)
  let toWire ← given ds "to_fn" (reference · helpers)
  return if isGiven ds "from_fn" || isGiven ds "to_fn" then some ⟨fromWire, toWire⟩ else none

variable {ds} in
theorem renders_readCustom (h : ∀ d ∈ ds, d.IsPrintable) :
    Renders id (WireBridge.readCustom helpers ds) (readCustom ds helpers) :=
  (renders_given (fun d hd => renders_reference d helpers (h d hd)) _).bind fun _ _ =>
    (renders_given (fun d hd => renders_reference d helpers (h d hd)) _).bind fun _ _ => .pure rfl

/-- The attribute that keys a map, or a message that shows the shape. -/
def readKey (shape : Shape) : Partial (Option String) :=
  given ds "key" fun d => do
    let key ← identifierValue d
    let held ← shape.raw.unwrapped
    if held.kind ≠ .map then
      let _ ← shape.raw.text
      Partial.of (problem (.keyWithoutMap shape))
    return key

variable {ds} in
theorem renders_readKey (h : ∀ d ∈ ds, d.IsPrintable) (shape : Shape) :
    Renders id (WireBridge.readKey ds shape) (readKey ds shape) := by
  refine renders_given (fun d hd => (renders_identifierValue d (h d hd)).bind fun key _ => ?_) _
  simp only [shape.unwrapped_raw, shape.text_raw, pure_bind, ne_eq, Shape.kind_raw_eq_map_iff]
  cases shape.unwrapped.isMap with
  | true => rfl
  | false => exact .stop (.of_nil rfl)

def readWireName (name : String) : Partial String := do
  return (← given ds "rename" nameValue).getD name

variable {ds} in
theorem renders_readWireName (h : ∀ d ∈ ds, d.IsPrintable) (name : String) :
    Renders id (WireBridge.readWireName ds name) (readWireName ds name) :=
  (renders_given (fun d hd => renders_nameValue (h d hd)) _).bind fun _ _ => .pure rfl

end Directives

/-! ## Descriptors -/

section Descriptors

variable (symbols : Symbols) (helpers : Option Value)

/-- The descriptor of a field, which its record may ignore. -/
def describeField (f : FieldDecl Value) (bulkIgnored : Bool) : Partial FieldDescriptor := do
  let ds := f.directives
  Partial.of (Directive.checkAll .field ds)
  Partial.of (checkExclusive ds)
  let optionality ← Partial.of (readOptionality ds)
  let default ← Partial.of (readDefault helpers ds)
  let (panic, error) ← Partial.of (readExpectation ds)
  let function ← given ds "error_fn" (reference · helpers)
  let expectation : Expectation := ⟨panic, error, function⟩
  let custom ← readCustom ds helpers
  Partial.of (checkBare ds)
  let transparent := isGiven ds "transparent"
  let shape := f.type.shape symbols (isGiven ds "enum")
  let key ← readKey ds shape
  let held ← shape.raw.unwrapped
  return {
    nativeName := f.name
    wireName := ← readWireName ds f.name
    type := f.type
    shape
    wireOptional := shape.wireOptional symbols ⟨optionality, expectation.explicit, default.isSome, transparent⟩
    ignored := isGiven ds "ignore" || bulkIgnored
    default
    expectation
    custom
    collection := if held.isCollection then held.collection else none
    transparent
    key
    explicitOptionality := optionality }

theorem renders_describeField {f : FieldDecl Value} (hf : ∀ d ∈ f.directives, d.IsPrintable) (b : Bool) :
    Renders id (f.describe symbols helpers b) (describeField symbols helpers f b) := by
  refine (Renders.of (worded_checkAll _ _)).bind fun _ _ => (Renders.of (worded_checkExclusive _)).bind fun _ _ =>
    (Renders.of (worded_readOptionality hf)).bind fun optionality _ =>
    (Renders.of (worded_readDefault helpers hf)).bind fun default _ =>
    (Renders.of (worded_readExpectation hf)).bind fun expected _ =>
    (renders_given (fun d hd => renders_reference d helpers (hf d hd)) _).bind fun function _ =>
    (renders_readCustom helpers hf).bind fun custom _ => (Renders.of (worded_checkBare _)).bind fun _ _ =>
    (renders_readKey hf _).bind fun key _ => ?_
  simp only [Shape.unwrapped_raw, pure_bind, Shape.collection_raw]
  exact (renders_readWireName hf _).bind fun _ _ => .pure rfl

/-- What the directives of a record say. -/
def readHead (r : RecordDecl Value) : Partial RecordHead := do
  Partial.of (Directive.checkAll .record r.directives)
  let wireName ← readWireName r.directives r.name
  let errorType ← given r.directives "error_type" (reference · helpers)
  let errorFunction ← given r.directives "error_fn" (reference · helpers)
  let ignored ← Partial.of (given? r.directives "ignore" (·.values 1 none))
  let ignored ← (ignored.getD []).mapM Partial.print
  if r.newtype && (errorType.isSome || errorFunction.isSome || !ignored.isEmpty) then
    Partial.of (problem .newtypeDirective)
  return { wireName, errorType, errorFunction, ignored }

theorem renders_readHead {r : RecordDecl Value} (hr : ∀ d ∈ r.directives, d.IsPrintable) :
    Renders id (r.readHead helpers) (readHead helpers r) := by
  refine (Renders.of (worded_checkAll _ _)).bind fun _ _ => (renders_readWireName hr _).bind fun wireName _ =>
    (renders_given (fun d hd => renders_reference d helpers (hr d hd)) _).bind fun errorType _ =>
    (renders_given (fun d hd => renders_reference d helpers (hr d hd)) _).bind fun errorFunction _ =>
    (Renders.of (worded_given? (fun d _ => worded_values d 1 none) _)).bind fun ignored hignored => ?_
  have hprint : (ignored.getD []).mapM Partial.print = pure ((ignored.getD []).map Value.plain) := by
    refine Partial.mapM_print fun v hv => ?_
    rcases given?_eq_ok_iff.1 hignored with ⟨-, rfl⟩ | ⟨d, vs, hd, hvs, rfl⟩
    · cases hv
    · exact (hr d (List.mem_of_find?_eq_some hd)).values hvs v hv
  dsimp only [id]
  rw [hprint, pure_bind]
  split
  · exact .stop (.of_nil rfl)
  · exact .pure rfl

/-- A record whose error type no function makes has a problem that can be worded. -/
theorem isWorded_of_errorFunctionFault? {head : RecordHead} {fields : List FieldDescriptor} {n : String}
    {e : ConfigError} (h : errorFunctionFault? n head fields = some e)
    (hhead : ∀ g ∈ head.errorType, g.module.isPrintable = true) : e.content.IsWorded := by
  unfold errorFunctionFault? at h
  split at h
  · next g hg _ =>
    have hshown := hhead g hg
    split at h
    · cases h
      exact .of_singleton rfl hshown
    · obtain ⟨f, -, rfl⟩ := Option.map_eq_some_iff.1 h
      exact .of_singleton rfl hshown
  · cases h

/-- The descriptor of a record. -/
def describeRecord (r : RecordDecl Value) : Partial RecordDescriptor := do
  let head ← Partial.placedAt r.name (readHead helpers r)
  if let some n := r.unknownIgnored? head.ignored then Partial.of (.error ⟨.unknownIgnored n, some r.name⟩)
  let fields ← r.fields.mapM fun f =>
    Partial.placedAt s!"{r.name}.{f.name}" (describeField symbols helpers f (head.ignored.contains f.name))
  if let some e := errorFunctionFault? r.name head fields then Partial.of (.error e)
  return {
    name := r.name
    wireName := head.wireName
    fields
    errorType := head.errorType
    errorFunction := head.errorFunction
    newtype := r.newtype
    comment := r.comment }

theorem renders_describeRecord {r : RecordDecl Value} (hr : ∀ d ∈ r.directives, d.IsPrintable)
    (hfields : ∀ f ∈ r.fields, ∀ d ∈ f.directives, d.IsPrintable) (hh : PrintsHelpers helpers) :
    Renders id (r.describe symbols helpers) (describeRecord symbols helpers r) := by
  refine ((renders_readHead helpers hr).placedAt r.name).bind fun head hhead => ?_
  dsimp only [id]
  cases r.unknownIgnored? head.ignored with
  | some n => exact .stop (.of_nil rfl)
  | none =>
    refine (Renders.mapM fun f hf => (renders_describeField symbols helpers (hfields f hf) _).placedAt _).bind
      fun fields _ => ?_
    rw [List.map_id]
    cases hfault : errorFunctionFault? r.name head fields with
    | some e =>
      refine .stop (isWorded_of_errorFunctionFault? hfault fun g hg => ?_)
      exact ((r.ensures_isOf_readHead helpers head (placedAt_eq_ok_iff.1 hhead)).1 g hg).isPrintable hh
    | none => exact .pure rfl

end Descriptors

/-- The descriptor of an enum. -/
def describeEnum (e : EnumDecl Value) : Partial EnumDescriptor := do
  let wireName ← Partial.placedAt e.name (do
    Partial.of (Directive.checkAll .enum e.directives)
    if let some fault := e.variants.findSome? e.variantFault? then Partial.of (.error fault)
    if e.variants.isEmpty then Partial.of (problem .emptyEnum)
    readWireName e.directives e.name)
  return { name := e.name, wireName, variants := e.variants.map (·.name), comment := e.comment }

theorem renders_describeEnum {e : EnumDecl Value} (he : ∀ d ∈ e.directives, d.IsPrintable) :
    Renders id e.describe (describeEnum e) := by
  refine (Renders.placedAt ((Renders.of (worded_checkAll _ _)).bind fun _ _ => ?_) _).bind fun wireName _ => .pure rfl
  cases hfault : e.variants.findSome? e.variantFault? with
  | some fault =>
    obtain ⟨v, -, hv⟩ := List.exists_of_findSome?_eq_some hfault
    obtain ⟨d, -, rfl⟩ := Option.map_eq_some_iff.1 hv
    exact .stop (.of_nil rfl)
  | none =>
    cases e.variants.isEmpty with
    | true => exact .stop (.of_nil rfl)
    | false => exact renders_readWireName he _

end ByLookUp

end WireBridge
