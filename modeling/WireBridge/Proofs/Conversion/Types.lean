import WireBridge.Proofs.Conversion.Agreement
import WireBridge.Proofs.Problem.Ensures

/-!
# Types and names that generated code uses

`Artifact.types`, `NativeType.types` and `NativeDefault.types` are the types that the code of a field uses: those
whose functions it calls, that it builds, and whose classes it names in a type or a default. The error class of a
record is no such type; it comes with the record. Classes and functions of other modules are no such types either:
these are the `names` of the code, with those of the containers and the error class that it calls.

If the names in the shape of a field are in `N`, then all types that its code uses are in `N`. A transparent field is
converted by the shape of another field, that of the record it stands for, so the names in that shape have to be in `N`
as well (`TargetWithin`). The other names are in `C` if the names of the support functions, of wire types and of enums
that are not declared are (`Scope.NamesWithin`), and those of the functions and classes that the field and its record
refer to (`FieldDescriptor.RefersWithin`).
-/

set_option autoImplicit false

namespace WireBridge

/-! ## Types in trees -/

namespace Expr

/-- The types whose functions an expression calls and those that it builds. -/
def types : Expr → List String
  | source _ => []
  | var _ => []
  | read type e => type :: e.types
  | write type e => type :: e.types
  | call _ _ e => e.types
  | construct type _ e => type :: e.types
  | unlessNone tested body => tested.types ++ body.types
  | whenHeld body tested _ => body.types ++ tested.types
  | orEmpty held _ => held.types
  | parens e => e.types
  | comprehension _ element _ held => element.types ++ held.types
  | entries key value _ _ held => key.types ++ value.types ++ held.types
  | keyedBy _ _ held => held.types
  | mapValues held => held.types

/-- The functions and classes that an expression calls or passes on, other than those of types. -/
def names : Expr → List String
  | source _ => []
  | var _ => []
  | read _ e => e.names
  | write _ e => e.names
  | call callee before e => (callee :: before) ++ e.names
  | construct _ _ e => e.names
  | unlessNone tested body => tested.names ++ body.names
  | whenHeld body tested _ => body.names ++ tested.names
  | orEmpty held _ => held.names
  | parens e => e.names
  | comprehension _ element _ held => element.names ++ held.names
  | entries key value _ _ held => key.names ++ value.names ++ held.names
  | keyedBy _ _ held => held.names
  | mapValues held => held.names

/-- The types that an expression uses are in `N`, and the other names in `C`. -/
def Within (N C : Set String) (e : Expr) : Prop := (∀ t ∈ e.types, t ∈ N) ∧ ∀ n ∈ e.names, n ∈ C

variable {N C : Set String}

@[simp] theorem within_source (s : String) : Within N C (source s) := ⟨List.forall_mem_nil _, List.forall_mem_nil _⟩

@[simp] theorem within_var (v : LoopVar) : Within N C (var v) := ⟨List.forall_mem_nil _, List.forall_mem_nil _⟩

@[simp] theorem within_read (t : String) (e : Expr) : Within N C (read t e) ↔ t ∈ N ∧ Within N C e :=
  (and_congr_left' List.forall_mem_cons).trans and_assoc

@[simp] theorem within_write (t : String) (e : Expr) : Within N C (write t e) ↔ t ∈ N ∧ Within N C e :=
  (and_congr_left' List.forall_mem_cons).trans and_assoc

@[simp] theorem within_call (c : String) (before : List String) (e : Expr) :
    Within N C (call c before e) ↔ (∀ n ∈ c :: before, n ∈ C) ∧ Within N C e :=
  (and_congr_right' List.forall_mem_append).trans and_left_comm

@[simp] theorem within_construct (t f : String) (e : Expr) :
    Within N C (construct t f e) ↔ t ∈ N ∧ Within N C e :=
  (and_congr_left' List.forall_mem_cons).trans and_assoc

theorem within_append {ts us ns ms : List String} :
    ((∀ t ∈ ts ++ us, t ∈ N) ∧ ∀ n ∈ ns ++ ms, n ∈ C) ↔
      ((∀ t ∈ ts, t ∈ N) ∧ ∀ n ∈ ns, n ∈ C) ∧ (∀ t ∈ us, t ∈ N) ∧ ∀ n ∈ ms, n ∈ C :=
  (and_congr List.forall_mem_append List.forall_mem_append).trans and_and_and_comm

@[simp] theorem within_unlessNone (e e' : Expr) :
    Within N C (unlessNone e e') ↔ Within N C e ∧ Within N C e' := within_append

@[simp] theorem within_whenHeld (e e' : Expr) (empty : EmptyCollection) :
    Within N C (whenHeld e e' empty) ↔ Within N C e ∧ Within N C e' := within_append

@[simp] theorem within_orEmpty (e : Expr) (empty : EmptyCollection) :
    Within N C (orEmpty e empty) ↔ Within N C e := Iff.rfl

@[simp] theorem within_parens (e : Expr) : Within N C (parens e) ↔ Within N C e := Iff.rfl

@[simp] theorem within_comprehension (b : Brackets) (e held : Expr) (v : LoopVar) :
    Within N C (comprehension b e v held) ↔ Within N C e ∧ Within N C held := within_append

@[simp] theorem within_entries (key value held : Expr) (k v : LoopVar) :
    Within N C (entries key value k v held) ↔ Within N C key ∧ Within N C value ∧ Within N C held :=
  within_append.trans ((and_congr_left' within_append).trans and_assoc)

@[simp] theorem within_keyedBy (m : String) (v : LoopVar) (e : Expr) :
    Within N C (keyedBy m v e) ↔ Within N C e := Iff.rfl

@[simp] theorem within_mapValues (e : Expr) : Within N C (mapValues e) ↔ Within N C e := Iff.rfl

end Expr

/-- The types whose classes a native type names. -/
def NativeType.types : NativeType → List String
  | builtIn _ => []
  | named type => [type]
  | imported _ => []
  | optional t => t.types
  | sequence _ t => t.types
  | map k v => k.types ++ v.types

/-- The classes that a native type names, other than those of types. -/
def NativeType.names : NativeType → List String
  | builtIn _ => []
  | named _ => []
  | imported path => [path]
  | optional t => t.names
  | sequence _ t => t.names
  | map k v => k.names ++ v.names

/-- The types whose classes a default names. -/
def DefaultValue.types : DefaultValue → List String
  | firstOf enum => enum.types
  | new type => type.types
  | _ => []

/-- The functions and classes that a default names, other than those of types. -/
def DefaultValue.names : DefaultValue → List String
  | firstOf enum => enum.names
  | new type => type.names
  | call function => [function.expression]
  | _ => []

def NativeDefault.types : NativeDefault → List String
  | builtBy _ => []
  | value v => v.types
  | builtAnew v => v.types

def NativeDefault.names : NativeDefault → List String
  | builtBy function => [function.expression]
  | value v => v.names
  | builtAnew v => v.names

/-- The functions and classes that raise an error. -/
def RaisedError.names : RaisedError → List String
  | missing _ => ["ConversionPanic"]
  | absent _ => ["ConversionPanic"]
  | ofClass c _ => [c]
  | built function _ checked =>
    function.expression :: (checked.map fun c => ["check_error", c.expression]).getD []

def MissingAction.types : MissingAction → List String
  | fill _ v => v.types
  | raise _ => []

def MissingAction.names : MissingAction → List String
  | fill _ v => v.names
  | raise e => e.names

def AbsenceTest.types : AbsenceTest → List String
  | isNone e => e.types
  | isEmpty e => e.types

def AbsenceTest.names : AbsenceTest → List String
  | isNone e => e.names
  | isEmpty e => e.names

def Block.types : Block → List String
  | value e => e.types
  | bind _ e => e.types
  | fill _ v => v.types
  | guarded test missing _ present => test.types ++ missing.types ++ present.types

def Block.names : Block → List String
  | value e => e.names
  | bind _ e => e.names
  | fill _ v => v.names
  | guarded test missing _ present => test.names ++ missing.names ++ present.names

def Artifact.types (a : Artifact) : List String := a.fromWire.types ++ (a.toWire.map Expr.types).getD []

def Artifact.names (a : Artifact) : List String := a.fromWire.names ++ (a.toWire.map Expr.names).getD []

/-! ## Trees within sets of names -/

section Trees

variable (N C : Set String)

def NativeType.Within (t : NativeType) : Prop := (∀ n ∈ t.types, n ∈ N) ∧ ∀ n ∈ t.names, n ∈ C

def DefaultValue.Within (v : DefaultValue) : Prop := (∀ t ∈ v.types, t ∈ N) ∧ ∀ n ∈ v.names, n ∈ C

def NativeDefault.Within (v : NativeDefault) : Prop := (∀ t ∈ v.types, t ∈ N) ∧ ∀ n ∈ v.names, n ∈ C

def MissingAction.Within (m : MissingAction) : Prop := (∀ t ∈ m.types, t ∈ N) ∧ ∀ n ∈ m.names, n ∈ C

def Block.Within (b : Block) : Prop := (∀ t ∈ b.types, t ∈ N) ∧ ∀ n ∈ b.names, n ∈ C

def Artifact.Within (x : Artifact) : Prop := (∀ t ∈ x.types, t ∈ N) ∧ ∀ n ∈ x.names, n ∈ C

/-- Both directions of a field are within the sets. -/
def DirectionsWithin (x : Block × Option Expr) : Prop := x.1.Within N C ∧ ∀ e ∈ x.2, e.Within N C

variable {N C}

@[simp] theorem NativeType.within_builtIn (p : Primitive) : (builtIn p).Within N C :=
  ⟨List.forall_mem_nil _, List.forall_mem_nil _⟩

@[simp] theorem NativeType.within_named (t : String) : (named t).Within N C ↔ t ∈ N := by
  simp [NativeType.Within, NativeType.types, NativeType.names]

@[simp] theorem NativeType.within_imported (p : String) : (imported p).Within N C ↔ p ∈ C := by
  simp [NativeType.Within, NativeType.types, NativeType.names]

theorem NativeType.within_map (k v : NativeType) : (map k v).Within N C ↔ k.Within N C ∧ v.Within N C :=
  Expr.within_append

@[simp] theorem DefaultValue.within_new (t : NativeType) : (new t).Within N C ↔ t.Within N C := Iff.rfl

@[simp] theorem DefaultValue.within_call (g : FunctionRef) : (call g).Within N C ↔ g.expression ∈ C := by
  simp [DefaultValue.Within, DefaultValue.types, DefaultValue.names]

@[simp] theorem NativeDefault.within_builtBy (g : FunctionRef) : (builtBy g).Within N C ↔ g.expression ∈ C := by
  simp [NativeDefault.Within, NativeDefault.types, NativeDefault.names]

theorem MissingAction.within_raise {e : RaisedError} (h : ∀ n ∈ e.names, n ∈ C) : (raise e).Within N C :=
  ⟨List.forall_mem_nil _, h⟩

theorem RaisedError.forall_mem_names_built (g : FunctionRef) (w : String) (c? : Option FunctionRef) :
    (∀ n ∈ (built g w c?).names, n ∈ C) ↔ g.expression ∈ C ∧ ∀ c ∈ c?, "check_error" ∈ C ∧ c.expression ∈ C := by
  cases c? <;> simp [RaisedError.names]

end Trees

/-- The record that a field stands for, if it can stand for one, and the names in the shape of the only field of that
record are in `N`. -/
def TargetWithin (scope : Scope) (N : Set String) (f : FieldDescriptor) : Prop :=
  Ensures (transparentTarget scope f) fun target => target.1 ∈ N ∧ target.2.2.Within N

/-! ## Names that code may have -/

/-- The containers and the support functions that generated code calls. -/
def supportNames : List String :=
  ["list", "set", "deque", "dict", "enum_from_wire", "enum_to_wire", "ConversionPanic", "check_error"]

theorem SequenceKind.name_mem_supportNames (k : SequenceKind) : k.name ∈ supportNames := by
  cases k <;> decide

/-- The names that code takes from a scope are in `C`. -/
structure Scope.NamesWithin (scope : Scope) (C : Set String) : Prop where
  support : ∀ n ∈ supportNames, n ∈ C
  wireType : ∀ n, wireTypeText n ∈ C
  externalEnum : ∀ n path, scope.symbols.isEnum n = false → scope.externalEnum n = .ok path → path ∈ C

/-- The functions and classes that a field and its record refer to, where the absence of the field is resolved, have
their expressions in `C`. -/
structure FieldDescriptor.RefersWithin (f : FieldDescriptor) (a : Absence) (r : RecordDescriptor) (C : Set String) :
    Prop where
  default : ∀ g ∈ f.default.bind (·.function), g.expression ∈ C
  fromWire : ∀ g ∈ f.custom.bind (·.fromWire), g.expression ∈ C
  toWire : ∀ g ∈ f.custom.bind (·.toWire), g.expression ∈ C
  absence : ∀ g ∈ a.function, g.expression ∈ C
  errorType : ∀ g ∈ r.errorType, g.expression ∈ C
  errorClass : r.errorClass ∈ C

theorem FieldDescriptor.RefersWithin.unhandled {f : FieldDescriptor} {a : Absence} {r : RecordDescriptor}
    {C : Set String} (h : f.RefersWithin a r C) : f.RefersWithin .unhandled r C :=
  { h with absence := by simp [Absence.unhandled] }

/-! ## Conversions of values -/

section Within

variable {N C : Set String} {scope : Scope} (hC : scope.NamesWithin C)

include hC

/-- Whatever is computed from a shape and an expression whose names are in some sets has its own names in them. -/
theorem ensures_fromWire {s : Shape} (hs : s.Within N) {e : Expr} (he : e.Within N C) (d : Int) :
    Ensures (fromWire scope s e d) (Expr.Within N C) := by
  induction s generalizing e d with
  | primitive p => exact .pure he
  | wire n => exact .pure he
  | enum n =>
    unfold fromWire
    split
    · exact .pure (by simpa [he] using hs)
    · next hn =>
      refine .bind (hC.externalEnum n · (Bool.eq_false_iff.2 hn)) fun path hpath => .pure ?_
      simp [he, hC.support "enum_from_wire" (by decide), hpath, hC.wireType]
  | custom n =>
    unfold fromWire
    split
    · exact .pure (by simpa [he] using hs)
    · exact .problem
  | optional s ih =>
    refine .bind (ih (by simpa using hs) he d) fun inner hinner => .pure ?_
    split <;> simp [he, hinner]
  | sequence k s ih =>
    refine .bind (ih (by simpa using hs) (by simp) (d + 1)) fun inner hinner => .pure ?_
    split <;> simp [he, hinner, hC.support k.name k.name_mem_supportNames]
  | map k v ihk ihv =>
    obtain ⟨hk, hv⟩ := (Shape.within_map k v).1 hs
    refine .bind (ihk hk (by simp) (d + 1)) fun key hkey => .bind (ihv hv (by simp) (d + 1)) fun value hvalue => ?_
    refine .pure ?_
    split <;> simp [he, hkey, hvalue, hC.support "dict" (by decide)]

theorem ensures_toWire {s : Shape} (hs : s.Within N) {e : Expr} (he : e.Within N C) (d : Int) :
    Ensures (toWire scope s e d) (Expr.Within N C) := by
  induction s generalizing e d with
  | primitive p => exact .pure he
  | wire n => exact .pure he
  | enum n =>
    unfold toWire
    split
    · exact .pure (by simpa [he] using hs)
    · exact .pure (by simp [he, hC.support "enum_to_wire" (by decide), hC.wireType])
  | custom n =>
    unfold toWire
    split
    · exact .pure (by simpa [he] using hs)
    · exact .problem
  | optional s ih =>
    refine .bind (ih (by simpa using hs) he d) fun inner hinner => .pure ?_
    split <;> simp [he, hinner]
  | sequence k s ih =>
    refine .bind (ih (by simpa using hs) (by simp) (d + 1)) fun inner hinner => .pure ?_
    split <;> simp [he, hinner, hC.support "list" (by decide)]
  | map k v ihk ihv =>
    obtain ⟨hk, hv⟩ := (Shape.within_map k v).1 hs
    refine .bind (ihk hk (by simp) (d + 1)) fun key hkey => .bind (ihv hv (by simp) (d + 1)) fun value hvalue => ?_
    refine .pure ?_
    split <;> simp [he, hkey, hvalue, hC.support "dict" (by decide)]

omit hC in
theorem ensures_mapValueShape {s : Shape} (hs : s.Within N) : Ensures (mapValueShape s) (Shape.Within N) :=
  fun _ hv => mapValueShape_within hs hv

theorem ensures_keyedFromWire {s : Shape} (hs : s.Within N) (member : String) {e : Expr} (he : e.Within N C) :
    Ensures (keyedFromWire scope s member e) (Expr.Within N C) := by
  refine .bind (ensures_mapValueShape hs) fun v hv => ?_
  refine .bind (ensures_fromWire hC hv (by simp) 1) fun value hvalue => ?_
  refine .pure ?_
  rw [Expr.within_keyedBy]
  split <;> simp [he, hvalue]

theorem ensures_keyedToWire {s : Shape} (hs : s.Within N) {e : Expr} (he : e.Within N C) :
    Ensures (keyedToWire scope s e) (Expr.Within N C) := by
  refine .bind (ensures_mapValueShape hs) fun v hv => .bind (ensures_toWire hC hv (by simp) 1) fun value hvalue => ?_
  refine .pure ?_
  split <;> simp [he, hvalue, hC.support "list" (by decide)]

/-! ## Native types and defaults -/

theorem ensures_nativeType {s : Shape} (hs : s.Within N) :
    Ensures (NativeType.ofShape scope s) (NativeType.Within N C) := by
  induction s with
  | primitive p => exact .pure (by simp)
  | wire n => exact .pure (by simpa using hC.wireType n)
  | enum n =>
    unfold NativeType.ofShape
    split
    · exact .pure (by simpa using hs)
    · next hn =>
      exact .bind (hC.externalEnum n · (Bool.eq_false_iff.2 hn)) fun path hpath => .pure (by simpa using hpath)
  | custom n => exact .pure (by simpa using hs)
  | optional s ih => exact .bind (ih (by simpa using hs)) fun t ht => .pure ht
  | sequence k s ih => exact .bind (ih (by simpa using hs)) fun t ht => .pure ht
  | map k v ihk ihv =>
    obtain ⟨hk, hv⟩ := (Shape.within_map k v).1 hs
    exact .bind (ihk hk) fun t ht => .bind (ihv hv) fun u hu => .pure ((NativeType.within_map t u).2 ⟨ht, hu⟩)

theorem ensures_typeDefault {s : Shape} (hs : s.Within N) :
    Ensures (DefaultValue.ofShape scope s) (DefaultValue.Within N C) := by
  cases s with
  | enum n => exact .bind (ensures_nativeType hC hs) fun t ht => .pure ht
  | custom n =>
    rw [DefaultValue.ofShape]
    split
    · exact .pure (by simpa using hs)
    · exact .problem
  | wire n => exact .pure (by simpa using hC.wireType n)
  | _ => exact .pure (by simp [DefaultValue.Within, DefaultValue.types, DefaultValue.names])

variable {f : FieldDescriptor} {r : RecordDescriptor} {a : Absence}

section Field

variable (hf : f.shape.Within N) (hr : f.RefersWithin a r C)

include hf hr

theorem ensures_fieldDefault : Ensures (DefaultValue.ofField scope f a) (DefaultValue.Within N C) := by
  unfold DefaultValue.ofField
  dsimp only
  split
  · next g hg =>
    refine .pure ((DefaultValue.within_call g).2 ?_)
    rcases eq_some_of_orElse hg with hg | hg
    · split at hg
      · exact hr.absence g hg
      · cases hg
    · exact hr.default g hg
  · exact ensures_typeDefault hC hf

theorem ensures_nativeDefault :
    Ensures (NativeDefault.ofField scope f) fun v? => ∀ v ∈ v?, NativeDefault.Within N C v := by
  unfold NativeDefault.ofField
  split
  · next g hg => exact .pure (by simpa using hr.default g hg)
  · split
    · refine .bind (ensures_typeDefault hC hf) fun v hv => .pure ?_
      rintro w hw
      cases hw
      split <;> exact hv
    · exact .pure (by simp)

theorem ensures_missingAction : Ensures (missingAction scope f a r) (MissingAction.Within N C) := by
  have hpanic : ∀ n ∈ ["ConversionPanic"], n ∈ C := List.forall_mem_singleton.2 (hC.support _ (by decide))
  unfold missingAction
  split
  · exact .bind (ensures_fieldDefault hC hf hr) fun v hv => .pure hv
  · exact .pure (MissingAction.within_raise hpanic)
  · split
    · exact .pure (MissingAction.within_raise (List.forall_mem_singleton.2 hr.errorClass))
    · next g hg =>
      refine .pure (MissingAction.within_raise ((RaisedError.forall_mem_names_built ..).2 ⟨hr.absence g hg, ?_⟩))
      exact fun c hc => ⟨hC.support _ (by decide), hr.errorType c hc⟩
  · exact .pure (MissingAction.within_raise hpanic)

/-! ## Fields -/

theorem ensures_guard {test : AbsenceTest} (ht : test.types = [] ∧ test.names = []) {e : Expr} (he : e.Within N C) :
    Ensures (guard scope f a r test e) (Block.Within N C) := by
  refine .bind (ensures_missingAction hC hf hr) fun m hm => .pure ?_
  simp only [Block.Within, Block.types, Block.names, ht.1, ht.2, List.nil_append]
  exact Expr.within_append.2 ⟨hm, he⟩

theorem ensures_guardIfEnforced {e : Expr} (he : e.Within N C) {x : Except ConfigError Block}
    (hx : Ensures x (Block.Within N C)) : Ensures (guardIfEnforced scope f a r e x) (Block.Within N C) := by
  unfold guardIfEnforced
  split
  · exact ensures_guard hC hf hr ⟨rfl, rfl⟩ he
  · exact hx

end Field

omit hC in
theorem within_wireSource : f.wireSource.Within N C := Expr.within_source _

omit hC in
theorem within_nativeSource : f.nativeSource.Within N C := Expr.within_source _

variable (hf : f.shape.Within N) (hr : f.RefersWithin a r C)

include hf hr

theorem ensures_convertIgnored : Ensures (convertIgnored scope f) (DirectionsWithin N C) :=
  .bind (ensures_fieldDefault hC hf hr.unhandled) fun _ hv => .pure ⟨hv, by simp⟩

theorem ensures_convertCustom : Ensures (convertCustom scope f a r) (DirectionsWithin N C) := by
  have hblock {e : Expr} (he : e.Within N C) :
      Ensures (guardIfEnforced scope f a r e (return .bind f.localName e)) (Block.Within N C) :=
    ensures_guardIfEnforced hC hf hr he (.pure he)
  have hcounterpart {b : Block} (hb : b.Within N C) {e : Expr} (he : e.Within N C) :
      DirectionsWithin N C (b, some e) := ⟨hb, by simpa using he⟩
  have hcall {g : FunctionRef} (hg : g.expression ∈ C) {e : Expr} (he : e.Within N C) :
      (Expr.call g.expression [] e).Within N C := by simp [hg, he]
  have hto := ensures_toWire hC hf (within_nativeSource (f := f)) 0
  unfold convertCustom
  split
  · exact .problem
  · next c hc =>
    have hfrom : ∀ g ∈ c.fromWire, g.expression ∈ C := by simpa [hc] using hr.fromWire
    have htoWire : ∀ g ∈ c.toWire, g.expression ∈ C := by simpa [hc] using hr.toWire
    have hlast {b : Block} (hb : b.Within N C) {x : Except ConfigError Expr} (hx : Ensures x (Expr.Within N C)) :
        Ensures (do return (b, some (← x))) (DirectionsWithin N C) := .bind hx fun e he => .pure (hcounterpart hb he)
    dsimp only
    split
    · next g hg =>
      refine .bind (.pure (hcall (hfrom g hg) within_wireSource)) fun e he => .bind (hblock he) fun b hb => ?_
      split
      · next g' hg' => exact hlast hb (.pure (hcall (htoWire g' hg') within_nativeSource))
      · exact hlast hb hto
    · refine .bind (ensures_fromWire hC hf within_wireSource 0) fun e he => .bind (hblock he) fun b hb => ?_
      split
      · next g' hg' => exact hlast hb (.pure (hcall (htoWire g' hg') within_nativeSource))
      · exact hlast hb hto

theorem ensures_convertTransparent (ht : TargetWithin scope N f) :
    Ensures (convertTransparent scope f a r) (DirectionsWithin N C) := by
  refine .bind ht fun target htarget => ?_
  obtain ⟨type, innerName, inner⟩ := target
  refine .bind (ensures_fromWire hC htarget.2 within_wireSource 0) fun e he => ?_
  have hwrapped : (Expr.construct type innerName e).Within N C := by simp [htarget.1, he]
  have hblock : Ensures (guardIfEnforced scope f a r (.construct type innerName e)
      (if f.shape.isOptional then return .bind f.localName (.unlessNone f.wireSource (.construct type innerName e))
      else if f.wireOptional then guard scope f .unhandled r (.isNone f.wireSource) (.construct type innerName e)
      else return .bind f.localName (.construct type innerName e))) (Block.Within N C) := by
    refine ensures_guardIfEnforced hC hf hr hwrapped ?_
    split
    · exact .pure ((Expr.within_unlessNone _ _).2 ⟨within_wireSource, hwrapped⟩)
    · split
      · exact ensures_guard hC hf hr.unhandled ⟨rfl, rfl⟩ hwrapped
      · exact .pure hwrapped
  refine .bind hblock fun b hb => .bind (ensures_toWire hC htarget.2 (Expr.within_source _) 0) fun e' he' => ?_
  refine .pure ⟨hb, ?_⟩
  split <;> simp [he', within_nativeSource]

omit hr in
theorem ensures_collectionFromWire {e : Expr} (he : e.Within N C) :
    Ensures (collectionFromWire scope f e) (Expr.Within N C) := by
  unfold collectionFromWire
  split
  · exact ensures_keyedFromWire hC (collectionShape_within hf) _ he
  · exact ensures_fromWire hC (collectionShape_within hf) he 0

omit hr in
theorem ensures_collectionToWire : Ensures (collectionToWire scope f) (Expr.Within N C) := by
  unfold collectionToWire
  split
  · exact ensures_keyedToWire hC (collectionShape_within hf) within_nativeSource
  · exact ensures_toWire hC (collectionShape_within hf) within_nativeSource 0

theorem ensures_collectionBlock (s : Strategy) : Ensures (collectionBlock scope f s a r) (Block.Within N C) := by
  have hconvert {e : Expr} (he : e.Within N C) := ensures_collectionFromWire hC hf he
  have hsource : f.wireSource.Within N C := within_wireSource
  unfold collectionBlock
  dsimp only
  split
  · exact .bind (hconvert hsource) fun e he => ensures_guard hC hf hr ⟨rfl, rfl⟩ he
  · split
    · refine .bind (hconvert hsource) fun e he => ensures_guard hC hf hr ?_ he
      split <;> exact ⟨rfl, rfl⟩
    · split
      · refine .bind (hconvert hsource) fun e he => ?_
        have hheld : (Expr.whenHeld e f.wireSource .nothing).Within N C := by simp [he, hsource]
        exact .pure hheld
      · split
        · exact .bind (hconvert (by simpa using hsource)) fun e he => .pure he
        · exact .bind (hconvert (by simpa using hsource)) fun e he => .pure he

theorem ensures_convertCollection (s : Strategy) :
    Ensures (convertCollection scope f s a r) (DirectionsWithin N C) := by
  refine .bind (ensures_collectionToWire hC hf) fun e he => ?_
  refine .bind (ensures_collectionBlock hC hf hr s) fun b hb => ?_
  split <;> exact .pure ⟨hb, by simpa [within_nativeSource] using he⟩

theorem ensures_convertOptionOrDefault : Ensures (convertOptionOrDefault scope f a r) (DirectionsWithin N C) := by
  have hcounterpart := ensures_toWire hC hf (within_nativeSource (f := f)) 0
  have hsource : f.wireSource.Within N C := within_wireSource
  unfold convertOptionOrDefault
  dsimp only
  split
  · next inner hshape =>
    have hinner : inner.Within N := by simpa [hshape] using hf
    refine .bind (ensures_fromWire hC hinner hsource 0) fun e he => ?_
    refine .bind (ensures_guardIfEnforced hC hf hr he (.pure ?_)) fun b hb => ?_
    · show Expr.Within N C _
      split <;> simp [hsource, he]
    · exact .bind hcounterpart fun e' he' => .pure ⟨hb, by simpa using he'⟩
  · refine .bind (ensures_fromWire hC hf hsource 0) fun e he => ?_
    refine .bind (ensures_guardIfEnforced hC hf hr he (.pure he)) fun b hb => ?_
    exact .bind hcounterpart fun e' he' => .pure ⟨hb, by simpa using he'⟩

theorem ensures_convertDirect : Ensures (convertDirect scope f a r) (DirectionsWithin N C) := by
  have hcounterpart {b : Block} (hb : b.Within N C) : Ensures (do
      return (b, some (← toWire scope f.shape f.nativeSource 0))) (DirectionsWithin N C) :=
    .bind (ensures_toWire hC hf within_nativeSource 0) fun e he => .pure ⟨hb, by simpa using he⟩
  refine .bind (ensures_fromWire hC hf within_wireSource 0) fun e he => ?_
  dsimp only
  split
  · exact .bind (ensures_guard hC hf hr ⟨rfl, rfl⟩ he) fun b hb => hcounterpart hb
  · exact hcounterpart he

theorem ensures_directions (ht : TargetWithin scope N f) (s : Strategy) :
    Ensures (directions scope f s a r) (DirectionsWithin N C) := by
  unfold directions
  split
  · exact ensures_convertIgnored hC hf hr
  · exact ensures_convertCustom hC hf hr
  · exact ensures_convertTransparent hC hf hr ht
  · exact ensures_convertCollection hC hf hr s
  · exact ensures_convertOptionOrDefault hC hf hr
  · exact ensures_convertDirect hC hf hr

omit hC hf hr in
theorem artifact_within {x : Block × Option Expr} (hx : DirectionsWithin N C x) (nativeName wireName : String)
    (fallible : Bool) : (Artifact.mk nativeName wireName x.1 x.2 fallible).Within N C := by
  obtain ⟨b, e?⟩ := x
  refine Expr.within_append.2 ⟨hx.1, ?_⟩
  cases e? with
  | none => exact ⟨List.forall_mem_nil _, List.forall_mem_nil _⟩
  | some e => exact hx.2 e rfl

/-- What the code of a field uses. -/
theorem ensures_convertField (ht : TargetWithin scope N f) (s : Strategy) :
    Ensures (convertField scope f s a r) (Artifact.Within N C) :=
  .bind (ensures_directions hC hf hr ht s) fun _ hx => .pure (artifact_within hx _ _ _)

omit hr in
/-- What the code of the field of a newtype uses. -/
theorem ensures_wrapField : Ensures (wrapField scope f) (Artifact.Within N C) := by
  refine .bind (ensures_fromWire hC hf (Expr.within_source _) 0) fun e he => ?_
  refine .bind (ensures_toWire hC hf within_nativeSource 0) fun e' he' => .pure ?_
  have hx : DirectionsWithin N C (.value e, some e') := ⟨he, by simpa using he'⟩
  exact artifact_within hx _ _ _

end Within

end WireBridge
