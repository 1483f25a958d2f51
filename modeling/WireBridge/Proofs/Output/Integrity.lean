import WireBridge.Output.Module
import WireBridge.Proofs.Assembly.Errors
import WireBridge.Proofs.Assembly.Isolation
import WireBridge.Proofs.Conversion.Types
import WireBridge.Proofs.Shape.Parts

/-!
# Integrity of generated modules

A generated module holds the types that survive an assembly and no other. Whatever declared type its code uses is
among them (`used_types_defined`), so the module has its class and both of its functions. An error class that the code
of a record raises comes with the record (`raised_class_defined`).

A text that is taken for one name as a whole is not looked into. A field of type `tuple[Bar]` needs functions of its
own, and its native type is that text, whether `Bar` survives or not (`not_used_types_defined_tupled`). No definition
file has such a type (`mentioned_eq_types_of_ofText`).

A record is dropped for the types in the shapes of its own fields only, while its code uses others too: a transparent
field is converted by the functions for the field of another record. That record survives as well, so what its field
uses survives with it (`targetWithin_of_mem`).
-/

set_option autoImplicit false

namespace WireBridge

/-! ## Types that a plan uses -/

/-- The types that the plan of a field uses. -/
def FieldPlan.types (x : FieldPlan) : List String :=
  x.artifact.types ++ x.type.types ++ (x.initial.map NativeDefault.types).getD []

/-- The names in the texts of the types that the plan of a field uses. -/
def FieldPlan.mentioned (x : FieldPlan) : List String := x.types.flatMap Text.bareNames

/-- The other names in the plan of a field. -/
def FieldPlan.names (x : FieldPlan) : List String :=
  x.artifact.names ++ x.type.names ++ (x.initial.map NativeDefault.names).getD []

theorem FieldPlan.Planned.within {scope : Scope} {r : RecordDescriptor} {x : FieldPlan} {N C : Set String}
    (h : x.Planned scope r) (hC : scope.NamesWithin C) (hr : x.descriptor.RefersWithin x.absence r C)
    (hx : x.descriptor.shape.Within N) (ht : TargetWithin scope N x.descriptor) :
    (∀ t ∈ x.types, t ∈ N) ∧ ∀ n ∈ x.names, n ∈ C := by
  have hartifact : x.artifact.Within N C := by
    cases hn : r.newtype with
    | true => exact ensures_wrapField hC hx _ (h.wraps hn)
    | false => exact ensures_convertField hC hx hr ht x.strategy _ (h.converts hn)
  have hinitial := ensures_nativeDefault hC hx hr _ h.initial
  refine Expr.within_append.2 ⟨Expr.within_append.2 ⟨hartifact, ensures_nativeType hC hx _ h.type⟩, ?_⟩
  cases hv : x.initial with
  | none => exact ⟨List.forall_mem_nil _, List.forall_mem_nil _⟩
  | some v => exact hinitial v hv

theorem Scope.namesWithin_univ (scope : Scope) : scope.NamesWithin Set.univ :=
  ⟨fun _ _ => trivial, fun _ => trivial, fun _ _ _ _ => trivial⟩

theorem FieldDescriptor.refersWithin_univ (f : FieldDescriptor) (a : Absence) (r : RecordDescriptor) :
    f.RefersWithin a r Set.univ :=
  ⟨fun _ _ => trivial, fun _ _ => trivial, fun _ _ => trivial, fun _ _ => trivial, fun _ _ => trivial, trivial⟩

theorem FieldPlan.Planned.types_subset {scope : Scope} {r : RecordDescriptor} {x : FieldPlan} {N : Set String}
    (h : x.Planned scope r) (hx : x.descriptor.shape.Within N) (ht : TargetWithin scope N x.descriptor) :
    ∀ t ∈ x.types, t ∈ N :=
  (h.within scope.namesWithin_univ (x.descriptor.refersWithin_univ x.absence r) hx ht).1

/-! ## Definitions in a module -/

/-- The lines of a module for some plans, which imports some modules. -/
def moduleLines (a : Assembly) (modules : List String) : List String :=
  headerLines a.settings modules ++ a.enums.flatMap enumLines ++ a.records.flatMap recordLines

theorem moduleText_eq (a : Assembly) (modules : List String) :
    moduleText a modules = Text.joinLines (moduleLines a modules) ++ "\n" := rfl

/-- One of some lines begins the definition of a function, by its name and the parenthesis after it. -/
def DefinesFunction (lines : List String) (function : String) : Prop :=
  ∃ signature : String, signature.toList.head? = some '(' ∧ "def " ++ function ++ signature ∈ lines

/-- Some lines define a type: its class, the function that reads it and the one that writes it. -/
structure Defines (lines : List String) (type : String) : Prop where
  declares : "class " ++ type ++ "(Enum):" ∈ lines ∨ "class " ++ type ++ ":" ∈ lines
  reads : DefinesFunction lines (fromWireFunction type)
  writes : DefinesFunction lines (toWireFunction type)

theorem Defines.mono {lines lines' : List String} {type : String} (h : Defines lines type) (hs : lines ⊆ lines') :
    Defines lines' type where
  declares := h.declares.imp (hs ·) (hs ·)
  reads := h.reads.imp fun _ hl => ⟨hl.1, hs hl.2⟩
  writes := h.writes.imp fun _ hl => ⟨hl.1, hs hl.2⟩

theorem defines_enumLines (p : EnumPlan) : Defines (enumLines p) p.name where
  declares := .inl (by simp [enumLines, enumClassLines])
  reads := ⟨"(value) -> " ++ p.name ++ ":", by simp, by simp [enumLines, enumFunctionLines, String.append_assoc]⟩
  writes := ⟨"(variant: " ++ p.name ++ "):", by simp, by simp [enumLines, enumFunctionLines, String.append_assoc]⟩

theorem defines_newtypeLines (p : RecordPlan) : Defines (newtypeLines p) p.name where
  declares := .inr (by simp [newtypeLines, classLines])
  reads := ⟨"(wire) -> " ++ p.name ++ ":", by simp, by simp [newtypeLines, String.append_assoc]⟩
  writes := ⟨"(native: " ++ p.name ++ "):", by simp, by simp [newtypeLines, String.append_assoc]⟩

theorem definesFunction_fromWireLines (p : RecordPlan) : DefinesFunction (fromWireLines p) (fromWireFunction p.name) :=
  ⟨"(wire: " ++ wireTypeText p.descriptor.wireName ++ ") -> " ++ p.name ++ ":", by simp,
    by simp [fromWireLines, String.append_assoc]⟩

theorem definesFunction_toWireLines (p : RecordPlan) : DefinesFunction (toWireLines p) (toWireFunction p.name) :=
  ⟨"(native: " ++ p.name ++ ") -> " ++ wireTypeText p.descriptor.wireName ++ ":", by simp,
    by simp [toWireLines, String.append_assoc]⟩

theorem defines_recordLines (p : RecordPlan) : Defines (recordLines p) p.name := by
  unfold recordLines
  split
  · exact defines_newtypeLines p
  · refine ⟨.inr (by simp [classLines]), ?_, ?_⟩
    · exact (definesFunction_fromWireLines p).imp fun _ hl => ⟨hl.1, by simp [hl.2]⟩
    · exact (definesFunction_toWireLines p).imp fun _ hl => ⟨hl.1, by simp [hl.2]⟩

/-- A module defines the types of all plans that it is written from. -/
theorem defines_moduleLines (a : Assembly) (modules : List String) {type : String}
    (h : type ∈ a.enums.map (·.name) ++ a.records.map (·.name)) : Defines (moduleLines a modules) type := by
  rcases List.mem_append.1 h with h | h
  · obtain ⟨p, hp, rfl⟩ := List.mem_map.1 h
    refine (defines_enumLines p).mono fun l hl => ?_
    exact List.mem_append_left _ (List.mem_append_right _ (List.mem_flatMap.2 ⟨p, hp, hl⟩))
  · obtain ⟨p, hp, rfl⟩ := List.mem_map.1 h
    refine (defines_recordLines p).mono fun l hl => ?_
    exact List.mem_append_right _ (List.mem_flatMap.2 ⟨p, hp, hl⟩)

/-! ## Integrity -/

namespace Definitions

variable {d : Definitions Value} {settings : Settings}

/-- The names that survive if they are declared. -/
def kept (d : Definitions Value) (settings : Settings) : Set String :=
  {t | t ∈ d.typeNames → t ∈ d.survivorNames settings}

theorem within_kept_of_mem (hn : d.typeNames.Nodup) {r : RecordDecl Value} (hr : r ∈ d.records)
    (hs : d.RecordSurvives settings r) {f : FieldDecl Value} (hf : f ∈ r.plannedFields) :
    (f.shape d.symbols).Within (d.kept settings) := by
  intro t ht hdecl
  exact mem_survivorNames_of_refers hn hr hs ⟨hdecl, r, hr, rfl, f, hf, ht⟩

/-- The record that a field stands for survives with the field, and its own field uses types that survive. -/
theorem targetWithin_of_mem (hn : d.typeNames.Nodup) {g : FieldDescriptor}
    (hg : g.shape.Within (d.kept settings)) : TargetWithin (d.scope settings) (d.kept settings) g := by
  intro target htarget
  obtain ⟨n, q, inner, hshape, hq, hfields, rfl⟩ := transparentTarget_eq_ok htarget
  have hmem : q ∈ d.records := Symbols.mem_of_record? hq
  have hname : q.name = n := Symbols.name_of_record? hq
  have hkept : q.name ∈ d.kept settings := by
    rw [hname]
    simpa [hshape] using hg.unwrapped
  have hs : d.RecordSurvives settings q :=
    recordSurvives_of_mem hn hmem (hkept (mem_typeNames_iff.2 (.inr ⟨q, hmem, rfl⟩)))
  have hinner : inner ∈ q.plannedFields := by
    rw [RecordDecl.plannedFields_eq fun _ => by simp [hfields], hfields]
    exact List.mem_singleton_self _
  exact ⟨hkept, within_kept_of_mem hn hmem hs hinner⟩

/-- A part of the type of a field is taken for a name, which is its text. -/
def RefersBy (d : Definitions Value) (name : String) : Prop :=
  ∃ r ∈ d.records, ∃ f ∈ r.fields, f.type.RefersBy d.symbols name

theorem within_refersBy_of_mem {r : RecordDecl Value} (hr : r ∈ d.records) {f : FieldDecl Value} (hf : f ∈ r.fields) :
    (f.shape d.symbols).Within {u | d.RefersBy u} :=
  fun _ hu => ⟨r, hr, f, hf, TypeExpr.refersBy_of_mem_referenced hu⟩

/-- A field that stands for a record uses the shape of another field, which is in every set of names that has those in
the shapes of all fields. -/
theorem targetWithin_of_forall {N : Set String}
    (hN : ∀ r ∈ d.records, ∀ f ∈ r.fields, (f.shape d.symbols).Within N) {g : FieldDescriptor}
    (hg : g.shape.Within N) : TargetWithin (d.scope settings) N g := by
  intro target htarget
  obtain ⟨n, q, inner, hshape, hq, hfields, rfl⟩ := transparentTarget_eq_ok htarget
  have hname : q.name = n := Symbols.name_of_record? hq
  refine ⟨?_, hN q (Symbols.mem_of_record? hq) inner (hfields ▸ List.mem_singleton_self inner)⟩
  have hunwrapped := hg.unwrapped
  rw [hshape, Shape.within_custom] at hunwrapped
  exact hname ▸ hunwrapped

/-- The types that code uses are in every set of names that has those in the shapes of all fields. -/
theorem types_subset_of_forall {N : Set String} (hN : ∀ r ∈ d.records, ∀ f ∈ r.fields, (f.shape d.symbols).Within N)
    {p : RecordPlan} (hp : p ∈ (assemble d settings).records) {x : FieldPlan} (hx : x ∈ p.fields) :
    ∀ t ∈ x.types, t ∈ N := by
  obtain ⟨r, hr, -, hdescribes⟩ := exists_of_mem_records hp
  obtain ⟨f, hf, hplanned⟩ := exists_of_forall₂ hdescribes.fields hx
  have hshape : x.descriptor.shape.Within N := by
    rw [hplanned.shape]
    exact hN r hr f (RecordDecl.mem_of_mem_plannedFields hf)
  exact hplanned.types_subset hshape (targetWithin_of_forall hN hshape)

/-- A declared type that the code of a surviving record uses survives, and a module of the assembly defines it. A name
that the code has otherwise is in a text that is no name and that a part of a type is taken for. -/
theorem used_types_defined (d : Definitions Value) (settings : Settings) (hn : d.typeNames.Nodup) :
    ∀ p ∈ (assemble d settings).records, ∀ x ∈ p.fields,
      (∀ t ∈ x.types, t ∈ d.typeNames → t ∈ d.survivorNames settings ∧
        ∀ modules, ∃ lines, moduleText (assemble d settings) modules = Text.joinLines lines ++ "\n" ∧
          Defines lines t) ∧
      ∀ t ∈ x.mentioned, t ∈ x.types ∨
        ∃ u ∈ x.types, ¬ IsIdentifier u ∧ t ∈ Text.bareNames u ∧ d.RefersBy u := by
  intro p hp x hx
  constructor
  · intro t ht hdecl
    obtain ⟨r, hr, hplan, hdescribes⟩ := exists_of_mem_records hp
    obtain ⟨f, hf, hplanned⟩ := exists_of_forall₂ hdescribes.fields hx
    have hshape : x.descriptor.shape.Within (d.kept settings) := by
      rw [hplanned.shape]
      exact within_kept_of_mem hn hr ⟨p, hp, hplan⟩ hf
    have hs : t ∈ d.survivorNames settings :=
      hplanned.types_subset hshape (targetWithin_of_mem hn hshape) t ht hdecl
    exact ⟨hs, fun modules => ⟨_, moduleText_eq _ modules, defines_moduleLines _ modules hs⟩⟩
  · intro t ht
    obtain ⟨u, hu, ht⟩ := List.mem_flatMap.1 ht
    by_cases hname : IsIdentifier u
    · rw [Text.bareNames_of_isIdentifier hname, List.mem_singleton] at ht
      exact .inl (ht ▸ hu)
    · exact .inr ⟨u, hu, hname, ht, types_subset_of_forall (fun _ => within_refersBy_of_mem) hp hx u hu⟩

/-- `Pixel` stands for `Tint` in a field, and so uses `Color` without naming it. -/
def tinted : Definitions Value where
  enums := [.plain "Color" ["RED"]]
  records := [
    .plain "Tint" [("color", .named "Color")],
    ⟨"Pixel", [⟨"tint", .named "Tint", none, [⟨"transparent", []⟩]⟩], none, [], false⟩]
  options := []

theorem used_types_defined_tinted : tinted.typeNames.Nodup ∧
    ∃ p ∈ (assemble tinted sampleSettings).records, p.name = "Pixel" ∧ ∃ x ∈ p.fields, "Color" ∈ x.types ∧
      "Color" ∈ tinted.survivorNames sampleSettings ∧
        ∃ lines, moduleText (assemble tinted sampleSettings) [] = Text.joinLines lines ++ "\n" ∧
          Defines lines "Color" := by
  have hn : tinted.typeNames.Nodup := by decide
  obtain ⟨p, hp, hname, x, hx, ht⟩ : ∃ p ∈ (assemble tinted sampleSettings).records, p.name = "Pixel" ∧
      ∃ x ∈ p.fields, "Color" ∈ x.types := by decide +kernel
  obtain ⟨hs, hdefines⟩ := (used_types_defined tinted sampleSettings hn p hp x hx).1 "Color" ht (by decide)
  exact ⟨hn, p, hp, hname, x, hx, ht, hs, hdefines []⟩

/-- A record that fails, and one whose field is of a generic type that is not known. -/
def tupled : Definitions Value where
  enums := []
  records := [
    .plain "Bar" [],
    ⟨"Foo", [⟨"pair", .mk "tuple" [.named "Bar"] false, none,
      [⟨"from_fn", [⟨none, .text "app.pairs:read"⟩]⟩, ⟨"to_fn", [⟨none, .text "app.pairs:write"⟩]⟩]⟩], none, [], false⟩]
  options := []

/-- The field of `Foo` is a `tuple[Bar]`, but `Bar` is not defined. -/
theorem not_used_types_defined_tupled : ¬ ∀ (d : Definitions Value) (settings : Settings), d.typeNames.Nodup →
    ∀ p ∈ (assemble d settings).records, ∀ x ∈ p.fields, ∀ t ∈ x.types ++ x.mentioned, t ∈ d.typeNames →
      t ∈ d.survivorNames settings := by
  intro hall
  obtain ⟨p, hp, x, hx, ht⟩ : ∃ p ∈ (assemble tupled sampleSettings).records, ∃ x ∈ p.fields,
      "Bar" ∈ x.types ++ x.mentioned := by decide +kernel
  have hs := hall tupled sampleSettings (by decide) p hp x hx "Bar" ht (by decide)
  exact absurd hs (by decide +kernel)

/-- In definitions that are read from a text, all types are taken for identifiers, and no other name is mentioned. -/
theorem mentioned_eq_types_of_ofText {text : String} (h : ofText text = .ok d) :
    ∀ p ∈ (assemble d settings).records, ∀ x ∈ p.fields, x.mentioned = x.types := by
  have hN : ∀ r ∈ d.records, ∀ f ∈ r.fields, (f.shape d.symbols).Within {u | IsIdentifier u} := fun r hr f hf _ hu =>
    TypeExpr.WellFormed.isIdentifier_of_mem_referenced (((wellFormed_of_ofText h).records r hr).types f hf)
      (((isFormed_of_ofText h).2 r hr).types f hf) hu
  intro p hp x hx
  have htypes := types_subset_of_forall hN hp hx
  rw [FieldPlan.mentioned]
  generalize x.types = ts at htypes
  induction ts with
  | nil => rfl
  | cons t ts ih =>
    obtain ⟨ht, hts⟩ := List.forall_mem_cons.1 htypes
    rw [List.flatMap_cons, Text.bareNames_of_isIdentifier ht, ih hts, List.singleton_append]

end Definitions

/-! ## Error classes -/

theorem errorClassLines_of_generatedError {p : RecordPlan} {c : String} (hg : p.generatedError = true)
    (hc : p.errorClass = some c) : "class " ++ c ++ "(MissingFieldError):" ∈ errorClassLines p := by
  simp [errorClassLines, hg, hc]

/-- A module has the error classes that the code of its records raises. -/
theorem Definitions.raised_class_defined (d : Definitions Value) (settings : Settings) :
    ∀ p ∈ (assemble d settings).records, ∀ x ∈ p.fields, ∀ test c w name present,
      x.artifact.fromWire = .guarded test (.raise (.ofClass c w)) name present →
        ∀ modules, "class " ++ c ++ "(MissingFieldError):" ∈ moduleLines (assemble d settings) modules := by
  intro p hp x hx test c w name present hblock modules
  obtain ⟨r, -, hplan, hdescribes⟩ := exists_of_mem_records hp
  obtain ⟨f, -, hplanned⟩ := exists_of_forall₂ hdescribes.fields hx
  have hlines : "class " ++ c ++ "(MissingFieldError):" ∈ recordLines p := by
    cases hn : p.descriptor.newtype with
    | true =>
      obtain ⟨e, -, h⟩ := bind_eq_ok_iff.1 (hplanned.wraps hn)
      obtain ⟨e', -, h⟩ := bind_eq_ok_iff.1 h
      rw [← Except.ok.inj h] at hblock
      cases hblock
    | false =>
      have hraised : x.artifact.fromWire.raised? = some (.ofClass c w) :=
        Block.raised?_eq_some_iff.2 ⟨test, name, present, hblock⟩
      cases RecordPlan.backs_of_planned (RecordDecl.eq_ofFields_of_plan hplan hn) hx hplanned.toPlanned hn hraised with
      | own ha ht hg hc hf =>
        have hmem := errorClassLines_of_generatedError hg hc
        simp [recordLines, hn, hmem]
  exact List.mem_append_right _ (List.mem_flatMap.2 ⟨p, hp, hlines⟩)

end WireBridge
