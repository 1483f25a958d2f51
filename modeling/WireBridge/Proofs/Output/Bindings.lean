import WireBridge.Proofs.Output.Integrity

/-!
# Names that a module binds

A module binds names by its imports (`importBindings`) and by its definitions; modules that it imports under their own
names are left aside. A definition begins at the margin, with its name or with a word of the language, and nothing else
in the text of a type begins so. `Introduces lines names` says that of some lines those that begin a definition bind the
names, one by one and in order; the lines after the imports introduce `Assembly.definedNames`
(`introduces_moduleLines`).
-/

set_option autoImplicit false

namespace WireBridge

/-! ## Imports -/

/-- The lines that import a fixed name, each with the name. -/
def importBindings (settings : Settings) : List (String × String) :=
  [("from __future__ import annotations", "annotations"), ("from collections import deque", "deque"),
    ("from dataclasses import dataclass", "dataclass"), ("from dataclasses import field as _field", "_field"),
    ("from enum import Enum, auto", "Enum"), ("from enum import Enum, auto", "auto"),
    ("import " ++ settings.wireModule.plain ++ " as _wire", "_wire"), ("    ConversionPanic,", "ConversionPanic"),
    ("    MissingFieldError,", "MissingFieldError"), ("    check_error,", "check_error"),
    ("    enum_from_wire,", "enum_from_wire"), ("    enum_to_wire,", "enum_to_wire"),
    ("    match_from_wire,", "match_from_wire"), ("    match_to_wire,", "match_to_wire")]

/-- The names of the fixed imports. -/
def importedNames : List String :=
  ["annotations", "deque", "dataclass", "_field", "Enum", "auto", "_wire", "ConversionPanic", "MissingFieldError",
    "check_error", "enum_from_wire", "enum_to_wire", "match_from_wire", "match_to_wire"]

theorem map_importBindings (settings : Settings) : (importBindings settings).map Prod.snd = importedNames := rfl

theorem importBindings_subset (settings : Settings) (modules : List String) :
    (importBindings settings).map Prod.fst ⊆ headerLines settings modules := by
  have hmargin : margin ["ConversionPanic,", "MissingFieldError,", "check_error,", "enum_from_wire,", "enum_to_wire,",
      "match_from_wire,", "match_to_wire,"] = ["    ConversionPanic,", "    MissingFieldError,", "    check_error,",
      "    enum_from_wire,", "    enum_to_wire,", "    match_from_wire,", "    match_to_wire,"] := by decide
  rw [headerLines, hmargin]
  simp [importBindings]

/-! ## Definitions -/

/-- The line stands at the margin and begins with a name or with a word of the language. -/
def beginsDefinition (line : String) : Bool := line.toList.head?.any Text.isNameStart

/-- The line begins a definition of the name. -/
inductive Binds (name : String) : String → Prop
  | enumClass : Binds name ("class " ++ name ++ "(Enum):")
  | recordClass : Binds name ("class " ++ name ++ ":")
  | errorClass : Binds name ("class " ++ name ++ "(MissingFieldError):")
  | table : Binds name (name ++ " = \x7b")
  | function (signature : String) (h : signature.toList.head? = some '(') : Binds name ("def " ++ name ++ signature)

/-- The lines that begin a definition bind the names. -/
def Introduces (lines names : List String) : Prop := List.Forall₂ Binds names (lines.filter beginsDefinition)

namespace Introduces

theorem append {l l' n n' : List String} (h : Introduces l n) (h' : Introduces l' n') :
    Introduces (l ++ l') (n ++ n') := by
  unfold Introduces
  rw [List.filter_append]
  exact List.rel_append h h'

theorem define {line name : String} (h : Binds name line) (hb : beginsDefinition line = true) :
    Introduces [line] [name] := by
  unfold Introduces
  rw [List.filter_cons_of_pos hb]
  exact .cons h .nil

theorem flatMap {α : Type} {lines names : α → List String} {as : List α}
    (h : ∀ a ∈ as, Introduces (lines a) (names a)) : Introduces (as.flatMap lines) (as.flatMap names) := by
  induction as with
  | nil => exact List.Forall₂.nil
  | cons a as ih =>
    rw [List.flatMap_cons, List.flatMap_cons]
    exact (h a List.mem_cons_self).append (ih fun b hb => h b (List.mem_cons_of_mem a hb))

/-- Lines that are empty, indented or marked introduce nothing. -/
theorem none {lines : List String} (h : ∀ l ∈ lines, beginsDefinition l = false) : Introduces lines [] := by
  unfold Introduces
  rw [List.filter_eq_nil_iff.2 fun l hl => by simp [h l hl]]
  exact .nil

theorem none_map {α : Type} {f : α → String} {as : List α} (h : ∀ a, beginsDefinition (f a) = false) :
    Introduces (as.map f) [] :=
  none (List.forall_mem_map.2 fun a _ => h a)

/-- A definition ends where the next one begins. -/
theorem body {line name : String} {lines : List String} (h : Introduces [line] [name])
    (hl : ∀ l ∈ lines, beginsDefinition l = false) : Introduces (line :: lines) [name] :=
  h.append (none hl)

theorem spacing : Introduces spacing [] := none (by decide)

end Introduces

theorem isNameStart_space : Text.isNameStart ' ' = false := rfl

theorem introduces_class {name rest : String} (h : Binds name ("class " ++ name ++ rest)) :
    Introduces ["class " ++ name ++ rest] [name] := .define h (by simp [beginsDefinition]; rfl)

theorem introduces_function {line name : String} (signature : String) (h : signature.toList.head? = some '(')
    (hline : line = "def " ++ name ++ signature) : Introduces [line] [name] := by
  subst hline
  exact .define (.function signature h) (by simp [beginsDefinition]; rfl)

theorem introduces_commentLines (comment : Option String) : Introduces (commentLines comment) [] := by
  unfold commentLines
  split
  · split
    · exact List.Forall₂.nil
    · exact .none (by simp [beginsDefinition, isNameStart_space])
  · exact List.Forall₂.nil

/-! ## Types -/

def EnumPlan.definedNames (p : EnumPlan) : List String :=
  [p.name, fromWireTableName p.name, toWireTableName p.name, fromWireFunction p.name, toWireFunction p.name]

/-- The class that is generated for the errors of a record, if there is one. -/
def RecordPlan.errorClassNames (p : RecordPlan) : List String :=
  if p.generatedError then [p.errorClass.getD ""] else []

def RecordPlan.definedNames (p : RecordPlan) : List String :=
  p.name :: p.errorClassNames ++ [fromWireFunction p.name, toWireFunction p.name]

theorem introduces_table {name : String} (h : name.toList.head? = some '_') :
    Introduces [name ++ " = \x7b"] [name] := .define .table (by simp [beginsDefinition, h]; rfl)

theorem introduces_enumTableLines (p : EnumPlan) :
    Introduces (enumTableLines p) [fromWireTableName p.name, toWireTableName p.name] := by
  have hfrom : Introduces [fromWireTableName p.name ++ " = \x7b"] [fromWireTableName p.name] :=
    introduces_table (by simp [fromWireTableName, tableName])
  have hto : Introduces [toWireTableName p.name ++ " = \x7b"] [toWireTableName p.name] :=
    introduces_table (by simp [toWireTableName, tableName])
  have hend : Introduces ["\x7d"] [] := .none (by decide)
  refine (((hfrom.append (.none fun l hl => ?_)).append (hend.append hto)).append (.none fun l hl => ?_)).append hend
  · obtain ⟨⟨name, variant⟩, -, rfl⟩ := List.mem_map.1 hl
    simp [beginsDefinition, isNameStart_space]
  · obtain ⟨⟨variant, candidates⟩, -, rfl⟩ := List.mem_map.1 hl
    simp [beginsDefinition, isNameStart_space]

theorem introduces_enumFunctionLines (p : EnumPlan) :
    Introduces (enumFunctionLines p) [fromWireFunction p.name, toWireFunction p.name] := by
  have hfrom : Introduces ["def " ++ fromWireFunction p.name ++ "(value) -> " ++ p.name ++ ":"]
      [fromWireFunction p.name] :=
    introduces_function ("(value) -> " ++ p.name ++ ":") (by simp) (by simp [String.append_assoc])
  have hto : Introduces ["def " ++ toWireFunction p.name ++ "(variant: " ++ p.name ++ "):"] [toWireFunction p.name] :=
    introduces_function ("(variant: " ++ p.name ++ "):") (by simp) (by simp [String.append_assoc])
  exact ((hfrom.body (by simp [beginsDefinition, isNameStart_space])).append .spacing).append
    (hto.body (by simp [beginsDefinition, isNameStart_space]))

theorem introduces_enumLines (p : EnumPlan) : Introduces (enumLines p) p.definedNames := by
  have hclass : Introduces (enumClassLines p) [p.name] :=
    ((introduces_class .enumClass).append (introduces_commentLines _)).append
      (.none (by simp [beginsDefinition, isNameStart_space]))
  exact ((((Introduces.spacing.append hclass).append .spacing).append (introduces_enumTableLines p)).append
    .spacing).append (introduces_enumFunctionLines p)

theorem introduces_classLines {decorator : String} (h : beginsDefinition decorator = false) (p : RecordPlan) :
    Introduces (classLines decorator p) [p.name] := by
  have hdecorator : Introduces [decorator] [] := .none (by simpa using h)
  have hfields : Introduces (p.fields.map fieldLine) [] :=
    .none (by simp [fieldLine, beginsDefinition, isNameStart_space])
  exact ((hdecorator.append (introduces_class .recordClass)).append (introduces_commentLines _)).append hfields

theorem introduces_newtypeLines (p : RecordPlan) :
    Introduces (newtypeLines p) [p.name, fromWireFunction p.name, toWireFunction p.name] := by
  have hclass : Introduces (classLines "@dataclass" p) [p.name] := introduces_classLines (by decide) p
  have hfrom : Introduces ["def " ++ fromWireFunction p.name ++ "(wire) -> " ++ p.name ++ ":"]
      [fromWireFunction p.name] :=
    introduces_function ("(wire) -> " ++ p.name ++ ":") (by simp) (by simp [String.append_assoc])
  have hto : Introduces ["def " ++ toWireFunction p.name ++ "(native: " ++ p.name ++ "):"] [toWireFunction p.name] :=
    introduces_function ("(native: " ++ p.name ++ "):") (by simp) (by simp [String.append_assoc])
  exact ((((Introduces.spacing.append hclass).append .spacing).append
    (hfrom.body (by simp [beginsDefinition, isNameStart_space]))).append .spacing).append
    (hto.body (by simp [beginsDefinition, isNameStart_space]))

theorem introduces_errorClassLines (p : RecordPlan) : Introduces (errorClassLines p) p.errorClassNames := by
  unfold errorClassLines RecordPlan.errorClassNames
  split
  · exact Introduces.spacing.append ((introduces_class .errorClass).append
      (.none (by simp [beginsDefinition, isNameStart_space])))
  · exact List.Forall₂.nil

theorem introduces_fromWireLines (p : RecordPlan) : Introduces (fromWireLines p) [fromWireFunction p.name] := by
  have hline : Introduces
      ["def " ++ fromWireFunction p.name ++ "(wire: " ++ wireTypeText p.descriptor.wireName ++ ") -> " ++ p.name ++ ":"]
      [fromWireFunction p.name] :=
    introduces_function ("(wire: " ++ wireTypeText p.descriptor.wireName ++ ") -> " ++ p.name ++ ":") (by simp)
      (by simp [String.append_assoc])
  have hblocks : Introduces (p.fields.flatMap fun f => f.artifact.fromWire.lines.map ("    " ++ ·)) [] := by
    refine .none fun l hl => ?_
    obtain ⟨f, -, hl⟩ := List.mem_flatMap.1 hl
    obtain ⟨line, -, rfl⟩ := List.mem_map.1 hl
    simp [beginsDefinition, isNameStart_space]
  have harguments : Introduces
      (p.fields.map fun f => "        " ++ f.descriptor.nativeName ++ "=" ++ f.artifact.localName ++ ",") [] :=
    .none_map (by simp [beginsDefinition, isNameStart_space])
  have hend : Introduces ["    )"] [] := .none (by decide)
  unfold fromWireLines
  refine ((((hline.append (?_ : Introduces _ [])).append hblocks).append (.none ?_)).append harguments).append hend
  · split <;> exact .none (by simp [beginsDefinition, isNameStart_space])
  · simp [beginsDefinition, isNameStart_space]

theorem introduces_toWireLines (p : RecordPlan) : Introduces (toWireLines p) [toWireFunction p.name] := by
  have hline : Introduces
      ["def " ++ toWireFunction p.name ++ "(native: " ++ p.name ++ ") -> " ++ wireTypeText p.descriptor.wireName ++ ":"]
      [toWireFunction p.name] :=
    introduces_function ("(native: " ++ p.name ++ ") -> " ++ wireTypeText p.descriptor.wireName ++ ":") (by simp)
      (by simp [String.append_assoc])
  have hend : Introduces ["    )"] [] := .none (by decide)
  refine ((hline.body (by simp [beginsDefinition, isNameStart_space])).append (.none fun l hl => ?_)).append hend
  obtain ⟨f, -, hf⟩ := List.mem_filterMap.1 hl
  obtain ⟨e, -, rfl⟩ := Option.map_eq_some_iff.1 hf
  simp [beginsDefinition, isNameStart_space]

theorem introduces_recordLines {p : RecordPlan} (h : p.descriptor.newtype = true → p.generatedError = false) :
    Introduces (recordLines p) p.definedNames := by
  unfold recordLines RecordPlan.definedNames
  split
  · next hn => 
    rw [RecordPlan.errorClassNames, h hn]
    exact introduces_newtypeLines p
  · have hclass : Introduces (classLines "@dataclass(kw_only=True)" p) [p.name] :=
      introduces_classLines (by decide) p
    have hall := (((((Introduces.spacing.append hclass).append (introduces_errorClassLines p)).append .spacing).append
      (introduces_fromWireLines p)).append .spacing).append (introduces_toWireLines p)
    simpa using hall

/-! ## Modules -/

namespace Assembly

/-- The names that are defined for the types of an assembly, in order. -/
def definedNames (a : Assembly) : List String := a.enums.flatMap (·.definedNames) ++ a.records.flatMap (·.definedNames)

/-- A module is its imports and lines that define the names of its types. -/
theorem introduces_moduleLines {a : Assembly}
    (h : ∀ p ∈ a.records, p.descriptor.newtype = true → p.generatedError = false) (modules : List String) :
    ∃ lines, moduleLines a modules = headerLines a.settings modules ++ lines ∧ Introduces lines a.definedNames := by
  refine ⟨a.enums.flatMap enumLines ++ a.records.flatMap recordLines, List.append_assoc _ _ _, ?_⟩
  exact (Introduces.flatMap fun p _ => introduces_enumLines p).append
    (Introduces.flatMap fun p hp => introduces_recordLines (h p hp))

end Assembly

end WireBridge
