import WireBridge.Proofs.Definition.WellFormed
import WireBridge.Proofs.Output.Bindings
import WireBridge.Proofs.Text.Naming

/-!
# Names that collide in a module

The names that a module binds are derived from those of its types in several ways. Validation keeps the types apart, and
endings keep tables, error classes and functions apart from each other, but that is all. `Assembly.NamesApart` is what
is left to the definitions: two types may have the same words (`HTTPServer` and `HttpServer`), or a type may have the
name of something that the module imports or derives from another type.

* `bound_names` : the names of a module are pairwise distinct if and only if `NamesApart` holds;
* `not_bound_names_nodup` : it does not always hold.
-/

set_option autoImplicit false

namespace WireBridge

/-! ## Endings -/

def EndsWith (s ending : String) : Prop := ending.toList <:+ s.toList

instance (s ending : String) : Decidable (EndsWith s ending) := inferInstanceAs (Decidable (_ <:+ _))

theorem endsWith_append (s ending : String) : EndsWith (s ++ ending) ending := by
  rw [EndsWith, String.toList_append]
  exact List.suffix_append _ _

theorem EndsWith.trans {s t u : String} (h : EndsWith s t) (h' : EndsWith t u) : EndsWith s u := List.IsSuffix.trans h' h

/-- A name has one ending of two, unless one of them ends with the other. -/
theorem EndsWith.not_endsWith {s t u : String} (h : EndsWith s t) (hapart : ¬ EndsWith t u ∧ ¬ EndsWith u t) :
    ¬ EndsWith s u := fun h' => (List.suffix_or_suffix_of_suffix h h').elim hapart.2 hapart.1

theorem append_ne_append {t u : String} (hapart : ¬ EndsWith t u ∧ ¬ EndsWith u t) (m n : String) :
    m ++ t ≠ n ++ u := fun h => (h ▸ endsWith_append m t).not_endsWith hapart (endsWith_append n u)

/-! ## Derived names -/

theorem IsIdentifier.isNameChar {n : String} (h : IsIdentifier n) : ∀ c ∈ n.toList, Text.isNameChar c = true :=
  Terminal.isNameChar_of_isIdentifier h

theorem fromWireFunction_inj {m n : String} : fromWireFunction m = fromWireFunction n ↔ snakeCase m = snakeCase n :=
  String.append_left_inj _

theorem toWireFunction_inj {m n : String} : toWireFunction m = toWireFunction n ↔ snakeCase m = snakeCase n :=
  String.append_left_inj _

theorem fromWireFunction_ne_toWireFunction (m n : String) : fromWireFunction m ≠ toWireFunction n :=
  append_ne_append (by decide) _ _

theorem fromWireTableName_ne_toWireTableName (m n : String) : fromWireTableName m ≠ toWireTableName n :=
  append_ne_append (by decide) _ _

theorem snakeCase_eq_of_tableName {m n direction : String} (hm : IsIdentifier m) (hn : IsIdentifier n)
    (h : tableName m direction = tableName n direction) : snakeCase m = snakeCase n := by
  simp only [tableName, String.append_left_inj, String.append_right_inj] at h
  exact snakeCase_eq_of_upperCase hm.isNameChar hn.isNameChar h

/-- What the names of the functions of a type end with. -/
def functionEndings : List String := ["_from_wire", "_to_wire"]

/-- A function is called like one that a module imports after two words only. -/
theorem append_mem_importedNames {words ending : String} (h : ending ∈ functionEndings) :
    words ++ ending ∈ importedNames ↔ words = "enum" ∨ words = "match" := by
  constructor
  · intro hmem
    have himported : ∀ e ∈ functionEndings, ∀ i ∈ importedNames, EndsWith i e → i = "enum" ++ e ∨ i = "match" ++ e := by
      decide
    exact (himported _ h _ hmem (endsWith_append _ _)).imp (String.append_left_inj _).1 (String.append_left_inj _).1
  · have himported : ∀ e ∈ functionEndings, "enum" ++ e ∈ importedNames ∧ "match" ++ e ∈ importedNames := by decide
    rintro (rfl | rfl)
    · exact (himported _ h).1
    · exact (himported _ h).2

theorem dot_not_mem_snakeCase_append {n ending : String} (hn : IsIdentifier n) (h : ending ∈ functionEndings) :
    '.' ∉ (snakeCase n ++ ending).toList := by
  have hending : ∀ e ∈ functionEndings, '.' ∉ e.toList := by decide
  rw [String.toList_append, List.mem_append]
  rintro (hdot | hdot)
  · exact absurd (isSmall_of_mem_snakeCase hn.isNameChar hdot) (by decide)
  · exact hending _ h hdot

theorem dot_not_mem_tableName {n direction : String} (hn : IsIdentifier n) (h : '.' ∉ direction.toList) :
    '.' ∉ (tableName n direction).toList := by
  have hwords : '.' ∉ (upperCase (snakeCase n)).toList := by
    intro hdot
    have hlower := List.mem_map_of_mem (f := Char.toLower) hdot
    rw [map_toLower_upperCase_snakeCase hn.isNameChar] at hlower
    exact absurd (isSmall_of_mem_snakeCase hn.isNameChar hlower) (by decide)
  simp [tableName, hwords, h]

/-- The error class of a record is named by the record, or by its module. -/
theorem RecordDescriptor.errorClass_ending (r : RecordDescriptor) :
    EndsWith r.errorClass "ConversionError" ∨ '.' ∈ r.errorClass.toList := by
  unfold errorClass
  split
  · exact .inr (by simp [FunctionRef.expression])
  · exact .inl (endsWith_append _ _)

/-! ## Lists of names -/

theorem flatMap_append_append_perm {α : Type} (as : List α) (f g h : α → List String) :
    (as.flatMap f ++ (as.flatMap g ++ as.flatMap h)).Perm (as.flatMap fun x => f x ++ (g x ++ h x)) :=
  ((List.flatMap_append_perm as g h).append_left _).trans (List.flatMap_append_perm as f fun x => g x ++ h x)

theorem flatMap_pair_perm {α : Type} (f g : α → String) (as : List α) :
    (as.flatMap fun x => [f x, g x]).Perm (as.map f ++ as.map g) := by
  induction as with
  | nil => exact .nil
  | cons x as ih => exact ((ih.cons (g x)).trans List.perm_middle.symm).cons (f x)

theorem nodup_flatMap_pair {f g : String → String} {ns : List String} (hns : ns.Nodup) (hfg : ∀ m n, f m ≠ g n) :
    (ns.flatMap fun n => [f n, g n]).Nodup ↔
      (∀ m ∈ ns, ∀ n ∈ ns, f m = f n → m = n) ∧ ∀ m ∈ ns, ∀ n ∈ ns, g m = g n → m = n := by
  rw [(flatMap_pair_perm f g ns).nodup_iff, List.nodup_append, List.nodup_map_iff_inj_on hns,
    List.nodup_map_iff_inj_on hns]
  simp [hfg]

/-! ## Functions and tables -/

/-- The functions of types of these names. -/
def functionsOf (ns : List String) : List String := ns.flatMap fun n => [fromWireFunction n, toWireFunction n]

/-- The tables of enums of these names. -/
def tablesOf (ns : List String) : List String := ns.flatMap fun n => [fromWireTableName n, toWireTableName n]

/-- What the names of tables end with. -/
def tableDirections : List String := ["FROM_WIRE", "TO_WIRE"]

section Lists

variable {ns : List String} {n : String}

theorem mem_functionsOf : n ∈ functionsOf ns ↔ ∃ t ∈ ns, ∃ e ∈ functionEndings, n = snakeCase t ++ e := by
  simp [functionsOf, functionEndings, fromWireFunction, toWireFunction]

theorem mem_tablesOf : n ∈ tablesOf ns ↔ ∃ t ∈ ns, ∃ d ∈ tableDirections, n = tableName t d := by
  simp [tablesOf, tableDirections, fromWireTableName, toWireTableName]

theorem endsWith_of_mem_tablesOf (h : n ∈ tablesOf ns) : EndsWith n "_WIRE" := by
  obtain ⟨t, -, d, hd, rfl⟩ := mem_tablesOf.1 h
  have hdirection : ∀ d ∈ tableDirections, EndsWith d "_WIRE" := by decide
  exact (endsWith_append _ d).trans (hdirection d hd)

theorem not_endsWith_of_mem_functionsOf (h : n ∈ functionsOf ns) :
    ¬ EndsWith n "_WIRE" ∧ ¬ EndsWith n "ConversionError" := by
  obtain ⟨t, -, e, he, rfl⟩ := mem_functionsOf.1 h
  have hapart : ∀ e ∈ functionEndings, ∀ e' ∈ ["_WIRE", "ConversionError"], ¬ EndsWith e e' ∧ ¬ EndsWith e' e := by
    decide
  exact ⟨(endsWith_append _ _).not_endsWith (hapart e he _ (by decide)),
    (endsWith_append _ _).not_endsWith (hapart e he _ (by decide))⟩

theorem disjoint_tablesOf_functionsOf (ns ns' : List String) : (tablesOf ns).Disjoint (functionsOf ns') :=
  fun _ ht hf => (not_endsWith_of_mem_functionsOf hf).1 (endsWith_of_mem_tablesOf ht)

theorem nodup_functionsOf_iff (hns : ns.Nodup) :
    (functionsOf ns).Nodup ↔ ∀ m ∈ ns, ∀ n ∈ ns, snakeCase m = snakeCase n → m = n := by
  rw [functionsOf, nodup_flatMap_pair hns fromWireFunction_ne_toWireFunction]
  simp only [fromWireFunction_inj, toWireFunction_inj, and_self]

theorem nodup_tablesOf (hns : ns.Nodup) (hidentifiers : ∀ n ∈ ns, IsIdentifier n)
    (hwords : ∀ m ∈ ns, ∀ n ∈ ns, snakeCase m = snakeCase n → m = n) : (tablesOf ns).Nodup := by
  have hinj (direction : String) : ∀ m ∈ ns, ∀ n ∈ ns, tableName m direction = tableName n direction → m = n := by
    intro m hm n hn htable
    exact hwords m hm n hn (snakeCase_eq_of_tableName (hidentifiers m hm) (hidentifiers n hn) htable)
  exact (nodup_flatMap_pair hns fromWireTableName_ne_toWireTableName).2 ⟨hinj _, hinj _⟩

end Lists

/-! ## Assemblies -/

namespace Assembly

section Names

variable (a : Assembly)

def enumNames : List String := a.enums.map (·.name)

def typeNames : List String := a.enumNames ++ a.records.map (·.name)

def tableNames : List String := a.enumNames.flatMap fun n => [fromWireTableName n, toWireTableName n]

def errorClassNames : List String := a.records.flatMap (·.errorClassNames)

def functionNames : List String := a.typeNames.flatMap fun n => [fromWireFunction n, toWireFunction n]

end Names

variable {a : Assembly}

/-- The names that a module defines, kind by kind. -/
theorem perm_definedNames (a : Assembly) :
    (a.typeNames ++ (a.tableNames ++ (a.errorClassNames ++ a.functionNames))).Perm a.definedNames := by
  have henums := flatMap_append_append_perm a.enums (fun p => [p.name])
    (fun p => [fromWireTableName p.name, toWireTableName p.name])
    fun p => [fromWireFunction p.name, toWireFunction p.name]
  have hrecords := flatMap_append_append_perm a.records (fun p => [p.name]) (·.errorClassNames)
    fun p => [fromWireFunction p.name, toWireFunction p.name]
  refine List.Perm.trans ?_ (henums.append hrecords)
  simp only [typeNames, enumNames, tableNames, errorClassNames, functionNames, List.map_eq_flatMap, List.flatMap_append,
    List.flatMap_assoc, List.flatMap_cons, List.flatMap_nil, List.append_nil]
  rw [List.perm_iff_count]
  intro n
  simp only [List.count_append]
  omega

/-- What is known of the assembly of a definition file: its types have distinct identifiers, and a class that is
generated with a record is the error class of the record. -/
structure IsNamed (a : Assembly) : Prop where
  distinct : a.typeNames.Nodup
  identifiers : ∀ n ∈ a.typeNames, IsIdentifier n
  errorClass : ∀ p ∈ a.records, p.generatedError = true → p.errorClass = some p.descriptor.errorClass

section Apart

variable (a : Assembly)

/-- No two types have the same words. -/
def WordsApart : Prop := ∀ m ∈ a.typeNames, ∀ n ∈ a.typeNames, snakeCase m = snakeCase n → m = n

/-- No type has the words of a function that is imported. -/
def SupportApart : Prop := ∀ n ∈ a.typeNames, snakeCase n ≠ "enum" ∧ snakeCase n ≠ "match"

/-- No type has the name of anything else. -/
def TypesApart : Prop :=
  ∀ n ∈ a.typeNames, n ∉ importedNames ∧ n ∉ a.tableNames ∧ n ∉ a.errorClassNames ∧ n ∉ a.functionNames

/-- No class is generated twice for a declared error type. -/
def ErrorTypesApart : Prop :=
  ∀ p ∈ a.records, ∀ q ∈ a.records, p.generatedError = true → q.generatedError = true →
    p.descriptor.errorType.isSome = true → p.descriptor.errorClass = q.descriptor.errorClass → p.name = q.name

/-- The names of the types of an assembly do not collide. -/
structure NamesApart : Prop where
  words : a.WordsApart
  support : a.SupportApart
  types : a.TypesApart
  errorTypes : a.ErrorTypesApart

instance : Decidable a.WordsApart := inferInstanceAs (Decidable (∀ m ∈ a.typeNames, _))

instance : Decidable a.SupportApart := inferInstanceAs (Decidable (∀ n ∈ a.typeNames, _))

instance : Decidable a.TypesApart := inferInstanceAs (Decidable (∀ n ∈ a.typeNames, _))

instance : Decidable a.ErrorTypesApart := inferInstanceAs (Decidable (∀ p ∈ a.records, _))

instance : Decidable a.NamesApart :=
  decidable_of_iff (a.WordsApart ∧ a.SupportApart ∧ a.TypesApart ∧ a.ErrorTypesApart)
    ⟨fun ⟨hwords, hsupport, htypes, herrors⟩ => ⟨hwords, hsupport, htypes, herrors⟩,
      fun h => ⟨h.words, h.support, h.types, h.errorTypes⟩⟩

end Apart

/-! ### Kinds of names -/

theorem of_mem_importedNames :
    ∀ i ∈ importedNames, ¬ EndsWith i "_WIRE" ∧ ¬ EndsWith i "ConversionError" ∧ '.' ∉ i.toList := by decide

section Kinds

variable (h : a.IsNamed) {n : String}

include h

theorem of_mem_tableNames (hn : n ∈ a.tableNames) :
    EndsWith n "_WIRE" ∧ ¬ EndsWith n "ConversionError" ∧ '.' ∉ n.toList := by
  have hending : EndsWith n "_WIRE" := endsWith_of_mem_tablesOf hn
  obtain ⟨t, ht, d, hd, rfl⟩ := mem_tablesOf.1 hn
  have hdirection : ∀ d ∈ tableDirections, '.' ∉ d.toList := by decide
  have hidentifier := h.identifiers t (List.mem_append_left _ ht)
  exact ⟨hending, hending.not_endsWith (by decide), dot_not_mem_tableName hidentifier (hdirection d hd)⟩

theorem of_mem_functionNames (hn : n ∈ a.functionNames) : ¬ EndsWith n "ConversionError" ∧ '.' ∉ n.toList := by
  have hending := (not_endsWith_of_mem_functionsOf hn).2
  obtain ⟨t, ht, e, he, rfl⟩ := mem_functionsOf.1 hn
  exact ⟨hending, dot_not_mem_snakeCase_append (h.identifiers t ht) he⟩

theorem errorClassNames_eq :
    a.errorClassNames = (a.records.filter (·.generatedError)).map (·.descriptor.errorClass) := by
  have hall := h.errorClass
  unfold errorClassNames
  generalize a.records = ps at hall
  induction ps with
  | nil => rfl
  | cons p ps ih =>
    obtain ⟨hp, hps⟩ := List.forall_mem_cons.1 hall
    rw [List.flatMap_cons, ih hps, RecordPlan.errorClassNames]
    cases hg : p.generatedError with
    | false => simp [hg]
    | true => simp [hg, hp hg]

theorem of_mem_errorClassNames (hn : n ∈ a.errorClassNames) : EndsWith n "ConversionError" ∨ '.' ∈ n.toList := by
  rw [errorClassNames_eq h] at hn
  obtain ⟨p, -, rfl⟩ := List.mem_map.1 hn
  exact p.descriptor.errorClass_ending

/-- An error class has the name of nothing else that is imported or derived. -/
theorem disjoint_errorClassNames {ns : List String}
    (hns : ∀ n ∈ ns, ¬ EndsWith n "ConversionError" ∧ '.' ∉ n.toList) : ns.Disjoint a.errorClassNames := by
  intro n hn hclass
  exact (of_mem_errorClassNames h hclass).elim (hns n hn).1 (hns n hn).2

end Kinds

/-! ### Repeated names -/

section Repeated

variable (h : a.IsNamed)

include h

theorem nodup_functionNames_iff : a.functionNames.Nodup ↔ a.WordsApart := nodup_functionsOf_iff h.distinct

theorem nodup_tableNames (hwords : a.WordsApart) : a.tableNames.Nodup := by
  have hmem : ∀ n ∈ a.enumNames, n ∈ a.typeNames := fun n hn => List.mem_append_left _ hn
  exact nodup_tablesOf (List.nodup_append.1 h.distinct).1 (fun n hn => h.identifiers n (hmem n hn))
    fun m hm n hn => hwords m (hmem m hm) n (hmem n hn)

theorem nodup_errorClassNames_iff : a.errorClassNames.Nodup ↔ a.ErrorTypesApart := by
  have hnames : (a.records.map (·.name)).Nodup := (List.nodup_append.1 h.distinct).2.1
  rw [errorClassNames_eq h, List.nodup_map_iff_inj_on (hnames.of_map.filter _)]
  simp only [List.mem_filter]
  constructor
  · intro hinj p hp q hq hpg hqg _ hclass
    rw [hinj p ⟨hp, hpg⟩ q ⟨hq, hqg⟩ hclass]
  · rintro htypes p ⟨hp, hpg⟩ q ⟨hq, hqg⟩ hclass
    refine List.inj_on_of_nodup_map hnames hp hq ?_
    by_cases hpt : p.descriptor.errorType.isSome = true
    · exact htypes p hp q hq hpg hqg hpt hclass
    · by_cases hqt : q.descriptor.errorType.isSome = true
      · exact (htypes q hq p hp hqg hpg hqt hclass.symm).symm
      · rw [Option.not_isSome_iff_eq_none] at hpt hqt
        rw [RecordDescriptor.errorClass, RecordDescriptor.errorClass, hpt, hqt] at hclass
        exact (String.append_left_inj _).1 hclass

end Repeated

theorem disjoint_importedNames_functionNames_iff : importedNames.Disjoint a.functionNames ↔ a.SupportApart := by
  have hending (n : String) (e : String) (he : e ∈ functionEndings) :
      snakeCase n ++ e ∉ importedNames ↔ snakeCase n ≠ "enum" ∧ snakeCase n ≠ "match" := by
    rw [append_mem_importedNames he, not_or]
  constructor
  · intro hdisjoint n hn
    refine (hending n "_from_wire" (by decide)).1 fun himported => ?_
    exact hdisjoint himported (List.mem_flatMap.2 ⟨n, hn, List.mem_cons_self⟩)
  · intro hsupport i himported hfunction
    obtain ⟨n, hn, e, he, rfl⟩ := mem_functionsOf.1 hfunction
    exact (hending n e he).2 (hsupport n hn) himported

/-! ### Collisions -/

theorem nodup_definedNames_iff (h : a.IsNamed) : (importedNames ++ a.definedNames).Nodup ↔ a.NamesApart := by
  rw [← (a.perm_definedNames.append_left _).nodup_iff]
  -- Each kind of names without repetition, and apart from every kind after it.
  simp only [List.nodup_append', List.disjoint_append_right]
  constructor
  · rintro ⟨-, ⟨-, ⟨-, ⟨herrors, hfunctions, -⟩, -⟩, htables, hclasses, hderived⟩, himported, -, -, hsupport⟩
    exact
      { words := (nodup_functionNames_iff h).1 hfunctions
        support := disjoint_importedNames_functionNames_iff.1 hsupport
        types := fun n hn => ⟨fun hi => himported hi hn, htables hn, hclasses hn, hderived hn⟩
        errorTypes := (nodup_errorClassNames_iff h).1 herrors }
  · intro hapart
    have htables : importedNames.Disjoint a.tableNames := fun n hi ht =>
      (of_mem_importedNames n hi).1 (of_mem_tableNames h ht).1
    have hfunctions : a.tableNames.Disjoint a.functionNames := disjoint_tablesOf_functionsOf _ _
    refine ⟨by decide, ⟨h.distinct, ⟨nodup_tableNames h hapart.words,
      ⟨(nodup_errorClassNames_iff h).2 hapart.errorTypes, (nodup_functionNames_iff h).2 hapart.words, ?_⟩,
      ?_, hfunctions⟩, ?_, ?_, ?_⟩, ?_, htables, ?_, ?_⟩
    · exact fun n hc hf => disjoint_errorClassNames h (fun n hf => of_mem_functionNames h hf) hf hc
    · exact disjoint_errorClassNames h fun n ht => (of_mem_tableNames h ht).2
    · exact fun n hn => (hapart.types n hn).2.1
    · exact fun n hn => (hapart.types n hn).2.2.1
    · exact fun n hn => (hapart.types n hn).2.2.2
    · exact fun n hi hn => (hapart.types n hn).1 hi
    · exact disjoint_errorClassNames h fun n hi => (of_mem_importedNames n hi).2
    · exact disjoint_importedNames_functionNames_iff.2 hapart.support

end Assembly

namespace Definitions

theorem isNamed_of_ofText {text : String} {d : Definitions Value} (h : ofText text = .ok d) (settings : Settings) :
    (assemble d settings).IsNamed where
  distinct := (nodup_typeNames_of_ofText h).sublist
    ((d.assemble_enums_sublist settings).append (d.assemble_records_sublist settings))
  identifiers := fun _ hn => isIdentifier_of_mem_typeNames h (mem_typeNames_of_survivor hn)
  errorClass := fun _ hp hg => (errorClass_of_mem_records hp hg).2

/-- A module binds the names that it imports and the names that it defines for the types of the assembly. They are
pairwise distinct if and only if the names of the types are apart. -/
theorem bound_names {text : String} {d : Definitions Value} (h : ofText text = .ok d) (settings : Settings) :
    (∀ modules, (importBindings settings).map Prod.fst ⊆ headerLines settings modules ∧
      ∃ lines, moduleLines (assemble d settings) modules = headerLines settings modules ++ lines ∧
        Introduces lines (assemble d settings).definedNames) ∧
    (((importBindings settings).map Prod.snd ++ (assemble d settings).definedNames).Nodup ↔
      (assemble d settings).NamesApart) := by
  have hnewtype : ∀ p ∈ (assemble d settings).records, p.descriptor.newtype = true → p.generatedError = false := by
    intro p hp hn
    rw [Bool.eq_false_iff]
    intro hg
    simp [(errorClass_of_mem_records hp hg).1] at hn
  refine ⟨fun modules => ⟨importBindings_subset settings modules, ?_⟩, ?_⟩
  · exact Assembly.introduces_moduleLines hnewtype modules
  · rw [map_importBindings]
    exact Assembly.nodup_definedNames_iff (isNamed_of_ofText h settings)

def serverText : String := "enum Color \x7b RED \x7d\nstruct HTTPServer \x7b port: int32 @expect \x7d\n"

theorem bound_names_server : ∃ d, ofText serverText = .ok d ∧
    (assemble d sampleSettings).definedNames =
      ["Color", "_COLOR_FROM_WIRE", "_COLOR_TO_WIRE", "color_from_wire", "color_to_wire", "HTTPServer",
        "HTTPServerConversionError", "http_server_from_wire", "http_server_to_wire"] ∧
    (importedNames ++ (assemble d sampleSettings).definedNames).Nodup ∧
    ∃ lines, moduleLines (assemble d sampleSettings) [] = headerLines sampleSettings [] ++ lines ∧
      Introduces lines (assemble d sampleSettings).definedNames := by
  obtain ⟨d, hd, hnames, hapart⟩ : ∃ d, ofText serverText = .ok d ∧
      (assemble d sampleSettings).definedNames =
        ["Color", "_COLOR_FROM_WIRE", "_COLOR_TO_WIRE", "color_from_wire", "color_to_wire", "HTTPServer",
          "HTTPServerConversionError", "http_server_from_wire", "http_server_to_wire"] ∧
      (assemble d sampleSettings).NamesApart := by decide +kernel
  obtain ⟨hlines, hiff⟩ := bound_names hd sampleSettings
  exact ⟨d, hd, hnames, hiff.2 hapart, (hlines []).2⟩

/-- Two records of the same words. -/
def serversText : String :=
  "struct HTTPServer \x7b port: int32 \x7d\nstruct HttpServer \x7b port: int32 \x7d\n"

/-- The names of a module are not always distinct, even if all types survive. -/
theorem not_bound_names_nodup : ¬ ∀ text d settings, ofText text = .ok d → (assemble d settings).errors = [] →
    (importedNames ++ (assemble d settings).definedNames).Nodup := by
  intro hall
  obtain ⟨d, hd, herrors, hnames⟩ : ∃ d, ofText serversText = .ok d ∧ (assemble d sampleSettings).errors = [] ∧
      ¬ (importedNames ++ (assemble d sampleSettings).definedNames).Nodup := by decide +kernel
  exact hnames (hall _ d sampleSettings hd herrors)

end Definitions

end WireBridge
