import WireBridge.Proofs.Descriptor.Source
import WireBridge.Descriptor.Enum

/-!
# Places of the problems of descriptions

Reading a directive stops without a place, whatever is read (`unplaced_*`), and so does the description of a field.
The record gives the problem of a field its place at the field and every other one its own; an enum does so for its
variants. Hence `RecordDecl.standsAt_of_describe` and `EnumDecl.standsAt_of_describe`: a declaration that cannot be
described has a problem at its own name or at one of its members.
-/

set_option autoImplicit false

namespace WireBridge

/-! ## Directives -/

namespace Directive

theorem unplaced_checkAll (host : DirectiveHost) (ds : List (Directive Value)) : Unplaced (checkAll host ds) := by
  unfold checkAll
  split
  · exact unplaced_problem _
  · exact unplaced_ok _

variable (d : Directive Value)

theorem unplaced_values (least : Nat) (most : Option Nat) : Unplaced (d.values least most) := by
  unfold values
  dsimp only
  split
  · exact unplaced_problem _
  · split
    · exact unplaced_problem _
    · exact unplaced_ok _

theorem unplaced_nameValue : Unplaced d.nameValue := by
  refine (d.unplaced_values 1 (some 1)).bind fun vs => ?_
  split
  · split
    · exact unplaced_problem _
    · exact unplaced_pure _
  · exact unplaced_problem _
  · exact unplaced_problem _

theorem unplaced_identifierValue : Unplaced d.identifierValue := by
  refine d.unplaced_nameValue.bind fun s => ?_
  split
  · exact unplaced_pure _
  · exact unplaced_problem _

theorem unplaced_flagValue : Unplaced d.flagValue := by
  refine (d.unplaced_values 0 (some 1)).bind fun vs => ?_
  split
  · exact unplaced_pure _
  · split
    · exact unplaced_pure _
    · split
      · exact unplaced_pure _
      · exact unplaced_problem _

theorem unplaced_bare : Unplaced d.bare := (d.unplaced_values 0 (some 0)).bind fun _ => unplaced_pure _

end Directive

theorem unplaced_referenceOf (helpers : Option Value) (v : Value) : Unplaced (referenceOf helpers v) := by
  unfold referenceOf
  split
  · exact unplaced_ok _
  · exact unplaced_problem _

theorem Directive.unplaced_reference (helpers : Option Value) (d : Directive Value) :
    Unplaced (d.reference helpers) :=
  d.unplaced_nameValue.bind fun _ => unplaced_referenceOf _ _

theorem unplaced_given? {α : Type} {ds : List (Directive Value)} {n : String}
    {read : Directive Value → Except ConfigError α} (h : ∀ d, Unplaced (read d)) : Unplaced (given? ds n read) := by
  unfold given?
  cases directive? ds n with
  | none => exact unplaced_pure _
  | some d => exact (h d).map some

/-! ## Fields -/

section Read

variable (helpers : Option Value) (ds : List (Directive Value))

theorem unplaced_checkExclusive : Unplaced (checkExclusive ds) := by
  unfold checkExclusive
  dsimp only
  split
  · refine (unplaced_problem _).bind fun _ => ?_
    split
    · exact unplaced_problem _
    · exact unplaced_pure _
  · split
    · exact unplaced_problem _
    · exact unplaced_pure _

theorem unplaced_readOptionality : Unplaced (readOptionality ds) := by
  refine (unplaced_given? Directive.unplaced_flagValue).bind fun b => ?_
  split
  · exact unplaced_pure _
  · exact (unplaced_given? Directive.unplaced_bare).bind fun _ => unplaced_pure _

theorem unplaced_readDefault : Unplaced (readDefault helpers ds) := by
  refine unplaced_given? fun d => (d.unplaced_values 0 (some 1)).bind fun vs => ?_
  split
  · exact unplaced_pure _
  · exact (unplaced_referenceOf _ _).bind fun _ => unplaced_pure _

theorem unplaced_readExpectation : Unplaced (readExpectation ds) := by
  refine (unplaced_given? fun d => d.unplaced_values 0 (some 1)).bind fun vs => ?_
  split
  · exact unplaced_pure _
  · dsimp only
    split
    · exact unplaced_pure _
    · split
      · exact unplaced_pure _
      · exact unplaced_problem _

theorem unplaced_readCustom : Unplaced (readCustom helpers ds) :=
  (unplaced_given? (Directive.unplaced_reference helpers)).bind fun _ =>
    (unplaced_given? (Directive.unplaced_reference helpers)).bind fun _ => unplaced_pure _

theorem unplaced_checkBare : Unplaced (checkBare ds) := by
  have hone (n : String) : Unplaced (do let _ ← given? ds n Directive.bare : Except ConfigError Unit) :=
    (unplaced_given? Directive.unplaced_bare).bind fun _ => unplaced_pure _
  exact (hone "transparent").bind fun _ => (hone "ignore").bind fun _ => (hone "enum").bind fun _ => unplaced_pure _

theorem unplaced_readKey (shape : Shape) : Unplaced (readKey ds shape) := by
  refine unplaced_given? fun d => d.unplaced_identifierValue.bind fun key => ?_
  dsimp only
  split
  · exact (unplaced_problem _).bind fun _ => unplaced_pure _
  · exact unplaced_pure _

theorem unplaced_readWireName (name : String) : Unplaced (readWireName ds name) :=
  (unplaced_given? Directive.unplaced_nameValue).bind fun _ => unplaced_pure _

end Read

theorem FieldDecl.unplaced_describe (f : FieldDecl Value) (s : Symbols) (helpers : Option Value) (b : Bool) :
    Unplaced (f.describe s helpers b) := by
  refine (Directive.unplaced_checkAll _ _).bind fun _ => (unplaced_checkExclusive _).bind fun _ =>
    (unplaced_readOptionality _).bind fun _ => (unplaced_readDefault _ _).bind fun _ =>
    (unplaced_readExpectation _).bind fun _ => ?_
  exact (unplaced_given? (Directive.unplaced_reference helpers)).bind fun _ =>
    (unplaced_readCustom _ _).bind fun _ => (unplaced_checkBare _).bind fun _ =>
    (unplaced_readKey _ _).bind fun _ => (unplaced_readWireName _ _).bind fun _ => unplaced_pure _

/-! ## Records and enums -/

theorem RecordDecl.unplaced_readHead (r : RecordDecl Value) (helpers : Option Value) :
    Unplaced (r.readHead helpers) := by
  refine (Directive.unplaced_checkAll _ _).bind fun _ => (unplaced_readWireName _ _).bind fun _ =>
    (unplaced_given? (Directive.unplaced_reference helpers)).bind fun _ =>
    (unplaced_given? (Directive.unplaced_reference helpers)).bind fun _ =>
    (unplaced_given? fun d => d.unplaced_values 1 none).bind fun _ => ?_
  dsimp only
  split
  · exact (unplaced_problem _).bind fun _ => unplaced_pure _
  · exact unplaced_pure _

theorem standsAt_of_errorFunctionFault? {name : String} {head : RecordHead} {fs : List FieldDescriptor}
    {e : ConfigError} (h : errorFunctionFault? name head fs = some e) :
    StandsAt name (fs.map (·.nativeName)) e := by
  unfold errorFunctionFault? at h
  split at h
  · split at h
    · cases h
      exact .inl rfl
    · obtain ⟨f, hf, rfl⟩ := Option.map_eq_some_iff.1 h
      exact .inr ⟨f.nativeName, List.mem_map_of_mem (List.mem_of_find?_eq_some hf), rfl⟩
  · cases h

theorem mirrors_nativeNames {s : Symbols} {fs : List (FieldDecl Value)} {gs : List FieldDescriptor}
    (h : List.Forall₂ (Mirrors s) fs gs) : gs.map (·.nativeName) = fs.map (·.name) :=
  (map_eq_map_of_forall₂ h fun _ _ hfg => hfg.nativeName.symm).symm

theorem RecordDecl.standsAt_of_describe {r : RecordDecl Value} {s : Symbols} {helpers : Option Value}
    {e : ConfigError} (h : r.describe s helpers = .error e) : StandsAt r.name (r.fields.map (·.name)) e := by
  simp only [RecordDecl.describe] at h
  rcases bind_eq_error_iff.1 h with h | ⟨head, -, h⟩
  · exact .inl ((r.unplaced_readHead helpers).path_of_placedAt h)
  · split at h
    · cases h
      exact .inl rfl
    · rcases bind_eq_error_iff.1 h with h | ⟨gs, hgs, h⟩
      · obtain ⟨f, hf, h⟩ := exists_of_mapM_eq_error h
        exact .inr ⟨f.name, List.mem_map_of_mem hf, (f.unplaced_describe _ _ _).path_of_placedAt h⟩
      · have hm : List.Forall₂ (Mirrors s) r.fields gs :=
          (forall₂_of_mapM_eq_ok hgs).imp fun f g hg => FieldDecl.mirrors_of_describe (placedAt_eq_ok_iff.1 hg)
        split at h
        · next e' he =>
          cases h
          rw [← mirrors_nativeNames hm]
          exact standsAt_of_errorFunctionFault? he
        · cases h

theorem EnumDecl.standsAt_of_describe {d : EnumDecl Value} {e : ConfigError} (h : d.describe = .error e) :
    StandsAt d.name (d.variants.map (·.name)) e := by
  have hplaced : ∀ e₀, d.readWireName = .error e₀ →
      e₀.path = none ∨ StandsAt d.name (d.variants.map (·.name)) e₀ := by
    intro e₀ h₀
    simp only [EnumDecl.readWireName] at h₀
    rcases bind_eq_error_iff.1 h₀ with h₀ | ⟨-, -, h₀⟩
    · exact .inl (Directive.unplaced_checkAll _ _ _ h₀)
    · split at h₀
      · next e' he =>
        cases h₀
        obtain ⟨v, hv, hd⟩ := List.exists_of_findSome?_eq_some he
        obtain ⟨x, -, rfl⟩ := Option.map_eq_some_iff.1 hd
        exact .inr (.inr ⟨v.name, List.mem_map_of_mem hv, rfl⟩)
      · split at h₀
        · cases h₀
          exact .inl rfl
        · exact .inl (unplaced_readWireName _ _ _ h₀)
  simp only [EnumDecl.describe] at h
  rcases bind_eq_error_iff.1 h with h | ⟨w, -, h⟩
  · obtain ⟨e₀, h₀, rfl⟩ := placedAt_eq_error_iff.1 h
    rcases hplaced e₀ h₀ with hp | hp
    · exact .inl (by simp [Located.atPath, Located.isPlaced, hp])
    · exact hp.atPath
  · cases h

end WireBridge
