import WireBridge.Proofs.Descriptor.Source

/-!
# What descriptors keep of their directives

`DescribedBy f g` : of the directives of the field `f`, the descriptor `g` keeps the name on the wire, the
optionality, whether presence is expected, whether there is a default and whether a function is named for it, whether
functions of the field convert it and whether it is transparent. It has the family of containers that its shape
belongs to, and its optionality on the wire is inferred from all that. The field of a described record is described so
(`FieldDecl.describedBy_of_describe`).

A default function is looked for in two places: the descriptor has the first directive of a name, and the search for
type defaults asks whether any does. Directives pass the check if their host has them all and their names are distinct
(`Directive.checkAll_eq_ok_iff`), so there is one at most (`namesDefault_iff`).
-/

set_option autoImplicit false

namespace WireBridge

/-! ## Directives of a name -/

theorem given?_eq_ok_iff {α : Type} {ds : List (Directive Value)} {name : String}
    {read : Directive Value → Except ConfigError α} {a? : Option α} : given? ds name read = .ok a? ↔
      (directive? ds name = none ∧ a? = none) ∨
        ∃ d a, directive? ds name = some d ∧ read d = .ok a ∧ a? = some a := by
  unfold given?
  cases directive? ds name with
  | none => simp [pure, Except.pure, eq_comm]
  | some d =>
    have hmap : (some d).mapM read = (read d).map some := rfl
    rw [hmap, map_eq_ok_iff]
    simp [eq_comm]

theorem isSome_of_given? {α : Type} {ds : List (Directive Value)} {name : String}
    {read : Directive Value → Except ConfigError α} {a? : Option α} (h : given? ds name read = .ok a?) :
    a?.isSome = isGiven ds name := by
  rcases given?_eq_ok_iff.1 h with ⟨hd, rfl⟩ | ⟨d, a, hd, -, rfl⟩ <;> simp [isGiven, hd]

namespace Directive

variable {host : DirectiveHost} {seen : List String} {ds : List (Directive Value)}

theorem firstFault?_eq_none_iff : firstFault? host seen ds = none ↔
    (∀ d ∈ ds, d.name ∈ host.directives ∧ d.name ∉ seen) ∧ (ds.map (·.name)).Nodup := by
  fun_induction firstFault? host seen ds with
  | case1 seen => simp
  | case2 seen d ds hhost => simp [hhost]
  | case3 seen d ds hhost hseen => simp [hseen]
  | case4 seen d ds hhost hseen ih =>
    rw [ih, List.forall_mem_cons, List.map_cons, List.nodup_cons, List.mem_map]
    constructor
    · rintro ⟨hall, hnodup⟩
      refine ⟨⟨⟨not_not.1 hhost, hseen⟩, fun e he => ⟨(hall e he).1, ?_⟩⟩, ?_, hnodup⟩
      · exact fun hmem => (hall e he).2 (List.mem_cons_of_mem _ hmem)
      · rintro ⟨e, he, hname⟩
        exact (hall e he).2 (hname ▸ List.mem_cons_self)
    · rintro ⟨⟨-, hall⟩, hfresh, hnodup⟩
      refine ⟨fun e he => ⟨(hall e he).1, fun hmem => ?_⟩, hnodup⟩
      rcases List.mem_cons.1 hmem with hname | hmem
      · exact hfresh ⟨e, he, hname⟩
      · exact (hall e he).2 hmem

theorem checkAll_eq_ok_iff : checkAll host ds = .ok () ↔
    (∀ d ∈ ds, d.name ∈ host.directives) ∧ (ds.map (·.name)).Nodup := by
  have hnone : checkAll host ds = .ok () ↔ firstFault? host [] ds = none := by
    unfold checkAll
    cases firstFault? host [] ds <;> simp [problem]
  simpa using hnone.trans firstFault?_eq_none_iff

theorem nodup_of_checkAll (h : checkAll host ds = .ok ()) : (ds.map (·.name)).Nodup := (checkAll_eq_ok_iff.1 h).2

end Directive

/-- Of directives with distinct names, the one of a name is found. -/
theorem directive?_eq_some_iff {ds : List (Directive Value)} (hn : (ds.map (·.name)).Nodup) {name : String}
    {d : Directive Value} : directive? ds name = some d ↔ d ∈ ds ∧ d.name = name := by
  constructor
  · intro h
    exact ⟨List.mem_of_find?_eq_some h, by simpa using List.find?_some h⟩
  · rintro ⟨hd, rfl⟩
    cases h : directive? ds d.name with
    | none => simpa using List.find?_eq_none.1 h d hd
    | some e =>
      have hname : e.name = d.name := by simpa using List.find?_some h
      rw [List.inj_on_of_nodup_map hn (List.mem_of_find?_eq_some h) hd hname]

theorem Directive.length_of_values {d : Directive Value} {least : Nat} {most : Option Nat} {vs : List Value}
    (h : d.values least most = .ok vs) : vs.length = d.arguments.length := by
  unfold values at h
  dsimp only at h
  split at h
  · cases h
  · split at h
    · cases h
    · cases h
      exact List.length_map _

/-! ## Names on the wire -/

/-- The text that is the only argument of a directive. -/
def Directive.text? (d : Directive Value) : Option String :=
  match d.arguments with
  | [⟨none, .text s⟩] => some s
  | _ => none

theorem Directive.text?_of_nameValue {d : Directive Value} {s : String} (h : d.nameValue = .ok s) :
    d.text? = some s := by
  obtain ⟨vs, hvs, h⟩ := bind_eq_ok_iff.1 h
  have harguments : d.arguments.findSome? (·.name) = none ∧ vs = d.arguments.map (·.value) := by
    unfold values at hvs
    dsimp only at hvs
    split at hvs
    · cases hvs
    · next hnone =>
      split at hvs
      · cases hvs
      · cases hvs
        exact ⟨hnone, rfl⟩
  split at h
  · next t =>
    split at h
    · cases h
    · cases h
      obtain ⟨⟨name, value⟩, ha, rfl⟩ := List.map_eq_singleton_iff.1 harguments.2.symm
      rw [ha] at harguments
      obtain rfl : name = none := by simpa using harguments.1
      simp only [text?, ha]
  · cases h
  · cases h

/-- The name of a field on the wire: the text it is renamed to, if any, else its own name. -/
def FieldDecl.wireName (f : FieldDecl Value) : String :=
  ((directive? f.directives "rename").bind Directive.text?).getD f.name

theorem wireName_of_readWireName {f : FieldDecl Value} {n : String} (h : readWireName f.directives f.name = .ok n) :
    n = f.wireName := by
  obtain ⟨n?, hn, h⟩ := bind_eq_ok_iff.1 h
  rw [pure_eq_ok_iff] at h
  subst h
  unfold FieldDecl.wireName
  rcases given?_eq_ok_iff.1 hn with ⟨hd, rfl⟩ | ⟨d, s, hd, hs, rfl⟩
  · rw [hd]
    rfl
  · rw [hd, Option.bind_some, Directive.text?_of_nameValue hs]

/-! ## Defaults and expectations -/

/-- The descriptor has a default function exactly if some directive names one. -/
theorem namesDefault_iff {f : FieldDecl Value} {helpers : Option Value} {default : Option DefaultFill}
    (hn : (f.directives.map (·.name)).Nodup) (h : readDefault helpers f.directives = .ok default) :
    (default.bind (·.function)).isSome = f.namesDefault := by
  rw [Bool.eq_iff_iff, FieldDecl.namesDefault, List.any_eq_true]
  simp only [Bool.and_eq_true, decide_eq_true_eq]
  rcases given?_eq_ok_iff.1 h with ⟨hd, rfl⟩ | ⟨d, fill, hd, hread, rfl⟩
  · refine ⟨fun hs => by simp at hs, ?_⟩
    rintro ⟨e, he, hname, -⟩
    exact absurd ((directive?_eq_some_iff hn).2 ⟨he, hname⟩) (by simp [hd])
  · obtain ⟨vs, hvs, hread⟩ := bind_eq_ok_iff.1 hread
    have hlength := Directive.length_of_values hvs
    have hfill : fill.function.isSome = true ↔ vs ≠ [] := by
      cases vs with
      | nil =>
        cases hread
        simp
      | cons v vs =>
        obtain ⟨g, -, hread⟩ := bind_eq_ok_iff.1 hread
        cases hread
        simp
    obtain ⟨hmem, hname⟩ := (directive?_eq_some_iff hn).1 hd
    rw [Option.bind_some, hfill, ← List.length_pos_iff, hlength, List.length_pos_iff]
    constructor
    · intro hne
      exact ⟨d, hmem, hname, by simpa using hne⟩
    · rintro ⟨e, he, hename, hne⟩
      obtain rfl := List.inj_on_of_nodup_map hn hmem he (hname.trans hename.symm)
      simpa using hne

/-- Presence is expected, by a panic or by an error, exactly if the directive is given. -/
theorem explicit_of_readExpectation {ds : List (Directive Value)} {panic error : Bool}
    (h : readExpectation ds = .ok (panic, error)) : (panic || error) = isGiven ds "expect" := by
  obtain ⟨vs?, hvs, h⟩ := bind_eq_ok_iff.1 h
  rw [← isSome_of_given? hvs]
  cases vs? with
  | none =>
    cases h
    rfl
  | some vs =>
    dsimp only at h
    split at h
    · cases h
      rfl
    · split at h
      · cases h
        rfl
      · cases h

/-! ## Optionality and functions -/

namespace FieldDecl

variable (f : FieldDecl Value)

/-- The optionality that a field sets itself, by a flag or as required. -/
def optionality? : Option Bool :=
  match directive? f.directives "optional" with
  | some d => d.flagValue.toOption
  | none => if isGiven f.directives "required" then some false else none

/-- A function of its own converts the field in some direction. -/
def hasFunctions : Bool := isGiven f.directives "from_fn" || isGiven f.directives "to_fn"

end FieldDecl

theorem optionality_of_readOptionality {f : FieldDecl Value} {o : Option Bool}
    (h : readOptionality f.directives = .ok o) : o = f.optionality? := by
  obtain ⟨b?, hb, h⟩ := bind_eq_ok_iff.1 h
  unfold FieldDecl.optionality?
  rcases given?_eq_ok_iff.1 hb with ⟨hd, rfl⟩ | ⟨d, b, hd, hflag, rfl⟩
  · obtain ⟨u?, hu, h⟩ := bind_eq_ok_iff.1 h
    rw [pure_eq_ok_iff] at h
    rw [hd, ← h, ← isSome_of_given? hu]
    cases u? <;> rfl
  · rw [pure_eq_ok_iff] at h
    rw [hd, ← h]
    dsimp only
    rw [hflag]
    rfl

theorem isSome_of_readCustom {f : FieldDecl Value} {helpers : Option Value} {c : Option CustomFunctions}
    (h : readCustom helpers f.directives = .ok c) : c.isSome = f.hasFunctions := by
  simp only [readCustom, bind_eq_ok_iff, pure_eq_ok_iff] at h
  obtain ⟨_, -, _, -, rfl⟩ := h
  rw [FieldDecl.hasFunctions]
  split
  · next hgiven => exact hgiven.symm
  · next hgiven => exact (Bool.eq_false_iff.2 hgiven).symm

/-! ## Descriptors -/

/-- What the descriptor of a field keeps of the directives and the shape. -/
structure DescribedBy (f : FieldDecl Value) (g : FieldDescriptor) : Prop where
  collection : g.collection = g.shape.unwrapped.collection?
  expects : g.expectation.explicit = isGiven f.directives "expect"
  default : g.default.isSome = isGiven f.directives "default"
  namesDefault : (g.default.bind (·.function)).isSome = f.namesDefault
  custom : g.custom.isSome = f.hasFunctions
  transparent : g.transparent = isGiven f.directives "transparent"
  wireName : g.wireName = f.wireName
  optionality : g.explicitOptionality = f.optionality?
  wireOptional : ∃ s, g.wireOptional =
    g.shape.wireOptional s ⟨g.explicitOptionality, g.expectation.explicit, g.default.isSome, g.transparent⟩

theorem FieldDecl.describedBy_of_describe {f : FieldDecl Value} {s : Symbols} {helpers : Option Value} {b : Bool}
    {g : FieldDescriptor} (h : f.describe s helpers b = .ok g) : DescribedBy f g := by
  simp only [FieldDecl.describe, bind_eq_ok_iff, pure_eq_ok_iff] at h
  obtain ⟨_, hcheck, -, -, _, hoptional, _, hdefault, ⟨panic, error⟩, hexpect, -, -, _, hcustom, -, -, -, -, _, hwire,
    rfl⟩ := h
  exact {
    collection := rfl
    expects := explicit_of_readExpectation hexpect
    default := isSome_of_given? hdefault
    namesDefault := namesDefault_iff (Directive.nodup_of_checkAll hcheck) hdefault
    custom := isSome_of_readCustom hcustom
    transparent := rfl
    wireName := wireName_of_readWireName hwire
    optionality := optionality_of_readOptionality hoptional
    wireOptional := ⟨s, rfl⟩ }

end WireBridge
