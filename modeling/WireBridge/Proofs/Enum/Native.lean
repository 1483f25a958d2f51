import WireBridge.Proofs.Enum.Matching

/-!
# Declared and external enums convert alike

The variants of a declared enum are matched by a table that is made once. For an enum that is not declared the table is
made from the native enumeration on each call, variant by variant (`candidateTable_eq`). For an enumeration with the
same name and the same members (`NativeEnum.Declares`) both come to the same (`NativeEnum.declared_external_alike`):

* `WireEnum.ReadsAs` : a wire value comes to the first variant that has its name as a candidate, or drifts, or telling
  its name stops;
* `WireEnum.WritesAs` : a variant goes to the wire by its first candidate that the wire enum has, or drifts, or telling
  the value of a candidate stops.

What stops is a function of the wire enum. An enumeration with a member called `Name` has this member in the place of
the function: a value that is no member then has no name, which is no drift, but fails in both ways alike
(`NativeEnum.not_declared_external_alike_named`).
-/

set_option autoImplicit false

namespace WireBridge

/-! ## The two tables -/

/-- The table of an external enum is the one of a mapping with its variants. -/
theorem candidateTable_eq (enum wireName : String) (variants : List String) :
    candidateTable enum variants = (EnumMapping.of enum wireName variants).fromWireTable := by
  rw [candidateTable, EnumMapping.fromWireTable, EnumMapping.wireNames_of, List.foldl_flatMap]
  simp only [List.foldl_map]

namespace WireEnum

variable {V : Type} [Objects V] {enum v : String}

/-! ## From the wire -/

/-- What a wire value comes to as a variant. -/
inductive ReadsAs (w : WireEnum V) (enum : String) (variants : List String) (x : EnumValue V) :
    Except MatchFault String → Prop
  | variant {n v : String} (hn : w.wireName x = .ok n) (hv : IsFirst (n ∈ candidateNames enum ·) variants v) :
      ReadsAs w enum variants x (.ok v)
  | drift {n : String} (hn : w.wireName x = .ok n) (hnone : ∀ v ∈ variants, n ∉ candidateNames enum v) :
      ReadsAs w enum variants x (.error (.drift (.noVariant enum n)))
  | raised {e : Raised} (hx : w.wireName x = .error e) : ReadsAs w enum variants x (.error (.raised e))

theorem readsAs_matchFromWire (w : WireEnum V) (enum wireName : String) (variants : List String) (x : EnumValue V) :
    w.ReadsAs enum variants x (w.matchFromWire (EnumMapping.of enum wireName variants).fromWireTable x enum) := by
  cases hn : w.wireName x with
  | error e =>
    rw [matchFromWire_of_error hn]
    exact .raised hn
  | ok n =>
    rw [matchFromWire_eq hn, EnumMapping.lookup_fromWireTable]
    cases hv : variants.find? fun v => n ∈ candidateNames enum v with
    | none => exact .drift hn fun v hmem => by simpa using List.find?_eq_none.1 hv v hmem
    | some v => exact .variant hn ((find?_eq_some_iff_isFirst fun _ => decide_eq_true_iff).1 hv)

/-! ## To the wire -/

/-- What a variant with some names goes to the wire as. -/
inductive WritesAs (w : WireEnum V) (enum v : String) : List String → Except MatchFault (EnumValue V) → Prop
  | value {before after : List String} {n : String} {m : EnumValue V}
      (hbefore : ∀ k ∈ before, w.wireMember? k = .ok none) (hn : w.wireMember? n = .ok (some m)) :
      WritesAs w enum v (before ++ n :: after) (.ok m)
  | drift {names : List String} (hnone : ∀ n ∈ names, w.wireMember? n = .ok none) :
      WritesAs w enum v names (.error (.drift (.noWireName enum v)))
  | raised {before after : List String} {n : String} {e : Raised} (hbefore : ∀ k ∈ before, w.wireMember? k = .ok none)
      (hn : w.wireMember? n = .error e) : WritesAs w enum v (before ++ n :: after) (.error (.raised e))

/-- A name that the wire enum does not have makes no difference. -/
theorem WritesAs.cons {w : WireEnum V} {names : List String} {x : Except MatchFault (EnumValue V)} {n : String}
    (hn : w.wireMember? n = .ok none) (h : w.WritesAs enum v names x) : w.WritesAs enum v (n :: names) x := by
  cases h with
  | value hbefore hm => exact .value (List.forall_mem_cons.2 ⟨hn, hbefore⟩) hm
  | drift hnone => exact .drift (List.forall_mem_cons.2 ⟨hn, hnone⟩)
  | raised hbefore he => exact .raised (List.forall_mem_cons.2 ⟨hn, hbefore⟩) he

theorem writesAs_matchToWire (w : WireEnum V) (enum v : String) (names : List String) :
    w.WritesAs enum v names (w.matchToWire names enum v) := by
  induction names with
  | nil => exact .drift fun n hn => absurd hn List.not_mem_nil
  | cons n names ih =>
    cases hn : w.wireMember? n with
    | error e =>
      rw [matchToWire_cons_error hn]
      exact .raised (List.forall_mem_nil _) hn
    | ok m? =>
      cases m? with
      | some m =>
        rw [matchToWire_cons_some hn]
        exact .value (List.forall_mem_nil _) hn
      | none =>
        rw [matchToWire_cons_none hn]
        exact ih.cons hn

end WireEnum

/-! ## Native enumerations -/

namespace NativeEnum

/-- The enumeration has this name and these members, of which none is another name of an earlier one. -/
structure Declares {U : Type} [Objects U] (c : NativeEnum U) (enum : String) (variants : List String) : Prop where
  name : c.name = enum
  names : c.members.map (·.1) = variants
  distinct : variants.Nodup
  unaliased : Unaliased c.members

variable {U V : Type} [Objects U] [Objects V] {c : NativeEnum U} {enum : String} {variants : List String}

theorem Declares.variants_eq (hc : c.Declares enum variants) : c.variants = variants := by
  have hnames : (c.members.map (·.1)).Nodup := hc.names ▸ hc.distinct
  rw [NativeEnum.variants, ← hc.names, List.filter_eq_self]
  intro n hn
  rw [memberOf?_of_unaliased hnames hc.unaliased, if_pos hn]
  exact decide_eq_true rfl

theorem Declares.fromWire_eq (hc : c.Declares enum variants) (wireName : String) (w : WireEnum V) (x : EnumValue V) :
    c.fromWire w x = w.matchFromWire (EnumMapping.of enum wireName variants).fromWireTable x enum := by
  rw [fromWire, WireEnum.enumFromWire, hc.variants_eq, hc.name, candidateTable_eq enum wireName]

/-- A native enumeration and a declared enum of the same name and variants: a wire value comes to the same by both, the
first variant that has its name, and a variant goes to the wire as the same, by its first candidate there. -/
theorem declared_external_alike (hc : c.Declares enum variants) (wireName : String) (w : WireEnum V) :
    let mapping := EnumMapping.of enum wireName variants
    (∀ x, c.fromWire w x = w.matchFromWire mapping.fromWireTable x enum ∧
        w.ReadsAs enum variants x (c.fromWire w x)) ∧
      ∀ v ∈ variants, ∃ names, mapping.candidates? v = some names ∧
        c.toWire w v = w.matchToWire names enum v ∧ w.WritesAs enum v names (c.toWire w v) := by
  intro mapping
  refine ⟨fun x => ?_, fun v hv => ?_⟩
  · rw [hc.fromWire_eq wireName]
    exact ⟨rfl, w.readsAs_matchFromWire enum wireName variants x⟩
  · have hto : c.toWire w v = w.matchToWire (candidateNames enum v) enum v := by
      rw [toWire, WireEnum.enumToWire, hc.name]
    refine ⟨candidateNames enum v, EnumMapping.candidates?_eq_some_iff.2 ⟨hv, rfl⟩, hto, ?_⟩
    rw [hto]
    exact w.writesAs_matchToWire enum v (candidateNames enum v)

/-- The prefixed name of the first member is the bare name of the second. -/
def clashing : NativeEnum Object := ⟨"Status", [("Active", ⟨0, .integer 1⟩), ("STATUS_ACTIVE", ⟨1, .integer 2⟩)]⟩

/-- The clashing name comes back as the first member by both ways, and both members go to the wire by it. -/
theorem declared_external_alike_clashing :
    let w := WireEnum.enumeration [("STATUS_ACTIVE", (⟨0, .integer 0⟩ : Object))]
    let mapping := EnumMapping.of "Status" "StatusCode" ["Active", "STATUS_ACTIVE"]
    clashing.Declares "Status" ["Active", "STATUS_ACTIVE"] ∧
      clashing.fromWire w (.member "STATUS_ACTIVE") = .ok "Active" ∧
      w.matchFromWire mapping.fromWireTable (.member "STATUS_ACTIVE") "Status" = .ok "Active" ∧
      ∀ v ∈ ["Active", "STATUS_ACTIVE"], ∃ names, mapping.candidates? v = some names ∧
        w.matchToWire names "Status" v = .ok (.member "STATUS_ACTIVE") := by
  intro w mapping
  have hc : clashing.Declares "Status" ["Active", "STATUS_ACTIVE"] :=
    ⟨rfl, rfl, by decide, by unfold Unaliased; decide⟩
  obtain ⟨hfrom, hto⟩ := declared_external_alike hc "StatusCode" w
  have hactive : clashing.fromWire w (.member "STATUS_ACTIVE") = .ok "Active" := by decide +kernel
  have hwritten : ∀ v ∈ ["Active", "STATUS_ACTIVE"], clashing.toWire w v = .ok (.member "STATUS_ACTIVE") := by
    decide +kernel
  refine ⟨hc, hactive, (hfrom _).1.symm.trans hactive, fun v hv => ?_⟩
  obtain ⟨names, hnames, halike, -⟩ := hto v hv
  exact ⟨names, hnames, halike.symm.trans (hwritten v hv)⟩

/-- A wire value that has no variant is not always a drift. -/
theorem not_declared_external_alike_named : ¬ ∀ (c : NativeEnum Object) (enum : String) (variants : List String),
    c.Declares enum variants → ∀ (w : WireEnum Object) (x : EnumValue Object),
      let table := (EnumMapping.of enum enum variants).fromWireTable
      (∃ v, c.fromWire w x = .ok v ∧ w.matchFromWire table x enum = .ok v) ∨
        ∃ drift, c.fromWire w x = .error (.drift drift) ∧ w.matchFromWire table x enum = .error (.drift drift) := by
  intro hall
  have hc : NativeEnum.Declares ⟨"Direction", [("Up", (⟨0, .integer 1⟩ : Object))]⟩ "Direction" ["Up"] :=
    ⟨rfl, rfl, by decide, List.pairwise_singleton _ _⟩
  rcases hall _ _ _ hc (.enumeration [("Name", ⟨0, .integer 1⟩)]) (.plain ⟨1, .integer 5⟩) with
    ⟨v, hv, -⟩ | ⟨drift, hdrift, -⟩
  · cases hv
  · cases hdrift

end NativeEnum

end WireBridge
