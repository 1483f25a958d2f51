import WireBridge.Proofs.Descriptor.Directives
import WireBridge.Proofs.Descriptor.Placement
import WireBridge.Proofs.Problem.Wording

/-!
# What a description reads of directives

A directive that is the only one of its name can be left out of the check of its host (`Directive.checkAll_filter_ne`).
After the check a directive is only looked up by its name, so lists in which the same directives are found are read
alike.

* `SameApart name ds es` : the same directives are found in `ds` and `es`, but for those of one name;
* `FieldDecl.describe_congr_of_sameApart` : fields with the same directives but for how they are ignored have the same
  description, if they are ignored alike;
* `directive?_perm` : the order of directives with distinct names has no influence, so that fields, records and enums
  whose directives stand in another order are described alike or stop at the same place (`FieldDecl.samePlaces_perm`,
  `RecordDecl.samePlaces_readHead_perm`, `EnumDecl.samePlaces_readWireName_perm`).
-/

set_option autoImplicit false

namespace WireBridge

/-! ## The check -/

namespace Directive

variable {host : DirectiveHost} {seen seen' : List String} {ds es : List (Directive Value)}

theorem firstFault?_congr (h : ∀ d ∈ ds, d.name ∈ seen ↔ d.name ∈ seen') :
    firstFault? host seen ds = firstFault? host seen' ds := by
  induction ds generalizing seen seen' with
  | nil => rfl
  | cons d ds ih =>
    obtain ⟨hd, hds⟩ := List.forall_mem_cons.1 h
    have hrest : firstFault? host (d.name :: seen) ds = firstFault? host (d.name :: seen') ds :=
      ih fun e he => by rw [List.mem_cons, List.mem_cons, hds e he]
    rw [firstFault?, firstFault?, hrest]
    simp only [hd]

/-- A directive that its host has and that is the only one of its name can be left out of the check. -/
theorem firstFault?_filter_ne {n : String} (hhost : n ∈ host.directives) (hseen : n ∉ seen)
    (honce : (ds.filter (·.name = n)).length ≤ 1) :
    firstFault? host seen (ds.filter (·.name ≠ n)) = firstFault? host seen ds := by
  induction ds generalizing seen with
  | nil => rfl
  | cons d ds ih =>
    by_cases hd : d.name = n
    · subst hd
      rw [List.filter_cons_of_pos (by simp), List.length_cons] at honce
      have hnone : ∀ e ∈ ds, e.name ≠ d.name := by
        have hnil : ds.filter (·.name = d.name) = [] := List.length_eq_zero_iff.1 (by omega)
        simpa using hnil
      rw [List.filter_cons_of_neg (by simp), List.filter_eq_self.2 (by simpa using hnone), firstFault?,
        if_neg (not_not.2 hhost), if_neg hseen]
      refine firstFault?_congr fun e he => ?_
      rw [List.mem_cons, or_iff_right (hnone e he)]
    · rw [List.filter_cons_of_neg (by simpa using hd)] at honce
      rw [List.filter_cons_of_pos (by simpa using hd), firstFault?, firstFault?,
        ih (by simpa [hseen] using Ne.symm hd) honce]

theorem checkAll_filter_ne {n : String} (hhost : n ∈ host.directives) (honce : (ds.filter (·.name = n)).length ≤ 1) :
    checkAll host (ds.filter (·.name ≠ n)) = checkAll host ds := by
  rw [checkAll, checkAll, firstFault?_filter_ne hhost List.not_mem_nil honce]

/-- Directives in another order pass the check together, or stop without a place. -/
theorem samePlaces_checkAll_perm (h : ds.Perm es) : SamePlaces (checkAll host ds) (checkAll host es) := by
  have hok : checkAll host ds = .ok () ↔ checkAll host es = .ok () := by
    rw [checkAll_eq_ok_iff, checkAll_eq_ok_iff, (h.map _).nodup_iff]
    exact and_congr_left' ⟨fun hall d hd => hall d (h.mem_iff.2 hd), fun hall d hd => hall d (h.mem_iff.1 hd)⟩
  cases hds : checkAll host ds with
  | ok u => exact .of_eq (hok.1 hds).symm
  | error e =>
    cases hes : checkAll host es with
    | ok u => exact absurd (hok.2 hes) (by simp [hds])
    | error e' => exact samePlaces_error ((unplaced_checkAll _ _ e hds).trans (unplaced_checkAll _ _ e' hes).symm)

end Directive

/-! ## Look-ups -/

section Lookup

variable {ds es : List (Directive Value)}

/-- The same directives are found, but for those of one name. -/
def SameApart (name : String) (ds es : List (Directive Value)) : Prop :=
  ∀ n, n ≠ name → directive? ds n = directive? es n

theorem sameApart_filter_ne (name : String) (ds : List (Directive Value)) :
    SameApart name (ds.filter (·.name ≠ name)) ds := by
  intro n hn
  rw [directive?, directive?, List.find?_filter]
  congr 1
  funext d
  by_cases hd : d.name = n <;> simp [hd, hn]

/-- The order of directives with distinct names has no influence on which one is found. -/
theorem directive?_perm (h : ds.Perm es) (hn : (ds.map (·.name)).Nodup) : directive? ds = directive? es := by
  funext n
  refine Option.ext fun d => ?_
  rw [directive?_eq_some_iff hn, directive?_eq_some_iff ((h.map _).nodup_iff.1 hn), h.mem_iff]

theorem directive?_of_filter {n : String} {d : Directive Value} (h : ds.filter (·.name = n) = d :: es) :
    directive? ds n = some d := by
  rw [directive?, ← List.head?_filter, h, List.head?_cons]

theorem given?_congr {α : Type} {n : String} (h : directive? ds n = directive? es n)
    (read : Directive Value → Except ConfigError α) : given? ds n read = given? es n read := by
  rw [given?, given?, h]

theorem isGiven_congr {n : String} (h : directive? ds n = directive? es n) : isGiven ds n = isGiven es n := by
  rw [isGiven, isGiven, h]

theorem checkExclusive_congr (h : ∀ n ∈ ["optional", "required", "transparent", "from_fn", "to_fn"],
    directive? ds n = directive? es n) : checkExclusive ds = checkExclusive es := by
  simp only [List.forall_mem_cons] at h
  obtain ⟨ho, hr, ht, hf, hw, -⟩ := h
  simp only [checkExclusive, isGiven_congr ho, isGiven_congr hr, isGiven_congr ht, isGiven_congr hf, isGiven_congr hw]

theorem readOptionality_congr (ho : directive? ds "optional" = directive? es "optional")
    (hr : directive? ds "required" = directive? es "required") : readOptionality ds = readOptionality es := by
  rw [readOptionality, readOptionality, given?_congr ho, given?_congr hr]

theorem readDefault_congr (h : directive? ds "default" = directive? es "default") (helpers : Option Value) :
    readDefault helpers ds = readDefault helpers es :=
  given?_congr h _

theorem readExpectation_congr (h : directive? ds "expect" = directive? es "expect") :
    readExpectation ds = readExpectation es := by
  rw [readExpectation, readExpectation, given?_congr h]

theorem readCustom_congr (hf : directive? ds "from_fn" = directive? es "from_fn")
    (ht : directive? ds "to_fn" = directive? es "to_fn") (helpers : Option Value) :
    readCustom helpers ds = readCustom helpers es := by
  simp only [readCustom, given?_congr hf, given?_congr ht, isGiven_congr hf, isGiven_congr ht]

/-- Of a directive without arguments the check asks only whether it is written well. -/
theorem checkBare_congr (h : ∀ n ∈ ["transparent", "ignore", "enum"],
    (given? ds n Directive.bare >>= fun _ => pure () : Except ConfigError Unit) =
      given? es n Directive.bare >>= fun _ => pure ()) : checkBare ds = checkBare es := by
  simp only [List.forall_mem_cons] at h
  obtain ⟨ht, hi, he, -⟩ := h
  have hunfold (as : List (Directive Value)) : checkBare as =
      ((given? as "transparent" Directive.bare >>= fun _ => pure ()) >>= fun _ : Unit =>
        (given? as "ignore" Directive.bare >>= fun _ => pure ()) >>= fun _ : Unit =>
          (given? as "enum" Directive.bare >>= fun _ => pure ()) >>= fun _ : Unit => pure ()) := rfl
  rw [hunfold, hunfold, ht, hi, he]

theorem readKey_congr (h : directive? ds "key" = directive? es "key") (shape : Shape) :
    readKey ds shape = readKey es shape :=
  given?_congr h _

theorem readWireName_congr (h : directive? ds "rename" = directive? es "rename") (name : String) :
    readWireName ds name = readWireName es name := by
  rw [readWireName, readWireName, given?_congr h]

end Lookup

/-! ## Descriptions -/

/-- Fields with the same directives, but for how they are ignored, have the same description if they are ignored
alike. -/
theorem FieldDecl.describe_congr_of_sameApart {f g : FieldDecl Value} (hname : f.name = g.name)
    (htype : f.type = g.type)
    (hcheck : Directive.checkAll .field f.directives = Directive.checkAll .field g.directives)
    (hsame : SameApart "ignore" f.directives g.directives) (hbare : checkBare f.directives = checkBare g.directives)
    {b c : Bool} (hignored : (isGiven f.directives "ignore" || b) = (isGiven g.directives "ignore" || c)) (s : Symbols)
    (helpers : Option Value) : f.describe s helpers b = g.describe s helpers c := by
  have hexclusive : checkExclusive f.directives = checkExclusive g.directives :=
    checkExclusive_congr fun n hn => hsame n (by rintro rfl; exact absurd hn (by decide))
  simp only [FieldDecl.describe, hname, htype, hcheck, hexclusive, hbare, hignored,
    readOptionality_congr (hsame "optional" (by decide)) (hsame "required" (by decide)),
    readDefault_congr (hsame "default" (by decide)), readExpectation_congr (hsame "expect" (by decide)),
    given?_congr (hsame "error_fn" (by decide)),
    readCustom_congr (hsame "from_fn" (by decide)) (hsame "to_fn" (by decide)),
    isGiven_congr (hsame "transparent" (by decide)), isGiven_congr (hsame "enum" (by decide)),
    readKey_congr (hsame "key" (by decide)), readWireName_congr (hsame "rename" (by decide))]

/-- A field whose directives do not pass the check has no description. -/
theorem FieldDecl.describe_of_checkAll {f : FieldDecl Value} {e : ConfigError}
    (h : Directive.checkAll .field f.directives = .error e) (s : Symbols) (helpers : Option Value) (b : Bool) :
    f.describe s helpers b = .error e :=
  bind_eq_error_iff.2 (.inl h)

theorem FieldDecl.samePlaces_perm {f g : FieldDecl Value} (hname : f.name = g.name) (htype : f.type = g.type)
    (h : f.directives.Perm g.directives) (s : Symbols) (helpers : Option Value) (b : Bool) :
    SamePlaces (f.describe s helpers b) (g.describe s helpers b) := by
  rcases (Directive.samePlaces_checkAll_perm h).cases with ⟨u, hf, hg⟩ | ⟨e, e', hf, hg, hpath⟩
  · have hsame := directive?_perm h (Directive.nodup_of_checkAll hf)
    refine .of_eq (describe_congr_of_sameApart hname htype (hf.trans hg.symm) (fun n _ => congrFun hsame n) ?_ ?_ s
      helpers)
    · simp only [checkBare, given?, hsame]
    · rw [isGiven_congr (congrFun hsame _)]
  · rw [describe_of_checkAll hf, describe_of_checkAll hg]
    exact samePlaces_error hpath

theorem RecordDecl.samePlaces_readHead_perm {r q : RecordDecl Value} (hname : r.name = q.name)
    (hnewtype : r.newtype = q.newtype) (h : r.directives.Perm q.directives) (helpers : Option Value) :
    SamePlaces (r.readHead helpers) (q.readHead helpers) := by
  refine (Directive.samePlaces_checkAll_perm h).bind fun u hr _ => .of_eq ?_
  have hsame := directive?_perm h (Directive.nodup_of_checkAll hr)
  simp only [readWireName, given?, hsame, hname, hnewtype]

theorem EnumDecl.samePlaces_readWireName_perm {e e' : EnumDecl Value} (hname : e.name = e'.name)
    (hvariants : e.variants = e'.variants) (h : e.directives.Perm e'.directives) :
    SamePlaces e.readWireName e'.readWireName := by
  refine (Directive.samePlaces_checkAll_perm h).bind fun u he _ => .of_eq ?_
  have hsame := directive?_perm h (Directive.nodup_of_checkAll he)
  have hfault : e.variantFault? = e'.variantFault? := by
    funext v
    rw [variantFault?, variantFault?, hname]
  simp only [readWireName_congr (congrFun hsame _), hfault, hvariants, hname]

end WireBridge
