import WireBridge.Proofs.Assembly.Stages
import WireBridge.Proofs.Descriptor.Reading

/-!
# Fields ignored in bulk

A record can ignore some of its fields by their names, in one directive of its own. `RecordDecl.ignoringEach` is the
record without this directive, where every named field ignores itself.

Both are described alike under any table (`RecordDecl.IgnoresNamed.describe_eq`): the names are all known, no other
directive of the record is read differently, and a field does not tell who ignores it. The tables of the two
definition files agree, since the new directives are none of those that a search in a table looks for, so both files
come to the same assembly with the same log (`RecordGap.assemble_ignoringEach`).
-/

set_option autoImplicit false

namespace WireBridge

/-- The directive by which a field ignores itself. -/
def ignoreDirective : Directive Value := ⟨"ignore", []⟩

/-- The directive by which a record ignores the fields of some names. -/
def ignoreNames (names : List String) : Directive Value := ⟨"ignore", names.map fun n => ⟨none, .text n⟩⟩

/-- The field ignoring itself. -/
def FieldDecl.ignoringItself (f : FieldDecl Value) : FieldDecl Value :=
  if isGiven f.directives "ignore" then f else { f with directives := f.directives ++ [ignoreDirective] }

namespace RecordDecl

variable (r : RecordDecl Value) (names : List String)

/-- The record without the directive to ignore fields, its fields of some names ignoring themselves. -/
def ignoringEach : RecordDecl Value :=
  { r with
    fields := r.fields.map fun f => if names.contains f.name then f.ignoringItself else f
    directives := r.directives.filter (·.name ≠ "ignore") }

/-- The record, which is no newtype, ignores the fields of some names, all of which it has. -/
structure IgnoresNamed : Prop where
  newtype : r.newtype = false
  once : r.directives.filter (·.name = "ignore") = [ignoreNames names]
  nonempty : names ≠ []
  known : ∀ n ∈ names, n ∈ r.fields.map (·.name)

end RecordDecl

/-! ## Fields -/

section Appended

variable {ds : List (Directive Value)} (hnone : isGiven ds "ignore" = false)

include hnone

theorem filter_append_ignore : (ds ++ [ignoreDirective]).filter (·.name ≠ "ignore") = ds := by
  rw [isGiven_eq_any, List.any_eq_false] at hnone
  rw [List.filter_append, List.filter_eq_self.2 (by simpa using hnone)]
  exact List.append_nil _

theorem directive?_append_ignore : directive? (ds ++ [ignoreDirective]) "ignore" = some ignoreDirective := by
  have habsent : directive? ds "ignore" = none := by simpa [isGiven] using hnone
  rw [directive?] at habsent
  rw [directive?, List.find?_append, habsent]
  rfl

theorem sameApart_append_ignore : SameApart "ignore" (ds ++ [ignoreDirective]) ds := by
  intro n hn
  rw [← sameApart_filter_ne "ignore" _ n hn, filter_append_ignore hnone]

theorem checkAll_append_ignore :
    Directive.checkAll .field (ds ++ [ignoreDirective]) = Directive.checkAll .field ds := by
  have honce : ((ds ++ [ignoreDirective]).filter (·.name = "ignore")).length ≤ 1 := by
    rw [isGiven_eq_any, List.any_eq_false] at hnone
    rw [List.filter_append, List.filter_eq_nil_iff.2 (by simpa using hnone)]
    exact le_rfl
  rw [← Directive.checkAll_filter_ne (by decide : "ignore" ∈ DirectiveHost.field.directives) honce,
    filter_append_ignore hnone]

theorem checkBare_append_ignore : checkBare (ds ++ [ignoreDirective]) = checkBare ds := by
  have habsent : directive? ds "ignore" = none := by simpa [isGiven] using hnone
  refine checkBare_congr fun n _ => ?_
  by_cases hn : n = "ignore"
  · rw [hn, given?, given?.eq_def ds, directive?_append_ignore hnone, habsent]
    rfl
  · rw [given?_congr (sameApart_append_ignore hnone n hn)]

end Appended

namespace FieldDecl

variable (f : FieldDecl Value)

theorem name_ignoringItself : f.ignoringItself.name = f.name := by
  unfold ignoringItself
  split <;> rfl

theorem alike_ignoringItself : f.Alike f.ignoringItself := by
  unfold ignoringItself
  split
  · exact Alike.refl f
  · exact ⟨rfl, rfl, by simp [ignoreDirective], by simp [namesDefault, ignoreDirective]⟩

/-- A field that ignores itself is described like one that its record ignores. -/
theorem describe_ignoringItself (s : Symbols) (helpers : Option Value) :
    f.ignoringItself.describe s helpers false = f.describe s helpers true := by
  unfold ignoringItself
  split
  · next hgiven =>
    exact describe_congr_of_sameApart rfl rfl rfl (fun _ _ => rfl) rfl (by rw [hgiven]; rfl) s helpers
  · next hgiven =>
    have hnone : isGiven f.directives "ignore" = false := Bool.eq_false_iff.2 hgiven
    have hignored : (isGiven (f.directives ++ [ignoreDirective]) "ignore" || false) =
        (isGiven f.directives "ignore" || true) := by
      rw [isGiven, directive?_append_ignore hnone, Bool.or_true]
      rfl
    exact describe_congr_of_sameApart (f := { f with directives := f.directives ++ [ignoreDirective] }) (g := f) rfl rfl
      (checkAll_append_ignore hnone) (sameApart_append_ignore hnone) (checkBare_append_ignore hnone) hignored s helpers

end FieldDecl

/-! ## Records -/

/-- A record whose own directives are read, and ignore no unknown field, is described by its fields. -/
theorem RecordDecl.describe_of_readHead {r : RecordDecl Value} {helpers : Option Value} {head : RecordHead}
    (hhead : r.readHead helpers = .ok head) (hknown : r.unknownIgnored? head.ignored = none) (s : Symbols) :
    r.describe s helpers = r.describeFields s helpers head.ignored >>= fun fields =>
      (errorFunctionFault? r.name head fields).elim
        (.ok ⟨r.name, head.wireName, fields, head.errorType, head.errorFunction, r.newtype, r.comment⟩) .error := by
  unfold RecordDecl.describe
  rw [hhead]
  simp only [placedAt, Except.mapError, bind, Except.bind, hknown]
  cases r.describeFields s helpers head.ignored with
  | error e => rfl
  | ok fields =>
    dsimp only
    cases errorFunctionFault? r.name head fields <;> rfl

theorem RecordDecl.describeFields_ignoringEach (r : RecordDecl Value) (names : List String) (s : Symbols)
    (helpers : Option Value) :
    (r.ignoringEach names).describeFields s helpers [] = r.describeFields s helpers names := by
  unfold RecordDecl.describeFields RecordDecl.ignoringEach
  rw [List.mapM_map]
  refine mapM_congr fun f _ => ?_
  rw [Function.comp_apply]
  by_cases hnamed : names.contains f.name = true
  · rw [if_pos hnamed, hnamed, f.name_ignoringItself, ← f.describe_ignoringItself s helpers]
    rfl
  · rw [if_neg hnamed, Bool.eq_false_iff.2 hnamed]
    rfl

namespace RecordDecl.IgnoresNamed

variable {r : RecordDecl Value} {names : List String} (h : r.IgnoresNamed names)

include h

theorem given?_ignore : given? r.directives "ignore" (·.values 1 none) = .ok (some (names.map .text)) := by
  have hnone : (names.map fun n => (⟨none, .text n⟩ : Argument Value)).findSome? (·.name) = none := by
    simp [List.findSome?_eq_none_iff]
  have hlength : ¬ (names.length < 1) := by
    simpa [List.length_eq_zero_iff] using h.nonempty
  have hvalues : (ignoreNames names).values 1 none = .ok (names.map .text) := by
    simp [Directive.values, ignoreNames, hnone, hlength, Function.comp_def]
  rw [given?, directive?_of_filter h.once, Option.mapM_some, hvalues]
  rfl

/-- Both heads stop alike, or say the same but for the names. -/
theorem readHead_cases (helpers : Option Value) :
    (∃ e, r.readHead helpers = .error e ∧ (r.ignoringEach names).readHead helpers = .error e) ∨
      ∃ head, head.ignored = names ∧ r.readHead helpers = .ok head ∧
        (r.ignoringEach names).readHead helpers = .ok { head with ignored := [] } := by
  have hcheck : Directive.checkAll .record (r.ignoringEach names).directives =
      Directive.checkAll .record r.directives :=
    Directive.checkAll_filter_ne (by decide) (by rw [h.once]; exact le_rfl)
  have hsame : SameApart "ignore" (r.ignoringEach names).directives r.directives :=
    sameApart_filter_ne "ignore" r.directives
  have hnone : directive? (r.ignoringEach names).directives "ignore" = none := by
    simp [directive?, RecordDecl.ignoringEach]
  have hplain : (names.map Value.text).map Value.plain = names := by simp [Function.comp_def, Value.plain]
  unfold RecordDecl.readHead
  rw [hcheck, readWireName_congr (hsame "rename" (by decide)), given?_congr (hsame "error_type" (by decide)),
    given?_congr (hsame "error_fn" (by decide)), h.given?_ignore, given?.eq_def _ "ignore", hnone, h.newtype,
    show (r.ignoringEach names).newtype = false from h.newtype, show (r.ignoringEach names).name = r.name from rfl]
  -- All that is read is the same on both sides, so both stop at the same step or at none.
  rcases Directive.checkAll .record r.directives with e | u
  · exact .inl ⟨e, rfl, rfl⟩
  rcases readWireName r.directives r.name with e | wireName
  · exact .inl ⟨e, rfl, rfl⟩
  rcases given? r.directives "error_type" (·.reference helpers) with e | errorType
  · exact .inl ⟨e, rfl, rfl⟩
  rcases given? r.directives "error_fn" (·.reference helpers) with e | errorFunction
  · exact .inl ⟨e, rfl, rfl⟩
  exact .inr ⟨⟨wireName, errorType, errorFunction, _⟩, hplain, rfl, rfl⟩

theorem unknownIgnored?_eq_none : r.unknownIgnored? names = none := by
  have hfilter : names.filter (· ∉ r.fields.map (·.name)) = [] := by
    rw [List.filter_eq_nil_iff]
    intro n hn
    simpa using h.known n hn
  rw [RecordDecl.unknownIgnored?, hfilter]
  simp [Text.sortTexts]

theorem describe_eq (s : Symbols) (helpers : Option Value) :
    (r.ignoringEach names).describe s helpers = r.describe s helpers := by
  rcases h.readHead_cases helpers with ⟨e, hr, hr'⟩ | ⟨head, hignored, hr, hr'⟩
  · unfold RecordDecl.describe
    rw [hr, hr']
    rfl
  · have hnone : (r.ignoringEach names).unknownIgnored? [] = none := by
      simp [RecordDecl.unknownIgnored?, Text.sortTexts]
    rw [RecordDecl.describe_of_readHead hr (by rw [hignored]; exact h.unknownIgnored?_eq_none),
      RecordDecl.describe_of_readHead hr' hnone, hignored, RecordDecl.describeFields_ignoringEach]
    rfl

theorem attempt_eq (scope : Scope) : attemptRecord scope (r.ignoringEach names) = attemptRecord scope r := by
  have hname : (r.ignoringEach names).name = r.name := rfl
  unfold attemptRecord RecordDecl.decisions RecordDecl.plan
  rw [h.describe_eq, hname]

end RecordDecl.IgnoresNamed

/-! ## Definition files -/

theorem RecordDecl.alike_ignoringEach (r : RecordDecl Value) (names : List String) :
    r.Alike (r.ignoringEach names) where
  name := rfl
  newtype := rfl
  fields := by
    refine List.forall₂_map_right_iff.2 (List.forall₂_same.2 fun f _ => ?_)
    split
    · exact f.alike_ignoringItself
    · exact FieldDecl.Alike.refl f

namespace Definitions

variable {d d' : Definitions Value} {settings : Settings}

/-- An assembly depends on its records by the attempts to plan them. -/
theorem assemble_congr (he : d.enums = d'.enums)
    (hr : d.records.map (attemptRecord (d.scope settings)) = d'.records.map (attemptRecord (d'.scope settings))) :
    assemble d settings = assemble d' settings := by
  have hnames : d.records.map (·.name) = d'.records.map (·.name) := by
    have hmap := congrArg (List.map Attempt.name) hr
    simpa [List.map_map, Function.comp_def, attemptRecord] using hmap
  have hfailed : failedTypes (.ofDefinitions d) = failedTypes (.ofDefinitions d') := by
    funext records enums
    simp only [failedTypes, Symbols.names, Symbols.ofDefinitions, hnames, he]
  simp only [scope, symbols] at hr
  unfold assemble
  simp only [hr, he, hfailed]

end Definitions

/-- A definition file with a gap among its records. -/
structure RecordGap where
  enums : List (EnumDecl Value)
  before : List (RecordDecl Value)
  after : List (RecordDecl Value)
  options : List (OptionDecl Value)

namespace RecordGap

variable (g : RecordGap)

/-- The definition file with a record in the gap. -/
def fill (r : RecordDecl Value) : Definitions Value := ⟨g.enums, g.before ++ r :: g.after, g.options⟩

theorem agree_ignoringEach (r : RecordDecl Value) (names : List String) :
    (g.fill r).symbols.Agree (g.fill (r.ignoringEach names)).symbols Set.univ := by
  refine Symbols.agree_of_alike rfl (List.rel_append ?_ (.cons (r.alike_ignoringEach names) ?_)) <;>
  exact List.forall₂_same.2 fun q _ => RecordDecl.Alike.refl q

/-- A record that ignores fields by their names can be written with fields that ignore themselves. -/
theorem assemble_ignoringEach (r : RecordDecl Value) (names : List String) (settings : Settings)
    (h : r.IgnoresNamed names) :
    (r.ignoringEach names).describe (g.fill (r.ignoringEach names)).symbols settings.helpers =
        r.describe (g.fill r).symbols settings.helpers ∧
      assemble (g.fill (r.ignoringEach names)) settings = assemble (g.fill r) settings := by
  have hagree := g.agree_ignoringEach r names
  have hattempt : attemptRecord ((g.fill (r.ignoringEach names)).scope settings) =
      attemptRecord ((g.fill r).scope settings) := by
    funext q
    unfold attemptRecord
    exact congrArg₂ _ (RecordDecl.decisions_congr hagree settings.helpers fun _ _ _ _ => Set.mem_univ _).symm
      (RecordDecl.plan_congr hagree settings.helpers fun _ _ _ _ => Set.mem_univ _).symm
  refine ⟨?_, Definitions.assemble_congr rfl ?_⟩
  · rw [h.describe_eq]
    exact (RecordDecl.describe_congr hagree (fun _ _ _ _ => Set.mem_univ _) _).symm
  · rw [hattempt]
    simp only [fill, List.map_append, List.map_cons, h.attempt_eq]

/-- `Profile` ignores two fields, one of which ignores itself too, and has an error type. -/
def accounts : RecordGap where
  enums := []
  before := []
  after := [.plain "Account" [("profile", .named "Profile")]]
  options := []

def profile : RecordDecl Value :=
  ⟨"Profile", [
      ⟨"nick", .named "string", none, [⟨"expect", []⟩, ⟨"error_fn", [⟨none, .text "no_nick"⟩]⟩]⟩,
      ⟨"cache", .named "bytes", none, []⟩,
      ⟨"notes", .mk "list" [.named "string"] false, none, [⟨"rename", [⟨none, .text "memo"⟩]⟩, ignoreDirective]⟩],
    none, [ignoreNames ["notes", "cache"], ⟨"error_type", [⟨none, .text "ProfileError"⟩]⟩], false⟩

theorem assemble_ignoringEach_profile : profile.IgnoresNamed ["notes", "cache"] ∧
    (profile.ignoringEach ["notes", "cache"]).fields.map (·.directives.length) = [2, 1, 2] ∧
    (assemble (accounts.fill (profile.ignoringEach ["notes", "cache"])) sampleSettings).errors = [] ∧
    assemble (accounts.fill (profile.ignoringEach ["notes", "cache"])) sampleSettings =
      assemble (accounts.fill profile) sampleSettings := by
  have h : profile.IgnoresNamed ["notes", "cache"] := ⟨by decide, by decide, by decide, by decide⟩
  refine ⟨h, by decide, ?_, (accounts.assemble_ignoringEach profile _ sampleSettings h).2⟩
  decide +kernel

end RecordGap

end WireBridge
