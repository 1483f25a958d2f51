import WireBridge.Proofs.Assembly.Stages
import WireBridge.Proofs.Descriptor.Reading

/-!
# Order of directives

The order in which a field, a record or an enum has its directives has no influence on an assembly but on the wording
of problems. `Definitions.Reordered d d'` : the definitions `d'` are `d` with the directives of some declarations in
another order.

Either the directives of a host pass their check in both orders and are read alike, or they fail it in both, perhaps on
another directive but at the same place. So a declaration is planned to the same plan or stops at the same place
(`RecordDecl.Reordered.samePlaces_plan`, `EnumDecl.Reordered.samePlaces_plan`), and what follows only looks at the
plans. The search for type defaults, which goes back to the directives of other declarations, asks for their presence
only (`RecordDecl.Reordered.alike`).
-/

set_option autoImplicit false

namespace WireBridge

/-! ## Declarations in another order -/

/-- The same field with its directives in another order. -/
structure FieldDecl.Reordered (f g : FieldDecl Value) : Prop where
  name : f.name = g.name
  type : f.type = g.type
  comment : f.comment = g.comment
  directives : f.directives.Perm g.directives

/-- The same record with its directives and those of its fields in another order. -/
structure RecordDecl.Reordered (r q : RecordDecl Value) : Prop where
  name : r.name = q.name
  fields : List.Forall₂ FieldDecl.Reordered r.fields q.fields
  comment : r.comment = q.comment
  directives : r.directives.Perm q.directives
  newtype : r.newtype = q.newtype

/-- The same enum with its directives in another order. -/
structure EnumDecl.Reordered (e e' : EnumDecl Value) : Prop where
  name : e.name = e'.name
  variants : e.variants = e'.variants
  comment : e.comment = e'.comment
  directives : e.directives.Perm e'.directives

/-- The same declarations with their directives in another order. -/
structure Definitions.Reordered (d d' : Definitions Value) : Prop where
  enums : List.Forall₂ EnumDecl.Reordered d.enums d'.enums
  records : List.Forall₂ RecordDecl.Reordered d.records d'.records

theorem FieldDecl.Reordered.alike {f g : FieldDecl Value} (h : f.Reordered g) : f.Alike g where
  name := h.name
  type := h.type
  enum := h.directives.any_eq
  namesDefault := h.directives.any_eq

theorem RecordDecl.Reordered.alike {r q : RecordDecl Value} (h : r.Reordered q) : r.Alike q where
  name := h.name
  newtype := h.newtype
  fields := h.fields.imp fun _ _ hfg => hfg.alike

/-! ## Plans -/

namespace RecordDecl.Reordered

variable {r q : RecordDecl Value} (h : r.Reordered q)

include h

theorem samePlaces_describeFields (s : Symbols) (helpers : Option Value) (ignored : List String) :
    SamePlaces (r.describeFields s helpers ignored) (q.describeFields s helpers ignored) := by
  refine SamePlaces.mapM (h.fields.imp fun f g hfg => ?_)
  rw [h.name, hfg.name]
  exact (FieldDecl.samePlaces_perm hfg.name hfg.type hfg.directives s helpers _).placedAt _

theorem unknownIgnored?_eq (ignored : List String) : r.unknownIgnored? ignored = q.unknownIgnored? ignored := by
  have hnames : r.fields.map (·.name) = q.fields.map (·.name) := map_eq_map_of_forall₂ h.fields fun _ _ hfg => hfg.name
  rw [unknownIgnored?, unknownIgnored?, hnames]

theorem samePlaces_describe (s : Symbols) (helpers : Option Value) :
    SamePlaces (r.describe s helpers) (q.describe s helpers) := by
  have hhead : SamePlaces (placedAt r.name (r.readHead helpers)) (placedAt q.name (q.readHead helpers)) := by
    rw [h.name]
    exact (samePlaces_readHead_perm h.name h.newtype h.directives helpers).placedAt _
  refine hhead.bind fun head _ _ => ?_
  rw [h.unknownIgnored?_eq, h.name]
  split
  · exact .refl _
  · refine (h.samePlaces_describeFields s helpers head.ignored).bind fun fields _ _ => .of_eq ?_
    rw [h.comment, h.newtype]

theorem samePlaces_plan {s t : Symbols} (hst : s.Agree t Set.univ) (helpers : Option Value) :
    SamePlaces (r.plan ⟨s, helpers⟩) (q.plan ⟨t, helpers⟩) := by
  rw [← RecordDecl.plan_congr hst helpers fun _ _ _ _ => Set.mem_univ _]
  exact (h.samePlaces_describe s helpers).bind fun _ _ _ => .refl _

end RecordDecl.Reordered

theorem EnumDecl.Reordered.samePlaces_plan {e e' : EnumDecl Value} (h : e.Reordered e') :
    SamePlaces e.plan e'.plan := by
  have hdescribe : SamePlaces e.describe e'.describe := by
    unfold EnumDecl.describe
    rw [h.name, h.variants, h.comment]
    exact ((samePlaces_readWireName_perm h.name h.variants h.directives).placedAt _).bind fun _ _ _ => .refl _
  exact hdescribe.bind fun _ _ _ => .refl _

/-! ## Stages -/

section Planning

variable {α γ δ : Type} {plan : γ → Except ConfigError α} {plan' : δ → Except ConfigError α} {name : γ → String}
  {name' : δ → String} {xs : List γ} {ys : List δ}
  (h : List.Forall₂ (fun x y => name x = name' y ∧ SamePlaces (plan x) (plan' y)) xs ys)

include h

theorem plans_eq_of_samePlaces :
    xs.filterMap (fun x => (plan x).toOption) = ys.filterMap fun y => (plan' y).toOption := by
  induction h with
  | nil => rfl
  | cons hxy _ ih => rw [List.filterMap_cons, List.filterMap_cons, hxy.2.toOption_eq, ih]

theorem paths_eq_of_samePlaces : (xs.filterMap fun x => failure? (name x) (plan x)).map (·.error.path) =
    (ys.filterMap fun y => failure? (name' y) (plan' y)).map (·.error.path) := by
  induction h with
  | nil => rfl
  | @cons x y xs ys hxy _ ih =>
    obtain ⟨hname, hplan⟩ := hxy
    rw [List.filterMap_cons, List.filterMap_cons]
    rcases hplan.cases with ⟨p, hx, hy⟩ | ⟨e, e', hx, hy, hpath⟩
    · rw [hx, hy]
      exact ih
    · have hx' : failure? (name x) (plan x) = some ⟨name x, e.atPath (name x)⟩ := by rw [hx]; rfl
      have hy' : failure? (name' y) (plan' y) = some ⟨name' y, e'.atPath (name' y)⟩ := by rw [hy]; rfl
      rw [hx', hy', List.map_cons, List.map_cons, ih, hname, Located.path_atPath_congr hpath]

end Planning

namespace Definitions

variable {d d' : Definitions Value}

namespace Reordered

variable (h : d.Reordered d')

include h

theorem names_eq : d.symbols.enums = d'.symbols.enums ∧ d.symbols.names = d'.symbols.names := by
  have henums : d.enums.map (·.name) = d'.enums.map (·.name) := map_eq_map_of_forall₂ h.enums fun _ _ he => he.name
  have hrecords : d.records.map (·.name) = d'.records.map (·.name) :=
    map_eq_map_of_forall₂ h.records fun _ _ hr => hr.name
  exact ⟨henums, congrArg₂ (· ++ ·) hrecords henums⟩

theorem forall₂_records (settings : Settings) : List.Forall₂
    (fun r q => r.name = q.name ∧ SamePlaces (r.plan (d.scope settings)) (q.plan (d'.scope settings)))
    d.records d'.records := by
  have hagree : d.symbols.Agree d'.symbols Set.univ :=
    Symbols.agree_of_alike h.names_eq.1 (h.records.imp fun _ _ hr => hr.alike)
  exact h.records.imp fun r q hr => ⟨hr.name, hr.samePlaces_plan hagree settings.helpers⟩

theorem forall₂_enums :
    List.Forall₂ (fun e e' => e.name = e'.name ∧ SamePlaces e.plan e'.plan) d.enums d'.enums :=
  h.enums.imp fun _ _ he => ⟨he.name, he.samePlaces_plan⟩

theorem drop_eq (settings : Settings) : d.drop settings = d'.drop settings := by
  have hrecords : d.recordPlans settings = d'.recordPlans settings :=
    plans_eq_of_samePlaces (h.forall₂_records settings)
  have henums : d.enumPlans = d'.enumPlans := plans_eq_of_samePlaces h.forall₂_enums
  rw [drop, drop, failedNames, failedNames, failedTypes, failedTypes, hrecords, henums, h.names_eq.2]

end Reordered

/-- Directives in another order come to the same plans in the same order, and to problems at the same places. -/
theorem assemble_reordered (d d' : Definitions Value) (settings : Settings) (h : d.Reordered d') :
    (assemble d settings).enums = (assemble d' settings).enums ∧
      (assemble d settings).records = (assemble d' settings).records ∧
      (assemble d settings).errors.map (·.path) = (assemble d' settings).errors.map (·.path) := by
  refine ⟨?_, ?_, ?_⟩
  · rw [assemble_enums, assemble_enums]
    exact plans_eq_of_samePlaces h.forall₂_enums
  · rw [assemble_records, assemble_records, h.drop_eq]
  · rw [assemble_errors, assemble_errors, List.map_map, List.map_map]
    simp only [reports, List.map_append, Function.comp_def]
    rw [paths_eq_of_samePlaces h.forall₂_enums, paths_eq_of_samePlaces (h.forall₂_records settings), h.drop_eq]

/-- The same declarations, all their directives from the last to the first. -/
def reversed (d : Definitions Value) : Definitions Value where
  enums := d.enums.map fun e => { e with directives := e.directives.reverse }
  records := d.records.map fun r =>
    { r with
      fields := r.fields.map fun f => { f with directives := f.directives.reverse }
      directives := r.directives.reverse }
  options := d.options

theorem reordered_reversed (d : Definitions Value) : d.Reordered d.reversed where
  enums := List.forall₂_map_right_iff.2 <| List.forall₂_same.2 fun e _ =>
    ⟨rfl, rfl, rfl, e.directives.reverse_perm.symm⟩
  records := List.forall₂_map_right_iff.2 <| List.forall₂_same.2 fun r _ =>
    ⟨rfl, List.forall₂_map_right_iff.2 <| List.forall₂_same.2 fun f _ =>
        ⟨rfl, rfl, rfl, f.directives.reverse_perm.symm⟩,
      rfl, r.directives.reverse_perm.symm, rfl⟩

/-- `Draft.body` has a directive that no field has and one directive twice, and `Archive` uses `Draft`. -/
def notes : Definitions Value where
  enums := [⟨"Kind", [⟨"MEMO", none, []⟩], none, [⟨"rename", [⟨none, .text "NoteKind"⟩]⟩]⟩]
  records := [
    ⟨"Draft", [⟨"body", .named "string", none, [⟨"keep", []⟩, ⟨"default", []⟩, ⟨"default", []⟩]⟩], none, [], false⟩,
    ⟨"Archive", [⟨"draft", .named "Draft", none, []⟩], none, [], false⟩,
    ⟨"Note", [⟨"title", .named "string", none, [⟨"optional", []⟩, ⟨"default", []⟩]⟩], none,
      [⟨"rename", [⟨none, .text "Memo"⟩]⟩, ⟨"ignore", [⟨none, .text "title"⟩]⟩], false⟩]
  options := []

theorem assemble_reordered_notes : notes.Reordered notes.reversed ∧
    (assemble notes sampleSettings).errors ≠ (assemble notes.reversed sampleSettings).errors ∧
    (assemble notes sampleSettings).errors.map (·.path) =
      (assemble notes.reversed sampleSettings).errors.map (·.path) := by
  have h := notes.reordered_reversed
  refine ⟨h, ?_, (assemble_reordered notes notes.reversed sampleSettings h).2.2⟩
  decide +kernel

end Definitions

end WireBridge
