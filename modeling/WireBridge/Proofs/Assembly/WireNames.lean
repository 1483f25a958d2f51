import WireBridge.Proofs.Assembly.Fields
import WireBridge.Proofs.Definition.WellFormed
import WireBridge.Proofs.Problem.Ensures

/-!
# Names of fields on the wire

Generated code builds a wire object by the names that its fields have there, and reads them by the same names
(`RecordPlan.CallsByName`). The grammar and validation see to the native names of a definition file, but not to the
texts that fields are renamed to: any text is taken as it is (`not_wire_names_plain`). So the names on the wire are fit
for a call as far as the renamed fields see to it themselves (`wire_names`).
-/

set_option autoImplicit false

namespace WireBridge

instance : DecidablePred IsIdentifier := fun _ => inferInstanceAs (Decidable (_ = true))

/-- A name that the grammar and validation let through. -/
def IsPlainName (n : String) : Prop := IsIdentifier n ∧ n ∉ reservedWords

instance : DecidablePred IsPlainName := fun _ => inferInstanceAs (Decidable (_ ∧ _))

/-- The fields of the wire object have distinct names, and each can stand as the name of an argument and of an
attribute. -/
structure RecordPlan.CallsByName (isName : String → Prop) (p : RecordPlan) : Prop where
  distinct : (p.wireFields.map (·.artifact.wireName)).Nodup
  names : ∀ x ∈ p.wireFields, isName x.artifact.wireName

theorem wireName_of_convertField {scope : Scope} {f : FieldDescriptor} {s : Strategy} {a : Absence}
    {r : RecordDescriptor} : Ensures (convertField scope f s a r) fun x => x.wireName = f.wireName :=
  .bind_last fun _ => .pure rfl

theorem FieldPlan.PlannedFrom.wireName_eq {scope : Scope} {r : RecordDescriptor} {f : FieldDecl Value} {x : FieldPlan}
    (h : x.PlannedFrom scope r f) (hn : r.newtype = false) : x.artifact.wireName = f.wireName := by
  rw [wireName_of_convertField _ (h.converts hn), h.wireName]

theorem map_nativeName_of_forall₂ {scope : Scope} {r : RecordDescriptor} {fs : List (FieldDecl Value)}
    {xs : List FieldPlan} (h : List.Forall₂ (FieldPlan.PlannedFrom scope r) fs xs) :
    xs.map (·.descriptor.nativeName) = fs.map (·.name) :=
  (map_eq_map_of_forall₂ h fun _ _ hfx => hfx.nativeName.symm).symm

/-- If the native names are fit for a call, it is the renamed fields that decide. -/
theorem RecordPlan.callsByName_iff {isName : String → Prop} {p : RecordPlan}
    (hdistinct : (p.fields.map (·.descriptor.nativeName)).Nodup)
    (hnames : ∀ x ∈ p.fields, isName x.descriptor.nativeName) :
    p.CallsByName isName ↔ ∀ x ∈ p.wireFields, x.artifact.wireName ≠ x.descriptor.nativeName →
      isName x.artifact.wireName ∧ ∀ y ∈ p.wireFields, y.artifact.wireName = x.artifact.wireName →
        y.descriptor.nativeName = x.descriptor.nativeName := by
  have hsublist : p.wireFields.Sublist p.fields := List.filter_sublist
  have hnative : (p.wireFields.map (·.descriptor.nativeName)).Nodup := hdistinct.sublist (hsublist.map _)
  constructor
  · intro h x hx _
    refine ⟨h.names x hx, fun y hy hyx => ?_⟩
    rw [List.inj_on_of_nodup_map h.distinct hy hx hyx]
  · intro h
    refine ⟨(List.nodup_map_iff_inj_on hnative.of_map).2 fun x hx y hy hxy => ?_, fun x hx => ?_⟩
    · refine List.inj_on_of_nodup_map hnative hx hy ?_
      by_cases hxn : x.artifact.wireName = x.descriptor.nativeName
      · by_cases hyn : y.artifact.wireName = y.descriptor.nativeName
        · rw [← hxn, hxy, hyn]
        · exact (h y hy hyn).2 x hx hxy
      · exact ((h x hx hxn).2 y hy hxy.symm).symm
    · by_cases hxn : x.artifact.wireName = x.descriptor.nativeName
      · rw [hxn]
        exact hnames x (hsublist.mem hx)
      · exact (h x hx hxn).1

namespace Definitions

/-- The names of the fields of a surviving record on the wire are its native names and the texts that fields are
renamed to. They are fit for a call if and only if each of these texts is a name and the name of no other field. -/
theorem wire_names {text : String} {d : Definitions Value} (h : ofText text = .ok d) (settings : Settings)
    (isName : String → Prop) (hplain : ∀ n, IsPlainName n → isName n) :
    ∀ p ∈ (assemble d settings).records, p.descriptor.newtype = false →
      (∃ r ∈ d.records, r.plan (d.scope settings) = .ok p ∧
        List.Forall₂ (fun f x => x.artifact.wireName = f.wireName) r.fields p.fields) ∧
      (p.CallsByName isName ↔ ∀ x ∈ p.wireFields, x.artifact.wireName ≠ x.descriptor.nativeName →
        isName x.artifact.wireName ∧ ∀ y ∈ p.wireFields, y.artifact.wireName = x.artifact.wireName →
          y.descriptor.nativeName = x.descriptor.nativeName) := by
  intro p hp hn
  obtain ⟨r, hr, hplan, hdescribes⟩ := exists_of_mem_records hp
  have hfields : List.Forall₂ (FieldPlan.PlannedFrom (d.scope settings) p.descriptor) r.fields p.fields := by
    rw [← RecordDecl.plannedFields_eq fun h => by simp [← hdescribes.newtype, hn] at h]
    exact hdescribes.fields
  obtain ⟨hdistinct, hreserved⟩ := members_of_ofText h r hr
  refine ⟨⟨r, hr, hplan, hfields.imp fun f x hx => hx.wireName_eq hn⟩, RecordPlan.callsByName_iff ?_ ?_⟩
  · rwa [map_nativeName_of_forall₂ hfields]
  · intro x hx
    obtain ⟨f, hf, hfx⟩ := exists_of_forall₂ hfields hx
    rw [hfx.nativeName]
    exact hplain _ ⟨((isFormed_of_ofText h).2 r hr).fields f hf, hreserved _ (List.mem_map_of_mem hf)⟩

/-- A record with a renamed field. -/
def renamedText : String := "struct User \x7b\n  first: string @rename(\"given\")\n  last: string\n\x7d\n"

theorem wire_names_renamed : ∃ d, ofText renamedText = .ok d ∧
    ∃ p ∈ (assemble d sampleSettings).records, p.descriptor.newtype = false ∧
      p.wireFields.map (·.artifact.wireName) = ["given", "last"] ∧
      (∃ r ∈ d.records, r.plan (d.scope sampleSettings) = .ok p ∧
        List.Forall₂ (fun f x => x.artifact.wireName = f.wireName) r.fields p.fields) ∧
      p.CallsByName IsPlainName := by
  obtain ⟨d, hd, p, hp, hn, hmap, hrenamed⟩ : ∃ d, ofText renamedText = .ok d ∧
      ∃ p ∈ (assemble d sampleSettings).records, p.descriptor.newtype = false ∧
        p.wireFields.map (·.artifact.wireName) = ["given", "last"] ∧
        ∀ x ∈ p.wireFields, x.artifact.wireName ≠ x.descriptor.nativeName →
          IsPlainName x.artifact.wireName ∧ ∀ y ∈ p.wireFields, y.artifact.wireName = x.artifact.wireName →
            y.descriptor.nativeName = x.descriptor.nativeName := by decide +kernel
  obtain ⟨hfrom, hiff⟩ := wire_names hd sampleSettings IsPlainName (fun _ h => h) p hp hn
  exact ⟨d, hd, p, hp, hn, hmap, hfrom, hiff.2 hrenamed⟩

/-- Fields renamed to two words and to the name of another field. -/
def misnamedText : String :=
  "struct User \x7b\n  first: string @rename(\"given name\")\n  last: string @rename(\"name\")\n  name: string\n\x7d\n"

/-- The names of fields on the wire are not always distinct, and not always names. -/
theorem not_wire_names_plain :
    (¬ ∀ text d settings, ofText text = .ok d → ∀ p ∈ (assemble d settings).records, p.descriptor.newtype = false →
      (p.wireFields.map (·.artifact.wireName)).Nodup) ∧
    ¬ ∀ text d settings, ofText text = .ok d → ∀ p ∈ (assemble d settings).records, p.descriptor.newtype = false →
      ∀ x ∈ p.wireFields, ' ' ∉ x.artifact.wireName.toList := by
  obtain ⟨d, hd, p, hp, hn, hmap⟩ : ∃ d, ofText misnamedText = .ok d ∧
      ∃ p ∈ (assemble d sampleSettings).records, p.descriptor.newtype = false ∧
        p.wireFields.map (·.artifact.wireName) = ["given name", "name", "name"] := by decide +kernel
  refine ⟨fun hall => ?_, fun hall => ?_⟩
  · have hdistinct := hall _ d sampleSettings hd p hp hn
    rw [hmap] at hdistinct
    exact absurd hdistinct (by decide)
  · obtain ⟨x, hx, hname⟩ : ∃ x ∈ p.wireFields, x.artifact.wireName = "given name" :=
      List.mem_map.1 (hmap ▸ List.mem_cons_self)
    exact hall _ d sampleSettings hd p hp hn x hx (hname ▸ by decide)

end Definitions

end WireBridge
