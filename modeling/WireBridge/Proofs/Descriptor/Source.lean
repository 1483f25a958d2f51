import WireBridge.Decision.Absence
import WireBridge.Proofs.Problem.Placement
import WireBridge.Proofs.Shape.Agreement

/-!
# What descriptors keep of their declarations

* `Mirrors s f g` : the descriptor `g` has the name of the declared field `f`, and the shape that `f` has under the
  table `s`. The fields of a described record mirror the declared ones one by one (`RecordDecl.mirrors_of_describe`);
  `RecordDecl.describe_eq_ok` takes such a record apart;
* `FieldDecl.describe_congr`, `RecordDecl.describe_congr` : tables that agree on the names in the shapes of a record
  describe it alike, problems included.
-/

set_option autoImplicit false

namespace WireBridge

theorem isGiven_eq_any (ds : List (Directive Value)) (n : String) : isGiven ds n = ds.any (·.name = n) := by
  rw [isGiven, directive?, List.isSome_find?]

theorem FieldDecl.shape_eq (f : FieldDecl Value) (s : Symbols) :
    f.type.shape s (isGiven f.directives "enum") = f.shape s := by
  rw [FieldDecl.shape, isGiven_eq_any]

/-- The descriptor of a field has its name and its shape. -/
structure Mirrors (s : Symbols) (f : FieldDecl Value) (g : FieldDescriptor) : Prop where
  nativeName : g.nativeName = f.name
  shape : g.shape = f.shape s

theorem FieldDecl.mirrors_of_describe {f : FieldDecl Value} {s : Symbols} {helpers : Option Value} {b : Bool}
    {g : FieldDescriptor} (h : f.describe s helpers b = .ok g) : Mirrors s f g := by
  simp only [FieldDecl.describe, bind_eq_ok_iff, pure_eq_ok_iff] at h
  obtain ⟨-, -, -, -, -, -, -, -, -, -, -, -, -, -, -, -, -, -, -, -, rfl⟩ := h
  exact ⟨rfl, f.shape_eq s⟩

theorem mirrors_uses_iff {s : Symbols} {fs : List (FieldDecl Value)} {gs : List FieldDescriptor}
    (h : List.Forall₂ (Mirrors s) fs gs) {n : String} :
    (∃ g ∈ gs, n ∈ g.shape.referenced) ↔ ∃ f ∈ fs, n ∈ (f.shape s).referenced := by
  induction h with
  | nil => simp
  | cons hfg _ ih => simp only [List.mem_cons, exists_eq_or_imp, ih, hfg.shape]

/-- A described record: what its directives say, and its fields described one by one. -/
theorem RecordDecl.describe_eq_ok {r : RecordDecl Value} {s : Symbols} {helpers : Option Value}
    {q : RecordDescriptor} (h : r.describe s helpers = .ok q) : ∃ head, r.readHead helpers = .ok head ∧
      List.Forall₂ (fun f g => f.describe s helpers (head.ignored.contains f.name) = .ok g) r.fields q.fields ∧
      q = ⟨r.name, head.wireName, q.fields, head.errorType, head.errorFunction, r.newtype, r.comment⟩ := by
  simp only [RecordDecl.describe, bind_eq_ok_iff] at h
  obtain ⟨head, hhead, h⟩ := h
  split at h
  · cases h
  · obtain ⟨fields, hf, h⟩ := bind_eq_ok_iff.1 h
    split at h
    · cases h
    · rw [pure_eq_ok_iff] at h
      subst h
      refine ⟨head, placedAt_eq_ok_iff.1 hhead, (forall₂_of_mapM_eq_ok hf).imp fun f g hg => ?_, rfl⟩
      exact placedAt_eq_ok_iff.1 hg

/-- The parts of a described record: its fields mirror the declared ones in order. -/
structure RecordMirrors (s : Symbols) (r : RecordDecl Value) (q : RecordDescriptor) : Prop where
  name : q.name = r.name
  newtype : q.newtype = r.newtype
  fields : List.Forall₂ (Mirrors s) r.fields q.fields

theorem RecordDecl.mirrors_of_describe {r : RecordDecl Value} {s : Symbols} {helpers : Option Value}
    {q : RecordDescriptor} (h : r.describe s helpers = .ok q) : RecordMirrors s r q := by
  obtain ⟨head, -, hfields, hq⟩ := describe_eq_ok h
  refine ⟨?_, ?_, hfields.imp fun f g hg => FieldDecl.mirrors_of_describe hg⟩ <;> rw [hq]

/-! ## Agreement -/

section Congr

variable {s t : Symbols} {N : Set String} (h : s.Agree t N)

include h

theorem FieldDecl.describe_congr {f : FieldDecl Value} (hf : (f.shape s).Within N) (helpers : Option Value)
    (b : Bool) : f.describe s helpers b = f.describe t helpers b := by
  have hs := FieldDecl.shape_congr h hf
  have ho := Shape.wireOptional_congr h hf
  rw [hs] at ho
  simp only [FieldDecl.describe, FieldDecl.shape_eq, hs, ho]

theorem RecordDecl.describe_congr {r : RecordDecl Value} (hr : ∀ f ∈ r.fields, (f.shape s).Within N)
    (helpers : Option Value) : r.describe s helpers = r.describe t helpers := by
  have hfields (ignored : List String) :
      r.describeFields s helpers ignored = r.describeFields t helpers ignored := by
    apply mapM_congr
    intro f hf
    rw [FieldDecl.describe_congr h (hr f hf)]
  simp only [RecordDecl.describe, hfields]

end Congr

end WireBridge
