import WireBridge.Proofs.Assembly.Fields
import WireBridge.Proofs.Conversion.Functions

/-!
# Empty collections on the wire

The conversion of an optional collection to the wire has two branches: one for a value that holds something, and one
that stands for a value that is missing or empty.

* `Expr.container?`, `EmptyCollection.container?` : the kind of container that a branch builds;
* `container?_collectionToWire` : a value that holds something becomes a mapping if it is a map that no attribute keys,
  and a sequence otherwise;
* `empty_branches` : the other branch is an empty sequence in either case where the wire wants a value. So the branches
  of such a map, and of nothing else, are of two kinds (`not_empty_branches_alike`).
-/

set_option autoImplicit false

namespace WireBridge

/-! ## Containers -/

/-- The kinds of containers on the wire. -/
inductive WireContainer
  | sequence
  | mapping
  deriving DecidableEq, Repr

/-- The kind of container that an expression builds. -/
def Expr.container? : Expr → Option WireContainer
  | .call callee [] _ => if callee = "list" then some .sequence else if callee = "dict" then some .mapping else none
  | .comprehension .list _ _ _ => some .sequence
  | .entries _ _ _ _ _ => some .mapping
  | .keyedBy _ _ _ => some .mapping
  | _ => none

def EmptyCollection.container? : EmptyCollection → Option WireContainer
  | .list => some .sequence
  | .map => some .mapping
  | _ => none

/-- The field is a map, or an optional one, whose entries go to the wire. -/
def FieldDescriptor.sendsEntries (f : FieldDescriptor) : Bool := (collectionShape f).isMap && f.key.isNone

/-- The container that a collection goes to the wire as. -/
def FieldDescriptor.container (f : FieldDescriptor) : WireContainer := if f.sendsEntries then .mapping else .sequence

section Branches

variable {scope : Scope} {f : FieldDescriptor} {e x : Expr} {d : Int}

theorem container?_toWire {s : Shape} (hs : s.isCollection = true) (h : toWire scope s e d = .ok x) :
    x.container? = some (if s.isMap then .mapping else .sequence) := by
  cases s with
  | sequence k s =>
    obtain ⟨inner, -, h⟩ := bind_eq_ok_iff.1 h
    rw [← Except.ok.inj h]
    split <;> rfl
  | map k v =>
    obtain ⟨key, -, h⟩ := bind_eq_ok_iff.1 h
    obtain ⟨value, -, h⟩ := bind_eq_ok_iff.1 h
    rw [← Except.ok.inj h]
    split <;> rfl
  | _ => cases hs

/-- A map that an attribute keys goes to the wire as the sequence of its values. -/
theorem container?_keyedToWire {s : Shape} (h : keyedToWire scope s e = .ok x) : x.container? = some .sequence := by
  obtain ⟨v, -, h⟩ := bind_eq_ok_iff.1 h
  obtain ⟨value, -, h⟩ := bind_eq_ok_iff.1 h
  rw [← Except.ok.inj h]
  split <;> rfl

theorem container?_collectionToWire (hs : f.shape.isOptionalCollection = true) (h : collectionToWire scope f = .ok e) :
    e.container? = some f.container := by
  obtain ⟨-, hc⟩ := Bool.and_eq_true_iff.1 hs
  unfold collectionToWire at h
  rw [FieldDescriptor.container, FieldDescriptor.sendsEntries]
  split at h
  · next hk => simp [container?_keyedToWire h, hk]
  · next hk =>
    rw [collectionShape_of_isOptional hc] at h ⊢
    simp [container?_toWire hc h, hk]

theorem convertCollection_eq_ok {s : Strategy} {a : Absence} {r : RecordDescriptor} {y : Block × Option Expr}
    (hs : f.shape.isOptionalCollection = true) (h : convertCollection scope f s a r = .ok y) :
    ∃ present, collectionToWire scope f = .ok present ∧
      y.2 = some (.whenHeld present f.nativeSource (if f.wireOptional then .nothing else .list)) := by
  obtain ⟨present, hpresent, h⟩ := bind_eq_ok_iff.1 h
  obtain ⟨block, -, h⟩ := bind_eq_ok_iff.1 h
  rw [if_pos hs] at h
  cases h
  exact ⟨present, hpresent, rfl⟩

/-- The empty list fits all collections but the maps whose entries go to the wire. -/
theorem container_eq_list_iff : some f.container = EmptyCollection.list.container? ↔ f.sendsEntries = false := by
  rw [FieldDescriptor.container]
  cases f.sendsEntries <;> simp [EmptyCollection.container?]

end Branches

namespace Definitions

/-- An optional collection that the wire requires is written by two branches: a value that holds something as the
container of the field, and any other as an empty list. These are of one kind unless the entries of a map go to the
wire. -/
theorem empty_branches (d : Definitions Value) (settings : Settings) :
    ∀ p ∈ (assemble d settings).records, p.descriptor.newtype = false → ∀ x ∈ p.fields,
      x.strategy.kind = .collection → x.descriptor.shape.isOptionalCollection = true →
      x.descriptor.wireOptional = false → ∃ present,
        x.artifact.toWire = some (.whenHeld present x.descriptor.nativeSource .list) ∧
        x.artifact.toWire.map Expr.text =
          some (present.text ++ " if " ++ x.descriptor.nativeSource.text ++ " else []") ∧
        present.container? = some x.descriptor.container ∧
        (present.container? = EmptyCollection.list.container? ↔ x.descriptor.sendsEntries = false) := by
  intro p hp hn x hx hstrategy hshape hrequired
  obtain ⟨r, -, -, hdescribes⟩ := exists_of_mem_records hp
  obtain ⟨f, -, hplanned⟩ := exists_of_forall₂ hdescribes.fields hx
  obtain ⟨y, hy, -, hto⟩ := convertField_eq_ok (hplanned.converts hn)
  rw [directions, hstrategy] at hy
  obtain ⟨present, hpresent, hwritten⟩ := convertCollection_eq_ok hshape hy
  rw [hrequired] at hwritten
  have hcontainer := container?_collectionToWire hshape hpresent
  refine ⟨present, hto.trans hwritten, ?_, hcontainer, ?_⟩
  · rw [hto, hwritten]
    simp [EmptyCollection.text, String.append_assoc]
  · rw [hcontainer]
    exact container_eq_list_iff

/-- Optional collections that the wire requires: a list, a map, and a map that an attribute keys. -/
def boxes : Definitions Value where
  enums := []
  records := [⟨"Box", [
    ⟨"items", .mk "optional" [.mk "list" [.named "int32"] false] false, none, [⟨"required", []⟩]⟩,
    ⟨"scores", .mk "optional" [.mk "dict" [.named "string", .named "int32"] false] false, none, [⟨"required", []⟩]⟩,
    ⟨"members", .mk "optional" [.mk "dict" [.named "string", .named "int32"] false] false, none,
      [⟨"key", [⟨none, .text "name"⟩]⟩, ⟨"required", []⟩]⟩], none, [], false⟩]
  options := []

theorem empty_branches_boxes : ∃ p ∈ (assemble boxes sampleSettings).records, p.descriptor.newtype = false ∧
    p.fields.map (·.artifact.toWire.map Expr.text) =
      [some "list(native.items) if native.items else []", some "dict(native.scores) if native.scores else []",
        some "list(native.members.values()) if native.members else []"] ∧
    ∀ x ∈ p.fields, x.strategy.kind = .collection ∧ x.descriptor.shape.isOptionalCollection = true ∧
      x.descriptor.wireOptional = false ∧ ∃ present,
        x.artifact.toWire = some (.whenHeld present x.descriptor.nativeSource .list) ∧
        (present.container? = EmptyCollection.list.container? ↔ x.descriptor.sendsEntries = false) := by
  obtain ⟨p, hp, hn, htexts, hall⟩ : ∃ p ∈ (assemble boxes sampleSettings).records, p.descriptor.newtype = false ∧
      p.fields.map (·.artifact.toWire.map Expr.text) =
        [some "list(native.items) if native.items else []", some "dict(native.scores) if native.scores else []",
          some "list(native.members.values()) if native.members else []"] ∧
      ∀ x ∈ p.fields, x.strategy.kind = .collection ∧ x.descriptor.shape.isOptionalCollection = true ∧
        x.descriptor.wireOptional = false := by decide +kernel
  refine ⟨p, hp, hn, htexts, fun x hx => ?_⟩
  obtain ⟨hstrategy, hshape, hrequired⟩ := hall x hx
  obtain ⟨present, hwritten, -, -, halike⟩ :=
    empty_branches boxes sampleSettings p hp hn x hx hstrategy hshape hrequired
  exact ⟨hstrategy, hshape, hrequired, present, hwritten, halike⟩

/-- A map is written as a map where it holds something, and as a list elsewhere. -/
theorem not_empty_branches_alike : ¬ ∀ p ∈ (assemble boxes sampleSettings).records, p.descriptor.newtype = false →
    ∀ x ∈ p.fields, x.strategy.kind = .collection → x.descriptor.shape.isOptionalCollection = true →
      x.descriptor.wireOptional = false → ∀ present tested empty,
        x.artifact.toWire = some (.whenHeld present tested empty) → present.container? = empty.container? := by
  intro hall
  obtain ⟨p, hp, hn, x, hx, hstrategy, hshape, hrequired, hwritten⟩ :
      ∃ p ∈ (assemble boxes sampleSettings).records, p.descriptor.newtype = false ∧ ∃ x ∈ p.fields,
        x.strategy.kind = .collection ∧ x.descriptor.shape.isOptionalCollection = true ∧
        x.descriptor.wireOptional = false ∧ x.artifact.toWire =
          some (.whenHeld (.call "dict" [] (.source "native.scores")) (.source "native.scores") .list) := by
    decide +kernel
  exact absurd (hall p hp hn x hx hstrategy hshape hrequired _ _ _ hwritten) (by decide)

end Definitions

end WireBridge
