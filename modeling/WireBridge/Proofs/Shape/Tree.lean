import Mathlib.Data.List.Forall2
import WireBridge.Proofs.Definition.Validation
import WireBridge.Proofs.Shape.Agreement

/-!
# Shapes of validated types

Classification is total, and what it does not know it calls custom. Of a type that validation accepts it loses
nothing.

* `SameTree t s` : the tree of the shape `s` is that of the type `t`, node by node. A shape that is custom stands for a
  bare name here, never for a generic type;
* `TypeExpr.leaves` : the leaves of a type from left to right, like those of a shape (`Shape.leaves`). Of each it is
  kept whether it stands in the key of a map;
* `LeafShape` : the shape of one leaf, under an enum flag or without it;
* `TypeExpr.classified_without_loss` : the shape of a validated type has its tree, leaf by leaf, and refers to the names
  of its leaves.

Validation and classification have a table of generic types each. `WellFormed.induct_nodes` is where they are compared;
the inductions over validated types go by the nodes of shapes from there on.
-/

set_option autoImplicit false

namespace WireBridge

/-! ## Trees -/

/-- The constructors of sequences and the containers that they stand for. -/
inductive SequenceType : String → CollectionKind → Prop
  | list : SequenceType "list" .vec
  | set : SequenceType "set" .set
  | deque : SequenceType "deque" .deque

theorem SequenceKind.sequenceType (k : SequenceKind) : SequenceType k.name k.collection := by
  cases k with
  | list => exact .list
  | set => exact .set
  | deque => exact .deque

/-- The tree of a shape is that of a type. -/
inductive SameTree : TypeExpr → Shape → Prop
  | wire (n : String) (as : List TypeExpr) : SameTree (.mk n as true) (.wire n)
  | primitive (p : Primitive) : SameTree (.named p.name) (.primitive p)
  | enum (n : String) : SameTree (.named n) (.enum n)
  | custom (n : String) : SameTree (.named n) (.custom n)
  | optional {t : TypeExpr} {s : Shape} (h : SameTree t s) : SameTree (.mk "optional" [t] false) (.optional s)
  | sequence {n : String} {c : CollectionKind} {k : SequenceKind} {t : TypeExpr} {s : Shape} (hn : SequenceType n c)
      (hk : (Shape.sequence k s).collection? = some c) (h : SameTree t s) : SameTree (.mk n [t] false) (.sequence k s)
  | map {k v : TypeExpr} {s s' : Shape} (hk : SameTree k s) (hv : SameTree v s') :
      SameTree (.mk "dict" [k, v] false) (.map s s')

/-! ## Leaves -/

/-- A leaf of a type, in the key of a map or not. -/
structure TypeLeaf where
  type : TypeExpr
  inKey : Bool
  deriving Repr

/-- The leaf is neither a type of the wire module nor a primitive. -/
def TypeLeaf.isReference (l : TypeLeaf) : Bool := !l.type.wire && !l.type.isPrimitive

mutual

/-- The leaves of a type that stands in the key of a map or does not. The key is the first argument of `dict`. -/
def TypeExpr.leavesIn (inKey : Bool) : TypeExpr → List TypeLeaf
  | .mk n as true => [⟨.mk n as true, inKey⟩]
  | .mk n [] false => [⟨.named n, inKey⟩]
  | .mk n (a :: as) false => a.leavesIn (inKey || n = "dict") ++ TypeExpr.leavesOfAll inKey as

def TypeExpr.leavesOfAll (inKey : Bool) : List TypeExpr → List TypeLeaf
  | [] => []
  | a :: as => a.leavesIn inKey ++ TypeExpr.leavesOfAll inKey as

end

def TypeExpr.leaves (t : TypeExpr) : List TypeLeaf := t.leavesIn false

/-- The name that a leaf of a shape refers to. -/
def Shape.reference? : Shape → Option String
  | .enum n => some n
  | .custom n => some n
  | _ => none

theorem Shape.referenced_eq (s : Shape) : s.referenced = s.leaves.filterMap reference? := by
  induction s with
  | optional s ih => exact ih
  | sequence k s ih => exact ih
  | map k v ihk ihv => rw [referenced, leaves, List.filterMap_append, ihk, ihv]
  | _ => rfl

/-- The shape of a leaf, whose field is flagged as an enum or is not. -/
inductive LeafShape (symbols : Symbols) (flagged : Bool) : TypeExpr → Shape → Prop
  | wire (n : String) (as : List TypeExpr) : LeafShape symbols flagged (.mk n as true) (.wire n)
  | primitive (p : Primitive) : LeafShape symbols flagged (.named p.name) (.primitive p)
  | enum {n : String} (hp : n ∉ Primitive.all.map (·.name)) (h : flagged = true ∨ n ∈ symbols.enums) :
      LeafShape symbols flagged (.named n) (.enum n)
  | custom {n : String} (hp : n ∉ Primitive.all.map (·.name)) (hf : flagged = false) (h : n ∉ symbols.enums) :
      LeafShape symbols flagged (.named n) (.custom n)

theorem TypeLeaf.isReference_named {n : String} (hn : n ∉ Primitive.all.map (·.name)) (inKey : Bool) :
    isReference ⟨.named n, inKey⟩ = true := by
  have hnone : (Primitive.ofName? n).isSome = false := by
    rw [Primitive.ofName?_eq_none_iff.2 hn]
    rfl
  have hprimitive : (TypeExpr.named n).isPrimitive = false := Bool.and_eq_false_imp.2 fun _ => hnone
  rw [isReference, hprimitive]
  rfl

section Leaf

variable {symbols : Symbols} {b : Bool} {t : TypeExpr} {s s' : Shape}

theorem leafShape_namedShape (symbols : Symbols) (b : Bool) (n : String) :
    LeafShape symbols b (.named n) (namedShape symbols b n) := by
  unfold namedShape
  cases hp : Primitive.ofName? n with
  | some p =>
    obtain rfl := Primitive.name_of_ofName? hp
    exact .primitive p
  | none =>
    have hnot := Primitive.ofName?_eq_none_iff.1 hp
    by_cases h : b = true ∨ n ∈ symbols.enums
    · rw [if_pos (by simpa [Symbols.isEnum] using h)]
      exact .enum hnot h
    · rw [if_neg (by simpa [Symbols.isEnum] using h)]
      obtain ⟨hb, hn⟩ := not_or.1 h
      exact .custom hnot (Bool.eq_false_iff.2 hb) hn

theorem LeafShape.sameTree (h : LeafShape symbols b t s) : SameTree t s := by
  cases h with
  | wire n as => exact .wire n as
  | primitive p => exact .primitive p
  | enum => exact .enum _
  | custom => exact .custom _

theorem LeafShape.leaves (h : LeafShape symbols b t s) : s.leaves = [s] := by
  cases h <;> rfl

/-- A leaf has one shape. -/
theorem LeafShape.unique (h : LeafShape symbols b t s) (h' : LeafShape symbols b t s') : s = s' := by
  cases h with
  | wire n as =>
    cases h'
    rfl
  | primitive p =>
    generalize ht : TypeExpr.named p.name = t at h'
    cases h' with
    | wire => cases ht
    | primitive p' =>
      have hname : p.name = p'.name := congrArg TypeExpr.name ht
      have hsame := p.ofName?_name
      rw [hname, p'.ofName?_name] at hsame
      rw [Option.some.inj hsame]
    | enum hp =>
      obtain rfl : p.name = _ := congrArg TypeExpr.name ht
      exact absurd p.name_mem_all hp
    | custom hp =>
      obtain rfl : p.name = _ := congrArg TypeExpr.name ht
      exact absurd p.name_mem_all hp
  | enum hp h =>
    cases h' with
    | primitive p => exact absurd p.name_mem_all hp
    | enum => rfl
    | custom _ hf hn => exact absurd h (by simp [hf, hn])
  | custom hp hf hn =>
    cases h' with
    | primitive p => exact absurd p.name_mem_all hp
    | enum _ h => exact absurd h (by simp [hf, hn])
    | custom => rfl

/-- A leaf refers to its name unless it is a type of the wire module or a primitive. -/
theorem LeafShape.reference?_eq {l : TypeLeaf} (h : LeafShape symbols b l.type s) :
    s.reference? = if l.isReference then some l.type.name else none := by
  obtain ⟨t, inKey⟩ := l
  cases h with
  | wire n as => rfl
  | primitive p => cases p <;> rfl
  | enum hp => exact (if_pos (TypeLeaf.isReference_named hp inKey)).symm
  | custom hp => exact (if_pos (TypeLeaf.isReference_named hp inKey)).symm

theorem LeafShape.eq_enum {l : TypeLeaf} (h : LeafShape symbols true l.type s) (hl : l.isReference = true) :
    s = .enum l.type.name := by
  have hreference := h.reference?_eq
  rw [if_pos hl] at hreference
  obtain ⟨t, inKey⟩ := l
  cases h with
  | enum => rfl
  | custom _ hf => cases hf
  | _ => cases hreference

/-- What the leaves of shapes refer to are the names of leaves of types. -/
theorem references_eq_of_forall₂ {flag : TypeLeaf → Bool} {ls : List TypeLeaf} {ss : List Shape}
    (h : List.Forall₂ (fun l s => LeafShape symbols (flag l) l.type s) ls ss) :
    ss.filterMap Shape.reference? = (ls.filter (·.isReference)).map (·.type.name) := by
  induction h with
  | nil => rfl
  | @cons l s ls ss hleaf _ ih =>
    rw [List.filterMap_cons, hleaf.reference?_eq, List.filter_cons]
    cases l.isReference with
    | true => exact congrArg (l.type.name :: ·) ih
    | false => exact ih

end Leaf

/-! ## Nodes -/

namespace TypeExpr

/-- Induction over the nodes of validated types. The constructors that validation knows are those of shapes. -/
@[elab_as_elim]
theorem WellFormed.induct_nodes {motive : (t : TypeExpr) → t.WellFormed → Prop}
    (wire : ∀ n as h, motive (.mk n as true) h) (named : ∀ n h, motive (.named n) h)
    (optional : ∀ t ht h, motive t ht → motive (.mk "optional" [t] false) h)
    (sequence : ∀ (k : SequenceKind) t ht h, motive t ht → motive (.mk k.name [t] false) h)
    (map : ∀ k v hk hv h, motive k hk → motive v hv → motive (.mk "dict" [k, v] false) h) {t : TypeExpr}
    (h : t.WellFormed) : motive t h := by
  induction h with
  | wire n as => exact wire n as _
  | named hn => exact named _ _
  | @generic n as hn has ih =>
    have hone (hlength : as.length = 1) : ∃ t ht, as = [t] ∧ motive t ht := by
      obtain ⟨t, rfl⟩ := List.length_eq_one_iff.1 hlength
      exact ⟨t, _, rfl, ih t List.mem_cons_self⟩
    have hwell := WellFormed.generic hn has
    suffices hnode : ∀ arity, GenericType n arity → as.length = arity → motive (.mk n as false) hwell from
      hnode _ hn rfl
    intro arity harity hlength
    cases harity with
    | optional =>
      obtain ⟨t, ht, rfl, hmotive⟩ := hone hlength
      exact optional t ht hwell hmotive
    | list =>
      obtain ⟨t, ht, rfl, hmotive⟩ := hone hlength
      exact sequence .list t ht hwell hmotive
    | set =>
      obtain ⟨t, ht, rfl, hmotive⟩ := hone hlength
      exact sequence .set t ht hwell hmotive
    | deque =>
      obtain ⟨t, ht, rfl, hmotive⟩ := hone hlength
      exact sequence .deque t ht hwell hmotive
    | dict =>
      obtain ⟨k, v, rfl⟩ := List.length_eq_two.1 hlength
      exact map k v _ _ hwell (ih k (by simp)) (ih v (by simp))

variable (symbols : Symbols) (b inKey : Bool) (t k v : TypeExpr)

theorem shape_wire (n : String) (as : List TypeExpr) : (mk n as true).shape symbols b = .wire n := by
  rw [shape.eq_def]
  rfl

theorem shape_named (n : String) : (named n).shape symbols b = namedShape symbols b n := by
  simp [named, shape]

theorem shape_optional : (mk "optional" [t] false).shape symbols b = .optional (t.shape symbols b) := by
  simp [shape]

theorem shape_sequence (kind : SequenceKind) :
    (mk kind.name [t] false).shape symbols b = .sequence kind (t.shape symbols b) := by
  have hname : kind.name ≠ "optional" := by cases kind <;> decide
  simp [shape, hname, SequenceKind.ofName?_name]

theorem shape_map : (mk "dict" [k, v] false).shape symbols b = .map (k.shape symbols false) (v.shape symbols b) := by
  simp [shape]

theorem leavesIn_optional : (mk "optional" [t] false).leavesIn inKey = t.leavesIn inKey := by
  simp [leavesIn, leavesOfAll]

theorem leavesIn_sequence (kind : SequenceKind) : (mk kind.name [t] false).leavesIn inKey = t.leavesIn inKey := by
  have hname : kind.name ≠ "dict" := by cases kind <;> decide
  simp [leavesIn, leavesOfAll, hname]

theorem leavesIn_map : (mk "dict" [k, v] false).leavesIn inKey = k.leavesIn true ++ v.leavesIn inKey := by
  simp [leavesIn, leavesOfAll]

end TypeExpr

/-! ## Shapes of validated types -/

section Validated

variable {t : TypeExpr} (ht : t.WellFormed) (symbols : Symbols) (flag : Bool)

include ht

theorem TypeExpr.WellFormed.sameTree : SameTree t (t.shape symbols flag) := by
  induction ht using TypeExpr.WellFormed.induct_nodes generalizing flag with
  | wire n as _ =>
    rw [shape_wire]
    exact .wire n as
  | named n _ => exact (leafShape_namedShape symbols flag n).sameTree
  | optional t _ _ ih =>
    rw [shape_optional]
    exact .optional (ih flag)
  | sequence k t _ _ ih =>
    rw [shape_sequence]
    exact .sequence k.sequenceType rfl (ih flag)
  | map k v _ _ _ ihk ihv =>
    rw [shape_map]
    exact .map (ihk false) (ihv flag)

/-- Leaf by leaf, the flag counts outside of keys only. -/
theorem TypeExpr.WellFormed.leafShapes (inKey : Bool) :
    List.Forall₂ (fun l s => LeafShape symbols (flag && !l.inKey) l.type s) (t.leavesIn inKey)
      (t.shape symbols (flag && !inKey)).leaves := by
  induction ht using TypeExpr.WellFormed.induct_nodes generalizing inKey with
  | wire n as _ =>
    rw [shape_wire]
    exact .cons (.wire n as) .nil
  | named n _ =>
    have hleaf := leafShape_namedShape symbols (flag && !inKey) n
    rw [shape_named, hleaf.leaves]
    exact .cons hleaf .nil
  | optional t _ _ ih =>
    rw [shape_optional, leavesIn_optional]
    exact ih inKey
  | sequence k t _ _ ih =>
    rw [shape_sequence, leavesIn_sequence]
    exact ih inKey
  | map k v _ _ _ ihk ihv =>
    have hkey := ihk true
    rw [Bool.not_true, Bool.and_false] at hkey
    rw [shape_map, leavesIn_map]
    exact List.rel_append hkey (ihv inKey)

theorem TypeExpr.WellFormed.leafShapes_leaves :
    List.Forall₂ (fun l s => LeafShape symbols (flag && !l.inKey) l.type s) t.leaves (t.shape symbols flag).leaves := by
  have hleaves := ht.leafShapes symbols flag false
  rwa [Bool.not_false, Bool.and_true] at hleaves

theorem TypeExpr.WellFormed.exists_leafShape {i : Nat} {l : TypeLeaf} (hl : t.leaves[i]? = some l) :
    ∃ s, (t.shape symbols flag).leaves[i]? = some s ∧ LeafShape symbols (flag && !l.inKey) l.type s :=
  exists_getElem?_of_forall₂ (ht.leafShapes_leaves symbols flag) hl

/-- A leaf in a key has the same shape under the flag and without it. -/
theorem TypeExpr.WellFormed.leaf_inKey {i : Nat} {l : TypeLeaf} (hl : t.leaves[i]? = some l) (hkey : l.inKey = true) :
    (t.shape symbols true).leaves[i]? = (t.shape symbols false).leaves[i]? := by
  obtain ⟨s, hs, hflagged⟩ := ht.exists_leafShape symbols true hl
  obtain ⟨s', hs', hplain⟩ := ht.exists_leafShape symbols false hl
  rw [hkey] at hflagged hplain
  rw [hs, hs', hflagged.unique hplain]

/-- Outside of keys the flag makes an enum of what a type refers to. -/
theorem TypeExpr.WellFormed.leaf_flagged {i : Nat} {l : TypeLeaf} (hl : t.leaves[i]? = some l) (hkey : l.inKey = false)
    (hreference : l.isReference = true) : (t.shape symbols true).leaves[i]? = some (.enum l.type.name) := by
  obtain ⟨s, hs, hflagged⟩ := ht.exists_leafShape symbols true hl
  rw [hkey] at hflagged
  rw [hs, hflagged.eq_enum hreference]

end Validated

/-- The shape of a type that validation accepts has its tree, and refers to the names of its leaves. The leaves have the
shapes of leaves, under the flag where they are not in a key: what the type refers to there is an enum then. -/
theorem TypeExpr.classified_without_loss {place : String} {t : TypeExpr} (ht : t.fault? place = none)
    (symbols : Symbols) (flag : Bool) :
    SameTree t (t.shape symbols flag) ∧
      (t.shape symbols flag).referenced = (t.leaves.filter (·.isReference)).map (·.type.name) ∧
      List.Forall₂ (fun l s => LeafShape symbols (flag && !l.inKey) l.type s) t.leaves (t.shape symbols flag).leaves ∧
      ∀ (i : Nat) (l : TypeLeaf), t.leaves[i]? = some l →
        (l.inKey = true → (t.shape symbols true).leaves[i]? = (t.shape symbols false).leaves[i]?) ∧
        (l.inKey = false → l.isReference = true → (t.shape symbols true).leaves[i]? = some (.enum l.type.name)) := by
  have hwell := (fault?_eq_none_iff place t).1 ht
  have hleaves := hwell.leafShapes_leaves symbols flag
  refine ⟨hwell.sameTree symbols flag, ?_, hleaves, ?_⟩
  · rw [Shape.referenced_eq]
    exact references_eq_of_forall₂ hleaves
  · intro i l hl
    exact ⟨hwell.leaf_inKey symbols hl, hwell.leaf_flagged symbols hl⟩

/-- A map to lists has the leaves of its keys and of its elements, and the flag reaches only these. -/
theorem TypeExpr.classified_without_loss_sample :
    let t : TypeExpr := .mk "dict" [.named "Color", .mk "list" [.mk "optional" [.named "Size"] false] false] false
    t.fault? "Box.sizes" = none ∧ SameTree t (t.shape ⟨[], []⟩ true) ∧
      (t.shape ⟨[], []⟩ true).referenced = ["Color", "Size"] ∧
      t.shape ⟨[], []⟩ true = .map (.custom "Color") (.sequence .list (.optional (.enum "Size"))) := by
  have hfault : (TypeExpr.mk "dict" [.named "Color", .mk "list" [.mk "optional" [.named "Size"] false] false]
      false).fault? "Box.sizes" = none := by decide
  obtain ⟨htree, hreferenced, -, -⟩ := classified_without_loss hfault ⟨[], []⟩ true
  exact ⟨hfault, htree, hreferenced.trans (by decide), by decide⟩

end WireBridge
