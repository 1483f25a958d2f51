import WireBridge.Proofs.Conversion.Tests
import WireBridge.Proofs.Conversion.Texts

/-!
# A function for one direction

A function of its own for one direction of a field leaves the other to the shape of the field alone: the strategy that
would have converted the field has no part in it any more. `reading_lines_iff` and `writing_text_iff` say when the other
direction has the same text as without the function (`FieldDescriptor.KeepsReading`, `FieldDescriptor.KeepsWriting`).

What is lost is the policy for collections, which count as empty where they are missing, the attribute that keys a map,
the test for an absence that nothing handles, and, where absence is handled in an optional, that its present value needs
no further test.
-/

set_option autoImplicit false

namespace WireBridge

namespace FieldDescriptor

variable (f : FieldDescriptor)

/-- The field is read alike with a function for writing it, where its absence is resolved. -/
def KeepsReading (a : Absence) : Prop :=
  if f.shape.unwrapped.isCollection then
    a.kind = .default ∧ f.shape.isOptional = false ∧ f.wireOptional = true ∧ f.key = none
  else if f.shape.isOptional then enforcesPresence f a = true → f.shape.unwrapped.isVerbatim = true
  else f.wireOptional = true → a.kind ≠ .unhandled

/-- The field is written alike with a function for reading it. -/
def KeepsWriting : Prop := f.shape.unwrapped.isCollection = true → f.shape.isOptional = false ∧ f.key = none

/-- The field with functions of its own. -/
def withFunctions (c : CustomFunctions) : FieldDescriptor := { f with custom := some c }

end FieldDescriptor

/-! ## Shapes -/

theorem Shape.isVerbatim_of_isCollection {s : Shape} (h : s.isCollection = true) : s.isVerbatim = false := by
  cases s <;> first | rfl | cases h

theorem fromWire_of_isVerbatim {scope : Scope} {s : Shape} (hs : s.isVerbatim = true) {e x : Expr} {d : Int}
    (h : fromWire scope s e d = .ok x) : x = e := by
  induction s generalizing x with
  | primitive p => exact (Except.ok.inj h).symm
  | wire n => exact (Except.ok.inj h).symm
  | optional s ih =>
    obtain ⟨inner, -, h⟩ := bind_eq_ok_iff.1 h
    have hinner : s.isVerbatim = true := hs
    rw [if_pos hinner] at h
    exact (Except.ok.inj h).symm
  | _ => cases hs

theorem text_whenHeld_ne_text_unlessNone {body : Expr} (hbody : body.text.toList.head? ≠ some 'N')
    {tested tested' body' : Expr} {empty : EmptyCollection} :
    (Expr.whenHeld body tested empty).text ≠ (Expr.unlessNone tested' body').text := by
  intro h
  have hhead := congrArg (·.toList.head?) h
  simp only [Expr.text_whenHeld, Expr.text_unlessNone, String.toList_append] at hhead
  cases hb : body.text.toList with
  | nil => simp [hb] at hhead
  | cons c cs => simp_all

/-! ## Blocks -/

section Compare

variable {scope : Scope} {f : FieldDescriptor} {a : Absence} {r : RecordDescriptor}

theorem guard_eq_ok {test : AbsenceTest} {e : Expr} {b : Block} (h : guard scope f a r test e = .ok b) :
    ∃ action, missingAction scope f a r = .ok action ∧ b = .guarded test action f.localName e := by
  obtain ⟨action, haction, h⟩ := bind_eq_ok_iff.1 h
  exact ⟨action, haction, (Except.ok.inj h).symm⟩

theorem guardIfEnforced_eq_ok {e : Expr} {x : Except ConfigError Block} {b : Block}
    (h : guardIfEnforced scope f a r e x = .ok b) :
    (enforcesPresence f a = true ∧ ∃ action, missingAction scope f a r = .ok action ∧
        b = .guarded (.isNone f.wireSource) action f.localName e) ∨
      (enforcesPresence f a = false ∧ x = .ok b) := by
  unfold guardIfEnforced at h
  split at h
  · next he => exact .inl ⟨he, guard_eq_ok h⟩
  · next he => exact .inr ⟨Bool.eq_false_iff.2 he, h⟩

/-- A field that only a function for writing it converts is read by its shape. -/
theorem convertCustom_reading {c : CustomFunctions} (hc : c.fromWire = none) {x : Block × Option Expr}
    (h : convertCustom scope (f.withFunctions c) a r = .ok x) :
    ∃ present, fromWire scope f.shape f.wireSource 0 = .ok present ∧
      guardIfEnforced scope f a r present (return .bind f.localName present) = .ok x.1 := by
  have hcustom : (f.withFunctions c).custom = some c := rfl
  simp only [convertCustom, hcustom, hc] at h
  obtain ⟨present, hpresent, h⟩ := bind_eq_ok_iff.1 h
  obtain ⟨block, hblock, h⟩ := bind_eq_ok_iff.1 h
  split at h
  all_goals
    obtain ⟨counterpart, -, h⟩ := bind_eq_ok_iff.1 h
    cases h
    exact ⟨present, hpresent, hblock⟩

/-- A field that only a function for reading it converts is written by its shape. -/
theorem convertCustom_writing {c : CustomFunctions} (hc : c.toWire = none) {x : Block × Option Expr}
    (h : convertCustom scope (f.withFunctions c) a r = .ok x) :
    ∃ e, toWire scope f.shape f.nativeSource 0 = .ok e ∧ x.2 = some e := by
  have hcustom : (f.withFunctions c).custom = some c := rfl
  simp only [convertCustom, hcustom, hc] at h
  split at h
  all_goals
    obtain ⟨present, -, h⟩ := bind_eq_ok_iff.1 h
    obtain ⟨block, -, h⟩ := bind_eq_ok_iff.1 h
    obtain ⟨counterpart, hcounterpart, h⟩ := bind_eq_ok_iff.1 h
    cases h
    exact ⟨counterpart, hcounterpart, rfl⟩

/-! ## Collections -/

theorem collectionShape_of_isOptional (hc : f.shape.unwrapped.isCollection = true) :
    collectionShape f = f.shape.unwrapped := by
  cases hs : f.shape <;> simp_all [collectionShape, Shape.isOptionalCollection, Shape.isOptional, Shape.unwrapped]

/-- The conversion of a collection, by its shape or by the attribute that keys it. -/
theorem collectionFromWire_eq_ok {e x : Expr} (h : collectionFromWire scope f e = .ok x) :
    (f.key = none ∧ fromWire scope (collectionShape f) e 0 = .ok x) ∨
      ∃ k, f.key = some k ∧ keyedFromWire scope (collectionShape f) k e = .ok x := by
  unfold collectionFromWire at h
  split at h
  · next k hk => exact .inr ⟨k, hk, h⟩
  · next hk => exact .inl ⟨hk, h⟩

theorem head?_of_collectionFromWire (hc : f.shape.unwrapped.isCollection = true) {e x : Expr}
    (h : collectionFromWire scope f e = .ok x) : x.text.toList.head? ≠ some 'N' := by
  rcases collectionFromWire_eq_ok h with ⟨-, h⟩ | ⟨k, -, h⟩
  · rw [collectionShape_of_isOptional hc] at h
    obtain ⟨builder, hcontainer, -, hall⟩ := exists_builder_fromWire hc h
    obtain rfl := Except.ok.inj (h.symm.trans (hall e))
    exact Builder.head?_apply hcontainer e
  · obtain ⟨-, values, rfl, -⟩ := keyedFromWire_eq_ok h
    simp

/-- The conversion of a collection has the text of that of its shape, from the wire value itself, exactly if it is one
from the wire value and no attribute keys it. -/
theorem text_eq_iff_of_collectionFromWire (hc : f.shape.isCollection = true) {present base e : Expr}
    (hpresent : fromWire scope f.shape f.wireSource 0 = .ok present) (h : collectionFromWire scope f base = .ok e)
    (hbase : base = f.wireSource ∨ base = .orEmpty f.wireSource .tuple ∨
      f.key = none ∧ base = .parens (.orEmpty f.wireSource .map)) :
    present.text = e.text ↔ base = f.wireSource ∧ f.key = none := by
  have hshape : collectionShape f = f.shape := by
    rw [collectionShape, if_neg (by simp [Shape.isOptionalCollection, Shape.isOptional_of_isCollection hc])]
  obtain ⟨builder, -, hmap, hall⟩ := exists_builder_fromWire hc hpresent
  obtain rfl := Except.ok.inj (hpresent.symm.trans (hall f.wireSource))
  rcases collectionFromWire_eq_ok h with ⟨hkey, h⟩ | ⟨k, hkey, h⟩
  · rw [hshape] at h
    obtain rfl := Except.ok.inj (h.symm.trans (hall base))
    refine ⟨fun htext => ⟨?_, hkey⟩, fun h => by rw [h.1]⟩
    have hlength := congrArg String.length (Builder.text_apply_injective htext)
    have hor : 0 < " or ".length := by decide
    rcases hbase with hbase | rfl | ⟨-, rfl⟩
    · exact hbase
    all_goals
      simp only [Expr.text_orEmpty, Expr.text_parens, String.length_append] at hlength
      omega
  · obtain ⟨hm, values, rfl, hvalues⟩ := keyedFromWire_eq_ok h
    refine iff_of_false (fun htext => ?_) fun h => by simp [hkey] at h
    refine text_keyedBy_ne (hmap (hshape ▸ hm)) (by simp) ?_ hvalues htext.symm
    exact hbase.imp_right fun hbase => hbase.resolve_right fun h => by simp [hkey] at h

/-- The block of a collection: behind a test that may count an empty one as missing, or outright, with an empty
collection in place of a missing one. -/
inductive CollectionReading (scope : Scope) (f : FieldDescriptor) (s : Strategy) (a : Absence) (r : RecordDescriptor) :
    Block → Prop
  | expected {action : MissingAction} {e : Expr} (hs : s.withError = true)
    (ha : missingAction scope f a r = .ok action) (he : collectionFromWire scope f f.wireSource = .ok e) :
    CollectionReading scope f s a r (.guarded (.isEmpty f.wireSource) action f.localName e)
  | filled {action : MissingAction} {e : Expr} (hk : a.kind = .default) (ha : missingAction scope f a r = .ok action)
    (he : collectionFromWire scope f f.wireSource = .ok e) :
    CollectionReading scope f s a r
      (.guarded (if f.shape.isOptionalCollection then .isEmpty f.wireSource else .isNone f.wireSource) action
        f.localName e)
  | held {e : Expr} (hk : a.kind ≠ .default) (ho : f.shape.isOptionalCollection = true)
    (he : collectionFromWire scope f f.wireSource = .ok e) :
    CollectionReading scope f s a r (.bind f.localName (.whenHeld e f.wireSource .nothing))
  | empty {base e : Expr} (hk : a.kind ≠ .default) (ho : f.shape.isOptionalCollection = false)
    (hbase : base = .orEmpty f.wireSource .tuple ∨ f.key = none ∧ base = .parens (.orEmpty f.wireSource .map))
    (he : collectionFromWire scope f base = .ok e) : CollectionReading scope f s a r (.bind f.localName e)

theorem collectionReading_of_eq_ok {s : Strategy} {b : Block} (h : collectionBlock scope f s a r = .ok b) :
    CollectionReading scope f s a r b := by
  unfold collectionBlock at h
  dsimp only at h
  split at h
  · next hs =>
    obtain ⟨e, he, h⟩ := bind_eq_ok_iff.1 h
    obtain ⟨action, haction, rfl⟩ := guard_eq_ok h
    exact .expected hs haction he
  · split at h
    · next hk =>
      obtain ⟨e, he, h⟩ := bind_eq_ok_iff.1 h
      obtain ⟨action, haction, rfl⟩ := guard_eq_ok h
      exact .filled hk haction he
    · next hk =>
      split at h
      · next ho =>
        obtain ⟨e, he, h⟩ := bind_eq_ok_iff.1 h
        cases h
        exact .held hk ho he
      · next ho =>
        split at h
        · next hmap =>
          obtain ⟨e, he, h⟩ := bind_eq_ok_iff.1 h
          cases h
          have hkey : f.key = none := by simpa using (Bool.and_eq_true_iff.1 hmap).2
          exact .empty hk (Bool.eq_false_iff.2 ho) (.inr ⟨hkey, rfl⟩) he
        · obtain ⟨e, he, h⟩ := bind_eq_ok_iff.1 h
          cases h
          exact .empty hk (Bool.eq_false_iff.2 ho) (.inl rfl) he

/-! ## Reading -/

theorem text_isEmpty_ne_text_isNone :
    (AbsenceTest.isEmpty f.wireSource).text ≠ (AbsenceTest.isNone f.wireSource).text := by
  intro h
  simp [AbsenceTest.text, FieldDescriptor.wireSource, ← String.toList_inj] at h

variable {present : Expr} {b : Block} (hpresent : fromWire scope f.shape f.wireSource 0 = .ok present)
  (hb : guardIfEnforced scope f a r present (return .bind f.localName present) = .ok b)

include hpresent hb

/-- An optional and a field whose absence is handled. -/
theorem lines_eq_iff_of_optionOrDefault {x : Block × Option Expr} (h : convertOptionOrDefault scope f a r = .ok x) :
    b.lines = x.1.lines ↔
      (f.shape.isOptional = true → enforcesPresence f a = true → f.shape.unwrapped.isVerbatim = true) := by
  unfold convertOptionOrDefault at h
  dsimp only at h
  split at h
  · next inner hshape =>
    obtain ⟨present', hpresent', h⟩ := bind_eq_ok_iff.1 h
    obtain ⟨b', hb', h⟩ := bind_eq_ok_iff.1 h
    obtain ⟨counterpart, -, h⟩ := bind_eq_ok_iff.1 h
    cases h
    have hoptional : present = if inner.isVerbatim then f.wireSource else .unlessNone f.wireSource present' := by
      rw [hshape, fromWire, hpresent'] at hpresent
      exact (Except.ok.inj hpresent).symm
    simp only [hshape, Shape.isOptional, Shape.unwrapped, forall_const]
    rcases guardIfEnforced_eq_ok hb with ⟨he, action, haction, rfl⟩ | ⟨he, hb⟩
    · rcases guardIfEnforced_eq_ok hb' with ⟨-, action', haction', rfl⟩ | ⟨he', -⟩
      · obtain rfl := Except.ok.inj (haction.symm.trans haction')
        rw [Block.lines_guarded_inj, hoptional]
        cases hv : inner.isVerbatim with
        | true => simp [fromWire_of_isVerbatim hv hpresent']
        | false => simp [he]
      · simp [he] at he'
    · rcases guardIfEnforced_eq_ok hb' with ⟨he', -⟩ | ⟨-, hb'⟩
      · simp [he] at he'
      · cases hb
        cases hb'
        simp [he, hoptional]
  · next hshape =>
    obtain ⟨present', hpresent', h⟩ := bind_eq_ok_iff.1 h
    obtain ⟨b', hb', h⟩ := bind_eq_ok_iff.1 h
    obtain ⟨counterpart, -, h⟩ := bind_eq_ok_iff.1 h
    cases h
    obtain rfl := Except.ok.inj (hpresent.symm.trans hpresent')
    obtain rfl := Except.ok.inj (hb.symm.trans hb')
    have hoptional : f.shape.isOptional = false := by
      cases hs : f.shape <;> first | rfl | exact absurd hs (hshape _)
    simp [hoptional]

/-- A field whose absence nothing handles. -/
theorem lines_eq_iff_of_direct (hk : a.kind = .unhandled) {x : Block × Option Expr}
    (h : convertDirect scope f a r = .ok x) : b.lines = x.1.lines ↔ f.wireOptional = false := by
  obtain ⟨present', hpresent', h⟩ := bind_eq_ok_iff.1 h
  obtain rfl := Except.ok.inj (hpresent.symm.trans hpresent')
  have hunenforced : enforcesPresence f a = false := by simp [enforcesPresence, hk]
  rcases guardIfEnforced_eq_ok hb with ⟨he, -⟩ | ⟨-, hb⟩
  · simp [hunenforced] at he
  cases hb
  dsimp only at h
  split at h
  · next hw =>
    obtain ⟨b', hb', h⟩ := bind_eq_ok_iff.1 h
    obtain ⟨counterpart, -, h⟩ := bind_eq_ok_iff.1 h
    cases h
    obtain ⟨action, -, rfl⟩ := guard_eq_ok hb'
    simp [hw, Block.lines_bind_ne_lines_guarded]
  · next hw =>
    obtain ⟨b', hb', h⟩ := bind_eq_ok_iff.1 h
    obtain ⟨counterpart, -, h⟩ := bind_eq_ok_iff.1 h
    cases h
    cases hb'
    simp [Bool.eq_false_iff.2 hw]

/-- A collection that an optional holds. -/
theorem lines_ne_of_optionalCollection {s : Strategy} (hc : f.shape.unwrapped.isCollection = true)
    (ho : f.shape.isOptional = true) {b' : Block} (h : CollectionReading scope f s a r b') : b.lines ≠ b'.lines := by
  have hoc : f.shape.isOptionalCollection = true := by rw [Shape.isOptionalCollection, ho, hc]; rfl
  obtain ⟨inner, hinner⟩ : ∃ inner, present = .unlessNone f.wireSource inner := by
    cases hs : f.shape with
    | optional t =>
      rw [hs] at hpresent hc
      have hv : t.isVerbatim = false := Shape.isVerbatim_of_isCollection hc
      obtain ⟨inner, -, h⟩ := bind_eq_ok_iff.1 hpresent
      rw [if_neg (by simp [hv])] at h
      exact ⟨inner, (Except.ok.inj h).symm⟩
    | _ => simp [hs, Shape.isOptional] at ho
  rcases guardIfEnforced_eq_ok hb with ⟨-, action, haction, rfl⟩ | ⟨-, hb⟩
  · cases h with
    | expected hs ha he =>
      obtain rfl := Except.ok.inj (haction.symm.trans ha)
      exact fun h => text_isEmpty_ne_text_isNone (Block.lines_guarded_inj.1 h).1.symm
    | filled hk ha he =>
      obtain rfl := Except.ok.inj (haction.symm.trans ha)
      rw [if_pos hoc]
      exact fun h => text_isEmpty_ne_text_isNone (Block.lines_guarded_inj.1 h).1.symm
    | held hk ho he => exact Block.lines_bind_ne_lines_guarded.symm
    | empty hk ho hheld he => simp [hoc] at ho
  · cases hb
    cases h with
    | expected hs ha he => exact Block.lines_bind_ne_lines_guarded
    | filled hk ha he => exact Block.lines_bind_ne_lines_guarded
    | held hk ho he =>
      rw [hinner]
      exact fun h =>
        text_whenHeld_ne_text_unlessNone (head?_of_collectionFromWire hc he) (Block.lines_bind_inj.1 h).symm
    | empty hk ho hheld he => simp [hoc] at ho

/-- A collection that no optional holds is read alike only where it has a default and may be absent. -/
theorem lines_eq_iff_of_collection {s : Strategy} (hc : f.shape.isCollection = true)
    (hs : s.withError = true → a.kind ≠ .default) {b' : Block} (h : CollectionReading scope f s a r b') :
    b.lines = b'.lines ↔ a.kind = .default ∧ f.wireOptional = true ∧ f.key = none := by
  have hoc : f.shape.isOptionalCollection = false := by
    rw [Shape.isOptionalCollection, Shape.isOptional_of_isCollection hc]
    rfl
  rcases guardIfEnforced_eq_ok hb with ⟨he, action, haction, rfl⟩ | ⟨he, hb⟩
  · have hw : f.wireOptional = true := by
      simp only [enforcesPresence, Bool.and_eq_true] at he
      exact he.1.1
    cases h with
    | expected hs' ha he' =>
      obtain rfl := Except.ok.inj (haction.symm.trans ha)
      exact iff_of_false (fun h => text_isEmpty_ne_text_isNone (Block.lines_guarded_inj.1 h).1.symm)
        fun h => hs hs' h.1
    | filled hk ha he' =>
      obtain rfl := Except.ok.inj (haction.symm.trans ha)
      rw [if_neg (by simp [hoc]), Block.lines_guarded_inj, text_eq_iff_of_collectionFromWire hc hpresent he' (.inl rfl)]
      simp [hk, hw]
    | held hk ho he' => simp [hoc] at ho
    | empty hk ho hbase he' => exact iff_of_false Block.lines_bind_ne_lines_guarded.symm fun h => hk h.1
  · cases hb
    cases h with
    | expected hs' ha he' => exact iff_of_false Block.lines_bind_ne_lines_guarded fun h => hs hs' h.1
    | filled hk ha he' =>
      have hw : f.wireOptional = false := by simpa [enforcesPresence, hk] using he
      exact iff_of_false Block.lines_bind_ne_lines_guarded fun h => by simp [hw] at h
    | held hk ho he' => simp [hoc] at ho
    | empty hk ho hbase he' =>
      rw [Block.lines_bind_inj, text_eq_iff_of_collectionFromWire hc hpresent he' (.inr hbase)]
      refine iff_of_false (fun h => ?_) fun h => hk h.1
      rcases hbase with rfl | ⟨-, rfl⟩ <;> simp [FieldDescriptor.wireSource] at h

omit hpresent hb

variable (hi : f.ignored = false) (hf : f.custom = none) (ht : f.transparent = false)
  (hcollection : f.collection = f.shape.unwrapped.collection?)

include hi hf ht hcollection

/-- When a function for writing a field leaves the lines that read it as they are. -/
theorem reading_lines_iff {c : CustomFunctions} (hc : c.fromWire = none) {x y : Block × Option Expr}
    (h : directions scope f (resolveStrategy f a).outcome a r = .ok x)
    (h' : convertCustom scope (f.withFunctions c) a r = .ok y) : y.1.lines = x.1.lines ↔ f.KeepsReading a := by
  obtain ⟨present, hpresent, hb⟩ := convertCustom_reading hc h'
  rw [resolveStrategy_converted a hi hf, if_neg (by simp [ht])] at h
  unfold FieldDescriptor.KeepsReading
  cases hk : f.collection with
  | some k =>
    have hshape : f.shape.unwrapped.isCollection = true := by rw [Shape.isCollection, ← hcollection, hk]; rfl
    rw [hk] at h
    obtain ⟨counterpart, -, h⟩ := bind_eq_ok_iff.1 h
    obtain ⟨block, hblock, h⟩ := bind_eq_ok_iff.1 h
    have hx : x.1 = block := by split at h <;> cases h <;> rfl
    have hreading := collectionReading_of_eq_ok hblock
    rw [if_pos hshape, hx]
    cases ho : f.shape.isOptional with
    | true => exact iff_of_false (lines_ne_of_optionalCollection hpresent hb hshape ho hreading) (by simp)
    | false =>
      have hcoll : f.shape.isCollection = true := by
        cases hs : f.shape <;> simp_all [Shape.isOptional, Shape.unwrapped]
      rw [lines_eq_iff_of_collection hpresent hb hcoll ?_ hreading]
      · simp
      · simp only [Bool.and_eq_true, Bool.or_eq_true, decide_eq_true_eq]
        rintro ⟨-, hkind | hkind⟩ <;> simp [hkind]
  | none =>
    have hshape : f.shape.unwrapped.isCollection = false := by rw [Shape.isCollection, ← hcollection, hk]; rfl
    rw [hk] at h
    rw [if_neg (by simp [hshape])]
    dsimp only at h
    split at h
    · next hs =>
      rw [lines_eq_iff_of_optionOrDefault hpresent hb h]
      split
      · next ho => simp [ho]
      · next ho => simp_all
    · next hs =>
      obtain ⟨ho, hkind⟩ : f.shape.isOptional = false ∧ a.kind = .unhandled := by simpa using hs
      rw [lines_eq_iff_of_direct hpresent hb hkind h]
      simp [ho, hkind]

/-! ## Writing -/

omit hi hf ht hcollection

/-- A collection that an attribute keys is written as a sequence, and never like a map. -/
theorem text_eq_iff_of_collectionToWire (hc : f.shape.isCollection = true) {e e' : Expr}
    (he : toWire scope f.shape f.nativeSource 0 = .ok e) (h : collectionToWire scope f = .ok e') :
    e.text = e'.text ↔ f.key = none := by
  have hshape : collectionShape f = f.shape := by
    rw [collectionShape, if_neg (by simp [Shape.isOptionalCollection, Shape.isOptional_of_isCollection hc])]
  unfold collectionToWire at h
  rw [hshape] at h
  split at h
  · next k hk =>
    obtain ⟨hm, hhead⟩ := keyedToWire_eq_ok h
    obtain ⟨builder, -, hmap, rfl⟩ := exists_builder_toWire hc he
    refine iff_of_false (fun htext => ?_) (by simp [hk])
    rw [← htext] at hhead
    rcases Builder.head?_apply_of_isMap (hmap hm) f.nativeSource with hb | hb <;> simp [hb] at hhead
  · next hk => simp [Except.ok.inj (he.symm.trans h), hk]

theorem ensures_writing_optionOrDefault {e : Expr} (he : toWire scope f.shape f.nativeSource 0 = .ok e) :
    Ensures (convertOptionOrDefault scope f a r) fun x => x.2 = some e := by
  unfold convertOptionOrDefault
  dsimp only
  split
  all_goals
    refine .bind_last fun _ => .bind_last fun _ => ?_
    rw [he]
    exact .pure rfl

theorem ensures_writing_direct {e : Expr} (he : toWire scope f.shape f.nativeSource 0 = .ok e) :
    Ensures (convertDirect scope f a r) fun x => x.2 = some e := by
  refine .bind_last fun present => ?_
  dsimp only
  rw [he]
  split <;> exact .bind_last fun _ => .pure rfl

theorem head?_of_collectionToWire (hc : f.shape.unwrapped.isCollection = true) {e : Expr}
    (h : collectionToWire scope f = .ok e) : e.text.toList.head? ≠ some 'N' := by
  unfold collectionToWire at h
  split at h
  · rcases (keyedToWire_eq_ok h).2 with hhead | hhead <;> simp [hhead]
  · rw [collectionShape_of_isOptional hc] at h
    obtain ⟨builder, hcontainer, -, rfl⟩ := exists_builder_toWire hc h
    exact Builder.head?_apply hcontainer _

include hi hf ht hcollection

/-- When a function for reading a field leaves the text that writes it as it is. -/
theorem writing_text_iff {c : CustomFunctions} (hc : c.toWire = none) {x y : Block × Option Expr}
    (h : directions scope f (resolveStrategy f a).outcome a r = .ok x)
    (h' : convertCustom scope (f.withFunctions c) a r = .ok y) :
    y.2.map Expr.text = x.2.map Expr.text ↔ f.KeepsWriting := by
  obtain ⟨e, he, hy⟩ := convertCustom_writing hc h'
  rw [resolveStrategy_converted a hi hf, if_neg (by simp [ht])] at h
  rw [hy, Option.map_some, FieldDescriptor.KeepsWriting]
  cases hk : f.collection with
  | some k =>
    have hshape : f.shape.unwrapped.isCollection = true := by rw [Shape.isCollection, ← hcollection, hk]; rfl
    rw [hk] at h
    obtain ⟨counterpart, hcounterpart, h⟩ := bind_eq_ok_iff.1 h
    obtain ⟨block, -, h⟩ := bind_eq_ok_iff.1 h
    cases ho : f.shape.isOptional with
    | true =>
      have hoc : f.shape.isOptionalCollection = true := by rw [Shape.isOptionalCollection, ho, hshape]; rfl
      rw [if_pos hoc] at h
      cases h
      obtain ⟨inner, rfl⟩ : ∃ inner, e = .unlessNone f.nativeSource inner := by
        cases hs : f.shape with
        | optional t =>
          rw [hs] at he hshape
          have hv : t.isVerbatim = false := Shape.isVerbatim_of_isCollection hshape
          obtain ⟨inner, -, he⟩ := bind_eq_ok_iff.1 he
          rw [if_neg (by simp [hv])] at he
          exact ⟨inner, (Except.ok.inj he).symm⟩
        | _ => simp [hs, Shape.isOptional] at ho
      refine iff_of_false (fun htext => ?_) (by simp [hshape])
      exact text_whenHeld_ne_text_unlessNone (head?_of_collectionToWire hshape hcounterpart)
        (Option.some.inj htext).symm
    | false =>
      have hcoll : f.shape.isCollection = true := by
        cases hs : f.shape <;> simp_all [Shape.isOptional, Shape.unwrapped]
      rw [if_neg (by simp [Shape.isOptionalCollection, ho])] at h
      cases h
      simp [text_eq_iff_of_collectionToWire hcoll he hcounterpart, hshape]
  | none =>
    have hshape : f.shape.unwrapped.isCollection = false := by rw [Shape.isCollection, ← hcollection, hk]; rfl
    rw [hk] at h
    have hx : x.2 = some e := by
      dsimp only at h
      split at h
      · exact ensures_writing_optionOrDefault he _ h
      · exact ensures_writing_direct he _ h
    simp [hx, hshape]

end Compare

end WireBridge
