import WireBridge.Proofs.Code.Block
import WireBridge.Proofs.Conversion.Agreement
import WireBridge.Proofs.Decision.Rules
import WireBridge.Proofs.Problem.Ensures

/-!
# Absence tests of generated code

Every strategy decides in its own way whether the code of a field tests for absence. `Block.Binds` is what the blocks
of all of them have in common: they bind the local variable of the field, outright or behind one test, whose branch
does what `missingAction` says of the field. So whatever block tests for absence answers it in that way
(`ensures_answers_directions`).

`absenceTest?` is the one policy that the strategies come to for a field without functions of its own
(`ensures_absenceTest`). It asks for the shape, the optionality on the wire, the resolved absence, and whether the
field itself expects presence.
-/

set_option autoImplicit false

namespace WireBridge

section Binds

variable (scope : Scope) (f : FieldDescriptor) (a : Absence) (r : RecordDescriptor)

/-- A block binds the local variable of a field, behind a test for absence if there is one. -/
def Block.Binds (test? : Option AbsenceTest) (b : Block) : Prop :=
  match test? with
  | some test => ∃ action present, missingAction scope f a r = .ok action ∧
      b = .guarded test action f.localName present
  | none => ∃ e, b = .bind f.localName e

theorem missingAction_of_unhandled {a : Absence} (h : a.kind = .unhandled) :
    missingAction scope f a r = .ok (.raise (.absent f.wireName)) := by
  simp only [missingAction, h]
  rfl

/-- Both directions of a field, of which the block binds the local variable. -/
def DirectionsBind (test? : Option AbsenceTest) (x : Block × Option Expr) : Prop := x.1.Binds scope f a r test?

variable {scope f a r}

theorem ensures_binds_bind (e : Expr) :
    Ensures (return .bind f.localName e) (Block.Binds scope f a r none) := .pure ⟨e, rfl⟩

theorem ensures_binds_guard (test : AbsenceTest) (e : Expr) :
    Ensures (guard scope f a r test e) (Block.Binds scope f a r (some test)) := by
  intro b hb
  obtain ⟨action, haction, hb⟩ := bind_eq_ok_iff.1 hb
  cases hb
  exact ⟨action, e, haction, rfl⟩

theorem ensures_binds_guardIfEnforced {test? : Option AbsenceTest} {e : Expr} {x : Except ConfigError Block}
    (hx : enforcesPresence f a = false → Ensures x (Block.Binds scope f a r test?)) :
    Ensures (guardIfEnforced scope f a r e x)
      (Block.Binds scope f a r (if enforcesPresence f a then some (.isNone f.wireSource) else test?)) := by
  unfold guardIfEnforced
  split
  · exact ensures_binds_guard _ e
  · next h => exact hx (Bool.eq_false_iff.2 h)

theorem ensures_binds_guardIfEnforced_bind (e e' : Expr) :
    Ensures (guardIfEnforced scope f a r e (return .bind f.localName e'))
      (Block.Binds scope f a r (if enforcesPresence f a then some (.isNone f.wireSource) else none)) :=
  ensures_binds_guardIfEnforced fun _ => ensures_binds_bind e'

/-! ## Strategies -/

theorem ensures_binds_convertCustom : Ensures (convertCustom scope f a r)
    (DirectionsBind scope f a r (if enforcesPresence f a then some (.isNone f.wireSource) else none)) := by
  unfold convertCustom
  split
  · exact .problem
  · dsimp only
    split
    all_goals
      refine .bind_last fun e => .bind (ensures_binds_guardIfEnforced_bind e e) fun b hb => ?_
      split <;> exact .bind_last fun _ => .pure hb

/-- The block of a transparent field where presence is not enforced. Nothing but an absence that is left unhandled can
be the reason for it if the wire value of a field that is no optional may be absent. -/
theorem ensures_binds_of_not_enforced (h : enforcesPresence f a = false) (e e' : Expr) :
    Ensures (if f.shape.isOptional then return .bind f.localName e'
        else if f.wireOptional then guard scope f .unhandled r (.isNone f.wireSource) e
        else return .bind f.localName e)
      (Block.Binds scope f a r
        (if !f.shape.isOptional && f.wireOptional then some (.isNone f.wireSource) else none)) := by
  cases ho : f.shape.isOptional with
  | true => exact ensures_binds_bind e'
  | false =>
    cases hw : f.wireOptional with
    | false => exact ensures_binds_bind e
    | true =>
      have hkind : a.kind = .unhandled := by simpa [enforcesPresence, ho, hw] using h
      have hsame : missingAction scope f .unhandled r = missingAction scope f a r :=
        (missingAction_of_unhandled scope f r rfl).trans (missingAction_of_unhandled scope f r hkind).symm
      simp only [guard, hsame]
      exact ensures_binds_guard _ e

theorem ensures_binds_convertTransparent : Ensures (convertTransparent scope f a r)
    (DirectionsBind scope f a r (if enforcesPresence f a then some (.isNone f.wireSource)
      else if !f.shape.isOptional && f.wireOptional then some (.isNone f.wireSource) else none)) := by
  refine .bind_last fun target => .bind_last fun e => ?_
  refine .bind (ensures_binds_guardIfEnforced fun h => ensures_binds_of_not_enforced h _ _) fun b hb => ?_
  exact .bind_last fun _ => .pure hb

/-- The test of a collection, which is missing when it is empty if it is expected, or if it is an optional with a
default. -/
def collectionTest? (f : FieldDescriptor) (s : Strategy) (a : Absence) : Option AbsenceTest :=
  if s.withError then some (.isEmpty f.wireSource)
  else if a.kind = .default then
    some (if f.shape.isOptionalCollection then .isEmpty f.wireSource else .isNone f.wireSource)
  else none

theorem ensures_binds_collectionBlock (s : Strategy) :
    Ensures (collectionBlock scope f s a r) (Block.Binds scope f a r (collectionTest? f s a)) := by
  unfold collectionBlock collectionTest?
  dsimp only
  split
  · exact .bind_last fun e => ensures_binds_guard _ e
  · split
    · exact .bind_last fun e => ensures_binds_guard _ e
    · split
      · exact .bind_last fun e => ensures_binds_bind _
      · split <;> exact .bind_last fun e => ensures_binds_bind e

theorem ensures_binds_convertCollection (s : Strategy) :
    Ensures (convertCollection scope f s a r) (DirectionsBind scope f a r (collectionTest? f s a)) := by
  refine .bind_last fun e => .bind (ensures_binds_collectionBlock s) fun b hb => ?_
  split <;> exact .pure hb

theorem ensures_binds_convertOptionOrDefault : Ensures (convertOptionOrDefault scope f a r)
    (DirectionsBind scope f a r (if enforcesPresence f a then some (.isNone f.wireSource) else none)) := by
  unfold convertOptionOrDefault
  dsimp only
  split
  all_goals
    refine .bind_last fun e => .bind (ensures_binds_guardIfEnforced_bind e _) fun b hb => ?_
    exact .bind_last fun _ => .pure hb

theorem ensures_binds_convertDirect : Ensures (convertDirect scope f a r)
    (DirectionsBind scope f a r (if f.wireOptional then some (.isNone f.wireSource) else none)) := by
  refine .bind_last fun e => ?_
  dsimp only
  split
  · exact .bind (ensures_binds_guard _ e) fun b hb => .bind_last fun _ => .pure hb
  · exact .bind (ensures_binds_bind e) fun b hb => .bind_last fun _ => .pure hb

theorem convertField_eq_ok {s : Strategy} {x : Artifact} (h : convertField scope f s a r = .ok x) :
    ∃ y, directions scope f s a r = .ok y ∧ x.fromWire = y.1 ∧ x.toWire = y.2 := by
  obtain ⟨y, hy, h⟩ := bind_eq_ok_iff.1 h
  cases h
  exact ⟨y, hy, rfl, rfl⟩

/-- What holds of the block of both directions holds of that of the artifact. -/
theorem ensures_fromWire_convertField {s : Strategy} {P : Block → Prop}
    (h : Ensures (directions scope f s a r) fun x => P x.1) :
    Ensures (convertField scope f s a r) fun x => P x.fromWire :=
  .bind h fun _ hx => .pure hx

/-- If a block tests for absence, then its branch does what is done where the value is missing. -/
def Block.Answers (scope : Scope) (f : FieldDescriptor) (a : Absence) (r : RecordDescriptor) (b : Block) : Prop :=
  ∀ test action name present, b = .guarded test action name present →
    missingAction scope f a r = .ok action ∧ name = f.localName

theorem Block.Binds.answers {test? : Option AbsenceTest} {b : Block} (h : b.Binds scope f a r test?) :
    b.Answers scope f a r := by
  rintro test action name present rfl
  cases test? with
  | none =>
    obtain ⟨e, he⟩ := h
    cases he
  | some test' =>
    obtain ⟨action', present', haction, he⟩ := h
    cases he
    exact ⟨haction, rfl⟩

/-- What holds of a default outright, and of every block that binds the local variable, holds of the block of a field. -/
theorem ensures_block_directions {P : Block → Prop} (hfill : ∀ v, P (.fill f.localName v))
    (hbinds : ∀ test? b, b.Binds scope f a r test? → P b) (s : Strategy) :
    Ensures (directions scope f s a r) fun x => P x.1 := by
  unfold directions
  split
  · exact .bind_last fun v => .pure (hfill v)
  · exact ensures_binds_convertCustom.imp fun _ hx => hbinds _ _ hx
  · exact ensures_binds_convertTransparent.imp fun _ hx => hbinds _ _ hx
  · exact (ensures_binds_convertCollection s).imp fun _ hx => hbinds _ _ hx
  · exact ensures_binds_convertOptionOrDefault.imp fun _ hx => hbinds _ _ hx
  · exact ensures_binds_convertDirect.imp fun _ hx => hbinds _ _ hx

theorem ensures_answers_directions (s : Strategy) :
    Ensures (directions scope f s a r) fun x => x.1.Answers scope f a r :=
  ensures_block_directions (fun _ _ _ _ _ h => by cases h) (fun _ _ h => h.answers) s

theorem missingAction_fill {n : String} {v : DefaultValue} (h : missingAction scope f a r = .ok (.fill n v)) :
    n = f.localName := by
  unfold missingAction at h
  split at h
  · obtain ⟨v', -, h⟩ := bind_eq_ok_iff.1 h
    cases h
    rfl
  · cases h
  · split at h <;> cases h
  · cases h

/-- The block of a field binds the local variable of the field and nothing else. -/
theorem ensures_bindsOnly_directions (s : Strategy) :
    Ensures (directions scope f s a r) fun x => x.1.BindsOnly f.localName := by
  refine ensures_block_directions (fun v => rfl) (fun test? b hb => ?_) s
  cases test? with
  | none =>
    obtain ⟨e, rfl⟩ := hb
    exact rfl
  | some test =>
    obtain ⟨action, present, haction, rfl⟩ := hb
    refine ⟨rfl, fun n v hfill => ?_⟩
    subst hfill
    exact missingAction_fill haction

end Binds

/-! ## Policy -/

/-- The absence test of a field that has no functions of its own and is not ignored. `expects` tells whether the field
itself expects presence. -/
def absenceTest? (f : FieldDescriptor) (expects : Bool) (kind : AbsenceKind) : Option AbsenceTest :=
  if f.shape.unwrapped.isCollection then
    if expects && (kind = .error || kind = .panic) then some (.isEmpty f.wireSource)
    else if kind = .default then some (if f.shape.isOptional then .isEmpty f.wireSource else .isNone f.wireSource)
    else none
  else if f.wireOptional && (!f.shape.isOptional || kind = .default || expects) then some (.isNone f.wireSource)
  else none

section Policy

variable {scope : Scope} {f : FieldDescriptor} {a : Absence} {r : RecordDescriptor}

/-- A transparent field stands for a record, so it is no collection. -/
theorem ensures_not_collection_of_transparent :
    Ensures (convertTransparent scope f a r) fun _ => f.shape.unwrapped.isCollection = false := by
  intro x hx
  obtain ⟨target, htarget, -⟩ := bind_eq_ok_iff.1 hx
  obtain ⟨n, -, -, hshape, -⟩ := transparentTarget_eq_ok htarget
  rw [hshape]
  rfl

variable (hexplicit : f.expectation.explicit = true → a.kind ≠ .unhandled)

include hexplicit

theorem absenceTest?_of_transparent (hshape : f.shape.unwrapped.isCollection = false) :
    (if enforcesPresence f a then some (.isNone f.wireSource)
      else if !f.shape.isOptional && f.wireOptional then some (.isNone f.wireSource) else none) =
      absenceTest? f f.expectation.explicit a.kind := by
  obtain ⟨kind, g⟩ := a
  cases kind <;> cases hw : f.wireOptional <;> cases ho : f.shape.isOptional <;>
    cases he : f.expectation.explicit <;> simp_all [absenceTest?, enforcesPresence]

omit hexplicit in
theorem absenceTest?_of_collection {c : CollectionKind} (hshape : f.shape.unwrapped.isCollection = true) :
    collectionTest? f ⟨.collection, some c, f.expectation.explicit && (a.kind = .error || a.kind = .panic)⟩ a =
      absenceTest? f f.expectation.explicit a.kind := by
  simp only [collectionTest?, absenceTest?, hshape, Shape.isOptionalCollection, Bool.and_true, if_true]

theorem absenceTest?_of_optionOrDefault (hshape : f.shape.unwrapped.isCollection = false)
    (h : (f.shape.isOptional || a.kind ≠ .unhandled) = true) :
    (if enforcesPresence f a then some (.isNone f.wireSource) else none) =
      absenceTest? f f.expectation.explicit a.kind := by
  obtain ⟨kind, g⟩ := a
  cases kind <;> cases hw : f.wireOptional <;> cases ho : f.shape.isOptional <;>
    cases he : f.expectation.explicit <;> simp_all [absenceTest?, enforcesPresence]

omit hexplicit in
theorem absenceTest?_of_direct (hshape : f.shape.unwrapped.isCollection = false)
    (h : (f.shape.isOptional || a.kind ≠ .unhandled) = false) :
    (if f.wireOptional then some (.isNone f.wireSource) else none) =
      absenceTest? f f.expectation.explicit a.kind := by
  have ho : f.shape.isOptional = false := (Bool.or_eq_false_iff.1 h).1
  simp [absenceTest?, hshape, ho]

/-- The block of a field that has no functions of its own and is not ignored tests for absence by the policy. -/
theorem ensures_absenceTest (hi : f.ignored = false) (hc : f.custom = none)
    (hcollection : f.collection = f.shape.unwrapped.collection?) :
    Ensures (directions scope f (resolveStrategy f a).outcome a r)
      (DirectionsBind scope f a r (absenceTest? f f.expectation.explicit a.kind)) := by
  rw [resolveStrategy_converted a hi hc]
  cases f.transparent with
  | true =>
    refine (ensures_binds_convertTransparent.and ensures_not_collection_of_transparent).imp fun x hx => ?_
    rw [← absenceTest?_of_transparent hexplicit hx.2]
    exact hx.1
  | false =>
    cases hk : f.collection with
    | some c =>
      have hshape : f.shape.unwrapped.isCollection = true := by rw [Shape.isCollection, ← hcollection, hk]; rfl
      rw [← absenceTest?_of_collection hshape]
      exact ensures_binds_convertCollection _
    | none =>
      have hshape : f.shape.unwrapped.isCollection = false := by rw [Shape.isCollection, ← hcollection, hk]; rfl
      cases h : f.shape.isOptional || a.kind ≠ .unhandled with
      | true =>
        rw [← absenceTest?_of_optionOrDefault hexplicit hshape h]
        exact ensures_binds_convertOptionOrDefault
      | false =>
        rw [← absenceTest?_of_direct hshape h]
        exact ensures_binds_convertDirect

end Policy

end WireBridge
