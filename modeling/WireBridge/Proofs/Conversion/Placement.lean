import WireBridge.Conversion.Fields
import WireBridge.Proofs.Problem.Placement

/-!
# Places of the problems of conversions

Conversions know nothing of the field that they are made for: whatever goes wrong in them stops without a place, in
the resolution of an absence (`unplaced_resolveAbsence`), in both directions of a field (`unplaced_convertField`,
`unplaced_wrapField`), and in its type and default in the native class.
-/

set_option autoImplicit false

namespace WireBridge

/-! ## Absence -/

theorem unplaced_firstAbsence (f : FieldDescriptor) (r : RecordDescriptor) :
    ∀ rules : List (String × AbsenceRule), (∀ x ∈ rules, Unplaced (x.2 f r)) → Unplaced (firstAbsence f r rules)
  | [], _ => unplaced_pure _
  | (n, rule) :: rules, h => by
    refine Unplaced.bind (h (n, rule) (by simp)) fun a => ?_
    split
    · exact unplaced_pure _
    · exact unplaced_firstAbsence f r rules fun x hx => h x (by simp [hx])

theorem unplaced_byErrorType (f : FieldDescriptor) (r : RecordDescriptor) :
    Unplaced (AbsenceRule.byErrorType f r) := by
  unfold AbsenceRule.byErrorType
  split
  · exact unplaced_pure _
  · split
    · exact unplaced_pure _
    · split
      · exact unplaced_pure _
      · exact unplaced_problem _

theorem unplaced_resolveAbsence (f : FieldDescriptor) (r : RecordDescriptor) : Unplaced (resolveAbsence f r) := by
  refine unplaced_firstAbsence f r _ fun x hx => ?_
  simp only [absenceRules, List.mem_cons, List.not_mem_nil, or_false] at hx
  rcases hx with rfl | rfl | rfl | rfl | rfl
  · exact unplaced_pure _
  · exact unplaced_byErrorType f r
  · exact unplaced_pure _
  · exact unplaced_pure _
  · exact unplaced_pure _

section Scoped

variable (scope : Scope)

/-! ## Values and types -/

theorem unplaced_externalEnum (n : String) : Unplaced (scope.externalEnum n) := by
  unfold Scope.externalEnum
  split
  · exact unplaced_ok _
  · exact unplaced_problem _

theorem unplaced_fromWire (sh : Shape) (e : Expr) (d : Int) : Unplaced (fromWire scope sh e d) := by
  induction sh generalizing e d with
  | primitive p => exact unplaced_pure _
  | wire n => exact unplaced_pure _
  | enum n =>
    unfold fromWire
    split
    · exact unplaced_pure _
    · exact (unplaced_externalEnum scope n).bind fun _ => unplaced_pure _
  | custom n =>
    unfold fromWire
    split
    · exact unplaced_pure _
    · exact unplaced_problem _
  | optional sh ih => exact (ih e d).bind fun _ => unplaced_pure _
  | sequence k sh ih => exact (ih _ _).bind fun _ => unplaced_pure _
  | map k v ihk ihv => exact (ihk _ _).bind fun _ => (ihv _ _).bind fun _ => unplaced_pure _

theorem unplaced_toWire (sh : Shape) (e : Expr) (d : Int) : Unplaced (toWire scope sh e d) := by
  induction sh generalizing e d with
  | primitive p => exact unplaced_pure _
  | wire n => exact unplaced_pure _
  | enum n =>
    unfold toWire
    split <;> exact unplaced_pure _
  | custom n =>
    unfold toWire
    split
    · exact unplaced_pure _
    · exact unplaced_problem _
  | optional sh ih => exact (ih e d).bind fun _ => unplaced_pure _
  | sequence k sh ih => exact (ih _ _).bind fun _ => unplaced_pure _
  | map k v ihk ihv => exact (ihk _ _).bind fun _ => (ihv _ _).bind fun _ => unplaced_pure _

theorem unplaced_mapValueShape (sh : Shape) : Unplaced (mapValueShape sh) := by
  unfold mapValueShape
  split
  · exact unplaced_pure _
  · exact unplaced_problem _

theorem NativeType.unplaced_ofShape (sh : Shape) : Unplaced (ofShape scope sh) := by
  induction sh with
  | enum n =>
    unfold ofShape
    split
    · exact unplaced_pure _
    · exact (unplaced_externalEnum scope n).bind fun _ => unplaced_pure _
  | optional sh ih => exact ih.bind fun _ => unplaced_pure _
  | sequence k sh ih => exact ih.bind fun _ => unplaced_pure _
  | map k v ihk ihv => exact ihk.bind fun _ => ihv.bind fun _ => unplaced_pure _
  | _ => exact unplaced_pure _

theorem DefaultValue.unplaced_ofShape (sh : Shape) : Unplaced (ofShape scope sh) := by
  cases sh with
  | enum n => exact (NativeType.unplaced_ofShape scope _).bind fun _ => unplaced_pure _
  | custom n =>
    rw [ofShape]
    split
    · exact unplaced_pure _
    · exact unplaced_problem _
  | _ => exact unplaced_pure _

/-! ## Fields -/

variable (f : FieldDescriptor) (a : Absence) (r : RecordDescriptor)

theorem NativeDefault.unplaced_ofField : Unplaced (ofField scope f) := by
  unfold ofField
  split
  · exact unplaced_pure _
  · split
    · exact (DefaultValue.unplaced_ofShape scope _).bind fun v => unplaced_pure _
    · exact unplaced_pure _

theorem DefaultValue.unplaced_ofField : Unplaced (ofField scope f a) := by
  unfold ofField
  dsimp only
  split
  · exact unplaced_pure _
  · exact unplaced_ofShape scope _

theorem unplaced_guard (test : AbsenceTest) (e : Expr) : Unplaced (guard scope f a r test e) := by
  refine Unplaced.bind ?_ fun _ => unplaced_pure _
  unfold missingAction
  split
  · exact (DefaultValue.unplaced_ofField scope f a).bind fun _ => unplaced_pure _
  · exact unplaced_pure _
  · split <;> exact unplaced_pure _
  · exact unplaced_pure _

theorem unplaced_guardIfEnforced (e : Expr) {x : Except ConfigError Block} (hx : Unplaced x) :
    Unplaced (guardIfEnforced scope f a r e x) := by
  unfold guardIfEnforced
  split
  · exact unplaced_guard scope f a r _ e
  · exact hx

theorem unplaced_convertCustom : Unplaced (convertCustom scope f a r) := by
  unfold convertCustom
  split
  · exact unplaced_problem _
  · dsimp only
    split
    · refine (unplaced_pure _).bind fun e => (unplaced_guardIfEnforced scope f a r e (unplaced_pure _)).bind fun b => ?_
      split
      · exact (unplaced_pure _).bind fun _ => unplaced_pure _
      · exact (unplaced_toWire scope _ _ _).bind fun _ => unplaced_pure _
    · refine (unplaced_fromWire scope _ _ _).bind fun e =>
        (unplaced_guardIfEnforced scope f a r e (unplaced_pure _)).bind fun b => ?_
      split
      · exact (unplaced_pure _).bind fun _ => unplaced_pure _
      · exact (unplaced_toWire scope _ _ _).bind fun _ => unplaced_pure _

theorem unplaced_transparentTarget : Unplaced (transparentTarget scope f) := by
  unfold transparentTarget
  dsimp only
  split
  · split
    · exact unplaced_pure _
    · exact unplaced_problem _
  · exact unplaced_problem _

theorem unplaced_convertTransparent : Unplaced (convertTransparent scope f a r) := by
  refine (unplaced_transparentTarget scope f).bind fun p => (unplaced_fromWire scope _ _ _).bind fun e => ?_
  refine (unplaced_guardIfEnforced scope f a r _ ?_).bind fun _ =>
    (unplaced_toWire scope _ _ _).bind fun _ => unplaced_pure _
  split
  · exact unplaced_pure _
  · split
    · exact unplaced_guard scope f _ r _ _
    · exact unplaced_pure _

theorem unplaced_collectionFromWire (e : Expr) : Unplaced (collectionFromWire scope f e) := by
  unfold collectionFromWire
  split
  · exact (unplaced_mapValueShape _).bind fun _ => (unplaced_fromWire scope _ _ _).bind fun _ => unplaced_pure _
  · exact unplaced_fromWire scope _ _ _

theorem unplaced_collectionToWire : Unplaced (collectionToWire scope f) := by
  unfold collectionToWire
  split
  · exact (unplaced_mapValueShape _).bind fun _ => (unplaced_toWire scope _ _ _).bind fun _ => unplaced_pure _
  · exact unplaced_toWire scope _ _ _

theorem unplaced_collectionBlock (k : Strategy) : Unplaced (collectionBlock scope f k a r) := by
  unfold collectionBlock
  dsimp only
  split
  · exact (unplaced_collectionFromWire scope f _).bind fun _ => unplaced_guard scope f a r _ _
  · split
    · exact (unplaced_collectionFromWire scope f _).bind fun _ => unplaced_guard scope f a r _ _
    · split
      · exact (unplaced_collectionFromWire scope f _).bind fun _ => unplaced_pure _
      · split <;> exact (unplaced_collectionFromWire scope f _).bind fun _ => unplaced_pure _

theorem unplaced_convertCollection (k : Strategy) : Unplaced (convertCollection scope f k a r) := by
  refine (unplaced_collectionToWire scope f).bind fun _ => (unplaced_collectionBlock scope f a r k).bind fun _ => ?_
  split <;> exact unplaced_pure _

theorem unplaced_convertOptionOrDefault : Unplaced (convertOptionOrDefault scope f a r) := by
  unfold convertOptionOrDefault
  dsimp only
  split
  · refine (unplaced_fromWire scope _ _ _).bind fun e =>
      (unplaced_guardIfEnforced scope f a r e (unplaced_pure _)).bind fun b => ?_
    exact (unplaced_toWire scope _ _ _).bind fun _ => unplaced_pure _
  · refine (unplaced_fromWire scope _ _ _).bind fun e =>
      (unplaced_guardIfEnforced scope f a r e (unplaced_pure _)).bind fun b => ?_
    exact (unplaced_toWire scope _ _ _).bind fun _ => unplaced_pure _

theorem unplaced_convertDirect : Unplaced (convertDirect scope f a r) := by
  refine (unplaced_fromWire scope _ _ _).bind fun e => ?_
  dsimp only
  split
  · refine (unplaced_guard scope f a r _ e).bind fun b => ?_
    exact (unplaced_toWire scope _ _ _).bind fun _ => unplaced_pure _
  · refine (unplaced_pure _).bind fun b => ?_
    exact (unplaced_toWire scope _ _ _).bind fun _ => unplaced_pure _

theorem unplaced_convertField (k : Strategy) : Unplaced (convertField scope f k a r) := by
  refine Unplaced.bind ?_ fun _ => unplaced_pure _
  unfold directions
  split
  · exact (DefaultValue.unplaced_ofField scope f _).bind fun _ => unplaced_pure _
  · exact unplaced_convertCustom scope f a r
  · exact unplaced_convertTransparent scope f a r
  · exact unplaced_convertCollection scope f a r k
  · exact unplaced_convertOptionOrDefault scope f a r
  · exact unplaced_convertDirect scope f a r

theorem unplaced_wrapField : Unplaced (wrapField scope f) :=
  (unplaced_fromWire scope _ _ _).bind fun _ => (unplaced_toWire scope _ _ _).bind fun _ => unplaced_pure _

end Scoped

end WireBridge
