import WireBridge.Proofs.Problem.Placement

/-!
# Problems up to their wording

`SamePlaces x y` : the computations `x` and `y` come to the same result, or both stop with problems at the same place.
The stages that follow and the stages around two such computations keep this (`SamePlaces.bind`, `SamePlaces.mapM`,
`SamePlaces.placedAt`), since none of them looks at the wording of a problem.
-/

set_option autoImplicit false

namespace WireBridge

variable {α β γ δ : Type}

/-- The two computations come to the same, but for the wording of a problem. -/
def SamePlaces (x y : Except ConfigError α) : Prop := x.mapError (·.path) = y.mapError (·.path)

theorem samePlaces_error {e e' : ConfigError} (h : e.path = e'.path) :
    SamePlaces (.error e : Except ConfigError α) (.error e') :=
  congrArg Except.error h

theorem Located.path_atPath_congr {e e' : Located α} (h : e.path = e'.path) (p : String) :
    (e.atPath p).path = (e'.atPath p).path := by
  have hplaced : e.isPlaced = e'.isPlaced := by rw [isPlaced, isPlaced, h]
  unfold atPath
  rw [hplaced]
  split
  · exact h
  · rfl

namespace SamePlaces

variable {x y : Except ConfigError α}

theorem refl (x : Except ConfigError α) : SamePlaces x x := rfl

theorem of_eq (h : x = y) : SamePlaces x y := h ▸ refl x

theorem cases (h : SamePlaces x y) :
    (∃ a, x = .ok a ∧ y = .ok a) ∨ ∃ e e', x = .error e ∧ y = .error e' ∧ e.path = e'.path := by
  unfold SamePlaces at h
  cases x with
  | ok a =>
    cases y with
    | ok b => exact .inl ⟨a, rfl, congrArg Except.ok (Except.ok.inj h).symm⟩
    | error e => cases h
  | error e =>
    cases y with
    | ok b => cases h
    | error e' => exact .inr ⟨e, e', rfl, rfl, Except.error.inj h⟩

theorem toOption_eq (h : SamePlaces x y) : x.toOption = y.toOption := by
  rcases h.cases with ⟨a, rfl, rfl⟩ | ⟨e, e', rfl, rfl, -⟩ <;> rfl

theorem bind (h : SamePlaces x y) {f g : α → Except ConfigError β}
    (hfg : ∀ a, x = .ok a → y = .ok a → SamePlaces (f a) (g a)) : SamePlaces (x >>= f) (y >>= g) := by
  rcases h.cases with ⟨a, rfl, rfl⟩ | ⟨e, e', rfl, rfl, hpath⟩
  · exact hfg a rfl rfl
  · exact samePlaces_error hpath

theorem placedAt (h : SamePlaces x y) (p : String) : SamePlaces (placedAt p x) (placedAt p y) := by
  rcases h.cases with ⟨a, rfl, rfl⟩ | ⟨e, e', rfl, rfl, hpath⟩
  · exact refl _
  · exact samePlaces_error (Located.path_atPath_congr hpath p)

theorem mapM {f : γ → Except ConfigError α} {g : δ → Except ConfigError α} {xs : List γ} {ys : List δ}
    (h : List.Forall₂ (fun x y => SamePlaces (f x) (g y)) xs ys) : SamePlaces (xs.mapM f) (ys.mapM g) := by
  induction h with
  | nil => exact refl _
  | cons hxy _ ih =>
    rw [List.mapM_cons, List.mapM_cons]
    exact hxy.bind fun _ _ _ => ih.bind fun _ _ _ => refl _

end SamePlaces

end WireBridge
