import Mathlib.Data.List.Forall2
import WireBridge.Problem

/-!
# Places of problems

A computation of the decision stages stops with a problem that has no place yet, and the stage around it gives the
problem its place.

* `bind_eq_ok_iff`, `bind_eq_error_iff`, `map_eq_error_iff`, `mapM_congr` : results of computations, taken apart;
* `IsFirst P xs x` : `x` is the first element of `xs` with the property `P`, which a search finds
  (`find?_eq_some_iff_isFirst`);
* `placedAt_eq_ok_iff`, `placedAt_eq_error_iff` : the same for a computation with a place;
* `Unplaced x` : the problem of `x`, if there is one, has no place (`Unplaced.bind`, `Unplaced.mapM`);
* `StandsAt type members e` : the problem `e` stands at a type or at one of its members. A place once given is
  kept by the stages around it (`Unplaced.path_of_placedAt`, `StandsAt.atPath`).
-/

set_option autoImplicit false

namespace WireBridge

variable {ε α β : Type}

/-! ## Results of computations -/

theorem bind_eq_ok_iff {x : Except ε α} {f : α → Except ε β} {b : β} :
    (x >>= f) = .ok b ↔ ∃ a, x = .ok a ∧ f a = .ok b := by
  cases x <;> simp [bind, Except.bind]

theorem bind_eq_error_iff {x : Except ε α} {f : α → Except ε β} {e : ε} :
    (x >>= f) = .error e ↔ x = .error e ∨ ∃ a, x = .ok a ∧ f a = .error e := by
  cases x <;> simp [bind, Except.bind]

theorem map_eq_ok_iff {x : Except ε α} {f : α → β} {b : β} : x.map f = .ok b ↔ ∃ a, x = .ok a ∧ f a = b := by
  cases x <;> simp [Except.map]

theorem map_eq_error_iff {x : Except ε α} {f : α → β} {e : ε} : x.map f = .error e ↔ x = .error e := by
  cases x <;> simp [Except.map]

theorem mapError_eq_ok_iff {ε' : Type} {x : Except ε α} {f : ε → ε'} {a : α} : x.mapError f = .ok a ↔ x = .ok a := by
  cases x <;> simp [Except.mapError]

/-- What comes after a computation matters only where it comes to a result. -/
theorem bind_congr_of_ok {x : Except ε α} {f g : α → Except ε β} (h : ∀ a, x = .ok a → f a = g a) :
    (x >>= f) = (x >>= g) := by
  cases x with
  | error e => rfl
  | ok a => exact h a rfl

theorem pure_eq_ok_iff {a b : α} : (pure a : Except ε α) = .ok b ↔ a = b := by
  simp [pure, Except.pure]

theorem mapM_congr {γ : Type} {m : Type → Type} [Monad m] [LawfulMonad m] {f g : γ → m α} {xs : List γ}
    (h : ∀ x ∈ xs, f x = g x) : xs.mapM f = xs.mapM g := by
  induction xs with
  | nil => rfl
  | cons x xs ih =>
    rw [List.mapM_cons, List.mapM_cons, h x (by simp), ih fun y hy => h y (by simp [hy])]

theorem mapM_cons_eq_ok {γ : Type} {f : γ → Except ε α} {x : γ} {xs : List γ} {a : α} {as : List α} (hx : f x = .ok a)
    (hxs : xs.mapM f = .ok as) : (x :: xs).mapM f = .ok (a :: as) := by
  rw [List.mapM_cons, hx, hxs]
  rfl

theorem mapM_append_eq_ok {γ : Type} {f : γ → Except ε α} {xs ys : List γ} {as bs : List α} (hxs : xs.mapM f = .ok as)
    (hys : ys.mapM f = .ok bs) : (xs ++ ys).mapM f = .ok (as ++ bs) := by
  rw [List.mapM_append, hxs, hys]
  rfl

/-- A computation over a list takes every element to a result. -/
theorem forall₂_of_mapM_eq_ok {γ : Type} {f : γ → Except ε α} :
    ∀ {xs : List γ} {as : List α}, xs.mapM f = .ok as → List.Forall₂ (fun x a => f x = .ok a) xs as
  | [], as, h => by
    rw [List.mapM_nil, pure_eq_ok_iff] at h
    subst h
    exact .nil
  | x :: xs, as, h => by
    rw [List.mapM_cons, bind_eq_ok_iff] at h
    obtain ⟨a, ha, h⟩ := h
    obtain ⟨as', has, h⟩ := bind_eq_ok_iff.1 h
    rw [pure_eq_ok_iff] at h
    subst h
    exact .cons ha (forall₂_of_mapM_eq_ok has)

theorem exists_of_forall₂ {R : α → β → Prop} {as : List α} {bs : List β} (h : List.Forall₂ R as bs) {b : β}
    (hb : b ∈ bs) : ∃ a ∈ as, R a b := by
  induction h with
  | nil => cases hb
  | cons hab _ ih =>
    rcases List.mem_cons.1 hb with rfl | hb
    · exact ⟨_, List.mem_cons_self, hab⟩
    · obtain ⟨a, ha, hab⟩ := ih hb
      exact ⟨a, List.mem_cons_of_mem _ ha, hab⟩

theorem map_eq_map_of_forall₂ {γ : Type} {R : α → β → Prop} {f : α → γ} {g : β → γ} {as : List α} {bs : List β}
    (h : List.Forall₂ R as bs) (hfg : ∀ a b, R a b → f a = g b) : as.map f = bs.map g := by
  induction h with
  | nil => rfl
  | cons hab _ ih => rw [List.map_cons, List.map_cons, hfg _ _ hab, ih]

theorem findSome?_eq_of_forall₂ {γ : Type} {R : α → β → Prop} {f : α → Option γ} {g : β → Option γ} {as : List α}
    {bs : List β} (h : List.Forall₂ R as bs) (hfg : ∀ a b, R a b → f a = g b) : as.findSome? f = bs.findSome? g := by
  induction h with
  | nil => rfl
  | cons hab _ ih => rw [List.findSome?_cons, List.findSome?_cons, hfg _ _ hab, ih]

/-- A computation over a list stops at an element. -/
theorem exists_of_mapM_eq_error {γ : Type} {f : γ → Except ε α} {e : ε} :
    ∀ {xs : List γ}, xs.mapM f = .error e → ∃ x ∈ xs, f x = .error e
  | [], h => by simp [pure, Except.pure] at h
  | x :: xs, h => by
    rw [List.mapM_cons, bind_eq_error_iff] at h
    rcases h with h | ⟨a, -, h⟩
    · exact ⟨x, by simp, h⟩
    · rcases bind_eq_error_iff.1 h with h | ⟨as, -, h⟩
      · obtain ⟨y, hy, h⟩ := exists_of_mapM_eq_error h
        exact ⟨y, by simp [hy], h⟩
      · simp [pure, Except.pure] at h

theorem eq_some_of_orElse {x y : Option α} {a : α} (h : (x <|> y) = some a) : x = some a ∨ y = some a := by
  cases x with
  | none => exact .inr h
  | some b => exact .inl h

/-- A result that is looked at by a test. -/
theorem exists_ok_of_any {x : Except ε α} {P : α → Bool} (h : x.toOption.any P = true) :
    ∃ a, x = .ok a ∧ P a = true := by
  cases x with
  | error e => cases h
  | ok a => exact ⟨a, rfl, h⟩

/-! ## First elements -/

/-- The first element of a list with a property. -/
def IsFirst (P : α → Prop) (xs : List α) (x : α) : Prop :=
  ∃ before after, xs = before ++ x :: after ∧ P x ∧ ∀ y ∈ before, ¬ P y

theorem find?_eq_some_iff_isFirst {P : α → Prop} {p : α → Bool} (hp : ∀ x, p x = true ↔ P x) {xs : List α} {x : α} :
    xs.find? p = some x ↔ IsFirst P xs x := by
  have hnot (y : α) : (!p y) = true ↔ ¬ P y := by rw [← hp, Bool.not_eq_true', Bool.not_eq_true]
  rw [List.find?_eq_some_iff_append, IsFirst]
  simp only [hp, hnot]
  constructor
  · rintro ⟨hx, before, after, hxs, hbefore⟩
    exact ⟨before, after, hxs, hx, hbefore⟩
  · rintro ⟨before, after, hxs, hx, hbefore⟩
    exact ⟨hx, before, after, hxs, hbefore⟩

theorem exists_isFirst_iff {P : α → Prop} {xs : List α} : (∃ x, IsFirst P xs x) ↔ ∃ x ∈ xs, P x := by
  classical
  constructor
  · rintro ⟨x, before, after, rfl, hx, -⟩
    exact ⟨x, List.mem_append_right before List.mem_cons_self, hx⟩
  · rintro ⟨x, hmem, hx⟩
    have hfound : (xs.find? fun y => decide (P y)).isSome := List.find?_isSome.2 ⟨x, hmem, decide_eq_true hx⟩
    obtain ⟨y, hy⟩ := Option.isSome_iff_exists.1 hfound
    exact ⟨y, (find?_eq_some_iff_isFirst fun _ => decide_eq_true_iff).1 hy⟩

/-! ## Giving a place -/

theorem placedAt_eq_ok_iff {path : String} {x : Except ConfigError α} {a : α} :
    placedAt path x = .ok a ↔ x = .ok a :=
  mapError_eq_ok_iff

theorem placedAt_eq_error_iff {path : String} {x : Except ConfigError α} {e : ConfigError} :
    placedAt path x = .error e ↔ ∃ e₀, x = .error e₀ ∧ e₀.atPath path = e := by
  cases x <;> simp [placedAt, Except.mapError]

/-- A problem with a path is given no other, unless the path is empty. -/
theorem Located.path_atPath {e : Located α} {p q : String} (h : e.path = some p) :
    (e.atPath q).path = if p = "" then some q else some p := by
  unfold Located.atPath Located.isPlaced
  by_cases hp : p = "" <;> simp [h, hp]

/-! ## Problems without a place -/

/-- The problem of a computation, if there is one, has no place. -/
def Unplaced (x : Except ConfigError α) : Prop := ∀ e, x = .error e → e.path = none

theorem unplaced_pure (a : α) : Unplaced (pure a) := fun _ h => by simp [pure, Except.pure] at h

theorem unplaced_ok (a : α) : Unplaced (.ok a) := unplaced_pure a

theorem unplaced_problem (p : Problem) : Unplaced (problem p : Except ConfigError α) := by
  rintro e ⟨⟩
  rfl

theorem Unplaced.bind {x : Except ConfigError α} {f : α → Except ConfigError β} (hx : Unplaced x)
    (hf : ∀ a, Unplaced (f a)) : Unplaced (x >>= f) := by
  intro e h
  rcases bind_eq_error_iff.1 h with h | ⟨a, -, h⟩
  · exact hx e h
  · exact hf a e h

theorem Unplaced.map {x : Except ConfigError α} (hx : Unplaced x) (f : α → β) : Unplaced (x.map f) :=
  fun e h => hx e (map_eq_error_iff.1 h)

theorem Unplaced.mapM {γ : Type} {f : γ → Except ConfigError α} {xs : List γ} (hf : ∀ x ∈ xs, Unplaced (f x)) :
    Unplaced (xs.mapM f) := by
  intro e h
  obtain ⟨x, hx, h⟩ := exists_of_mapM_eq_error h
  exact hf x hx e h

theorem Unplaced.path_of_placedAt {x : Except ConfigError α} (hx : Unplaced x) {path : String} {e : ConfigError}
    (h : placedAt path x = .error e) : e.path = some path := by
  obtain ⟨e₀, he, rfl⟩ := placedAt_eq_error_iff.1 h
  simp [Located.atPath, Located.isPlaced, hx e₀ he]

/-! ## Problems at a type -/

/-- The problem stands at a type or at one of its members. -/
def StandsAt (type : String) (members : List String) (e : ConfigError) : Prop :=
  e.path = some type ∨ ∃ m ∈ members, e.path = some (type ++ "." ++ m)

theorem StandsAt.mono {type : String} {ms ns : List String} {e : ConfigError} (h : StandsAt type ms e)
    (hs : ∀ m ∈ ms, m ∈ ns) : StandsAt type ns e := by
  rcases h with h | ⟨m, hm, h⟩
  · exact .inl h
  · exact .inr ⟨m, hs m hm, h⟩

/-- The type of a problem that stands there changes nothing about its place. -/
theorem StandsAt.atPath {type : String} {members : List String} {e : ConfigError} (h : StandsAt type members e) :
    StandsAt type members (e.atPath type) := by
  rcases h with h | ⟨m, hm, h⟩
  · left
    rw [Located.path_atPath h]
    split <;> rfl
  · right
    refine ⟨m, hm, ?_⟩
    rw [Located.path_atPath h, if_neg (by simp)]

end WireBridge
