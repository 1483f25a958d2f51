import WireBridge.Proofs.Problem.Placement

/-!
# Computations that may be undefined

A `Partial` computation looks things up in tables and lists where nothing may be found, and writes out values that may
be too long for it. Where there is no answer there is neither a result nor a problem: the computation is undefined
(`none`), and nothing that follows can take it up again. A problem is raised with its message, so a computation that
stops with a problem whose message cannot be written out is undefined as well (`Partial.of`).

`Renders render x y` : the partial computation `y` is defined, and comes to the image of what `x` comes to, or to the
problem of `x`. Stages on both sides keep this (`Renders.bind`, `Renders.mapM`, `Renders.placedAt`), and a stage without
look-ups has it if its problems can be worded (`Worded`).
-/

set_option autoImplicit false

namespace WireBridge

variable {α β γ δ : Type}

/-- A computation that may stop with a problem, and may have no answer. -/
abbrev Partial (α : Type) : Type := ExceptT ConfigError Option α

namespace Partial

/-- A computation that is defined. -/
def comesTo (x : Except ConfigError α) : Partial α := ExceptT.mk (some x)

/-- A computation without look-ups, whose problem is raised with its message. -/
def of (x : Except ConfigError α) : Partial α :=
  match x with
  | .ok a => comesTo (.ok a)
  | .error e => ExceptT.mk (e.content.message?.map fun _ => .error e)

/-- What a look-up finds. -/
def lookUp (a? : Option α) : Partial α := ExceptT.mk (a?.map .ok)

/-- A value as text. -/
def print (v : Value) : Partial String := lookUp v.plain?

/-- The last of some computations, if there is one. -/
def last (xs : List (Partial α)) : Partial α := lookUp xs.getLast? >>= id

/-- The computation at a place, if there is one. -/
def nth (xs : List (Partial α)) (i : Nat) : Partial α := lookUp xs[i]? >>= id

/-- Places every problem of a computation that has no place yet. -/
def placedAt (path : String) (x : Partial α) : Partial α := ExceptT.mk (x.run.map (WireBridge.placedAt path))

theorem lookUp_bind (a : α) (f : α → Partial β) : (lookUp (some a) >>= f) = f a := rfl

theorem print_eq {v : Value} (h : v.isPrintable = true) : print v = pure v.plain := by
  rw [print, Value.plain?, if_pos h]
  rfl

theorem mapM_print {vs : List Value} (h : ∀ v ∈ vs, v.isPrintable = true) :
    vs.mapM print = pure (vs.map Value.plain) := by
  induction vs with
  | nil => rfl
  | cons v vs ih =>
    obtain ⟨hv, hvs⟩ := List.forall_mem_cons.1 h
    rw [List.mapM_cons, print_eq hv, ih hvs]
    rfl

end Partial

/-! ## Problems that can be worded -/

/-- All values that the message shows can be written out. -/
def Problem.IsWorded (p : Problem) : Prop := ∀ v ∈ p.shown, v.isPrintable = true

theorem Problem.IsWorded.of_nil {p : Problem} (h : p.shown = []) : p.IsWorded := by
  rw [IsWorded, h]
  exact List.forall_mem_nil _

theorem Problem.IsWorded.of_singleton {p : Problem} {v : Value} (h : p.shown = [v]) (hv : v.isPrintable = true) :
    p.IsWorded := by
  rw [IsWorded, h]
  exact List.forall_mem_singleton.2 hv

theorem Problem.IsWorded.message?_eq {p : Problem} (h : p.IsWorded) : p.message? = some p.message :=
  if_pos (List.all_eq_true.2 h)

/-- The problem that a computation stops with, if there is one, can be worded. -/
def Worded (x : Except ConfigError α) : Prop := ∀ e, x = .error e → e.content.IsWorded

namespace Worded

theorem ok (a : α) : Worded (.ok a) := by
  rintro e ⟨⟩

theorem pure (a : α) : Worded (Pure.pure a) := ok a

theorem problem {p : Problem} (h : p.IsWorded) : Worded (WireBridge.problem p : Except ConfigError α) := by
  rintro e ⟨⟩
  exact h

theorem bind {x : Except ConfigError α} {f : α → Except ConfigError β} (hx : Worded x)
    (hf : ∀ a, x = .ok a → Worded (f a)) : Worded (x >>= f) := by
  intro e he
  rcases bind_eq_error_iff.1 he with he | ⟨a, ha, he⟩
  · exact hx e he
  · exact hf a ha e he

end Worded

/-! ## Computations on both sides -/

/-- The partial computation is defined, and comes to the same as the other up to `render`. -/
def Renders (render : α → β) (x : Except ConfigError α) (y : Partial β) : Prop := y = Partial.comesTo (x.map render)

namespace Renders

variable {render : α → β} {render' : γ → δ}

theorem of {x : Except ConfigError α} (h : Worded x) : Renders id x (Partial.of x) := by
  cases x with
  | ok a => rfl
  | error e =>
    rw [Renders, Partial.of, (h e rfl).message?_eq]
    rfl

theorem pure {a : α} {b : β} (h : render a = b) : Renders render (Pure.pure a) (Pure.pure b) := by
  rw [← h]
  rfl

theorem raise {e : ConfigError} (h : e.content.IsWorded) : Renders render (.error e) (Partial.of (.error e)) := by
  rw [Renders, Partial.of, h.message?_eq]
  rfl

theorem problem {p : Problem} (h : p.IsWorded) : Renders render (problem p) (Partial.of (WireBridge.problem p)) :=
  raise h

/-- Nothing comes after a problem. -/
theorem stop {e : ConfigError} (h : e.content.IsWorded) {f : α → Except ConfigError γ} {g : α → Partial δ} :
    Renders render' (Except.error e >>= f) (Partial.of (.error e) >>= g) := by
  rw [Renders, Partial.of, h.message?_eq]
  rfl

theorem lookUp {a : α} {b? : Option β} (h : b? = some (render a)) :
    Renders render (Pure.pure a) (Partial.lookUp b?) := by
  rw [h]
  rfl

theorem bind {x : Except ConfigError α} {y : Partial β} {f : α → Except ConfigError γ} {g : β → Partial δ}
    (hx : Renders render x y) (hf : ∀ a, x = .ok a → Renders render' (f a) (g (render a))) :
    Renders render' (x >>= f) (y >>= g) := by
  obtain rfl : y = _ := hx
  cases x with
  | error e => rfl
  | ok a => exact hf a rfl

theorem map {x : Except ConfigError α} {y : Partial β} {f : α → γ} {g : β → Partial δ} (hx : Renders render x y)
    (hf : ∀ a, x = .ok a → g (render a) = Pure.pure (render' (f a))) : Renders render' (x.map f) (y >>= g) := by
  obtain rfl : y = _ := hx
  cases x with
  | error e => rfl
  | ok a => exact hf a rfl

theorem placedAt {x : Except ConfigError α} {y : Partial β} (hx : Renders render x y) (path : String) :
    Renders render (WireBridge.placedAt path x) (Partial.placedAt path y) := by
  obtain rfl : y = _ := hx
  cases x <;> rfl

theorem mapM {f : γ → Except ConfigError α} {g : γ → Partial β} {xs : List γ}
    (h : ∀ x ∈ xs, Renders render (f x) (g x)) : Renders (List.map render) (xs.mapM f) (xs.mapM g) := by
  induction xs with
  | nil => rfl
  | cons x xs ih =>
    rw [List.mapM_cons, List.mapM_cons]
    obtain ⟨hx, hxs⟩ := List.forall_mem_cons.1 h
    exact hx.bind fun a _ => (ih hxs).bind fun as _ => pure rfl

theorem eq {x : Except ConfigError α} {y : Partial α} (h : Renders id x y) : y = Partial.comesTo x := by
  obtain rfl : y = _ := h
  cases x <;> rfl

end Renders

end WireBridge
