import WireBridge.Proofs.Problem.Placement

/-!
# What a computation ensures

`Ensures x P` : every result of the computation `x` has the property `P`. Nothing is said of a computation that stops
with a problem, so a statement that a result exists is made apart.
-/

set_option autoImplicit false

namespace WireBridge

variable {α β : Type} {x : Except ConfigError α} {P Q : α → Prop}

def Ensures (x : Except ConfigError α) (P : α → Prop) : Prop := ∀ a, x = .ok a → P a

theorem Ensures.pure {a : α} (h : P a) : Ensures (Pure.pure a) P := by
  intro b hb
  rw [pure_eq_ok_iff] at hb
  exact hb ▸ h

theorem Ensures.problem {p : Problem} : Ensures (problem p : Except ConfigError α) P := by
  rintro a ⟨⟩

theorem Ensures.bind {f : α → Except ConfigError β} {R : β → Prop} (hx : Ensures x P)
    (hf : ∀ a, P a → Ensures (f a) R) : Ensures (x >>= f) R := by
  intro b hb
  obtain ⟨a, ha, hb⟩ := bind_eq_ok_iff.1 hb
  exact hf a (hx a ha) b hb

/-- The property of a computation that does not depend on the result of its first step. -/
theorem Ensures.bind_last {f : α → Except ConfigError β} {R : β → Prop} (hf : ∀ a, Ensures (f a) R) :
    Ensures (x >>= f) R :=
  Ensures.bind (P := fun _ => True) (fun _ _ => trivial) fun a _ => hf a

theorem Ensures.imp (hx : Ensures x P) (h : ∀ a, P a → Q a) : Ensures x Q := fun a ha => h a (hx a ha)

theorem Ensures.and (hP : Ensures x P) (hQ : Ensures x Q) : Ensures x fun a => P a ∧ Q a :=
  fun a ha => ⟨hP a ha, hQ a ha⟩

end WireBridge
