import WireBridge.Proofs.Definition.WellFormed
import WireBridge.Proofs.Shape.Tree

/-!
# Names that types are taken for

Whatever a shape refers to is the whole text of a part of the type (`TypeExpr.refersBy_of_mem_referenced`). Of a bare
name this is the name itself. A generic type that classification does not know is custom, and its text is taken for one
name: `tuple[Bar]` refers to `tuple[Bar]` and not to `Bar`, which is a name in that text only (`Text.bareNames`).

A type in a definition file is none of these. It is well formed and has identifiers for names, so it refers to
identifiers only (`TypeExpr.WellFormed.isIdentifier_of_mem_referenced`).
-/

set_option autoImplicit false

namespace WireBridge

/-! ## Names in texts -/

/-- The names in a text that no point joins to others. -/
def Text.bareNames (s : String) : List String :=
  ((s.toList.splitOnP fun c => !(isNameChar c || c = '.')).filter isIdentifier).map String.ofList

/-- An identifier is its only name. -/
theorem Text.bareNames_of_isIdentifier {s : String} (h : IsIdentifier s) : bareNames s = [s] := by
  have hsplit : s.toList.splitOnP (fun c => !(isNameChar c || c = '.')) = [s.toList] := by
    refine List.splitOnP_eq_singleton fun c hc => ?_
    rw [Terminal.isNameChar_of_isIdentifier h c hc]
    rfl
  have hkept : isIdentifier s.toList = true := h
  rw [bareNames, hsplit, List.filter_singleton, hkept, cond_true, List.map_singleton, String.ofList_toList]

/-! ## Parts of types -/

namespace TypeExpr

/-- A type is a part of itself, and so is every part of its arguments. -/
inductive HasPart : TypeExpr → TypeExpr → Prop
  | self (t : TypeExpr) : HasPart t t
  | argument {n : String} {as : List TypeExpr} {w : Bool} {a part : TypeExpr} (ha : a ∈ as) (h : HasPart a part) :
      HasPart (.mk n as w) part

/-- A part of the type is taken for a name, which is its text. -/
def RefersBy (symbols : Symbols) (t : TypeExpr) (name : String) : Prop :=
  ∃ part, t.HasPart part ∧ part.text = name ∧
    ∃ flag, part.shape symbols flag = .enum name ∨ part.shape symbols flag = .custom name

section

variable {symbols : Symbols} {n u : String} {as : List TypeExpr} {w : Bool}

theorem RefersBy.argument {a : TypeExpr} (h : a.RefersBy symbols u) (ha : a ∈ as) : RefersBy symbols (.mk n as w) u :=
  h.imp fun _ hpart => ⟨.argument ha hpart.1, hpart.2⟩

theorem refersBy_of_mem_namedShape {flag : Bool} (hu : u ∈ (namedShape symbols flag n).referenced) :
    RefersBy symbols (named n) u := by
  have hshape : (named n).shape symbols flag = namedShape symbols flag n := by simp [named, shape]
  have htext : (named n).text = n := by simp [named, text]
  refine ⟨named n, .self _, ?_⟩
  unfold namedShape at hu hshape
  split at hu
  · exact absurd hu List.not_mem_nil
  · next hn =>
    rw [hn] at hshape
    dsimp only at hshape
    split at hu <;> obtain rfl := List.mem_singleton.1 hu
    · next hflag =>
      rw [if_pos hflag] at hshape
      exact ⟨htext, flag, .inl hshape⟩
    · next hflag =>
      rw [if_neg hflag] at hshape
      exact ⟨htext, flag, .inr hshape⟩

/-- What is custom by its text is a part of itself. -/
theorem refersBy_of_mem_custom {t : TypeExpr} {flag : Bool} (ht : t.shape symbols flag = .custom t.text)
    (hu : u ∈ (t.shape symbols flag).referenced) : t.RefersBy symbols u := by
  rw [ht] at hu
  obtain rfl := List.mem_singleton.1 hu
  exact ⟨t, .self t, rfl, flag, .inr ht⟩

end

/-- What a shape refers to is the text of a part of the type. -/
theorem refersBy_of_mem_referenced {symbols : Symbols} {flag : Bool} {t : TypeExpr} {u : String}
    (h : u ∈ (t.shape symbols flag).referenced) : t.RefersBy symbols u := by
  fun_induction TypeExpr.shape symbols flag t with
  | case1 => exact absurd h List.not_mem_nil
  | case2 flag n w hw =>
    obtain rfl : w = false := by simpa using hw
    exact refersBy_of_mem_namedShape h
  | case3 _ _ _ _ ih => exact (ih h).argument (by simp)
  | case4 _ _ _ _ _ _ _ _ ih => exact (ih h).argument (by simp)
  | case5 flag n w hw t ho hk =>
    have hshape : (mk n [t] w).shape symbols flag = .custom (mk n [t] w).text := by simp [shape, hw, ho, hk]
    exact refersBy_of_mem_custom hshape (hshape ▸ h)
  | case6 _ _ _ _ _ ihk ihv =>
    rcases List.mem_append.1 h with h | h
    · exact (ihk h).argument (by simp)
    · exact (ihv h).argument (by simp)
  | case7 flag n w hw k v hd =>
    have hshape : (mk n [k, v] w).shape symbols flag = .custom (mk n [k, v] w).text := by simp [shape, hw, hd]
    exact refersBy_of_mem_custom hshape (hshape ▸ h)
  | case8 flag n as w hw h0 h1 h2 =>
    have hshape : (mk n as w).shape symbols flag = .custom (mk n as w).text := by simp [shape, hw]
    exact refersBy_of_mem_custom hshape (hshape ▸ h)

/-- Of a well-formed type only the bare names are referred to. -/
theorem WellFormed.isIdentifier_of_mem_referenced {t : TypeExpr} (ht : t.WellFormed) (hnames : t.HasIdentifiers)
    {symbols : Symbols} {flag : Bool} {u : String} (hu : u ∈ (t.shape symbols flag).referenced) : IsIdentifier u := by
  induction ht using WellFormed.induct_nodes generalizing flag with
  | wire n as _ =>
    rw [shape_wire] at hu
    exact absurd hu List.not_mem_nil
  | named n _ =>
    cases hnames with
    | native hn _ =>
      rw [shape_named, namedShape] at hu
      split at hu
      · exact absurd hu List.not_mem_nil
      · split at hu <;> exact List.mem_singleton.1 hu ▸ hn
  | optional t _ _ ih =>
    cases hnames with
    | native _ has =>
      rw [shape_optional] at hu
      exact ih (has t (by simp)) hu
  | sequence k t _ _ ih =>
    cases hnames with
    | native _ has =>
      rw [shape_sequence] at hu
      exact ih (has t (by simp)) hu
  | map k v _ _ _ ihk ihv =>
    cases hnames with
    | native _ has =>
      rw [shape_map] at hu
      rcases List.mem_append.1 hu with hu | hu
      · exact ihk (has k (by simp)) hu
      · exact ihv (has v (by simp)) hu

end TypeExpr

end WireBridge
