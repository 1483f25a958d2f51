import Mathlib.Data.List.Infix
import WireBridge.Proofs.Conversion.Agreement

/-!
# Texts of conversions

What tells the texts of two conversions apart. A conversion of a collection is a `Builder` that takes the collection:
one of another collection has another text (`Builder.text_apply_injective`), it never begins like a conversion of an
optional (`Builder.head?_apply`), and a map that an attribute keys is never built like another map
(`text_keyedBy_ne`). The names in a conversion can be anything, so the last is read off the end of the texts, where
the wire value stands.
-/

set_option autoImplicit false

namespace WireBridge

/-! ## Overlaps -/

/-- What stands at the end of itself with some text behind it is a repetition of that text. -/
theorem forall_mem_of_suffix_append {α : Type} {w x t : List α} (ht : t ≠ []) (h : w <:+ x ++ w ++ t) :
    ∀ c ∈ w, c ∈ t := by
  induction hn : w.length using Nat.strong_induction_on generalizing w x with
  | _ n ih =>
    rcases List.suffix_or_suffix_of_suffix h (List.suffix_append (x ++ w) t) with hw | ⟨w', rfl⟩
    · exact hw.subset
    · have hlength : w'.length < n := by
        rw [← hn, List.length_append]
        exact Nat.lt_add_of_pos_right (List.length_pos_iff.2 ht)
      have hw' : w' <:+ x ++ w' ++ t := by
        rw [← List.append_assoc] at h
        exact List.suffix_append_self_iff.1 h
      exact List.forall_mem_append.2 ⟨ih _ hlength hw' rfl, fun c hc => hc⟩

/-! ## Collections -/

/-- A conversion of a collection, but for the collection itself. -/
inductive Builder
  | call (function : String)
  | comprehension (b : Brackets) (element : Expr) (v : LoopVar)
  | entries (key value : Expr) (keyVar valueVar : LoopVar)

namespace Builder

def apply : Builder → Expr → Expr
  | call function, e => .call function [] e
  | comprehension b element v, e => .comprehension b element v e
  | entries key value keyVar valueVar, e => .entries key value keyVar valueVar e

/-- A container is built, by its function or in its brackets. -/
def IsContainer : Builder → Prop
  | call function => function ∈ ["list", "set", "deque", "dict"]
  | comprehension b _ _ => b ≠ .lazy
  | entries _ _ _ _ => True

/-- A map is built. -/
def IsMap : Builder → Prop
  | call function => function = "dict"
  | comprehension _ _ _ => False
  | entries _ _ _ _ => True

theorem text_apply_injective {b : Builder} {e e' : Expr} (h : (b.apply e).text = (b.apply e').text) :
    e.text = e'.text := by
  rw [← String.toList_inj] at h ⊢
  cases b with
  | call function => simpa [apply] using h
  | comprehension b element v => cases b <;> simpa [apply, Brackets.enclose] using h
  | entries key value keyVar valueVar => simpa [apply] using h

theorem IsMap.isContainer {b : Builder} (h : b.IsMap) : b.IsContainer := by
  cases b with
  | call function =>
    obtain rfl : function = "dict" := h
    exact (by decide : "dict" ∈ ["list", "set", "deque", "dict"])
  | comprehension b element v => exact h.elim
  | entries key value keyVar valueVar => trivial

theorem head?_apply {b : Builder} (h : b.IsContainer) (e : Expr) : (b.apply e).text.toList.head? ≠ some 'N' := by
  cases b with
  | call function =>
    simp only [IsContainer, List.mem_cons, List.not_mem_nil, or_false] at h
    rcases h with rfl | rfl | rfl | rfl <;> simp [apply]
  | comprehension b element v => cases b <;> simp_all [IsContainer, apply, Brackets.enclose]
  | entries key value keyVar valueVar => simp [apply]

theorem head?_apply_of_isMap {b : Builder} (h : b.IsMap) (e : Expr) :
    (b.apply e).text.toList.head? = some 'd' ∨ (b.apply e).text.toList.head? = some '\x7b' := by
  cases b with
  | call function =>
    obtain rfl : function = "dict" := h
    simp [apply]
  | comprehension b element v => exact h.elim
  | entries key value keyVar valueVar => simp [apply]

end Builder

theorem exists_builder_fromWire {scope : Scope} {s : Shape} (hs : s.isCollection = true) {e x : Expr} {d : Int}
    (h : fromWire scope s e d = .ok x) : ∃ b : Builder, b.IsContainer ∧ (s.isMap = true → b.IsMap) ∧
      ∀ e', fromWire scope s e' d = .ok (b.apply e') := by
  cases s with
  | sequence k s =>
    obtain ⟨inner, hinner, -⟩ := bind_eq_ok_iff.1 h
    have hall (e' : Expr) : fromWire scope (.sequence k s) e' d = .ok
        (if s.isVerbatim then .call k.name [] e' else .comprehension k.brackets inner (.value d) e') := by
      rw [fromWire, hinner]
      rfl
    cases hv : s.isVerbatim with
    | true =>
      refine ⟨.call k.name, ?_, by simp [Shape.isMap], fun e' => by rw [hall, hv]; rfl⟩
      cases k <;> simp [Builder.IsContainer, SequenceKind.name]
    | false =>
      refine ⟨.comprehension k.brackets inner (.value d), ?_, by simp [Shape.isMap], fun e' => by rw [hall, hv]; rfl⟩
      cases k <;> simp [Builder.IsContainer, SequenceKind.brackets]
  | map k v =>
    obtain ⟨key, hkey, h⟩ := bind_eq_ok_iff.1 h
    obtain ⟨value, hvalue, -⟩ := bind_eq_ok_iff.1 h
    have hall (e' : Expr) : fromWire scope (.map k v) e' d = .ok
        (if k.isVerbatim && v.isVerbatim then .call "dict" [] e' else .entries key value (.key d) (.value d) e') := by
      rw [fromWire, hkey, hvalue]
      rfl
    cases hv : k.isVerbatim && v.isVerbatim with
    | true =>
      have hmap : (Builder.call "dict").IsMap := rfl
      exact ⟨_, hmap.isContainer, fun _ => hmap, fun e' => by rw [hall, hv]; rfl⟩
    | false =>
      have hmap : (Builder.entries key value (.key d) (.value d)).IsMap := trivial
      exact ⟨_, hmap.isContainer, fun _ => hmap, fun e' => by rw [hall, hv]; rfl⟩
  | _ => cases hs

theorem exists_builder_toWire {scope : Scope} {s : Shape} (hs : s.isCollection = true) {e x : Expr} {d : Int}
    (h : toWire scope s e d = .ok x) : ∃ b : Builder, b.IsContainer ∧ (s.isMap = true → b.IsMap) ∧ x = b.apply e := by
  cases s with
  | sequence k s =>
    obtain ⟨inner, -, h⟩ := bind_eq_ok_iff.1 h
    cases hv : s.isVerbatim with
    | true =>
      rw [hv] at h
      cases h
      exact ⟨.call "list", by simp [Builder.IsContainer], by simp [Shape.isMap], rfl⟩
    | false =>
      rw [hv] at h
      cases h
      exact ⟨.comprehension .list inner (.value d), by simp [Builder.IsContainer], by simp [Shape.isMap], rfl⟩
  | map k v =>
    obtain ⟨key, -, h⟩ := bind_eq_ok_iff.1 h
    obtain ⟨value, -, h⟩ := bind_eq_ok_iff.1 h
    cases hv : k.isVerbatim && v.isVerbatim with
    | true =>
      rw [hv] at h
      cases h
      have hmap : (Builder.call "dict").IsMap := rfl
      exact ⟨_, hmap.isContainer, fun _ => hmap, rfl⟩
    | false =>
      rw [hv] at h
      cases h
      have hmap : (Builder.entries key value (.key d) (.value d)).IsMap := trivial
      exact ⟨_, hmap.isContainer, fun _ => hmap, rfl⟩
  | _ => cases hs

/-! ## Keyed maps -/

theorem keyedFromWire_eq_ok {scope : Scope} {s : Shape} {member : String} {e x : Expr}
    (h : keyedFromWire scope s member e = .ok x) : s.isMap = true ∧ ∃ values, x = .keyedBy member (.value 0) values ∧
      (values = e ∨ ∃ element, values = .comprehension .lazy element (.wire 0) e) := by
  obtain ⟨v, hv, h⟩ := bind_eq_ok_iff.1 h
  obtain ⟨value, -, h⟩ := bind_eq_ok_iff.1 h
  refine ⟨?_, _, (Except.ok.inj h).symm, ?_⟩
  · cases s <;> first | rfl | cases hv
  · split
    · exact .inl rfl
    · exact .inr ⟨value, rfl⟩

theorem keyedToWire_eq_ok {scope : Scope} {s : Shape} {e x : Expr} (h : keyedToWire scope s e = .ok x) :
    s.isMap = true ∧ (x.text.toList.head? = some 'l' ∨ x.text.toList.head? = some '[') := by
  obtain ⟨v, hv, h⟩ := bind_eq_ok_iff.1 h
  obtain ⟨value, -, h⟩ := bind_eq_ok_iff.1 h
  refine ⟨?_, ?_⟩
  · cases s <;> first | rfl | cases hv
  · rw [← Except.ok.inj h]
    split <;> simp [Brackets.enclose]

/-- The values of a keyed map end with the wire value, with marks behind it that tell where they come from. -/
theorem exists_text_values {source : String} {values base : Expr}
    (hbase : base = .source source ∨ base = .orEmpty (.source source) .tuple)
    (hvalues : values = base ∨ ∃ element, values = .comprehension .lazy element (.wire 0) base) :
    ∃ x t, values.text.toList = x ++ source.toList ++ t ∧
      t ∈ ["".toList, ")".toList, " or ()".toList, " or ())".toList] := by
  rcases hbase with rfl | rfl
  · rcases hvalues with rfl | ⟨element, rfl⟩
    · exact ⟨[], "".toList, by simp, by simp⟩
    · exact ⟨"(".toList ++ element.text.toList ++ " for _w0 in ".toList, ")".toList,
        by simp [Brackets.enclose]; rfl, by simp⟩
  · rcases hvalues with rfl | ⟨element, rfl⟩
    · exact ⟨[], " or ()".toList, by simp [EmptyCollection.text], by simp⟩
    · exact ⟨"(".toList ++ element.text.toList ++ " for _w0 in ".toList, " or ())".toList,
        by simp [Brackets.enclose, EmptyCollection.text]; rfl, by simp⟩

/-- The source cannot end both with such marks and with a call for the items of a map. -/
theorem append_source_append_ne {source t x y : List Char} (hw : 'w' ∈ source)
    (ht : t ∈ ["".toList, ")".toList, " or ()".toList, " or ())".toList]) :
    x ++ source ++ (t ++ ['\x7d']) ≠ y ++ source ++ ".items()\x7d".toList := by
  -- Where the marks are a part of the call, the rest of the call would be repeated back to the start of the source.
  have hoverlap (rest marks : List Char) (hrest : rest ≠ []) (hnot : 'w' ∉ rest)
      (h : x ++ source ++ marks = y ++ source ++ rest ++ marks) : False :=
    hnot (forall_mem_of_suffix_append hrest ⟨x, List.append_cancel_right h⟩ 'w' hw)
  simp only [List.mem_cons, List.not_mem_nil, or_false] at ht
  intro h
  rcases ht with rfl | rfl | rfl | rfl
  · exact hoverlap ".items()".toList ['\x7d'] (by decide) (by decide) (by simpa using h)
  · exact hoverlap ".items(".toList ")\x7d".toList (by decide) (by decide) (by simpa using h)
  · have h' : x ++ source ++ " or".toList ++ " ()\x7d".toList = y ++ source ++ ".item".toList ++ "s()\x7d".toList := by
      simpa using h
    exact absurd (List.append_inj_right' h' rfl) (by decide)
  · have h' : x ++ source ++ " or (".toList ++ "))\x7d".toList = y ++ source ++ ".items".toList ++ "()\x7d".toList := by
      simpa using h
    exact absurd (List.append_inj_right' h' rfl) (by decide)

/-- A map that an attribute keys is never built like another map from the same wire value. -/
theorem text_keyedBy_ne {b : Builder} (hb : b.IsMap) {source member : String} (hw : 'w' ∈ source.toList)
    {values base : Expr} (hbase : base = .source source ∨ base = .orEmpty (.source source) .tuple)
    (hvalues : values = base ∨ ∃ element, values = .comprehension .lazy element (.wire 0) base) :
    (Expr.keyedBy member (.value 0) values).text ≠ (b.apply (.source source)).text := by
  intro h
  rw [← String.toList_inj] at h
  cases b with
  | call function =>
    obtain rfl : function = "dict" := hb
    simp [Builder.apply] at h
  | comprehension b element v => exact hb
  | entries key value keyVar valueVar =>
    obtain ⟨x, t, ht, hmem⟩ := exists_text_values hbase hvalues
    let v := (LoopVar.value 0).name
    have hkeyed : (Expr.keyedBy member (.value 0) values).text.toList =
        ("\x7b" ++ v ++ "." ++ member ++ ": " ++ v ++ " for " ++ v ++ " in ").toList ++ x ++ source.toList ++
          (t ++ ['\x7d']) := by simp [ht, v]
    have hentries : ((Builder.entries key value keyVar valueVar).apply (.source source)).text.toList =
        ("\x7b" ++ key.text ++ ": " ++ value.text ++ " for " ++ keyVar.name ++ ", " ++ valueVar.name ++ " in ").toList ++
          source.toList ++ ".items()\x7d".toList := by simp [Builder.apply]
    rw [hkeyed, hentries] at h
    exact append_source_append_ne hw hmem h

end WireBridge
