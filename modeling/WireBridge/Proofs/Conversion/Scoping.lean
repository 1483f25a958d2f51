import WireBridge.Conversion.Values
import WireBridge.Proofs.Code.Variables
import WireBridge.Proofs.Output.Names
import WireBridge.Proofs.Problem.Ensures

/-!
# Scopes of conversions

A conversion is put together from texts, and its comprehensions bind variables that are told apart by their numbers.

* `Expr.Scoped e d bound x` : the tree `x` is built from the source `e`, where `bound` are the variables of the
  comprehensions around it. Every other variable in it is bound in it, has a number from `d` on and is none of those
  around it;
* `Expr.Scoped.balanced`, `Expr.Scoped.of_standsIn` : its text has balanced brackets and holds no variables but these
  and those of the source;
* `scoped_fromWire`, `scoped_toWire`, `scoped_keyedFromWire`, `scoped_keyedToWire` : conversions are scoped. The
  variables around a conversion have smaller numbers than those that it binds, through any nesting;
* `conversions_wellScoped` : so the conversions of types that are called by identifiers keep to their scopes;
* `not_conversions_wellScoped_helpers` : the helpers module is called as the options say, which can be anything.

The source stands outside all comprehensions, so none of them binds a variable of the source.
-/

set_option autoImplicit false

namespace WireBridge

/-! ## Scopes -/

/-- A text that can stand behind the point of an attribute. -/
structure IsAttribute (s : String) : Prop where
  balanced : Balanced s
  free : ∀ v : LoopVar, ¬ v.StandsIn ('.' :: s.toList)

/-- A tree that is built from the source `e`, where `bound` are the variables of the comprehensions around it. Every
other variable is bound in the tree, has a number from `d` on and is none of those around it. The source stands outside
all comprehensions, so none of them can bind what is in it. -/
inductive Expr.Scoped (e : String) (d : Int) : List LoopVar → Expr → Prop
  | source : Scoped e d [] (.source e)
  | var {bound : List LoopVar} {v : LoopVar} (hv : v ∈ bound) : Scoped e d bound (.var v)
  | read {bound : List LoopVar} {n : String} {x : Expr} (hn : IsLabel (fromWireFunction n)) (hx : Scoped e d bound x) :
      Scoped e d bound (.read n x)
  | write {bound : List LoopVar} {n : String} {x : Expr} (hn : IsLabel (toWireFunction n)) (hx : Scoped e d bound x) :
      Scoped e d bound (.write n x)
  | call {bound : List LoopVar} {callee : String} {before : List String} {x : Expr} (hcallee : IsLabel callee)
      (hbefore : ∀ t ∈ before, IsLabel t) (hx : Scoped e d bound x) : Scoped e d bound (.call callee before x)
  | unlessNone {bound : List LoopVar} {x y : Expr} (hx : Scoped e d bound x) (hy : Scoped e d bound y) :
      Scoped e d bound (.unlessNone x y)
  | comprehension {bound : List LoopVar} {b : Brackets} {x held : Expr} {v : LoopVar} (hv : d ≤ v.number)
      (hfresh : v ∉ bound) (hx : Scoped e d (v :: bound) x) (hheld : Scoped e d bound held) :
      Scoped e d bound (.comprehension b x v held)
  | entries {bound : List LoopVar} {x y held : Expr} {k v : LoopVar} (hk : d ≤ k.number) (hv : d ≤ v.number)
      (hne : k ≠ v) (hfresh : k ∉ bound ∧ v ∉ bound) (hx : Scoped e d (k :: v :: bound) x)
      (hy : Scoped e d (k :: v :: bound) y) (hheld : Scoped e d bound held) : Scoped e d bound (.entries x y k v held)
  | keyedBy {bound : List LoopVar} {member : String} {v : LoopVar} {held : Expr} (hmember : IsAttribute member)
      (hv : d ≤ v.number) (hfresh : v ∉ bound) (hheld : Scoped e d bound held) :
      Scoped e d bound (.keyedBy member v held)
  | mapValues {bound : List LoopVar} {held : Expr} (hheld : Scoped e d bound held) : Scoped e d bound (.mapValues held)

/-! ## Texts of scoped trees -/

section Texts

variable {e : String} {d : Int} {bound : List LoopVar} {x : Expr}

theorem balanced_intercalate {parts : List String} (h : ∀ t ∈ parts, Balanced t) :
    Balanced (", ".intercalate parts) := by
  induction parts with
  | nil => decide
  | cons t parts ih =>
    obtain ⟨ht, hparts⟩ := List.forall_mem_cons.1 h
    cases parts with
    | nil => simpa using ht
    | cons u parts =>
      rw [String.intercalate_cons_cons]
      exact (ht.append (by decide)).append (ih hparts)

theorem Brackets.balanced_enclose {s : String} (h : Balanced s) (b : Brackets) : Balanced (b.enclose s) := by
  cases b with
  | list => exact .within (by decide : _ = some [']']) h (by decide)
  | set => exact .within (by decide : _ = some ['\x7d']) h (by decide)
  | deque => exact .within (by decide : _ = some [')']) h (by decide)
  | lazy => exact .within (by decide : _ = some [')']) h (by decide)

theorem Balanced.call {f s : String} (hf : Balanced f) (hs : Balanced s) : Balanced (f ++ "(" ++ s ++ ")") := by
  simpa only [Brackets.enclose, String.append_assoc] using hf.append (Brackets.lazy.balanced_enclose hs)

theorem Expr.Scoped.balanced (he : Balanced e) (h : x.Scoped e d bound) : Balanced x.text := by
  induction h with
  | source => exact he
  | @var bound v hv => exact v.balanced_name
  | read hn _ ih => exact hn.balanced.call ih
  | write hn _ ih => exact hn.balanced.call ih
  | call hcallee hbefore _ ih =>
    refine hcallee.balanced.call (balanced_intercalate ?_)
    exact List.forall_mem_append.2 ⟨fun t ht => (hbefore t ht).balanced, List.forall_mem_singleton.2 ih⟩
  | unlessNone _ _ ihx ihy =>
    exact (((by decide : Balanced "None if ").append ihx).append (by decide)).append ihy
  | @comprehension bound b x held v _ _ _ _ ihx ihheld =>
    exact b.balanced_enclose
      ((((ihx.append (by decide)).append v.balanced_name).append (by decide)).append ihheld)
  | @entries bound x y held k v _ _ _ _ _ _ _ ihx ihy ihheld =>
    have hvars : Balanced (k.name ++ ", " ++ v.name) := (k.balanced_name.append (by decide)).append v.balanced_name
    have hentry : Balanced (x.text ++ ": " ++ y.text) := (ihx.append (by decide)).append ihy
    have hinner := (((hentry.append (by decide : Balanced " for ")).append hvars).append
      (by decide : Balanced " in ")).append ihheld
    have hopen : Text.openAfter [] "\x7b".toList = some ['\x7d'] := by decide
    have := Balanced.within (b := ".items()\x7d") hopen hinner (by decide)
    simpa only [Expr.text_entries, String.append_assoc] using this
  | @keyedBy bound member v held hmember _ _ _ ih =>
    have hentry : Balanced (v.name ++ "." ++ member ++ ": " ++ v.name) :=
      (((v.balanced_name.append (by decide)).append hmember.balanced).append (by decide)).append v.balanced_name
    have hinner := (((hentry.append (by decide : Balanced " for ")).append v.balanced_name).append
      (by decide : Balanced " in ")).append ih
    have := Brackets.set.balanced_enclose hinner
    simpa only [Expr.text_keyedBy, Brackets.enclose, String.append_assoc] using this
  | mapValues _ ih => exact ih.append (by decide)

section Variables

variable {u : LoopVar} {f s : String}

theorem LoopVar.StandsIn.of_call (h : u.StandsIn (f ++ "(" ++ s ++ ")").toList) :
    u.StandsIn f.toList ∨ u.StandsIn s.toList :=
  (h.left (by decide)).left_or_right (by decide)

theorem LoopVar.StandsIn.of_intercalate {parts : List String} (h : u.StandsIn (", ".intercalate parts).toList) :
    ∃ t ∈ parts, u.StandsIn t.toList := by
  induction parts with
  | nil => exact absurd h.underscore_mem (by decide)
  | cons t parts ih =>
    cases parts with
    | nil => exact ⟨t, by simp, by simpa using h⟩
    | cons t' parts =>
      rw [String.intercalate_cons_cons] at h
      rcases h.left_or_right (by decide) with h | h
      · exact ⟨t, by simp, h⟩
      · obtain ⟨t'', ht'', h⟩ := ih h
        exact ⟨t'', List.mem_cons_of_mem _ ht'', h⟩

theorem LoopVar.StandsIn.of_enclose {b : Brackets} (h : u.StandsIn (b.enclose s).toList) : u.StandsIn s.toList := by
  cases b with
  | list => exact (h.left (by decide)).right (by decide)
  | set => exact (h.left (by decide)).right (by decide)
  | deque =>
    have h := h.left (by decide)
    rw [String.toList_append] at h
    exact h.right_of_not_mem (by decide) (by decide)
  | lazy => exact (h.left (by decide)).right (by decide)

/-- A variable in the text of a tree stands in the source or is bound, around the tree or in it. -/
theorem Expr.Scoped.of_standsIn (h : x.Scoped e d bound) (hu : u.StandsIn x.text.toList) :
    u.StandsIn e.toList ∨ u ∈ bound ∨ d ≤ u.number := by
  -- what a comprehension binds has a number from `d` on
  have hbound {v : LoopVar} {vs : List LoopVar} (hv : d ≤ v.number) (h : u ∈ v :: vs ∨ d ≤ u.number) :
      u ∈ vs ∨ d ≤ u.number := by
    rcases h with h | h
    · rcases List.mem_cons.1 h with rfl | h
      · exact .inr hv
      · exact .inl h
    · exact .inr h
  have hname {v : LoopVar} (hv : d ≤ v.number) (h : u.StandsIn v.name.toList) : d ≤ u.number :=
    LoopVar.eq_of_standsIn h ▸ hv
  induction h with
  | source => exact .inl hu
  | var hv => exact .inr (.inl (LoopVar.eq_of_standsIn hu ▸ hv))
  | read hn _ ih => exact ih (hu.of_call.resolve_left (hn.free u))
  | write hn _ ih => exact ih (hu.of_call.resolve_left (hn.free u))
  | call hcallee hbefore _ ih =>
    obtain ⟨t, ht, hu⟩ := (hu.of_call.resolve_left (hcallee.free u)).of_intercalate
    rcases List.mem_append.1 ht with ht | ht
    · exact absurd hu ((hbefore t ht).free u)
    · obtain rfl := List.mem_singleton.1 ht
      exact ih hu
  | unlessNone _ _ ihx ihy =>
    rcases hu.left_or_right (by decide) with hu | hu
    · rw [String.toList_append] at hu
      exact ihx (hu.right_of_not_mem (by decide) (by decide))
    · exact ihy hu
  | comprehension hv _ _ _ ihx ihheld =>
    rcases hu.of_enclose.left_or_right (by decide) with hu | hu
    · rcases hu.left_or_right (by decide) with hu | hu
      · exact (ihx hu).imp_right (hbound hv)
      · exact .inr (.inr (hname hv hu))
    · exact ihheld hu
  | entries hk hv _ _ _ _ _ ihx ihy ihheld =>
    replace hu := hu.left (m := ".items()\x7d") (by decide)
    rcases hu.left_or_right (by decide) with hu | hu
    · rcases hu.left_or_right (by decide) with hu | hu
      · rcases hu.left_or_right (by decide) with hu | hu
        · rcases hu.left_or_right (by decide) with hu | hu
          · exact (ihx (hu.right (by decide))).imp_right fun h => hbound hv (hbound hk h)
          · exact (ihy hu).imp_right fun h => hbound hv (hbound hk h)
        · exact .inr (.inr (hname hk hu))
      · exact .inr (.inr (hname hv hu))
    · exact ihheld hu
  | keyedBy hmember hv _ _ ih =>
    replace hu := hu.left (m := "\x7d") (by decide)
    rcases hu.left_or_right (by decide) with hu | hu
    · rcases hu.left_or_right (by decide) with hu | hu
      · rcases hu.left_or_right (by decide) with hu | hu
        · rw [String.append_assoc, String.append_assoc] at hu
          replace hu := hu.right (by decide)
          rw [String.toList_append, String.toList_append] at hu
          rcases LoopVar.StandsIn.split (c := '.') hu (by decide) with hu | hu
          · exact .inr (.inr (hname hv hu))
          · exact absurd hu (hmember.free u)
        · exact .inr (.inr (hname hv hu))
      · exact .inr (.inr (hname hv hu))
    · exact ih hu
  | mapValues _ ih => exact ih (hu.left (by decide))

end Variables

end Texts

/-! ## Names of types -/

/-- The types that a conversion names have identifiers for names. -/
def Shape.HasIdentifiers (scope : Scope) : Shape → Prop
  | enum n => IsIdentifier n
  | custom n => scope.isRecord n = true → IsIdentifier n
  | optional s => s.HasIdentifiers scope
  | sequence _ s => s.HasIdentifiers scope
  | map k v => k.HasIdentifiers scope ∧ v.HasIdentifiers scope
  | primitive _ => True
  | wire _ => True

section Names

variable {scope : Scope} (hrecords : ∀ r ∈ scope.symbols.records, IsIdentifier r.name)
include hrecords

theorem Shape.hasIdentifiers_custom (n : String) : (Shape.custom n).HasIdentifiers scope := by
  intro h
  obtain ⟨r, hr⟩ := Option.isSome_iff_exists.1 h
  exact Symbols.name_of_record? hr ▸ hrecords r (Symbols.mem_of_record? hr)

theorem TypeExpr.HasIdentifiers.shape {t : TypeExpr} (h : t.HasIdentifiers) (enumFlag : Bool) :
    (t.shape scope.symbols enumFlag).HasIdentifiers scope := by
  have hcustom := Shape.hasIdentifiers_custom hrecords
  induction h generalizing enumFlag with
  | wire =>
    rw [TypeExpr.shape.eq_def]
    trivial
  | @native n as hn _ ih =>
    rcases as with _ | ⟨t, _ | ⟨v, _ | ⟨_, _⟩⟩⟩
    · rw [TypeExpr.shape, if_neg Bool.false_ne_true]
      unfold namedShape
      split
      · trivial
      · split
        · exact hn
        · exact hcustom n
    · have ht := ih t (by simp) enumFlag
      rw [TypeExpr.shape, if_neg Bool.false_ne_true]
      split
      · exact ht
      · split
        · exact ht
        · exact hcustom _
    · rw [TypeExpr.shape, if_neg Bool.false_ne_true]
      split
      · exact ⟨ih t (by simp) false, ih v (by simp) enumFlag⟩
      · exact hcustom _
    · rw [TypeExpr.shape.eq_def]
      exact hcustom _

end Names

/-! ## Conversions -/

section Conversions

variable {scope : Scope} {s : Shape} {e : String} {d₀ d : Int} {bound : List LoopVar} {held : Expr}

/-- The variables around a conversion have smaller numbers than those it binds. -/
theorem not_mem_of_number_lt {v : LoopVar} (hbound : ∀ u ∈ bound, u.number < v.number) : v ∉ bound := fun h =>
  Int.lt_irrefl _ (hbound v h)

theorem number_lt_of_mem_cons (hbound : ∀ u ∈ bound, u.number < d) :
    ∀ u ∈ LoopVar.key d :: .value d :: bound, u.number < d + 1 := by
  intro u hu
  rcases List.mem_cons.1 hu with rfl | hu
  · exact Int.lt_succ d
  · rcases List.mem_cons.1 hu with rfl | hu
    · exact Int.lt_succ d
    · exact Int.lt_add_one_of_le (Int.le_of_lt (hbound u hu))

section Steps

variable (hheld : held.Scoped e d₀ bound) (hbound : ∀ u ∈ bound, u.number < d) (hd : d₀ ≤ d)
  {x : Except ConfigError Expr} (verbatim : Bool)
include hheld

theorem scoped_optional (hx : Ensures x (Expr.Scoped e d₀ bound)) :
    Ensures (x >>= fun inner => pure (if verbatim then held else .unlessNone held inner))
      (Expr.Scoped e d₀ bound) := by
  refine hx.bind fun inner hinner => .pure ?_
  cases verbatim with
  | true => exact hheld
  | false => exact .unlessNone hheld hinner

include hbound hd

/-- A sequence is copied whole, or its elements are converted one by one. -/
theorem scoped_sequence {callee : String} (hcallee : IsLabel callee) (b : Brackets)
    (hx : Ensures x (Expr.Scoped e d₀ (.value d :: bound))) :
    Ensures (x >>= fun inner =>
      pure (if verbatim then .call callee [] held else .comprehension b inner (.value d) held))
      (Expr.Scoped e d₀ bound) := by
  refine hx.bind fun inner hinner => .pure ?_
  cases verbatim with
  | true => exact .call hcallee (by simp) hheld
  | false => exact .comprehension hd (not_mem_of_number_lt hbound) hinner hheld

theorem scoped_map {y : Except ConfigError Expr} (hx : Ensures x (Expr.Scoped e d₀ (.key d :: .value d :: bound)))
    (hy : Ensures y (Expr.Scoped e d₀ (.key d :: .value d :: bound))) :
    Ensures (x >>= fun key => y >>= fun value =>
      pure (if verbatim then .call "dict" [] held else .entries key value (.key d) (.value d) held))
      (Expr.Scoped e d₀ bound) := by
  refine hx.bind fun key hkey => hy.bind fun value hvalue => .pure ?_
  cases verbatim with
  | true => exact .call (.of_word (by decide) (by decide)) (by simp) hheld
  | false =>
    exact .entries hd hd (by simp) ⟨not_mem_of_number_lt hbound, not_mem_of_number_lt hbound⟩ hkey hvalue hheld

end Steps

theorem SequenceKind.isLabel_name (k : SequenceKind) : IsLabel k.name := by
  cases k <;> exact .of_word (by decide) (by decide)

theorem isLabel_wireTypeText {n : String} (hn : IsIdentifier n) : IsLabel (wireTypeText n) := by
  have hmodule : IsLabel "_wire" := .of_word (by decide) (by decide)
  have htext : wireTypeText n = "_wire" ++ "." ++ n := rfl
  rw [htext]
  exact hmodule.attribute hn.isNameChar

theorem ensures_externalEnum_isLabel (hhelpers : ∀ h ∈ scope.helpers, IsLabel h.plain) {n : String}
    (hn : IsIdentifier n) : Ensures (scope.externalEnum n) IsLabel := by
  unfold Scope.externalEnum
  split
  · next h heq => exact .pure ((hhelpers h heq).attribute hn.isNameChar)
  · exact .problem

theorem scoped_fromWire (hhelpers : ∀ h ∈ scope.helpers, IsLabel h.plain) (hs : s.HasIdentifiers scope)
    (hheld : held.Scoped e d₀ bound) (hbound : ∀ u ∈ bound, u.number < d) (hd : d₀ ≤ d) :
    Ensures (fromWire scope s held d) (Expr.Scoped e d₀ bound) := by
  -- what is bound around an inner conversion changes with it, but all of it stays below the next number
  induction s generalizing held bound d with
  | primitive p => exact .pure hheld
  | wire n => exact .pure hheld
  | enum n =>
    have hn : IsIdentifier n := hs
    unfold fromWire
    split
    · exact .pure (.read (isLabel_fromWireFunction hn.isNameChar) hheld)
    · refine (ensures_externalEnum_isLabel hhelpers hn).bind fun path hpath => .pure ?_
      refine .call (.of_word (by decide) (by decide)) ?_ hheld
      simpa using ⟨hpath, isLabel_wireTypeText hn⟩
  | custom n =>
    unfold fromWire
    split
    · next h => exact .pure (.read (isLabel_fromWireFunction (hs h).isNameChar) hheld)
    · exact .problem
  | optional s ih => exact scoped_optional hheld _ (ih hs hheld hbound hd)
  | sequence k s ih =>
    have hstep := List.forall_mem_of_forall_mem_cons (number_lt_of_mem_cons hbound)
    exact scoped_sequence hheld hbound hd _ k.isLabel_name _ (ih hs (.var (by simp)) hstep (by omega))
  | map k v ihk ihv =>
    have hstep := number_lt_of_mem_cons hbound
    exact scoped_map hheld hbound hd _ (ihk hs.1 (.var (by simp)) hstep (by omega))
      (ihv hs.2 (.var (by simp)) hstep (by omega))

theorem scoped_toWire (hs : s.HasIdentifiers scope) (hheld : held.Scoped e d₀ bound)
    (hbound : ∀ u ∈ bound, u.number < d) (hd : d₀ ≤ d) :
    Ensures (toWire scope s held d) (Expr.Scoped e d₀ bound) := by
  induction s generalizing held bound d with
  | primitive p => exact .pure hheld
  | wire n => exact .pure hheld
  | enum n =>
    have hn : IsIdentifier n := hs
    unfold toWire
    split
    · exact .pure (.write (isLabel_toWireFunction hn.isNameChar) hheld)
    · refine .pure (.call (.of_word (by decide) (by decide)) ?_ hheld)
      simpa using isLabel_wireTypeText hn
  | custom n =>
    unfold toWire
    split
    · next h => exact .pure (.write (isLabel_toWireFunction (hs h).isNameChar) hheld)
    · exact .problem
  | optional s ih => exact scoped_optional hheld _ (ih hs hheld hbound hd)
  | sequence k s ih =>
    have hstep := List.forall_mem_of_forall_mem_cons (number_lt_of_mem_cons hbound)
    have hlist : IsLabel "list" := .of_word (by decide) (by decide)
    exact scoped_sequence hheld hbound hd _ hlist _ (ih hs (.var (by simp)) hstep (by omega))
  | map k v ihk ihv =>
    have hstep := number_lt_of_mem_cons hbound
    exact scoped_map hheld hbound hd _ (ihk hs.1 (.var (by simp)) hstep (by omega))
      (ihv hs.2 (.var (by simp)) hstep (by omega))

/-! ## Keyed maps -/

theorem isAttribute_of_isIdentifier {member : String}
    (h : Text.isIdentifier (Text.dropFinalNewline member.toList) = true) : IsAttribute member := by
  have hname := Terminal.isNameChar_of_isIdentifier h
  constructor
  · refine .of_forall fun c hc => ?_
    rcases Text.eq_or_eq_append_newline member.toList with heq | heq
    · exact Text.not_mem_brackets_of_isNameChar (hname c (heq ▸ hc))
    · rw [heq] at hc
      rcases List.mem_append.1 hc with hc | hc
      · exact Text.not_mem_brackets_of_isNameChar (hname c hc)
      · rw [List.mem_singleton.1 hc]
        decide
  · intro v hv
    rcases Text.eq_or_eq_append_newline member.toList with heq | heq
    · rw [heq] at hv
      exact LoopVar.not_standsIn_attribute hname v hv
    · rw [heq, ← List.cons_append] at hv
      exact LoopVar.not_standsIn_attribute hname v (hv.left_of_not_mem (by decide) (by decide))

theorem hasIdentifiers_of_mapValueShape (hs : s.HasIdentifiers scope) :
    Ensures (mapValueShape s) (Shape.HasIdentifiers scope) := by
  unfold mapValueShape
  split
  · exact .pure hs.2
  · exact .problem

theorem scoped_keyedFromWire (hhelpers : ∀ h ∈ scope.helpers, IsLabel h.plain) (hs : s.HasIdentifiers scope)
    {member : String} (hmember : IsAttribute member) :
    Ensures (keyedFromWire scope s member (.source e)) (Expr.Scoped e 0 []) := by
  refine (hasIdentifiers_of_mapValueShape hs).bind fun t ht => ?_
  have hvar : (Expr.var (.wire 0)).Scoped e 0 [.wire 0] := .var (by simp)
  have hnumber : ∀ u ∈ [LoopVar.wire 0], u.number < 1 := by decide
  refine (scoped_fromWire hhelpers ht hvar hnumber (by decide : (0 : Int) ≤ 1)).bind fun value hvalue => .pure ?_
  refine .keyedBy hmember (Int.le_refl 0) (by simp) ?_
  split
  · exact .source
  · exact .comprehension (Int.le_refl 0) (by simp) hvalue .source

theorem scoped_keyedToWire (hs : s.HasIdentifiers scope) :
    Ensures (keyedToWire scope s (.source e)) (Expr.Scoped e 0 []) := by
  refine (hasIdentifiers_of_mapValueShape hs).bind fun t ht => ?_
  have hvar : (Expr.var (.value 0)).Scoped e 0 [.value 0] := .var (by simp)
  have hnumber : ∀ u ∈ [LoopVar.value 0], u.number < 1 := by decide
  refine (scoped_toWire ht hvar hnumber (by decide : (0 : Int) ≤ 1)).bind fun value hvalue => .pure ?_
  split
  · exact .call (.of_word (by decide) (by decide)) (by simp) (.mapValues .source)
  · exact .comprehension (Int.le_refl 0) (by simp) hvalue (.mapValues .source)

end Conversions

/-! ## Results -/

/-- The tree `x` is a conversion of the source `e`, and its text shows it: the brackets are balanced, and a variable
that does not come from the source has a number from `d` on. -/
structure Expr.WellScoped (e : String) (d : Int) (x : Expr) : Prop where
  bindings : x.Scoped e d []
  balanced : Balanced x.text
  number : ∀ u : LoopVar, u.StandsIn x.text.toList → u.StandsIn e.toList ∨ d ≤ u.number

theorem Expr.Scoped.wellScoped {e : String} {d : Int} {x : Expr} (he : Balanced e) (h : x.Scoped e d []) :
    x.WellScoped e d :=
  ⟨h, h.balanced he, fun _ hu => (h.of_standsIn hu).imp_right fun h => h.resolve_left List.not_mem_nil⟩

/-- Conversions keep to their scopes, whatever the source and whatever the number that their variables start from. -/
theorem conversions_wellScoped {scope : Scope} (hrecords : ∀ r ∈ scope.symbols.records, IsIdentifier r.name)
    (hhelpers : ∀ h ∈ scope.helpers, IsLabel h.plain) {t : TypeExpr} (ht : t.HasIdentifiers) (enumFlag : Bool)
    {e : String} (he : Balanced e) (d : Int) :
    (∀ x, fromWire scope (t.shape scope.symbols enumFlag) (.source e) d = .ok x → x.WellScoped e d) ∧
    (∀ x, toWire scope (t.shape scope.symbols enumFlag) (.source e) d = .ok x → x.WellScoped e d) ∧
    (∀ member x, Text.isIdentifier (Text.dropFinalNewline member.toList) = true →
      keyedFromWire scope (t.shape scope.symbols enumFlag) member (.source e) = .ok x → x.WellScoped e 0) ∧
    ∀ x, keyedToWire scope (t.shape scope.symbols enumFlag) (.source e) = .ok x → x.WellScoped e 0 := by
  have hs := ht.shape hrecords enumFlag
  refine ⟨fun x hx => ?_, fun x hx => ?_, fun member x hmember hx => ?_, fun x hx => ?_⟩
  · exact (scoped_fromWire hhelpers hs .source (by simp) (Int.le_refl d) x hx).wellScoped he
  · exact (scoped_toWire hs .source (by simp) (Int.le_refl d) x hx).wellScoped he
  · exact (scoped_keyedFromWire hhelpers hs (isAttribute_of_isIdentifier hmember) x hx).wellScoped he
  · exact (scoped_keyedToWire hs x hx).wellScoped he

/-- Nothing is declared, and the enums are those of the module `helpers`. -/
def helping (helpers : String) : Scope := ⟨⟨[], []⟩, some (.text helpers)⟩

/-- Colors by keys, some of them missing. -/
def colors : TypeExpr := .mk "dict" [.named "string", .mk "optional" [.named "Color"] false] false

theorem hasIdentifiers_colors : colors.HasIdentifiers := by
  have hnamed {n : String} (hn : IsIdentifier n) : (TypeExpr.named n).HasIdentifiers := .native hn (by simp)
  have hcolor : (TypeExpr.mk "optional" [.named "Color"] false).HasIdentifiers :=
    .native (by decide : Text.isIdentifier _ = true)
      (List.forall_mem_singleton.2 (hnamed (by decide : Text.isIdentifier _ = true)))
  refine .native (by decide : Text.isIdentifier _ = true) (List.forall_mem_cons.2 ⟨?_, ?_⟩)
  · exact hnamed (by decide : Text.isIdentifier _ = true)
  · exact List.forall_mem_singleton.2 hcolor

theorem conversions_wellScoped_colors :
    ∃ x : Expr, x.text = "\x7b_k3: None if _v3 is None else enum_from_wire(app.helpers.Color, _wire.Color, _v3)" ++
      " for _k3, _v3 in _v2.colors.items()\x7d" ∧ x.WellScoped "_v2.colors" 3 := by
  have hhelpers : ∀ h ∈ (helping "app.helpers").helpers, IsLabel h.plain := by
    rintro h ⟨⟩
    have happ : IsLabel "app" := .of_word (by decide) (by decide)
    exact happ.attribute (List.all_eq_true.1 (by decide : "helpers".toList.all Text.isNameChar = true))
  have hrecords : ∀ r ∈ (helping "app.helpers").symbols.records, IsIdentifier r.name := by simp [helping]
  obtain ⟨hread, -⟩ := conversions_wellScoped hrecords hhelpers hasIdentifiers_colors true (e := "_v2.colors")
    (by decide) 3
  exact ⟨_, rfl, hread (.entries (.var (.key 3)) (.unlessNone (.var (.value 3))
    (.call "enum_from_wire" ["app.helpers.Color", "_wire.Color"] (.var (.value 3)))) (.key 3) (.value 3)
    (.source "_v2.colors")) (by rfl)⟩

/-- The name of a helpers module is taken as it is. One with an open bracket leaves the bracket open in the conversion,
and one that is called like a loop variable brings in a variable that nothing binds. -/
theorem not_conversions_wellScoped_helpers :
    (∃ y, fromWire (helping "app(") ((TypeExpr.named "Color").shape (helping "app(").symbols true) (.source "x") 0 =
      .ok y ∧ ¬ ∃ x : Expr, x.text = y.text ∧ x.WellScoped "x" 0) ∧
    ∃ y, fromWire (helping "_v3") ((TypeExpr.named "Color").shape (helping "_v3").symbols true) (.source "x") 5 =
      .ok y ∧ ¬ ∃ x : Expr, x.text = y.text ∧ x.WellScoped "x" 5 := by
  constructor
  · refine ⟨.call "enum_from_wire" ["app(.Color", "_wire.Color"] (.source "x"), by rfl, ?_⟩
    rintro ⟨x, htext, hx⟩
    have hopen : ¬ Balanced "enum_from_wire(app(.Color, _wire.Color, x)" := by decide
    have hbalanced := hx.balanced
    rw [htext] at hbalanced
    exact hopen hbalanced
  · refine ⟨.call "enum_from_wire" ["_v3.Color", "_wire.Color"] (.source "x"), by rfl, ?_⟩
    rintro ⟨x, htext, hx⟩
    have hstands : (LoopVar.value 3).StandsIn x.text.toList := by
      rw [htext]
      refine ⟨"enum_from_wire(".toList, ".Color, _wire.Color, x)".toList, by decide, ?_, ?_⟩
      · rintro c ⟨⟩
        decide
      · rintro c ⟨⟩
        decide
    rcases hx.number _ hstands with h | h
    · exact absurd h.underscore_mem (by decide)
    · exact absurd h (by decide)

end WireBridge
