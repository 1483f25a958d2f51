import WireBridge.Descriptor.Directives
import WireBridge.Proofs.Text.Written

/-!
# Written references

A reference is read by splitting its text at colons and what is between them at points. Here is said without that which
texts are references, and what is read of them.

* `Text.Dotted` : identifiers of ASCII joined by points;
* `FunctionRef.Written s m? p` : the text `s` is the path `p`, behind the module `m?` and a colon if there is one; one
  line feed may follow it;
* `FunctionRef.parts?_eq_some_iff` : the parts that are read are those that are written, so a text has one module and
  one path (`Written.unique`);
* `referenceOf_exact` : when a text is read as a reference and as which, and that the text of a reference is read as the
  reference.
-/

set_option autoImplicit false

namespace WireBridge

namespace Text

/-! ## Names -/

/-- A letter of ASCII or an underscore. -/
def NameStart (c : Char) : Prop := ('A' ≤ c ∧ c ≤ 'Z') ∨ ('a' ≤ c ∧ c ≤ 'z') ∨ c = '_'

/-- What may follow in a name. -/
def NameChar (c : Char) : Prop := NameStart c ∨ ('0' ≤ c ∧ c ≤ '9')

inductive Identifier : List Char → Prop
  | mk {c : Char} {rest : List Char} (hc : NameStart c) (hrest : ∀ d ∈ rest, NameChar d) : Identifier (c :: rest)

/-- Identifiers joined by points, at least one. -/
inductive Dotted : List Char → Prop
  | name {n : List Char} (hn : Identifier n) : Dotted n
  | member {n s : List Char} (hn : Identifier n) (hs : Dotted s) : Dotted (n ++ '.' :: s)

variable {c : Char} {n s : List Char}

theorem isNameStart_iff : isNameStart c = true ↔ NameStart c := by
  unfold isNameStart Char.isAlpha Char.isUpper Char.isLower NameStart
  simp [Char.le_def, or_assoc]

theorem isNameChar_iff : isNameChar c = true ↔ NameChar c := by
  rw [NameChar, ← isNameStart_iff]
  unfold isNameChar isNameStart Char.isAlphanum Char.isDigit
  simp [Char.le_def, or_right_comm]

theorem isIdentifier_iff : isIdentifier s = true ↔ Identifier s := by
  constructor
  · intro h
    cases s with
    | nil => cases h
    | cons c rest =>
      obtain ⟨hc, hrest⟩ := Bool.and_eq_true_iff.1 h
      exact .mk (isNameStart_iff.1 hc) fun d hd => isNameChar_iff.1 (List.all_eq_true.1 hrest d hd)
  · rintro ⟨hc, hrest⟩
    exact Bool.and_eq_true_iff.2 ⟨isNameStart_iff.2 hc, List.all_eq_true.2 fun d hd => isNameChar_iff.2 (hrest d hd)⟩

theorem Identifier.nameChar (h : Identifier n) : ∀ c ∈ n, NameChar c := by
  obtain ⟨hc, hrest⟩ := h
  exact List.forall_mem_cons.2 ⟨.inl hc, hrest⟩

theorem Identifier.not_mem (h : Identifier n) (hc : isNameChar c = false) : c ∉ n := fun hmem => by
  rw [isNameChar_iff.2 (h.nameChar c hmem)] at hc
  cases hc

theorem Dotted.not_mem (h : Dotted s) (hc : isNameChar c = false) (hpoint : c ≠ '.') : c ∉ s := by
  induction h with
  | name hn => exact hn.not_mem hc
  | member hn _ ih =>
    rw [List.mem_append, List.mem_cons]
    exact fun h => h.elim (hn.not_mem hc) (Or.rec hpoint ih)

theorem dotted_intercalate (ns : List (List Char)) (hn : Identifier n) (hns : ∀ m ∈ ns, Identifier m) :
    Dotted (['.'].intercalate (n :: ns)) := by
  induction ns generalizing n with
  | nil =>
    rw [List.intercalate_singleton]
    exact .name hn
  | cons m ns ih =>
    obtain ⟨hm, hns⟩ := List.forall_mem_cons.1 hns
    rw [List.intercalate_cons_cons]
    exact List.append_assoc n _ _ ▸ .member hn (ih hm hns)

/-- The names between points are found by splitting. -/
theorem isDotted_iff : isDotted s = true ↔ Dotted s := by
  rw [isDotted, splitAt_eq_splitOn, List.all_eq_true]
  constructor
  · intro h
    obtain ⟨n, ns, hsplit⟩ := List.exists_cons_of_ne_nil (List.splitOn_ne_nil '.' s)
    rw [hsplit] at h
    obtain ⟨hn, hns⟩ := List.forall_mem_cons.1 h
    have hjoined := @List.intercalate_splitOn Char s _ _ '.'
    rw [hsplit] at hjoined
    rw [← hjoined]
    exact dotted_intercalate ns (isIdentifier_iff.1 hn) fun m hm => isIdentifier_iff.1 (hns m hm)
  · intro h
    induction h with
    | name hn =>
      rw [List.splitOn_eq_singleton (hn.not_mem (by decide))]
      exact List.forall_mem_singleton.2 (isIdentifier_iff.2 hn)
    | member hn _ ih =>
      rw [List.splitOn_append_cons_self_of_not_mem (hn.not_mem (by decide))]
      exact List.forall_mem_cons.2 ⟨isIdentifier_iff.2 hn, ih⟩

end Text

/-! ## References -/

namespace FunctionRef

open Text (Dotted)

/-- The text is a path, or a module, a colon and a path. -/
inductive Spelled : String → Option String → String → Prop
  | bare {p : String} (hp : Dotted p.toList) : Spelled p none p
  | qualified {m p : String} (hm : Dotted m.toList) (hp : Dotted p.toList) : Spelled (m ++ ":" ++ p) (some m) p

/-- The same up to a line feed at the end. -/
inductive Written : String → Option String → String → Prop
  | plain {s : String} {m? : Option String} {p : String} (h : Spelled s m? p) : Written s m? p
  | line {s : String} {m? : Option String} {p : String} (h : Spelled s m? p) : Written (s ++ "\n") m? p

section Written

variable {s p p' : String} {m? m?' : Option String}

theorem Spelled.dotted (h : Spelled s m? p) : Dotted p.toList := by
  cases h with
  | bare hp => exact hp
  | qualified _ hp => exact hp

theorem Spelled.not_mem_newline (h : Spelled s m? p) : '\n' ∉ s.toList := by
  cases h with
  | bare hp => exact hp.not_mem (by decide) (by decide)
  | qualified hm hp =>
    have hm := hm.not_mem (c := '\n') (by decide) (by decide)
    have hp := hp.not_mem (c := '\n') (by decide) (by decide)
    simp [hm, hp]

theorem Written.dotted (h : Written s m? p) : Dotted p.toList := by
  cases h with
  | plain h => exact h.dotted
  | line h => exact h.dotted

theorem Written.spelled (h : Written s m? p) : Spelled (String.ofList (Text.dropFinalNewline s.toList)) m? p := by
  cases h with
  | plain h => rwa [Text.dropFinalNewline_of_not_mem h.not_mem_newline, String.ofList_toList]
  | @line s _ _ h =>
    have htext : (s ++ "\n").toList = s.toList ++ ['\n'] := String.toList_append
    rwa [htext, Text.dropFinalNewline_append, String.ofList_toList]

theorem written_of_spelled (h : Spelled (String.ofList (Text.dropFinalNewline s.toList)) m? p) : Written s m? p := by
  rcases Text.eq_or_eq_append_newline s.toList with hs | hs
  · rw [← hs, String.ofList_toList] at h
    exact .plain h
  · have htext : s = String.ofList (Text.dropFinalNewline s.toList) ++ "\n" := by
      rw [← String.toList_inj, String.toList_append, String.toList_ofList]
      exact hs
    exact htext ▸ .line h

theorem Spelled.splitOn_eq (h : Spelled s m? p) :
    s.toList.splitOn ':' = (m?.map String.toList).toList ++ [p.toList] := by
  have hpath := List.splitOn_eq_singleton (h.dotted.not_mem (c := ':') (by decide) (by decide))
  cases h with
  | bare => exact hpath
  | @qualified m p hm =>
    have htext : (m ++ ":" ++ p).toList = m.toList ++ ':' :: p.toList := by simp
    rw [htext, List.splitOn_append_cons_self_of_not_mem (hm.not_mem (by decide) (by decide)), hpath]
    rfl

theorem Written.parts?_eq (h : Written s m? p) : parts? s.toList = some (m?.map String.toList, p.toList) := by
  have hspelled := h.spelled
  have hsplit := hspelled.splitOn_eq
  rw [String.toList_ofList] at hsplit
  rw [parts?, Text.splitAt_eq_splitOn, hsplit]
  generalize String.ofList (Text.dropFinalNewline s.toList) = t at hspelled
  cases hspelled with
  | bare hp => exact if_pos (Text.isDotted_iff.2 hp)
  | qualified hm hp => exact if_pos (Bool.and_eq_true_iff.2 ⟨Text.isDotted_iff.2 hm, Text.isDotted_iff.2 hp⟩)

theorem written_of_parts? (h : parts? s.toList = some (m?.map String.toList, p.toList)) : Written s m? p := by
  apply written_of_spelled
  have hjoined := @List.intercalate_splitOn Char (Text.dropFinalNewline s.toList) _ _ ':'
  rw [parts?, Text.splitAt_eq_splitOn] at h
  split at h
  · next path hsplit =>
    simp only [Option.ite_none_right_eq_some, Option.some.injEq, Prod.mk.injEq] at h
    obtain ⟨hpath, hm, rfl⟩ := h
    obtain rfl := Option.map_eq_none_iff.1 hm.symm
    rw [← hjoined, hsplit, List.intercalate_singleton, String.ofList_toList]
    exact .bare (Text.isDotted_iff.1 hpath)
  · next module path hsplit =>
    simp only [Option.ite_none_right_eq_some, Option.some.injEq, Prod.mk.injEq, Bool.and_eq_true] at h
    obtain ⟨⟨hmodule, hpath⟩, hm, rfl⟩ := h
    obtain ⟨m, rfl, rfl⟩ := Option.map_eq_some_iff.1 hm.symm
    have htext : String.ofList ([':'].intercalate [m.toList, p.toList]) = m ++ ":" ++ p := by
      rw [← String.toList_inj, String.toList_ofList]
      simp [List.intercalate]
    rw [← hjoined, hsplit, htext]
    exact .qualified (Text.isDotted_iff.1 hmodule) (Text.isDotted_iff.1 hpath)
  · cases h

/-- The parts that are read of a text are those that it is written with. -/
theorem parts?_eq_some_iff : parts? s.toList = some (m?.map String.toList, p.toList) ↔ Written s m? p :=
  ⟨written_of_parts?, Written.parts?_eq⟩

theorem Written.unique (h : Written s m? p) (h' : Written s m?' p') : m? = m?' ∧ p = p' := by
  have hparts := h.parts?_eq.symm.trans h'.parts?_eq
  simp only [Option.some.injEq, Prod.mk.injEq, String.toList_inj] at hparts
  exact hparts.imp_left (Option.map_injective (fun _ _ => String.toList_inj.1) ·)

end Written

/-! ## References of values -/

variable {helpers : Option Value} {s : String} {r : FunctionRef}

theorem ofValue_eq_ok_iff : ofValue helpers (.text s) = .ok r ↔
    ∃ m?, Written s m? r.path ∧ (m?.map Value.text).or helpers = some r.module := by
  constructor
  · intro h
    rw [ofValue] at h
    split at h
    · cases h
    · next module path hparts =>
      cases h
      exact ⟨some (String.ofList module), parts?_eq_some_iff.1 (by simpa using hparts), rfl⟩
    · next path hparts =>
      split at h
      · cases h
        exact ⟨none, parts?_eq_some_iff.1 (by simpa using hparts), rfl⟩
      · cases h
  · rintro ⟨m?, hwritten, hmodule⟩
    obtain ⟨module, path⟩ := r
    rw [ofValue, hwritten.parts?_eq]
    cases m? with
    | none =>
      obtain rfl : helpers = some module := hmodule
      simp
    | some m =>
      obtain rfl : Value.text m = module := Option.some.inj hmodule
      simp

/-- The text of a reference is read as the reference, whatever the helpers module is. -/
theorem ofValue_text {m : String} (hr : r.module = .text m) (hm : Dotted m.toList) (hp : Dotted r.path.toList) :
    ofValue helpers (.text r.text) = .ok r := by
  have htext : r.text = m ++ ":" ++ r.path := by rw [text, hr, Value.plain]
  refine ofValue_eq_ok_iff.2 ⟨some m, ?_, congrArg some hr.symm⟩
  rw [htext]
  exact .plain (.qualified hm hp)

end FunctionRef

theorem referenceOf_eq_ok_iff {helpers : Option Value} {v : Value} {r : FunctionRef} :
    referenceOf helpers v = .ok r ↔ FunctionRef.ofValue helpers v = .ok r := by
  unfold referenceOf
  cases FunctionRef.ofValue helpers v with
  | ok r' =>
    constructor
    · rintro ⟨⟩
      rfl
    · rintro ⟨⟩
      rfl
  | error f => exact iff_of_false nofun nofun

open FunctionRef (Written)

/-- A text is read as a reference if it is written as one and a module is known, its own or the helpers module. No text
is written as two references. The text of what was read is read as the same under any settings, if the module is
dotted. -/
theorem referenceOf_exact (s : String) (helpers : Option Value) :
    ((∃ r, referenceOf helpers (.text s) = .ok r) ↔
        ∃ m? p, Written s m? p ∧ (m?.isSome = true ∨ helpers.isSome = true)) ∧
      (∀ r, referenceOf helpers (.text s) = .ok r ↔
        ∃ m?, Written s m? r.path ∧ (m?.map Value.text).or helpers = some r.module) ∧
      (∀ m? p m?' p', Written s m? p → Written s m?' p' → m? = m?' ∧ p = p') ∧
      ∀ r m, referenceOf helpers (.text s) = .ok r → r.module = .text m → Text.Dotted m.toList →
        ∀ helpers', referenceOf helpers' (.text r.text) = .ok r := by
  have hread : ∀ r, referenceOf helpers (.text s) = .ok r ↔
      ∃ m?, Written s m? r.path ∧ (m?.map Value.text).or helpers = some r.module :=
    fun r => referenceOf_eq_ok_iff.trans FunctionRef.ofValue_eq_ok_iff
  refine ⟨⟨?_, ?_⟩, hread, fun _ _ _ _ => Written.unique, ?_⟩
  · rintro ⟨r, hr⟩
    obtain ⟨m?, hwritten, hmodule⟩ := (hread r).1 hr
    refine ⟨m?, r.path, hwritten, ?_⟩
    have hsome := congrArg Option.isSome hmodule
    rw [Option.isSome_or, Option.isSome_map] at hsome
    exact Bool.or_eq_true_iff.1 hsome
  · rintro ⟨m?, p, hwritten, hmodule⟩
    rw [← Bool.or_eq_true, ← Option.isSome_map (f := Value.text), ← Option.isSome_or] at hmodule
    obtain ⟨module, hmodule⟩ := Option.isSome_iff_exists.1 hmodule
    exact ⟨⟨module, p⟩, (hread _).2 ⟨m?, hwritten, hmodule⟩⟩
  · intro r m hr hmodule hm helpers'
    obtain ⟨_, hwritten, -⟩ := (hread r).1 hr
    exact referenceOf_eq_ok_iff.2 (FunctionRef.ofValue_text hmodule hm hwritten.dotted)

/-- A bare path, and a path behind its module with a line feed at the end. -/
theorem referenceOf_exact_sample :
    referenceOf (some (.text "app.helpers")) (.text "Clock.now") = .ok ⟨.text "app.helpers", "Clock.now"⟩ ∧
      referenceOf none (.text "app.time:parse\n") = .ok ⟨.text "app.time", "parse"⟩ ∧
      referenceOf none (.text "app.time:parse") = .ok ⟨.text "app.time", "parse"⟩ := by
  have hread : referenceOf none (.text "app.time:parse\n") = .ok ⟨.text "app.time", "parse"⟩ := rfl
  refine ⟨rfl, hread, ?_⟩
  obtain ⟨-, -, -, hstable⟩ := referenceOf_exact "app.time:parse\n" none
  exact hstable _ "app.time" hread rfl (Text.isDotted_iff.1 (by decide)) none

end WireBridge
