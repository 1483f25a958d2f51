import Mathlib.Data.List.Forall2
import WireBridge.Proofs.Definition.Terminal
import WireBridge.Proofs.Definition.Validation
import WireBridge.Proofs.Definition.Values

/-!
# Definitions that are read from a text

* `wellFormed_of_ofText` : the definitions are well formed, since validation accepts no others. So the declared types
  have distinct names (`nodup_typeNames_of_ofText`), and so have the fields of a record (`members_of_ofText`);
* `isFormed_of_ofText` : types and fields are named by identifiers, and so are the types that fields have, and a newtype
  wraps one field, by the grammar. `Parser.Yields p P` says that every result of the parser `p` has the property `P`.
-/

set_option autoImplicit false

namespace WireBridge

/-! ## Names -/

namespace Definitions

variable {text : String} {d : Definitions Value}

theorem of_parse {d : Definitions LiteralValue} (h : parse text = .ok d) :
    unvalidated text.toList = .ok d ∧ d.validate = .ok () := by
  obtain ⟨d', hd, h⟩ := bind_eq_ok_iff.1 h
  obtain ⟨⟨⟩, hv, h⟩ := bind_eq_ok_iff.1 h
  rw [pure_eq_ok_iff] at h
  subst h
  exact ⟨hd, mapError_eq_ok_iff.1 hv⟩

theorem ofText_eq_ok_iff_exists_parse :
    ofText text = .ok d ↔ ∃ d', parse text = .ok d' ∧ d'.mapM LiteralValue.narrow = .ok d := by
  simp only [ofText, bind_eq_ok_iff, mapError_eq_ok_iff]

theorem wellFormed_of_ofText (h : ofText text = .ok d) : d.WellFormed := by
  obtain ⟨d', hd', hnarrow⟩ := ofText_eq_ok_iff_exists_parse.1 h
  exact wellFormed_of_validate ((validate_of_mapM hnarrow).symm.trans (of_parse hd').2)

theorem nodup_typeNames_of_ofText (h : ofText text = .ok d) : d.typeNames.Nodup := (wellFormed_of_ofText h).types.nodup

theorem members_of_ofText (h : ofText text = .ok d) :
    ∀ r ∈ d.records, (r.fields.map (·.name)).Nodup ∧ ∀ n ∈ r.fields.map (·.name), n ∉ reservedWords := by
  intro r hr
  obtain ⟨hnodup, hallowed⟩ := ((wellFormed_of_ofText h).records r hr).names
  exact ⟨hnodup, hallowed⟩

end Definitions

/-! ## What the grammar yields -/

/-- A newtype wraps one field. -/
def RecordDecl.Wraps {V : Type} (r : RecordDecl V) : Prop := r.newtype = true → r.fields.length = 1

def IsIdentifier (n : String) : Prop := Text.isIdentifier n.toList = true

/-- Every type in the expression but those of the wire module has an identifier for a name. -/
inductive TypeExpr.HasIdentifiers : TypeExpr → Prop
  | wire {n : String} {as : List TypeExpr} : HasIdentifiers (.mk n as true)
  | native {n : String} {as : List TypeExpr} (hn : IsIdentifier n) (has : ∀ t ∈ as, HasIdentifiers t) :
      HasIdentifiers (.mk n as false)

/-- A record as the grammar has it. -/
structure RecordDecl.IsFormed {V : Type} (r : RecordDecl V) : Prop where
  name : IsIdentifier r.name
  fields : ∀ f ∈ r.fields, IsIdentifier f.name
  types : ∀ f ∈ r.fields, f.type.HasIdentifiers
  wraps : r.Wraps

/-- The declaration in an item is as the grammar has it. -/
def Item.IsFormed {V : Type} : Item V → Prop
  | .record r => r.IsFormed
  | .enum e => IsIdentifier e.name
  | .options _ => True

namespace Parser

variable {α β : Type} {P : α → Prop}

/-- Every result of the parser has the property. -/
def Yields (p : Parser α) (P : α → Prop) : Prop := ∀ s a rest, p.run s = .ok (a, rest) → P a

theorem Yields.pure {a : α} (h : P a) : Yields (Pure.pure a) P := by
  rintro s b rest ⟨⟩
  exact h

theorem Yields.bind {p : Parser β} {f : β → Parser α} {Q : β → Prop} (hp : Yields p Q)
    (hf : ∀ b, Q b → Yields (f b) P) : Yields (p >>= f) P := by
  intro s a rest h
  rw [StateT.run_bind] at h
  obtain ⟨⟨b, s'⟩, hb, h⟩ := bind_eq_ok_iff.1 h
  exact hf b (hp s b s' hb) s' a rest h

/-- The property of a parser that does not depend on what comes before its last step. -/
theorem Yields.bind_last {p : Parser β} {f : β → Parser α} (hf : ∀ b, Yields (f b) P) : Yields (p >>= f) P := by
  refine Yields.bind (Q := fun _ => True) (fun _ _ _ _ => trivial) fun b _ => hf b

theorem Yields.upTo {p : Parser α} (hp : Yields p P) (starts : List Char → Bool) (n : Nat) :
    Yields (Parser.upTo starts p n) fun as => ∀ a ∈ as, P a := by
  induction n with
  | zero => exact .pure fun _ ha => absurd ha List.not_mem_nil
  | succ n ih =>
    refine .bind_last fun s => ?_
    split
    · refine hp.bind fun a ha => ih.bind fun as has => .pure fun b hb => ?_
      rcases List.mem_cons.1 hb with rfl | hb
      · exact ha
      · exact has b hb
    · exact .pure fun _ ha => absurd ha List.not_mem_nil

theorem Yields.many {p : Parser α} (hp : Yields p P) (starts : List Char → Bool) :
    Yields (Parser.many starts p) fun as => ∀ a ∈ as, P a :=
  .bind_last fun _ => hp.upTo starts _

theorem yields_token {read : List Char → Option (α × List Char)} (h : ∀ s a rest, read s = some (a, rest) → P a) :
    Yields (token read) P := by
  intro s a rest hs
  replace hs : token read s = .ok (a, rest) := hs
  unfold token at hs
  split at hs
  · next hread =>
    cases hs
    exact h _ _ _ hread
  · cases hs

theorem yields_name : Yields name IsIdentifier := by
  intro s n rest h
  obtain ⟨⟨w, s'⟩, hw, h⟩ := map_eq_ok_iff.1 h
  obtain ⟨rfl, rfl⟩ := Prod.mk.inj h
  have htoken : Yields (token Terminal.name?) fun w => IsIdentifier (String.ofList w) := by
    refine yields_token fun s w rest hread => ?_
    rw [IsIdentifier, String.toList_ofList]
    exact (Terminal.name?_eq_some_iff.1 hread).1.isText
  exact htoken _ _ _ hw

theorem Yields.block {p : Parser α} (hp : Yields p P) : Yields (Parser.block p) fun as => ∀ a ∈ as, P a :=
  .bind_last fun _ => (hp.many _).bind fun _ has => .bind_last fun _ => .pure has

theorem Yields.commaSeparated {p : Parser α} (hp : Yields p P) :
    Yields (Parser.commaSeparated p) fun as => ∀ a ∈ as, P a :=
  hp.bind fun _ ha => (Yields.many (.bind_last fun _ => hp) _).bind fun _ has =>
    .pure (List.forall_mem_cons.2 ⟨ha, has⟩)

theorem yields_typeWithin (depth : Nat) : Yields (typeWithin depth) TypeExpr.HasIdentifiers := by
  induction depth with
  | zero =>
    rintro s t rest ⟨⟩
  | succ depth ih =>
    refine .bind_last fun s => ?_
    split
    · exact .bind_last fun _ => .bind_last fun _ => .pure .wire
    · refine yields_name.bind fun n hn => .bind_last fun s => ?_
      split
      · exact .bind_last fun _ => ih.commaSeparated.bind fun as has => .bind_last fun _ => .pure (.native hn has)
      · exact .pure (.native hn (List.forall_mem_nil _))

theorem yields_type : Yields type TypeExpr.HasIdentifiers := .bind_last fun _ => yields_typeWithin _

theorem yields_field : Yields field fun f => IsIdentifier f.name ∧ f.type.HasIdentifiers :=
  .bind_last fun _ => yields_name.bind fun _ hn => .bind_last fun _ => yields_type.bind fun _ ht =>
    .bind_last fun _ => .pure ⟨hn, ht⟩

theorem yields_declaration (c : Option String) (as : List (Directive Literal)) :
    Yields (declaration c as) Item.IsFormed := by
  refine .bind_last fun s => ?_
  split
  · exact .bind_last fun _ => yields_name.bind fun n hn => .bind_last fun _ => .pure hn
  · refine .bind_last fun _ => yields_name.bind fun n hn => .bind_last fun s => ?_
    split
    · refine .bind_last fun _ => yields_type.bind fun t ht => .bind_last fun _ => .pure ?_
      refine ⟨hn, List.forall_mem_singleton.2 ?_, List.forall_mem_singleton.2 ht, fun _ => rfl⟩
      show Text.isIdentifier "value".toList = true
      decide
    · refine yields_field.block.bind fun fs hfs => .pure ?_
      refine ⟨hn, fun f hf => (hfs f hf).1, fun f hf => (hfs f hf).2, fun hnewtype => ?_⟩
      exact absurd hnewtype Bool.false_ne_true

theorem yields_item : Yields item Item.IsFormed := by
  refine .bind_last fun s => ?_
  split
  · exact .bind_last fun _ => .bind_last fun _ => .pure trivial
  · exact .bind_last fun c => .bind_last fun as => yields_declaration c as

end Parser

/-! ## Values -/

section Values

variable {ε V W : Type} {f : V → Except ε W}

theorem RecordDecl.isFormed_of_mapM {r : RecordDecl V} {r' : RecordDecl W} (h : r.mapM f = .ok r')
    (hr : r.IsFormed) : r'.IsFormed := by
  obtain ⟨as, -, h⟩ := bind_eq_ok_iff.1 h
  obtain ⟨fs, hfs, h⟩ := bind_eq_ok_iff.1 h
  rw [pure_eq_ok_iff] at h
  subst h
  have hall := forall₂_of_mapM_eq_ok hfs
  refine ⟨hr.name, fun d' hd' => ?_, fun d' hd' => ?_, fun hn => hall.length_eq.symm.trans (hr.wraps hn)⟩
  · obtain ⟨d, hd, hdd'⟩ := exists_of_forall₂ hall hd'
    rw [← (FieldDecl.kept_of_mapM hdd').1]
    exact hr.fields d hd
  · obtain ⟨d, hd, hdd'⟩ := exists_of_forall₂ hall hd'
    rw [← (FieldDecl.kept_of_mapM hdd').2]
    exact hr.types d hd

theorem Item.isFormed_of_mapM {i : Item V} {j : Item W} (h : i.mapM f = .ok j) (hi : i.IsFormed) : j.IsFormed := by
  cases i with
  | options os =>
    obtain ⟨os', -, h⟩ := bind_eq_ok_iff.1 h
    cases h
    trivial
  | enum e =>
    obtain ⟨e', he', h⟩ := bind_eq_ok_iff.1 h
    cases h
    obtain ⟨as, -, he'⟩ := bind_eq_ok_iff.1 he'
    obtain ⟨vs, -, he'⟩ := bind_eq_ok_iff.1 he'
    cases he'
    exact hi
  | record r =>
    obtain ⟨r', hr', h⟩ := bind_eq_ok_iff.1 h
    cases h
    exact RecordDecl.isFormed_of_mapM hr' hi

end Values

namespace Definitions

/-- What the grammar yields for every item, if other values leave it true, holds of all types that a text declares. -/
theorem declared_of_ofText {text : String} {d : Definitions Value} (h : ofText text = .ok d)
    {P : ∀ {V : Type}, Item V → Prop} (hitem : Parser.Yields Parser.item P)
    (hvalue : ∀ {V W : Type} {f : V → Except LiteralFault W} {i : Item V} {j : Item W}, i.mapM f = .ok j → P i → P j) :
    (∀ e ∈ d.enums, P (.enum e)) ∧ ∀ r ∈ d.records, P (.record r) := by
  obtain ⟨d', hd', hnarrow⟩ := ofText_eq_ok_iff_exists_parse.1 h
  obtain ⟨is, his, hd'⟩ := bind_eq_ok_iff.1 (of_parse hd').1
  obtain ⟨js, hjs, hd'⟩ := bind_eq_ok_iff.1 hd'
  rw [pure_eq_ok_iff] at hd'
  subst hd'
  have hall : ∀ j ∈ js, P j := by
    intro j hj
    obtain ⟨⟨is', rest⟩, hrun, rfl⟩ := map_eq_ok_iff.1 (mapError_eq_ok_iff.1 his)
    obtain ⟨i, hi, hij⟩ := exists_of_forall₂ (forall₂_of_mapM_eq_ok (mapError_eq_ok_iff.1 hjs)) hj
    exact hvalue hij (hitem.many _ _ _ _ hrun i hi)
  obtain ⟨hes, hrs, -⟩ := mapM_eq_ok_iff.1 hnarrow
  constructor
  · intro e he
    obtain ⟨e', he', hee'⟩ := exists_of_forall₂ (forall₂_of_mapM_eq_ok hes) he
    have hitem' : (Item.enum e').mapM LiteralValue.narrow = .ok (.enum e) := bind_eq_ok_iff.2 ⟨e, hee', rfl⟩
    exact hvalue hitem' (hall _ (mem_enums_ofItems.1 he'))
  · intro r hr
    obtain ⟨r', hr', hrr'⟩ := exists_of_forall₂ (forall₂_of_mapM_eq_ok hrs) hr
    have hitem' : (Item.record r').mapM LiteralValue.narrow = .ok (.record r) := bind_eq_ok_iff.2 ⟨r, hrr', rfl⟩
    exact hvalue hitem' (hall _ (mem_records_ofItems.1 hr'))

theorem isFormed_of_ofText {text : String} {d : Definitions Value} (h : ofText text = .ok d) :
    (∀ e ∈ d.enums, IsIdentifier e.name) ∧ ∀ r ∈ d.records, r.IsFormed :=
  declared_of_ofText h Parser.yields_item Item.isFormed_of_mapM

theorem wraps_of_ofText {text : String} {d : Definitions Value} (h : ofText text = .ok d) :
    ∀ r ∈ d.records, r.Wraps := fun r hr => ((isFormed_of_ofText h).2 r hr).wraps

theorem isIdentifier_of_mem_typeNames {text : String} {d : Definitions Value} (h : ofText text = .ok d) {n : String}
    (hn : n ∈ d.typeNames) : IsIdentifier n := by
  obtain ⟨henums, hrecords⟩ := isFormed_of_ofText h
  rcases List.mem_append.1 hn with hn | hn
  · obtain ⟨e, he, rfl⟩ := List.mem_map.1 hn
    exact henums e he
  · obtain ⟨r, hr, rfl⟩ := List.mem_map.1 hn
    exact (hrecords r hr).name

end Definitions

end WireBridge
