import WireBridge.Definition.Reading
import WireBridge.Proofs.Problem.Placement

/-!
# Values in definitions

The literals of a file are evaluated one by one, and then their texts are taken as characters. What is replaced are the
values alone.

* `Definitions.validate_of_mapM` : a file is as valid after its values are replaced as it was before;
* `Item.splits_mapM` : values that can be replaced at once can be replaced in two steps, and
  `Definitions.mapM_ofItems` : the definitions of some items have the values of the items;
* `Text.characters?_map_codePoint` : the numbers of some characters are the code points of these characters.
-/

set_option autoImplicit false

namespace WireBridge

variable {ε U V W : Type}

/-! ## What stays -/

section Kept

variable {f : V → Except ε W}

theorem VariantDecl.name_of_mapM {v : VariantDecl V} {v' : VariantDecl W} (h : v.mapM f = .ok v') :
    v.name = v'.name := by
  obtain ⟨as, -, h⟩ := bind_eq_ok_iff.1 h
  cases h
  rfl

theorem FieldDecl.kept_of_mapM {d : FieldDecl V} {d' : FieldDecl W} (h : d.mapM f = .ok d') :
    d.name = d'.name ∧ d.type = d'.type := by
  obtain ⟨as, -, h⟩ := bind_eq_ok_iff.1 h
  cases h
  exact ⟨rfl, rfl⟩

theorem EnumDecl.kept_of_mapM {e : EnumDecl V} {e' : EnumDecl W} (h : e.mapM f = .ok e') :
    e.name = e'.name ∧ e.fault? = e'.fault? := by
  obtain ⟨as, -, h⟩ := bind_eq_ok_iff.1 h
  obtain ⟨vs, hvs, h⟩ := bind_eq_ok_iff.1 h
  cases h
  have hnames : e.variants.map (·.name) = vs.map (·.name) :=
    map_eq_map_of_forall₂ (forall₂_of_mapM_eq_ok hvs) fun _ _ => VariantDecl.name_of_mapM
  refine ⟨rfl, ?_⟩
  unfold fault?
  rw [hnames]

theorem RecordDecl.kept_of_mapM {r : RecordDecl V} {r' : RecordDecl W} (h : r.mapM f = .ok r') :
    r.name = r'.name ∧ r.fault? = r'.fault? := by
  obtain ⟨as, -, h⟩ := bind_eq_ok_iff.1 h
  obtain ⟨fs, hfs, h⟩ := bind_eq_ok_iff.1 h
  cases h
  have hnames : r.fields.map (·.name) = fs.map (·.name) :=
    map_eq_map_of_forall₂ (forall₂_of_mapM_eq_ok hfs) fun _ _ h => (FieldDecl.kept_of_mapM h).1
  refine ⟨rfl, ?_⟩
  unfold fault?
  rw [hnames]
  refine findSome?_eq_of_forall₂ (forall₂_of_mapM_eq_ok hfs) fun d d' h => ?_
  obtain ⟨hname, htype⟩ := FieldDecl.kept_of_mapM h
  rw [hname, htype]

theorem OptionDecl.name_of_mapM {o : OptionDecl V} {o' : OptionDecl W} (h : o.mapM f = .ok o') : o.name = o'.name := by
  obtain ⟨v, -, h⟩ := bind_eq_ok_iff.1 h
  cases h
  rfl

namespace Definitions

theorem mapM_eq_ok_iff {d : Definitions V} {d' : Definitions W} :
    d.mapM f = .ok d' ↔
      d.enums.mapM (·.mapM f) = .ok d'.enums ∧ d.records.mapM (·.mapM f) = .ok d'.records ∧
        d.options.mapM (·.mapM f) = .ok d'.options := by
  obtain ⟨es, rs, os⟩ := d'
  simp only [mapM, bind_eq_ok_iff, pure_eq_ok_iff, mk.injEq]
  constructor
  · rintro ⟨_, hes, _, hrs, _, hos, rfl, rfl, rfl⟩
    exact ⟨hes, hrs, hos⟩
  · rintro ⟨hes, hrs, hos⟩
    exact ⟨es, hes, rs, hrs, os, hos, rfl, rfl, rfl⟩

/-- Validation looks at names and types only. -/
theorem validate_of_mapM {d : Definitions V} {d' : Definitions W} (h : d.mapM f = .ok d') :
    d.validate = d'.validate := by
  obtain ⟨hes, hrs, hos⟩ := mapM_eq_ok_iff.1 h
  have enums := forall₂_of_mapM_eq_ok hes
  have records := forall₂_of_mapM_eq_ok hrs
  have hnames : d.typeNames = d'.typeNames := congrArg₂ _
    (map_eq_map_of_forall₂ enums fun _ _ h => (EnumDecl.kept_of_mapM h).1)
    (map_eq_map_of_forall₂ records fun _ _ h => (RecordDecl.kept_of_mapM h).1)
  have hoptions : d.options.map (·.name) = d'.options.map (·.name) :=
    map_eq_map_of_forall₂ (forall₂_of_mapM_eq_ok hos) fun _ _ => OptionDecl.name_of_mapM
  unfold validate fault?
  rw [hnames, hoptions, findSome?_eq_of_forall₂ enums fun _ _ h => (EnumDecl.kept_of_mapM h).2,
    findSome?_eq_of_forall₂ records fun _ _ h => (RecordDecl.kept_of_mapM h).2]

end Definitions

end Kept

/-! ## In two steps -/

/-- What `h` replaces, `f` and then `g` replace by the same. -/
def Splits (f : U → Except ε V) (g : V → Except ε W) (h : U → Except ε W) : Prop :=
  ∀ u w, h u = .ok w → ∃ v, f u = .ok v ∧ g v = .ok w

theorem splits_bind (f : U → Except ε V) (g : V → Except ε W) : Splits f g fun u => f u >>= g :=
  fun _ _ h => bind_eq_ok_iff.1 h

theorem Splits.mapM {f : U → Except ε V} {g : V → Except ε W} {h : U → Except ε W} (hs : Splits f g h) :
    Splits (List.mapM f) (List.mapM g) (List.mapM h) := by
  intro us
  induction us with
  | nil =>
    intro ws hws
    exact ⟨[], rfl, hws⟩
  | cons u us ih =>
    intro ws hws
    obtain ⟨w, hw, hws⟩ := bind_eq_ok_iff.1 (List.mapM_cons.symm.trans hws)
    obtain ⟨ws, hmore, hws⟩ := bind_eq_ok_iff.1 hws
    cases hws
    obtain ⟨v, hv, hvw⟩ := hs u w hw
    obtain ⟨vs, hvs, hvws⟩ := ih ws hmore
    exact ⟨v :: vs, mapM_cons_eq_ok hv hvs, mapM_cons_eq_ok hvw hvws⟩

section Steps

variable {f : U → Except ε V} {g : V → Except ε W} {h : U → Except ε W}

theorem Directive.splits_mapM (hs : Splits f g h) : Splits (mapM f) (mapM g) (mapM h) := by
  intro a c hc
  obtain ⟨xs, hxs, hc⟩ := bind_eq_ok_iff.1 hc
  have hargument : Splits (fun x : Argument U => do return (⟨x.name, ← f x.value⟩ : Argument V))
      (fun x => do return (⟨x.name, ← g x.value⟩ : Argument W)) fun x => do return ⟨x.name, ← h x.value⟩ := by
    intro x z hz
    obtain ⟨w, hw, hz⟩ := bind_eq_ok_iff.1 hz
    obtain ⟨v, hv, hvw⟩ := hs _ w hw
    exact ⟨⟨x.name, v⟩, bind_eq_ok_iff.2 ⟨v, hv, rfl⟩, bind_eq_ok_iff.2 ⟨w, hvw, hz⟩⟩
  obtain ⟨ys, hys, hyxs⟩ := hargument.mapM a.arguments xs hxs
  exact ⟨⟨a.name, ys⟩, bind_eq_ok_iff.2 ⟨ys, hys, rfl⟩, bind_eq_ok_iff.2 ⟨xs, hyxs, hc⟩⟩

theorem VariantDecl.splits_mapM (hs : Splits f g h) : Splits (mapM f) (mapM g) (mapM h) := by
  intro v c hc
  obtain ⟨as, has, hc⟩ := bind_eq_ok_iff.1 hc
  obtain ⟨bs, hbs, hbas⟩ := (Directive.splits_mapM hs).mapM _ as has
  exact ⟨⟨v.name, v.comment, bs⟩, bind_eq_ok_iff.2 ⟨bs, hbs, rfl⟩, bind_eq_ok_iff.2 ⟨as, hbas, hc⟩⟩

theorem FieldDecl.splits_mapM (hs : Splits f g h) : Splits (mapM f) (mapM g) (mapM h) := by
  intro d c hc
  obtain ⟨as, has, hc⟩ := bind_eq_ok_iff.1 hc
  obtain ⟨bs, hbs, hbas⟩ := (Directive.splits_mapM hs).mapM _ as has
  exact ⟨⟨d.name, d.type, d.comment, bs⟩, bind_eq_ok_iff.2 ⟨bs, hbs, rfl⟩, bind_eq_ok_iff.2 ⟨as, hbas, hc⟩⟩

theorem OptionDecl.splits_mapM (hs : Splits f g h) : Splits (mapM f) (mapM g) (mapM h) := by
  intro o c hc
  obtain ⟨w, hw, hc⟩ := bind_eq_ok_iff.1 hc
  obtain ⟨v, hv, hvw⟩ := hs _ w hw
  exact ⟨⟨o.name, v, o.comment⟩, bind_eq_ok_iff.2 ⟨v, hv, rfl⟩, bind_eq_ok_iff.2 ⟨w, hvw, hc⟩⟩

theorem EnumDecl.splits_mapM (hs : Splits f g h) : Splits (mapM f) (mapM g) (mapM h) := by
  intro e c hc
  obtain ⟨as, has, hc⟩ := bind_eq_ok_iff.1 hc
  obtain ⟨vs, hvs, hc⟩ := bind_eq_ok_iff.1 hc
  obtain ⟨bs, hbs, hbas⟩ := (Directive.splits_mapM hs).mapM _ as has
  obtain ⟨us, hus, huvs⟩ := (VariantDecl.splits_mapM hs).mapM _ vs hvs
  exact ⟨⟨e.name, us, e.comment, bs⟩, bind_eq_ok_iff.2 ⟨bs, hbs, bind_eq_ok_iff.2 ⟨us, hus, rfl⟩⟩,
    bind_eq_ok_iff.2 ⟨as, hbas, bind_eq_ok_iff.2 ⟨vs, huvs, hc⟩⟩⟩

theorem RecordDecl.splits_mapM (hs : Splits f g h) : Splits (mapM f) (mapM g) (mapM h) := by
  intro r c hc
  obtain ⟨as, has, hc⟩ := bind_eq_ok_iff.1 hc
  obtain ⟨fs, hfs, hc⟩ := bind_eq_ok_iff.1 hc
  obtain ⟨bs, hbs, hbas⟩ := (Directive.splits_mapM hs).mapM _ as has
  obtain ⟨ds, hds, hdfs⟩ := (FieldDecl.splits_mapM hs).mapM _ fs hfs
  exact ⟨⟨r.name, ds, r.comment, bs, r.newtype⟩, bind_eq_ok_iff.2 ⟨bs, hbs, bind_eq_ok_iff.2 ⟨ds, hds, rfl⟩⟩,
    bind_eq_ok_iff.2 ⟨as, hbas, bind_eq_ok_iff.2 ⟨fs, hdfs, hc⟩⟩⟩

theorem Item.splits_mapM (hs : Splits f g h) : Splits (mapM f) (mapM g) (mapM h) := by
  intro i k hk
  cases i with
  | options os =>
    obtain ⟨ps, hps, hk⟩ := bind_eq_ok_iff.1 hk
    obtain ⟨qs, hqs, hqps⟩ := (OptionDecl.splits_mapM hs).mapM os ps hps
    exact ⟨.options qs, bind_eq_ok_iff.2 ⟨qs, hqs, rfl⟩, bind_eq_ok_iff.2 ⟨ps, hqps, hk⟩⟩
  | enum e =>
    obtain ⟨c, hc, hk⟩ := bind_eq_ok_iff.1 hk
    obtain ⟨b, hb, hbc⟩ := EnumDecl.splits_mapM hs e c hc
    exact ⟨.enum b, bind_eq_ok_iff.2 ⟨b, hb, rfl⟩, bind_eq_ok_iff.2 ⟨c, hbc, hk⟩⟩
  | record r =>
    obtain ⟨c, hc, hk⟩ := bind_eq_ok_iff.1 hk
    obtain ⟨b, hb, hbc⟩ := RecordDecl.splits_mapM hs r c hc
    exact ⟨.record b, bind_eq_ok_iff.2 ⟨b, hb, rfl⟩, bind_eq_ok_iff.2 ⟨c, hbc, hk⟩⟩

end Steps

/-! ## From items to definitions -/

theorem Definitions.mem_enums_ofItems {is : List (Item V)} {e : EnumDecl V} :
    e ∈ (ofItems is).enums ↔ .enum e ∈ is := by
  constructor
  · intro he
    obtain ⟨i, hi, hie⟩ := List.mem_filterMap.1 he
    cases i with
    | enum e' => exact Option.some.inj hie ▸ hi
    | options os => cases hie
    | record r => cases hie
  · exact fun he => List.mem_filterMap.2 ⟨_, he, rfl⟩

theorem Definitions.mem_records_ofItems {is : List (Item V)} {r : RecordDecl V} :
    r ∈ (ofItems is).records ↔ .record r ∈ is := by
  constructor
  · intro hr
    obtain ⟨i, hi, hir⟩ := List.mem_filterMap.1 hr
    cases i with
    | record r' => exact Option.some.inj hir ▸ hi
    | options os => cases hir
    | enum e => cases hir
  · exact fun hr => List.mem_filterMap.2 ⟨_, hr, rfl⟩

theorem Definitions.mapM_ofItems {f : V → Except ε W} {is : List (Item V)} {js : List (Item W)}
    (h : is.mapM (Item.mapM f) = .ok js) : (ofItems is).mapM f = .ok (ofItems js) := by
  have hall := forall₂_of_mapM_eq_ok h
  clear h
  induction hall with
  | nil => rfl
  | @cons i j is js hij _ ih =>
    obtain ⟨hes, hrs, hos⟩ := mapM_eq_ok_iff.1 ih
    refine mapM_eq_ok_iff.2 ?_
    cases i with
    | options os =>
      obtain ⟨ps, hps, hj⟩ := bind_eq_ok_iff.1 hij
      cases hj
      exact ⟨hes, hrs, mapM_append_eq_ok hps hos⟩
    | enum e =>
      obtain ⟨c, hc, hj⟩ := bind_eq_ok_iff.1 hij
      cases hj
      exact ⟨mapM_cons_eq_ok hc hes, hrs, hos⟩
    | record r =>
      obtain ⟨c, hc, hj⟩ := bind_eq_ok_iff.1 hij
      cases hj
      exact ⟨hes, mapM_cons_eq_ok hc hrs, hos⟩

/-! ## Texts -/

namespace Text

theorem character?_codePoint (c : Char) : character? (codePoint c).val = some c := by
  have hvalid : c.toNat.isValidChar := c.valid
  rw [character?, codePoint, if_pos hvalid, Char.ofNat_toNat]

theorem characters?_map_codePoint (s : List Char) : characters? (s.map codePoint) = some s := by
  induction s with
  | nil => rfl
  | cons c s ih =>
    rw [characters?, List.map_cons, List.mapM_cons, character?_codePoint, ← characters?, ih]
    rfl

end Text

end WireBridge
