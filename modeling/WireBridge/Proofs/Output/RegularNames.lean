import WireBridge.Proofs.Output.Names
import WireBridge.Proofs.Text.CamelCase

/-!
# Names that are derived from regular names

Two types whose names are in regular camel case differ in their words, so what is derived from the words of one never
collides with what is derived from those of the other. Nor is a regular name that of a table or a function, since it
holds no underscore.

* `snakeCase_regular` : the snake case of a regular name, and that the tables and functions of all declared types of
  regular names are pairwise distinct;
* `Assembly.namesApart_iff_of_isRegular` : what is left of the collisions of a module whose types all have regular names.
  Only a type that is called like something imported or like an error class can collide.
-/

set_option autoImplicit false

namespace WireBridge

/-! ## Regular names beside derived names -/

namespace IsRegular

variable {n : String} (h : IsRegular n)

include h

theorem isIdentifier : IsIdentifier n := by
  obtain ⟨words, h⟩ := h
  obtain ⟨c, s, hname, hc⟩ := h.exists_cons
  have hstart : Text.isNameStart c = true := by
    unfold Text.isNameStart Char.isAlpha
    rw [hc]
    rfl
  rw [IsIdentifier, hname, Text.isIdentifier, hstart, Bool.true_and, List.all_eq_true]
  intro d hd
  rw [Text.isNameChar, h.isAlphanum d (hname ▸ List.mem_cons_of_mem c hd), Bool.true_or]

theorem head_isUpper : n.toList.head?.any Char.isUpper = true := by
  obtain ⟨words, h⟩ := h
  obtain ⟨c, s, hname, hc⟩ := h.exists_cons
  rw [hname, List.head?_cons, Option.any_some, hc]

theorem not_endsWith {ending : String} (hending : '_' ∈ ending.toList) : ¬ EndsWith n ending := fun hends =>
  h.underscore_not_mem (hends.subset hending)

theorem not_mem_tablesOf (ns : List String) : n ∉ tablesOf ns := fun hn =>
  h.not_endsWith (by decide) (endsWith_of_mem_tablesOf hn)

theorem not_mem_functionsOf (ns : List String) : n ∉ functionsOf ns := by
  intro hn
  have hending : ∀ e ∈ functionEndings, '_' ∈ e.toList := by decide
  obtain ⟨t, -, e, he, rfl⟩ := mem_functionsOf.1 hn
  exact h.not_endsWith (hending e he) (endsWith_append _ e)

end IsRegular

/-! ## Tables and functions -/

theorem nodup_tablesOf_append_functionsOf {ns : List String} (hns : ns.Nodup) (h : ∀ n ∈ ns, IsRegular n) :
    (tablesOf ns ++ functionsOf ns).Nodup := by
  have hwords : ∀ m ∈ ns, ∀ n ∈ ns, snakeCase m = snakeCase n → m = n := fun m hm n hn =>
    snakeCase_inj (h m hm) (h n hn)
  rw [List.nodup_append']
  exact ⟨nodup_tablesOf hns (fun n hn => (h n hn).isIdentifier) hwords, (nodup_functionsOf_iff hns).2 hwords,
    disjoint_tablesOf_functionsOf ns ns⟩

/-- The snake case of a regular name is its words in lower case with underscores between them, and no two regular names
share it. The tables and functions of all declared types of regular names are pairwise distinct. -/
theorem snakeCase_regular :
    (∀ name words, IsMadeOf name words → snakeCase name = "_".intercalate (words.map lowerCase)) ∧
    (∀ m n, IsRegular m → IsRegular n → m ≠ n → snakeCase m ≠ snakeCase n) ∧
    ∀ {V : Type} (d : Definitions V), d.typeNames.Nodup →
      let names := d.typeNames.filter (IsRegular ·)
      (tablesOf names ++ functionsOf names).Nodup := by
  refine ⟨fun name words h => h.snakeCase_eq, fun m n hm hn => mt (snakeCase_inj hm hn), fun d hd => ?_⟩
  exact nodup_tablesOf_append_functionsOf (hd.filter _) fun n hn => of_decide_eq_true (List.mem_filter.1 hn).2

/-- Declared types, of which one has no regular name. -/
def requests : Definitions Value where
  enums := [⟨"Color", [], none, []⟩]
  records := [⟨"HttpRequest", [], none, [], false⟩, ⟨"Http2Request", [], none, [], false⟩,
    ⟨"HTTPServer", [], none, [], false⟩]
  options := []

theorem snakeCase_regular_requests :
    snakeCase "Http2Request" = "http2_request" ∧ snakeCase "Http2Request" ≠ snakeCase "HttpRequest" ∧
    requests.typeNames.Nodup ∧
    let names := ["Color", "HttpRequest", "Http2Request"]
    requests.typeNames.filter (IsRegular ·) = names ∧ (tablesOf names ++ functionsOf names).Nodup := by
  obtain ⟨hwords, hinj, hnames⟩ := snakeCase_regular
  have hdistinct : requests.typeNames.Nodup := by decide
  have hregular : requests.typeNames.filter (IsRegular ·) = ["Color", "HttpRequest", "Http2Request"] := by decide
  refine ⟨(hwords "Http2Request" ["Http2", "Request"] (by decide)).trans (by decide),
    hinj "Http2Request" "HttpRequest" (by decide) (by decide) (by decide), hdistinct, hregular, ?_⟩
  rw [← hregular]
  exact hnames requests hdistinct

/-! ## Whole modules -/

/-- The regular names of imports, and the one regular name with the words of `match_from_wire`. -/
def takenNames : List String := ["Enum", "Match", "ConversionPanic", "MissingFieldError"]

namespace Assembly

/-- If all types of a module have regular names, one of them collides only if it is called like an import or an error
class, or if a class is generated twice for a declared error type. -/
theorem namesApart_iff_of_isRegular {a : Assembly} (h : ∀ n ∈ a.typeNames, IsRegular n) :
    a.NamesApart ↔ (∀ n ∈ a.typeNames, n ∉ takenNames ∧ n ∉ a.errorClassNames) ∧ a.ErrorTypesApart := by
  constructor
  · intro hapart
    have htaken : ∀ n ∈ takenNames, n ∈ importedNames ∨ snakeCase n = "match" := by decide
    refine ⟨fun n hn => ⟨fun hmem => ?_, (hapart.types n hn).2.2.1⟩, hapart.errorTypes⟩
    exact (htaken n hmem).elim (hapart.types n hn).1 (hapart.support n hn).2
  · rintro ⟨htypes, herrors⟩
    have himported : ∀ i ∈ importedNames, i.toList.head?.any Char.isUpper = true → i ∈ takenNames := by decide
    -- A type with the words of an imported function is called like the regular name that has these words.
    have hsupport {n words : String} (hn : n ∈ a.typeNames) (t : String)
        (ht : t ∈ takenNames ∧ IsRegular t ∧ snakeCase t = words) : snakeCase n ≠ words := by
      obtain ⟨ht, hregular, rfl⟩ := ht
      intro hsame
      exact (htypes n hn).1 (snakeCase_inj (h n hn) hregular hsame ▸ ht)
    exact
      { words := fun m hm n hn => snakeCase_inj (h m hm) (h n hn)
        support := fun n hn => ⟨hsupport hn "Enum" (by decide), hsupport hn "Match" (by decide)⟩
        types := fun n hn =>
          ⟨fun hi => (htypes n hn).1 (himported n hi (h n hn).head_isUpper), (h n hn).not_mem_tablesOf _, (htypes n hn).2,
            (h n hn).not_mem_functionsOf _⟩
        errorTypes := herrors }

end Assembly

end WireBridge
