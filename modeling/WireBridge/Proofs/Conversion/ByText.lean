import WireBridge.Conversion.Values
import WireBridge.Proofs.Problem.Placement

/-!
# Conversions by their texts

A conversion can be written as a text at once. It then tells by texts alone what needs no conversion: a value crosses
as it is where the text of its conversion is that of the value itself, and a container of such values is copied whole.

* `fromWireText`, `toWireText`, `keyedFromWireText`, `keyedToWireText` : conversions by texts. The two directions differ
  in their `TextRules` and are one function otherwise;
* `map_text_fromWire`, `map_text_toWire`, `map_text_keyedFromWire`, `map_text_keyedToWire` : these are the texts of the
  trees, which go by the shape (`Shape.isVerbatim`);
* `conversions_exactAt` : the test by texts is exact. Whatever the text of the value, its conversion is the same text
  only if the shape is a primitive, a type of the wire module or an optional of such a shape, so both directions copy
  the same containers.

Any other conversion holds the text of the value and something around it, so its text is longer
(`TextRules.Lengthens`).
-/

set_option autoImplicit false

namespace WireBridge

/-! ## Conversions as texts -/

/-- A call of a function. -/
def callText (callee : String) (arguments : List String) : String := callee ++ "(" ++ ", ".intercalate arguments ++ ")"

/-- What is done in one direction and not in the other. -/
structure TextRules where
  /-- The conversion of a variant of an enum. -/
  enum : (name value : String) → Except ConfigError String
  /-- The conversion of an object of a custom type. -/
  custom : (name value : String) → Except ConfigError String
  /-- The function that copies a sequence. -/
  copy : SequenceKind → String
  brackets : SequenceKind → Brackets

/-- The text of a conversion of the value `e`. -/
def TextRules.convert (rules : TextRules) : Shape → (e : String) → (number : Int) → Except ConfigError String
  | .primitive _, e, _ => return e
  | .wire _, e, _ => return e
  | .enum n, e, _ => rules.enum n e
  | .custom n, e, _ => rules.custom n e
  | .optional s, e, d => do
    let inner ← rules.convert s e d
    return if inner = e then e else "None if " ++ e ++ " is None else " ++ inner
  | .sequence k s, e, d => do
    let v := (LoopVar.value d).name
    let inner ← rules.convert s v (d + 1)
    return if inner = v then callText (rules.copy k) [e]
      else (rules.brackets k).enclose (inner ++ " for " ++ v ++ " in " ++ e)
  | .map sk sv, e, d => do
    let k := (LoopVar.key d).name
    let v := (LoopVar.value d).name
    let key ← rules.convert sk k (d + 1)
    let value ← rules.convert sv v (d + 1)
    return if key = k ∧ value = v then callText "dict" [e]
      else "\x7b" ++ key ++ ": " ++ value ++ " for " ++ k ++ ", " ++ v ++ " in " ++ e ++ ".items()\x7d"

section Texts

variable (scope : Scope)

def fromWireRules : TextRules where
  enum n e := do
    if scope.symbols.isEnum n then return callText (fromWireFunction n) [e]
    else return callText "enum_from_wire" [← scope.externalEnum n, wireTypeText n, e]
  custom n e := if scope.isRecord n then return callText (fromWireFunction n) [e] else problem (.undeclared n)
  copy := SequenceKind.name
  brackets := SequenceKind.brackets

def toWireRules : TextRules where
  enum n e :=
    if scope.symbols.isEnum n then return callText (toWireFunction n) [e]
    else return callText "enum_to_wire" [wireTypeText n, e]
  custom n e := if scope.isRecord n then return callText (toWireFunction n) [e] else problem (.undeclared n)
  copy _ := "list"
  brackets _ := .list

/-- The text of the conversion of a wire value. -/
def fromWireText : Shape → (e : String) → (number : Int) → Except ConfigError String := (fromWireRules scope).convert

/-- The text of the conversion of a native value. -/
def toWireText : Shape → (e : String) → (number : Int) → Except ConfigError String := (toWireRules scope).convert

def keyedFromWireText (s : Shape) (member e : String) : Except ConfigError String := do
  let v := (LoopVar.value 0).name
  let w := (LoopVar.wire 0).name
  let held ← mapValueShape s
  let value ← fromWireText scope held w 1
  let values := if value = w then e else Brackets.lazy.enclose (value ++ " for " ++ w ++ " in " ++ e)
  return "\x7b" ++ v ++ "." ++ member ++ ": " ++ v ++ " for " ++ v ++ " in " ++ values ++ "\x7d"

def keyedToWireText (s : Shape) (e : String) : Except ConfigError String := do
  let v := (LoopVar.value 0).name
  let held ← mapValueShape s
  let value ← toWireText scope held v 1
  let values := e ++ ".values()"
  return if value = v then callText "list" [values]
    else Brackets.list.enclose (value ++ " for " ++ v ++ " in " ++ values)

end Texts

/-! ## The test by texts -/

/-- The conversion of a named type is a text around that of the value. -/
structure TextRules.Lengthens (rules : TextRules) : Prop where
  enum {n e x : String} (h : rules.enum n e = .ok x) : e.length < x.length
  custom {n e x : String} (h : rules.custom n e = .ok x) : e.length < x.length
  copy (k : SequenceKind) : (rules.copy k).length ≤ 5

theorem length_lt_callText (callee : String) (arguments : List String) (e : String) :
    e.length < (callText callee (arguments ++ [e])).length := by
  have hlast : e.length ≤ (", ".intercalate (arguments ++ [e])).length := by
    induction arguments with
    | nil => simp
    | cons a arguments ih =>
      cases arguments with
      | nil => simp
      | cons b arguments => exact Nat.le_trans ih (by simp)
  have hopen : "(".length = 1 := rfl
  simp only [callText, String.length_append]
  omega

theorem length_callText_singleton (callee e : String) :
    (callText callee [e]).length = callee.length + e.length + 2 := by
  have hparens : "(".length = 1 ∧ ")".length = 1 := ⟨rfl, rfl⟩
  simp only [callText, String.intercalate_singleton, String.length_append]
  omega

theorem lengthens_fromWireRules (scope : Scope) : (fromWireRules scope).Lengthens where
  enum {n e x} h := by
    simp only [fromWireRules] at h
    split at h
    · rw [pure_eq_ok_iff] at h
      subst h
      exact length_lt_callText _ [] e
    · obtain ⟨path, -, h⟩ := bind_eq_ok_iff.1 h
      rw [pure_eq_ok_iff] at h
      subst h
      exact length_lt_callText _ [path, wireTypeText n] e
  custom {n e x} h := by
    simp only [fromWireRules] at h
    split at h
    · rw [pure_eq_ok_iff] at h
      subst h
      exact length_lt_callText _ [] e
    · cases h
  copy k := by
    change k.name.length ≤ 5
    cases k <;> decide

theorem lengthens_toWireRules (scope : Scope) : (toWireRules scope).Lengthens where
  enum {n e x} h := by
    simp only [toWireRules] at h
    split at h <;> rw [pure_eq_ok_iff] at h <;> subst h
    · exact length_lt_callText _ [] e
    · exact length_lt_callText _ [wireTypeText n] e
  custom {n e x} h := by
    simp only [toWireRules] at h
    split at h
    · rw [pure_eq_ok_iff] at h
      subst h
      exact length_lt_callText _ [] e
    · cases h
  copy k := by
    change "list".length ≤ 5
    decide

theorem Brackets.length_lt_enclose (b : Brackets) (s : String) : s.length + 1 < (b.enclose s).length := by
  cases b <;> simp only [Brackets.enclose, String.length_append]
  · have : "[".length = 1 ∧ "]".length = 1 := ⟨rfl, rfl⟩
    omega
  · have : "\x7b".length = 1 ∧ "\x7d".length = 1 := ⟨rfl, rfl⟩
    omega
  · have : "deque(".length = 6 := rfl
    omega
  · have : "(".length = 1 ∧ ")".length = 1 := ⟨rfl, rfl⟩
    omega

section Exactness

variable {rules : TextRules} {s : Shape} {e x : String} {d : Int}

theorem TextRules.convert_of_isVerbatim (hs : s.isVerbatim = true) (e : String) (d : Int) :
    rules.convert s e d = .ok e := by
  induction s with
  | primitive p => rfl
  | wire n => rfl
  | optional s ih => simp [convert, ih hs, pure_eq_ok_iff, bind, Except.bind]
  | _ => cases hs

/-- The text of a conversion that does something is longer than that of the value. -/
theorem TextRules.Lengthens.length_lt (hr : rules.Lengthens) (hs : s.isVerbatim = false)
    (h : rules.convert s e d = .ok x) : e.length < x.length := by
  induction s generalizing x with
  | primitive p => cases hs
  | wire n => cases hs
  | enum n => exact hr.enum h
  | custom n => exact hr.custom h
  | optional s ih =>
    obtain ⟨inner, hinner, h⟩ := bind_eq_ok_iff.1 h
    have hlonger := ih hs hinner
    rw [if_neg (by rintro rfl; exact Nat.lt_irrefl _ hlonger), pure_eq_ok_iff] at h
    subst h
    simp only [String.length_append]
    omega
  | sequence k s ih =>
    obtain ⟨inner, -, h⟩ := bind_eq_ok_iff.1 h
    split at h <;> cases h
    · exact length_lt_callText _ [] e
    · refine Nat.lt_trans ?_ (Nat.lt_of_succ_lt (Brackets.length_lt_enclose _ _))
      have hin : " in ".length = 4 := rfl
      simp only [String.length_append]
      omega
  | map k v ihk ihv =>
    obtain ⟨key, -, h⟩ := bind_eq_ok_iff.1 h
    obtain ⟨value, -, h⟩ := bind_eq_ok_iff.1 h
    split at h <;> cases h
    · exact length_lt_callText _ [] e
    · have hopen : "\x7b".length = 1 := rfl
      simp only [String.length_append]
      omega

theorem TextRules.Lengthens.eq_self_iff (hr : rules.Lengthens) (h : rules.convert s e d = .ok x) :
    x = e ↔ s.isVerbatim = true := by
  refine ⟨?_, fun hs => Except.ok.inj (h.symm.trans (TextRules.convert_of_isVerbatim hs e d))⟩
  rintro rfl
  by_contra hs
  exact Nat.lt_irrefl _ (hr.length_lt (Bool.eq_false_iff.2 hs) h)

end Exactness

/-! ## The trees -/

section Trees

theorem map_text_bind {x : Except ConfigError Expr} {f : Expr → Except ConfigError Expr}
    {t : Except ConfigError String} {g : String → Except ConfigError String} (hx : x.map Expr.text = t)
    (hfg : ∀ a, t = .ok a.text → (f a).map Expr.text = g a.text) : (x >>= f).map Expr.text = t >>= g := by
  subst hx
  cases x with
  | error p => rfl
  | ok a => exact hfg a rfl

namespace TextRules.Lengthens

variable {rules : TextRules} (hr : rules.Lengthens) {s : Shape} {e : Expr} {d : Int} {x : Except ConfigError Expr}
include hr

/-- A tree goes by the shape where a text goes by the text of the conversion, to the same effect. -/
theorem map_text_optional (hx : x.map Expr.text = rules.convert s e.text d) :
    (x >>= fun inner => pure (if s.isVerbatim then e else .unlessNone e inner)).map Expr.text =
      rules.convert (.optional s) e.text d := by
  refine map_text_bind hx fun inner hinner => ?_
  simp only [hr.eq_self_iff hinner]
  cases s.isVerbatim <;> rfl

theorem map_text_sequence (k : SequenceKind)
    (hx : x.map Expr.text = rules.convert s (LoopVar.value d).name (d + 1)) :
    (x >>= fun inner => pure (if s.isVerbatim then .call (rules.copy k) [] e
      else .comprehension (rules.brackets k) inner (.value d) e)).map Expr.text =
      rules.convert (.sequence k s) e.text d := by
  refine map_text_bind hx fun inner hinner => ?_
  simp only [hr.eq_self_iff hinner]
  cases s.isVerbatim <;> rfl

theorem map_text_map {k v : Shape} {y : Except ConfigError Expr}
    (hx : x.map Expr.text = rules.convert k (LoopVar.key d).name (d + 1))
    (hy : y.map Expr.text = rules.convert v (LoopVar.value d).name (d + 1)) :
    (x >>= fun key => y >>= fun value => pure (if k.isVerbatim && v.isVerbatim then .call "dict" [] e
      else .entries key value (.key d) (.value d) e)).map Expr.text = rules.convert (.map k v) e.text d := by
  refine map_text_bind hx fun key hkey => map_text_bind hy fun value hvalue => ?_
  simp only [hr.eq_self_iff hkey, hr.eq_self_iff hvalue]
  cases k.isVerbatim <;> cases v.isVerbatim <;> rfl

end TextRules.Lengthens

variable (scope : Scope) (s : Shape)

theorem map_text_fromWire (e : Expr) (d : Int) :
    (fromWire scope s e d).map Expr.text = fromWireText scope s e.text d := by
  have hr := lengthens_fromWireRules scope
  induction s generalizing e d with
  | primitive p => rfl
  | wire n => rfl
  | enum n =>
    simp only [fromWireText, TextRules.convert, fromWireRules, fromWire]
    split
    · rfl
    · cases scope.externalEnum n <;> rfl
  | custom n =>
    simp only [fromWireText, TextRules.convert, fromWireRules, fromWire]
    split <;> rfl
  | optional s ih => exact hr.map_text_optional (ih e d)
  | sequence k s ih => exact hr.map_text_sequence k (ih _ _)
  | map k v ihk ihv => exact hr.map_text_map (ihk _ _) (ihv _ _)

theorem map_text_toWire (e : Expr) (d : Int) : (toWire scope s e d).map Expr.text = toWireText scope s e.text d := by
  have hr := lengthens_toWireRules scope
  induction s generalizing e d with
  | primitive p => rfl
  | wire n => rfl
  | enum n =>
    simp only [toWireText, TextRules.convert, toWireRules, toWire]
    split <;> rfl
  | custom n =>
    simp only [toWireText, TextRules.convert, toWireRules, toWire]
    split <;> rfl
  | optional s ih => exact hr.map_text_optional (ih e d)
  | sequence k s ih => exact hr.map_text_sequence k (ih _ _)
  | map k v ihk ihv => exact hr.map_text_map (ihk _ _) (ihv _ _)

theorem map_text_keyedFromWire (member : String) (e : Expr) :
    (keyedFromWire scope s member e).map Expr.text = keyedFromWireText scope s member e.text := by
  unfold keyedFromWire keyedFromWireText
  cases mapValueShape s with
  | error p => rfl
  | ok held =>
    refine map_text_bind (map_text_fromWire scope held (.var (.wire 0)) 1) fun value hvalue => ?_
    simp only [(lengthens_fromWireRules scope).eq_self_iff hvalue]
    cases held.isVerbatim <;> rfl

theorem map_text_keyedToWire (e : Expr) : (keyedToWire scope s e).map Expr.text = keyedToWireText scope s e.text := by
  unfold keyedToWire keyedToWireText
  cases mapValueShape s with
  | error p => rfl
  | ok held =>
    refine map_text_bind (map_text_toWire scope held (.var (.value 0)) 1) fun value hvalue => ?_
    simp only [(lengthens_toWireRules scope).eq_self_iff hvalue]
    cases held.isVerbatim <;> rfl

end Trees

/-! ## Exactness -/

/-- A primitive or a type of the wire module, within any number of optionals. -/
inductive Shape.Plain : Shape → Prop
  | primitive (p : Primitive) : Plain (.primitive p)
  | wire (n : String) : Plain (.wire n)
  | optional {s : Shape} (h : Plain s) : Plain (.optional s)

theorem Shape.plain_iff {s : Shape} : s.Plain ↔ s.isVerbatim = true := by
  constructor
  · intro h
    induction h with
    | primitive p => rfl
    | wire n => rfl
    | optional h ih => exact ih
  · intro h
    induction s with
    | primitive p => exact .primitive p
    | wire n => exact .wire n
    | optional s ih => exact .optional (ih h)
    | _ => cases h

/-- The shapes of what a container holds. -/
def Shape.held : Shape → List Shape
  | optional s => [s]
  | sequence _ s => [s]
  | map k v => [k, v]
  | _ => []

/-- The text of a container that is passed on or copied whole. -/
def Shape.shortcut? (copy : SequenceKind → String) (e : String) : Shape → Option String
  | optional _ => some e
  | sequence k _ => some (callText (copy k) [e])
  | map _ _ => some (callText "dict" [e])
  | _ => none

/-- The conversion of what a container holds is the text it started from. -/
def TextRules.KeepsHeld (rules : TextRules) (e : String) (d : Int) : Shape → Prop
  | .optional s => rules.convert s e d = .ok e
  | .sequence _ s => rules.convert s (LoopVar.value d).name (d + 1) = .ok (LoopVar.value d).name
  | .map k v => rules.convert k (LoopVar.key d).name (d + 1) = .ok (LoopVar.key d).name ∧
      rules.convert v (LoopVar.value d).name (d + 1) = .ok (LoopVar.value d).name
  | _ => True

/-- Texts tell exactly whether the conversion `x` of the value `e` does anything. -/
structure TextRules.ExactAt (rules : TextRules) (s : Shape) (e : String) (d : Int) (x : String) : Prop where
  result : rules.convert s e d = .ok x
  eq_self_iff : x = e ↔ s.Plain
  eq_shortcut_iff : ∀ t ∈ s.shortcut? rules.copy e, x = t ↔ rules.KeepsHeld e d s
  keepsHeld_iff : rules.KeepsHeld e d s ↔ ∀ t ∈ s.held, t.Plain

namespace TextRules.Lengthens

variable {rules : TextRules} (hr : rules.Lengthens) {s : Shape} {e x : String} {d : Int}
include hr

theorem convert_eq_self_iff : rules.convert s e d = .ok e ↔ s.Plain := by
  rw [Shape.plain_iff]
  exact ⟨fun h => (hr.eq_self_iff h).1 rfl, fun h => convert_of_isVerbatim h e d⟩

theorem keepsHeld_iff : rules.KeepsHeld e d s ↔ ∀ t ∈ s.held, t.Plain := by
  cases s <;> simp [KeepsHeld, Shape.held, hr.convert_eq_self_iff]

/-- A container whose elements are converted one by one is a longer text than its copy. -/
theorem callText_ne_enclose (k : SequenceKind) (b : Brackets) (inner v : String) :
    callText (rules.copy k) [e] ≠ b.enclose (inner ++ " for " ++ v ++ " in " ++ e) := by
  intro h
  have hcopy := hr.copy k
  have henclose := b.length_lt_enclose (inner ++ " for " ++ v ++ " in " ++ e)
  have hfor : " for ".length = 5 ∧ " in ".length = 4 := ⟨rfl, rfl⟩
  rw [← h, length_callText_singleton] at henclose
  simp only [String.length_append] at henclose
  omega

theorem eq_shortcut_iff (h : rules.convert s e d = .ok x) :
    ∀ t ∈ s.shortcut? rules.copy e, x = t ↔ rules.KeepsHeld e d s := by
  intro t ht
  rw [hr.keepsHeld_iff]
  cases s with
  | optional s =>
    cases ht
    rw [hr.eq_self_iff h]
    simp only [Shape.held, List.forall_mem_singleton, Shape.plain_iff, Shape.isVerbatim]
  | sequence k s =>
    cases ht
    obtain ⟨inner, hinner, h⟩ := bind_eq_ok_iff.1 h
    simp only [Shape.held, List.forall_mem_singleton, Shape.plain_iff, ← hr.eq_self_iff hinner]
    split at h <;> cases h
    · exact iff_of_true rfl ‹_›
    · exact iff_of_false (hr.callText_ne_enclose k _ inner _).symm ‹_›
  | map k v =>
    cases ht
    obtain ⟨key, hkey, h⟩ := bind_eq_ok_iff.1 h
    obtain ⟨value, hvalue, h⟩ := bind_eq_ok_iff.1 h
    simp only [Shape.held, List.forall_mem_cons, List.not_mem_nil, false_implies, implies_true, and_true,
      Shape.plain_iff, ← hr.eq_self_iff hkey, ← hr.eq_self_iff hvalue]
    split at h <;> cases h
    · exact iff_of_true rfl ‹_›
    · refine iff_of_false (fun hx => ?_) ‹_›
      have hlength := congrArg String.length hx
      have hfor : " for ".length = 5 ∧ " in ".length = 4 := ⟨rfl, rfl⟩
      have hdict : "dict".length = 4 := rfl
      rw [length_callText_singleton] at hlength
      simp only [String.length_append] at hlength
      omega
  | _ => cases ht

theorem exactAt (h : rules.convert s e d = .ok x) : rules.ExactAt s e d x where
  result := h
  eq_self_iff := by rw [hr.eq_self_iff h, Shape.plain_iff]
  eq_shortcut_iff := hr.eq_shortcut_iff h
  keepsHeld_iff := hr.keepsHeld_iff

end TextRules.Lengthens

/-- The text of a conversion is that of the value exactly where the value crosses as it is, in both directions; so a
container is copied whole exactly where what it holds needs no conversion, in both directions or in none. -/
theorem conversions_exactAt {scope : Scope} {s : Shape} {e x y : Expr} {d : Int} (hx : fromWire scope s e d = .ok x)
    (hy : toWire scope s e d = .ok y) :
    (fromWireRules scope).ExactAt s e.text d x.text ∧ (toWireRules scope).ExactAt s e.text d y.text ∧
      ((fromWireRules scope).KeepsHeld e.text d s ↔ (toWireRules scope).KeepsHeld e.text d s) := by
  have hread : fromWireText scope s e.text d = .ok x.text := by rw [← map_text_fromWire, hx, Except.map]
  have hwritten : toWireText scope s e.text d = .ok y.text := by rw [← map_text_toWire, hy, Except.map]
  have hr := (lengthens_fromWireRules scope).exactAt hread
  have hw := (lengthens_toWireRules scope).exactAt hwritten
  exact ⟨hr, hw, hr.keepsHeld_iff.trans hw.keepsHeld_iff.symm⟩

/-- A record `Tag` is declared. -/
def tagged : Scope := ⟨⟨[], [⟨"Tag", [⟨"label", .named "string", none, []⟩], none, [], false⟩]⟩, none⟩

theorem conversions_exactAt_tagged :
    (¬ (Shape.map (.primitive .string) (.custom "Tag")).Plain ∧
      ¬ (fromWireRules tagged).KeepsHeld "x" 0 (.map (.primitive .string) (.custom "Tag")) ∧
      ¬ (toWireRules tagged).KeepsHeld "x" 0 (.map (.primitive .string) (.custom "Tag"))) ∧
    (fromWireRules tagged).KeepsHeld "x" 0 (.sequence .set (.optional (.wire "Time"))) ∧
      (toWireRules tagged).KeepsHeld "x" 0 (.sequence .set (.optional (.wire "Time"))) := by
  constructor
  · have hx : fromWire tagged (.map (.primitive .string) (.custom "Tag")) (.source "x") 0 =
        .ok (.entries (.var (.key 0)) (.read "Tag" (.var (.value 0))) (.key 0) (.value 0) (.source "x")) := rfl
    have hy : toWire tagged (.map (.primitive .string) (.custom "Tag")) (.source "x") 0 =
        .ok (.entries (.var (.key 0)) (.write "Tag" (.var (.value 0))) (.key 0) (.value 0) (.source "x")) := rfl
    obtain ⟨hr, -, hiff⟩ := conversions_exactAt hx hy
    have hheld : ¬ (fromWireRules tagged).KeepsHeld "x" 0 (.map (.primitive .string) (.custom "Tag")) :=
      fun h => absurd ((hr.eq_shortcut_iff _ rfl).2 h) (by decide +kernel)
    exact ⟨fun h => absurd (hr.eq_self_iff.2 h) (by decide +kernel), hheld, fun h => hheld (hiff.2 h)⟩
  · have hx : fromWire tagged (.sequence .set (.optional (.wire "Time"))) (.source "x") 0 =
        .ok (.call "set" [] (.source "x")) := rfl
    have hy : toWire tagged (.sequence .set (.optional (.wire "Time"))) (.source "x") 0 =
        .ok (.call "list" [] (.source "x")) := rfl
    obtain ⟨hr, -, hiff⟩ := conversions_exactAt hx hy
    have hheld := (hr.eq_shortcut_iff _ rfl).1 rfl
    exact ⟨hheld, hiff.1 hheld⟩

end WireBridge
