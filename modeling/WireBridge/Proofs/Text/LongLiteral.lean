import Mathlib.Data.List.DropRight
import WireBridge.Proofs.Text.Written
import WireBridge.Text.Lines

/-!
# Long literals

A long literal stands between two rows of three quotation marks. A backslash in it takes the character that follows, and
the literal ends with the first three marks in a row that no backslash takes.

* `afterLiteral?` : what follows the long literal that a text goes on with, behind the marks that open it;
* `Contained` : three such marks in a row stand nowhere in a text, and neither a mark nor a backslash is left at its
  end. Just then the literal ends where the marks behind the text do (`afterLiteral?_append_iff`);
* `contained_hang` : moving the lines of a text to the right makes no difference to that.

`LiteralState` says what the end of a text does to the character that comes next; the lemmas about `step` are for one
character, those about `run` for a text.
-/

set_option autoImplicit false

namespace WireBridge.Text

/-- The marks at either end of a long literal. -/
def longMarks : List Char := ['"', '"', '"']

/-! ## Reading -/

/-- Where a long literal is, before its end. -/
inductive LiteralState
  /-- Behind some marks in a row that no backslash takes. -/
  | marks (n : Nat)
  /-- Behind a backslash that takes the next character. -/
  | escape
  deriving DecidableEq

namespace LiteralState

/-- The literal behind one more character, unless it ends with that. -/
def step : LiteralState → Char → Option LiteralState
  | escape, _ => some (marks 0)
  | marks n, c =>
    if c = '"' then if n < 2 then some (marks (n + 1)) else none
    else if c = '\\' then some escape
    else some (marks 0)

/-- The literal behind a text, unless it ends within. -/
def run : LiteralState → List Char → Option LiteralState
  | st, [] => some st
  | st, c :: s => (st.step c).bind (·.run s)

/-- What follows the literal. -/
def rest? : LiteralState → List Char → Option (List Char)
  | _, [] => none
  | st, c :: s =>
    match st.step c with
    | some st' => st'.rest? s
    | none => some s

end LiteralState

/-- What follows the long literal that the text goes on with, behind the marks that open it. -/
def afterLiteral? (s : List Char) : Option (List Char) := (LiteralState.marks 0).rest? s

/-! ## Contained texts -/

/-- A backslash at the end of the text takes the next character; of two in a row, the first takes the second. -/
def Escapes (s : List Char) : Prop := (s.rtakeWhile (· = '\\')).length % 2 = 1

/-- The text ends in some marks of which no backslash takes the first. -/
def EndsInMarks (n : Nat) (s : List Char) : Prop := ∃ t, s = t ++ List.replicate n '"' ∧ ¬ Escapes t

/-- A long literal with this text between its marks ends where they do. -/
structure Contained (s : List Char) : Prop where
  inner : ∀ t, t <+: s → ¬ EndsInMarks 3 t
  mark : ¬ EndsInMarks 1 s
  backslash : ¬ Escapes s

theorem not_escapes_nil : ¬ Escapes [] := by
  rw [Escapes, List.rtakeWhile_nil]
  decide

theorem escapes_concat_backslash {s : List Char} : Escapes (s ++ ['\\']) ↔ ¬ Escapes s := by
  rw [Escapes, Escapes, List.rtakeWhile_concat_pos _ _ _ (by decide), List.length_append, List.length_singleton]
  omega

theorem not_escapes_concat {s : List Char} {c : Char} (h : c ≠ '\\') : ¬ Escapes (s ++ [c]) := by
  rw [Escapes, List.rtakeWhile_concat_neg _ _ _ (by simpa using h)]
  decide

theorem endsInMarks_zero {s : List Char} : EndsInMarks 0 s ↔ ¬ Escapes s := by simp [EndsInMarks]

theorem not_endsInMarks_nil (n : Nat) : ¬ EndsInMarks (n + 1) [] := by simp [EndsInMarks]

theorem endsInMarks_concat {n : Nat} {s : List Char} {c : Char} :
    EndsInMarks (n + 1) (s ++ [c]) ↔ c = '"' ∧ EndsInMarks n s := by
  constructor
  · rintro ⟨t, ht, hescapes⟩
    rw [List.replicate_succ', ← List.append_assoc] at ht
    obtain ⟨hs, hc⟩ := List.append_inj' ht rfl
    exact ⟨List.singleton_inj.1 hc, t, hs, hescapes⟩
  · rintro ⟨rfl, t, rfl, hescapes⟩
    exact ⟨t, by rw [List.replicate_succ', List.append_assoc], hescapes⟩

/-- A mark that no backslash takes keeps the marks after it from being taken. -/
theorem EndsInMarks.mono {m n : Nat} {s : List Char} (h : EndsInMarks n s) (hmn : m ≤ n) : EndsInMarks m s := by
  induction hmn with
  | refl => exact h
  | step _ ih =>
    obtain ⟨t, rfl, -⟩ := h
    refine ih ⟨t ++ ['"'], by rw [List.replicate_succ, List.append_assoc, List.singleton_append], ?_⟩
    exact not_escapes_concat (by decide)

namespace LiteralState

/-! ## What a state says of the text before it -/

/-- The text before the state ends in just so many marks, or in a backslash that takes the next character. -/
def Reached : LiteralState → List Char → Prop
  | marks n, s => n < 3 ∧ EndsInMarks n s ∧ ¬ EndsInMarks (n + 1) s
  | escape, s => Escapes s

theorem Reached.not_endsInMarks {st : LiteralState} {s : List Char} (h : st.Reached s) : ¬ EndsInMarks 3 s := by
  intro hmarks
  cases st with
  | marks n => exact h.2.2 (hmarks.mono h.1)
  | escape => exact endsInMarks_zero.1 (hmarks.mono (Nat.zero_le 3)) h

theorem Reached.of_step {st st' : LiteralState} {s : List Char} {c : Char} (h : st.Reached s)
    (hstep : st.step c = some st') : st'.Reached (s ++ [c]) := by
  cases st with
  | escape =>
    cases hstep
    refine ⟨by decide, endsInMarks_zero.2 fun hescapes => ?_, fun hmark => ?_⟩
    · by_cases hc : c = '\\'
      · subst hc
        exact escapes_concat_backslash.1 hescapes h
      · exact not_escapes_concat hc hescapes
    · exact endsInMarks_zero.1 (endsInMarks_concat.1 hmark).2 h
  | marks n =>
    obtain ⟨-, hends, hmore⟩ := h
    simp only [step] at hstep
    split at hstep
    · next hc =>
      subst hc
      split at hstep
      · next hn =>
        cases hstep
        exact ⟨Nat.succ_lt_succ hn, endsInMarks_concat.2 ⟨rfl, hends⟩, fun h => hmore (endsInMarks_concat.1 h).2⟩
      · cases hstep
    · next hmark =>
      split at hstep
      · next hc =>
        subst hc
        cases hstep
        exact escapes_concat_backslash.2 (endsInMarks_zero.1 (hends.mono (Nat.zero_le n)))
      · next hbackslash =>
        cases hstep
        exact ⟨by decide, endsInMarks_zero.2 (not_escapes_concat hbackslash), fun h => hmark (endsInMarks_concat.1 h).1⟩

theorem Reached.endsInMarks_of_step {st : LiteralState} {s : List Char} {c : Char} (h : st.Reached s)
    (hstep : st.step c = none) : EndsInMarks 3 (s ++ [c]) := by
  cases st with
  | escape => cases hstep
  | marks n =>
    simp only [step] at hstep
    split at hstep
    · next hc =>
      split at hstep
      · cases hstep
      · next hn => exact endsInMarks_concat.2 ⟨hc, h.2.1.mono (Nat.le_of_not_lt hn)⟩
    · split at hstep <;> cases hstep

theorem run_append (st : LiteralState) (s t : List Char) : st.run (s ++ t) = (st.run s).bind (·.run t) := by
  induction s generalizing st with
  | nil => rfl
  | cons c s ih =>
    rw [List.cons_append, run, run, Option.bind_assoc]
    congr 1
    funext st'
    exact ih st'

theorem run_concat (st : LiteralState) (s : List Char) (c : Char) : st.run (s ++ [c]) = (st.run s).bind (·.step c) := by
  rw [run_append]
  congr 1
  funext st'
  exact Option.bind_fun_some _

theorem reached_of_run {s : List Char} {st : LiteralState} (h : (marks 0).run s = some st) :
    st.Reached s ∧ ∀ t, t <+: s → ¬ EndsInMarks 3 t := by
  induction s using List.reverseRecOn generalizing st with
  | nil =>
    cases h
    refine ⟨⟨by decide, endsInMarks_zero.2 not_escapes_nil, not_endsInMarks_nil 0⟩, fun t ht => ?_⟩
    rw [List.prefix_nil.1 ht]
    exact not_endsInMarks_nil 2
  | append_singleton s c ih =>
    rw [run_concat] at h
    obtain ⟨st', hrun, hstep⟩ := Option.bind_eq_some_iff.1 h
    obtain ⟨hreached, hinner⟩ := ih hrun
    have hlast := hreached.of_step hstep
    refine ⟨hlast, fun t ht => ?_⟩
    rcases List.prefix_concat_iff.1 ht with rfl | ht
    · exact hlast.not_endsInMarks
    · exact hinner t ht

theorem exists_prefix_of_run {s : List Char} (h : (marks 0).run s = none) : ∃ t, t <+: s ∧ EndsInMarks 3 t := by
  induction s using List.reverseRecOn with
  | nil => cases h
  | append_singleton s c ih =>
    cases hrun : (marks 0).run s with
    | none => exact (ih hrun).imp fun t ht => ⟨ht.1.trans (List.prefix_append s [c]), ht.2⟩
    | some st =>
      rw [run_concat, hrun] at h
      exact ⟨s ++ [c], List.prefix_rfl, (reached_of_run hrun).1.endsInMarks_of_step h⟩

end LiteralState

open LiteralState

/-- A text is contained if the literal behind it is as it was before. -/
theorem contained_iff_run {s : List Char} : Contained s ↔ (marks 0).run s = some (marks 0) := by
  constructor
  · intro h
    cases hrun : (marks 0).run s with
    | none =>
      obtain ⟨t, ht, hmarks⟩ := exists_prefix_of_run hrun
      exact absurd hmarks (h.inner t ht)
    | some st =>
      have hreached := (reached_of_run hrun).1
      cases st with
      | escape => exact absurd hreached h.backslash
      | marks n =>
        cases n with
        | zero => rfl
        | succ n => exact absurd (hreached.2.1.mono (Nat.succ_pos n)) h.mark
  · intro hrun
    obtain ⟨⟨-, hends, hmore⟩, hinner⟩ := reached_of_run hrun
    exact ⟨hinner, hmore, endsInMarks_zero.1 hends⟩

instance (s : List Char) : Decidable (Contained s) := decidable_of_iff' _ contained_iff_run

/-! ## The end of a literal -/

namespace LiteralState

theorem rest?_append_of_run {st st' : LiteralState} {s : List Char} (h : st.run s = some st') (t : List Char) :
    st.rest? (s ++ t) = st'.rest? t := by
  induction s generalizing st with
  | nil =>
    cases h
    rfl
  | cons c s ih =>
    obtain ⟨st'', hstep, hrun⟩ := Option.bind_eq_some_iff.1 h
    rw [List.cons_append, rest?, hstep]
    exact ih hrun

theorem exists_rest?_append {st : LiteralState} {s : List Char} (h : st.run s = none) (t : List Char) :
    ∃ u, st.rest? (s ++ t) = some (u ++ t) := by
  induction s generalizing st with
  | nil => cases h
  | cons c s ih =>
    rw [List.cons_append, rest?]
    cases hstep : st.step c with
    | none => exact ⟨s, rfl⟩
    | some st' =>
      rw [run, hstep] at h
      exact ih h

theorem length_lt_of_rest? {st : LiteralState} {s r : List Char} (h : st.rest? s = some r) : r.length < s.length := by
  induction s generalizing st with
  | nil => cases h
  | cons c s ih =>
    rw [rest?] at h
    split at h
    · exact (ih h).trans (Nat.lt_succ_self _)
    · cases h
      exact Nat.lt_succ_self _

/-- The marks end the literal, and those of them are left that it does not need. -/
theorem rest?_longMarks {n : Nat} (h : n < 3) (r : List Char) :
    (marks n).rest? (longMarks ++ r) = some (List.replicate n '"' ++ r) := by
  obtain rfl | rfl | rfl : n = 0 ∨ n = 1 ∨ n = 2 := by omega
  all_goals rfl

end LiteralState

/-- The literal of a text ends at the marks behind the text just if the text is contained. -/
theorem afterLiteral?_append_iff {s r : List Char} : afterLiteral? (s ++ (longMarks ++ r)) = some r ↔ Contained s := by
  rw [contained_iff_run, afterLiteral?]
  cases hrun : (marks 0).run s with
  | none =>
    obtain ⟨u, hu⟩ := exists_rest?_append hrun (longMarks ++ r)
    refine iff_of_false (fun h => ?_) nofun
    have hlength := congrArg List.length (Option.some.inj (hu.symm.trans h))
    simp [longMarks] at hlength
    omega
  | some st =>
    have hreached := (reached_of_run hrun).1
    rw [rest?_append_of_run hrun, Option.some_inj]
    cases st with
    | escape =>
      -- the first of the marks is taken, and the two others do not end the literal
      refine iff_of_false (fun h => ?_) nofun
      have htwo : (marks 2).rest? r = some r := h
      exact absurd (length_lt_of_rest? htwo) (Nat.lt_irrefl _)
    | marks n =>
      rw [rest?_longMarks hreached.1]
      simp

/-! ## Moved lines -/

theorem toList_joinLines_cons (l : String) (ls : List String) :
    (joinLines (l :: ls)).toList = l.toList ++ ls.flatMap fun x => '\n' :: x.toList := by
  rw [joinLines, String.toList_intercalate, List.map_cons, intercalate_cons, List.flatMap_map]
  rfl

theorem ne_of_isLineEnd {c : Char} (h : isLineEnd c = true) : c ≠ '"' ∧ c ≠ '\\' := by
  constructor <;> rintro rfl <;> exact absurd h (by decide)

namespace LiteralState

theorem step_of_ne (st : LiteralState) {c : Char} (h : c ≠ '"' ∧ c ≠ '\\') : st.step c = some (marks 0) := by
  cases st with
  | escape => rfl
  | marks n => rw [step, if_neg h.1, if_neg h.2]

theorem run_cons_of_ne (st : LiteralState) {c : Char} (h : c ≠ '"' ∧ c ≠ '\\') (s : List Char) :
    st.run (c :: s) = (marks 0).run s := by
  rw [run, step_of_ne st h, Option.bind_some]

theorem run_padLine (n : Nat) (l : String) : (marks 0).run (padLine n l).toList = (marks 0).run l.toList := by
  unfold padLine
  split
  · rfl
  · rw [String.toList_append, spaces, String.toList_ofList]
    induction n with
    | zero => rfl
    | succ n ih => rw [List.replicate_succ, List.cons_append, run_cons_of_ne _ (by decide), ih]

/-- What is done to the lines behind the first makes no difference if it makes none to each of them. -/
theorem run_flatMap_congr {f g : String → List Char} (h : ∀ st l, run st (f l) = run st (g l)) (st : LiteralState)
    (s : List Char) (ls : List String) : st.run (s ++ ls.flatMap f) = st.run (s ++ ls.flatMap g) := by
  rw [run_append, run_append]
  congr 1
  funext st
  induction ls generalizing st with
  | nil => rfl
  | cons l ls ih =>
    rw [List.flatMap_cons, List.flatMap_cons, run_append, run_append, h]
    congr 1
    funext st
    exact ih st

theorem splitLines_cons_of_isLineEnd {c : Char} {s : List Char} (h : isLineEnd c = true)
    (hfeed : c = '\r' → s.head? ≠ some '\n') : splitLines (c :: s) = [] :: splitLines s := by
  rw [splitLines, if_pos h]
  rintro rest rfl rfl
  exact hfeed rfl rfl

theorem splitLines_cons_of_not_isLineEnd {c : Char} {s l : List Char} {ls : List (List Char)}
    (h : ¬ isLineEnd c = true) (hs : splitLines s = l :: ls) : splitLines (c :: s) = (c :: l) :: ls := by
  rw [splitLines, if_neg h, hs]
  rintro rest rfl -
  exact h rfl

/-- The text as its lines have it: the ends of lines are all the same to a literal. A carriage return at its end would
be taken for a part of the line feed that closes the text. -/
theorem run_splitLines {s : List Char} (h : s.getLast? ≠ some '\r') :
    ∃ l ls, splitLines (s ++ ['\n']) = l :: ls ∧ ∀ st, run st (l ++ ls.flatMap ('\n' :: ·)) = run st s := by
  induction s with
  | nil => exact ⟨[], [], by decide, fun st => rfl⟩
  | cons c s ih =>
    obtain ⟨l, ls, hsplit, hrun⟩ := ih fun hs => h (by rw [List.getLast?_cons, hs, Option.getD_some])
    by_cases hend : isLineEnd c = true
    · by_cases hfeed : c = '\r' ∧ s.head? = some '\n'
      · obtain ⟨rfl, hs⟩ := hfeed
        obtain ⟨s, rfl⟩ := List.head?_eq_some_iff.1 hs
        refine ⟨l, ls, hsplit, fun st => ?_⟩
        rw [hrun, run_cons_of_ne _ (by decide), run_cons_of_ne _ (by decide), run_cons_of_ne _ (by decide)]
      · refine ⟨[], l :: ls, ?_, fun st => ?_⟩
        · rw [List.cons_append, splitLines_cons_of_isLineEnd hend, hsplit]
          rintro rfl hhead
          cases s with
          | nil => exact h rfl
          | cons x s => exact hfeed ⟨rfl, hhead⟩
        · rw [List.nil_append, List.flatMap_cons, List.cons_append, run_cons_of_ne _ (by decide), hrun,
            run_cons_of_ne st (ne_of_isLineEnd hend)]
    · refine ⟨c :: l, ls, splitLines_cons_of_not_isLineEnd hend hsplit, fun st => ?_⟩
      rw [List.cons_append, run, run]
      congr 1
      funext st
      exact hrun st

theorem run_hang (n : Nat) {s : String} (h : s.toList.getLast? ≠ some '\r') (st : LiteralState) :
    st.run (hang n s).toList = st.run s.toList := by
  obtain ⟨l, ls, hsplit, hrun⟩ := run_splitLines h
  have hpad : ∀ st x, run st ('\n' :: (padLine n x).toList) = run st ('\n' :: x.toList) := by
    intro st x
    rw [run_cons_of_ne _ (by decide), run_cons_of_ne _ (by decide), run_padLine]
  rw [hang, hsplit, List.map_cons]
  dsimp only
  rw [toList_joinLines_cons, List.flatMap_map, run_flatMap_congr hpad, List.flatMap_map, String.toList_ofList, ← hrun]
  simp only [String.toList_ofList]

end LiteralState

theorem contained_hang (n : Nat) {s : String} (h : s.toList.getLast? ≠ some '\r') :
    Contained (hang n s).toList ↔ Contained s.toList := by
  rw [contained_iff_run, contained_iff_run, run_hang n h]

end WireBridge.Text
