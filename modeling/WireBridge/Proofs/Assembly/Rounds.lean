import Mathlib.Logic.Function.Iterate
import WireBridge.Assembly.Dependents

/-!
# Rounds of the drop of dependents

The drop of dependents is a loop: `DropState.next` is one round of it, and a state with no failed name is at rest.
More rounds than there are records bring every state to rest (`DropState.iterate_next_eq_rest`), so what one
round preserves holds at the end, of one loop (`rest_of_next`) and of two beside each other (`rest_of_next₂`).

What a round does to a record depends on the names that the record uses (`RecordPlan.dropped?_congr`).
-/

set_option autoImplicit false

namespace WireBridge

/-! ## Uses of a planned record -/

/-- A field of the planned record uses the type. -/
def RecordPlan.Uses (p : RecordPlan) (m : String) : Prop := ∃ f ∈ p.fields, m ∈ f.descriptor.shape.referenced

theorem Shape.failedType?_eq_none_iff {failed : List String} {s : Shape} :
    s.failedType? failed = none ↔ ∀ m ∈ s.referenced, m ∉ failed := by
  rw [Shape.failedType?, List.head?_eq_none_iff, List.eq_nil_iff_forall_not_mem]
  simp only [Text.mem_sortTexts, List.mem_filter, decide_eq_true_eq, not_and]

theorem Shape.mem_of_failedType? {failed : List String} {s : Shape} {m : String}
    (h : s.failedType? failed = some m) : m ∈ s.referenced ∧ m ∈ failed := by
  have hm := Text.mem_sortTexts.1 (List.mem_of_head? h)
  simpa using List.mem_filter.1 hm

namespace RecordPlan

variable {p : RecordPlan} {failed failed' : List String}

theorem dropped?_eq_none_iff : p.dropped? failed = none ↔ ∀ m, p.Uses m → m ∉ failed := by
  simp only [dropped?, List.findSome?_eq_none_iff, Option.map_eq_none_iff, Shape.failedType?_eq_none_iff]
  constructor
  · rintro h m ⟨f, hf, hm⟩
    exact h f hf m hm
  · intro h f hf m hm
    exact h m ⟨f, hf, hm⟩

/-- A record is dropped on one of its fields, which uses the failed type. -/
theorem field_of_dropped? {d : Dropped} (h : p.dropped? failed = some d) :
    ∃ f ∈ p.fields, d.member = f.descriptor.nativeName ∧ d.cause ∈ f.descriptor.shape.referenced ∧
      d.cause ∈ failed := by
  obtain ⟨f, hf, hd⟩ := List.exists_of_findSome?_eq_some h
  obtain ⟨m, hm, rfl⟩ := Option.map_eq_some_iff.1 hd
  obtain ⟨hr, hm⟩ := Shape.mem_of_failedType? hm
  exact ⟨f, hf, rfl, hr, hm⟩

/-- Failed names that a record does not use have no influence on it. -/
theorem dropped?_congr (h : ∀ m, p.Uses m → (m ∈ failed ↔ m ∈ failed')) :
    p.dropped? failed = p.dropped? failed' := by
  have hshape : ∀ f ∈ p.fields, f.descriptor.shape.failedType? failed = f.descriptor.shape.failedType? failed' := by
    intro f hf
    unfold Shape.failedType?
    congr 2
    apply List.filter_congr
    intro m hm
    simp only [decide_eq_decide]
    exact h m ⟨f, hf, hm⟩
  unfold dropped?
  revert hshape
  generalize p.fields = fs
  intro hshape
  induction fs with
  | nil => rfl
  | cons f fs ih =>
    rw [List.findSome?_cons, List.findSome?_cons, hshape f (by simp), ih fun g hg => hshape g (by simp [hg])]

end RecordPlan

/-! ## One round -/

section Round

variable {failed failed' : List String} {records records' : List RecordPlan}

theorem mem_dropRound_iff {d : Dropped} : d ∈ dropRound failed records ↔ ∃ p ∈ records, p.dropped? failed = some d :=
  List.mem_filterMap

theorem map_record_dropRound (failed : List String) (records : List RecordPlan) :
    (dropRound failed records).map (·.record) =
      (records.filter fun p => (p.dropped? failed).isSome).map (·.name) := by
  induction records with
  | nil => rfl
  | cons p ps ih =>
    rw [dropRound] at ih ⊢
    cases hd : p.dropped? failed with
    | none => simp [hd, ih]
    | some d => simp [hd, ih, p.record_of_dropped? hd]

theorem mem_survivors_iff {dropped : List Dropped} {p : RecordPlan} :
    p ∈ survivors dropped records ↔ p ∈ records ∧ p.name ∉ dropped.map (·.record) := by
  simp [survivors]

/-- A record that uses a failed name is dropped in the round. -/
theorem mem_dropRound_of_uses {p : RecordPlan} {m : String} (hp : p ∈ records) (hu : p.Uses m) (hm : m ∈ failed) :
    p.name ∈ (dropRound failed records).map (·.record) := by
  cases hd : p.dropped? failed with
  | none => exact absurd hm (RecordPlan.dropped?_eq_none_iff.1 hd m hu)
  | some d =>
    rw [← p.record_of_dropped? hd]
    exact List.mem_map_of_mem (mem_dropRound_iff.2 ⟨p, hp, hd⟩)

theorem dropRound_nil (records : List RecordPlan) : dropRound [] records = [] := by
  apply List.filterMap_eq_nil_iff.2
  intro p _
  exact RecordPlan.dropped?_eq_none_iff.2 fun m _ => List.not_mem_nil

theorem survivors_nil (records : List RecordPlan) : survivors [] records = records := by
  simp [survivors]

/-- A round is taken whether or not something is dropped in it. -/
theorem dropDependents_eq (failed : List String) (records : List RecordPlan) :
    dropDependents failed records =
      let round := dropRound failed records
      let rest := dropDependents (round.map (·.record)) (survivors round records)
      (rest.1, round ++ rest.2) := by
  by_cases h : dropRound failed records = []
  · have hstop : ∀ failed, dropRound failed records = [] → dropDependents failed records = (records, []) := by
      intro failed h
      rw [dropDependents.eq_def]
      exact dif_pos h
    rw [h]
    simp only [List.map_nil, survivors_nil, List.nil_append]
    rw [hstop _ h, hstop _ (dropRound_nil records)]
  · rw [dropDependents.eq_def]
    exact dif_neg h

end Round

/-! ## The loop -/

/-- The loop between two rounds: the names that failed in the round before, the records that are left, and the
dropped ones so far. -/
structure DropState where
  failed : List String
  records : List RecordPlan
  dropped : List Dropped

namespace DropState

def start (failed : List String) (records : List RecordPlan) : DropState := ⟨failed, records, []⟩

/-- One round. -/
def next (s : DropState) : DropState :=
  let round := dropRound s.failed s.records
  ⟨round.map (·.record), survivors round s.records, s.dropped ++ round⟩

/-- Where the loop ends. -/
def rest (s : DropState) : DropState :=
  let ended := dropDependents s.failed s.records
  ⟨[], ended.1, s.dropped ++ ended.2⟩

@[simp] theorem failed_next (s : DropState) : s.next.failed = (dropRound s.failed s.records).map (·.record) := rfl

@[simp] theorem records_next (s : DropState) :
    s.next.records = survivors (dropRound s.failed s.records) s.records := rfl

@[simp] theorem dropped_next (s : DropState) : s.next.dropped = s.dropped ++ dropRound s.failed s.records := rfl

theorem rest_next (s : DropState) : s.next.rest = s.rest := by
  unfold rest
  rw [dropDependents_eq s.failed s.records]
  simp only [failed_next, records_next, dropped_next, List.append_assoc]

theorem next_of_dropRound_nil {s : DropState} (h : dropRound s.failed s.records = []) :
    s.next = ⟨[], s.records, s.dropped⟩ := by
  simp only [next, h, survivors_nil, List.map_nil, List.append_nil]

theorem rest_of_dropRound_nil {s : DropState} (h : dropRound s.failed s.records = []) :
    s.rest = ⟨[], s.records, s.dropped⟩ := by
  unfold rest
  rw [dropDependents.eq_def, dif_pos h]
  simp only [List.append_nil]

/-- The loop ends: more rounds than there are records come to rest. -/
theorem iterate_next_eq_rest (s : DropState) {k : Nat} (hk : s.records.length < k) : next^[k] s = s.rest := by
  induction k generalizing s with
  | zero => omega
  | succ k ih =>
    rw [Function.iterate_succ_apply]
    by_cases h : dropRound s.failed s.records = []
    · rw [next_of_dropRound_nil h, rest_of_dropRound_nil h]
      apply Function.iterate_fixed
      exact next_of_dropRound_nil (dropRound_nil _)
    · have hlt := length_survivors_lt h
      rw [ih s.next (by rw [records_next]; omega), rest_next]

variable {s t : DropState}

/-- What every round preserves holds at the end of the loop. -/
theorem rest_of_next {I : DropState → Prop} (hnext : ∀ s, I s → I s.next) (hs : I s) : I s.rest := by
  rw [← iterate_next_eq_rest s (Nat.lt_succ_self _)]
  exact Function.Iterate.rec I hs (fun s => hnext s) _

/-- What every round of two loops preserves holds at their ends, whatever rounds each of them takes. -/
theorem rest_of_next₂ {R : DropState → DropState → Prop} (hnext : ∀ s t, R s t → R s.next t.next) (hs : R s t) :
    R s.rest t.rest := by
  have hiter : ∀ k s t, R s t → R (next^[k] s) (next^[k] t) := by
    intro k
    induction k with
    | zero => exact fun _ _ h => h
    | succ k ih =>
      intro s t h
      rw [Function.iterate_succ_apply, Function.iterate_succ_apply]
      exact ih _ _ (hnext s t h)
  have h := hiter (s.records.length + t.records.length + 1) s t hs
  rwa [iterate_next_eq_rest s (by omega), iterate_next_eq_rest t (by omega)] at h

end DropState

end WireBridge
