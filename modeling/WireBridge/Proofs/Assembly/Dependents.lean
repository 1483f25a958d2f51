import Mathlib.Data.List.Nodup
import Mathlib.Data.List.Perm.Basic
import Mathlib.Data.Set.Basic
import Mathlib.Logic.Relation
import WireBridge.Proofs.Assembly.Rounds

/-!
# What the drop of dependents comes to

* `DropInvariant` : what holds between two rounds. A round compares with the names of the round before only; that
  is enough, since what is left uses no name that failed earlier (`frontier`);
* `mem_dropped_iff` : the dropped records are those that lead to a failed name by one or more uses, through cycles
  too;
* `perm_dropped_left` : of distinct records each is dropped once or left;
* `perm_dropDependents` : the order of the records has no influence;
* `dropDependents_filter` : records that only use each other can be dropped without the rest.
-/

set_option autoImplicit false

namespace WireBridge

/-! ## Mapped lists -/

theorem filterMap_perm_of_congr {α β : Type} {f g : α → Option β} {xs ys : List α} (h : ∀ x ∈ xs, f x = g x)
    (hp : xs.Perm ys) : (xs.filterMap f).Perm (ys.filterMap g) := by
  rw [List.filterMap_congr h]
  exact hp.filterMap g

/-- A list can be restricted before or after its elements are mapped, if the images tell which ones are kept. -/
theorem filterMap_filter_of_congr {α β : Type} {f g : α → Option β} {p : α → Bool} {q : β → Bool} {xs : List α}
    (hq : ∀ x ∈ xs, ∀ b, f x = some b → q b = p x) (hg : ∀ x ∈ xs, p x = true → g x = f x) :
    (xs.filter p).filterMap g = (xs.filterMap f).filter q := by
  induction xs with
  | nil => rfl
  | cons x xs ih =>
    have ih' := ih (fun y hy => hq y (List.mem_cons_of_mem x hy)) fun y hy => hg y (List.mem_cons_of_mem x hy)
    have hx := hq x List.mem_cons_self
    cases hp : p x with
    | false =>
      rw [List.filter_cons_of_neg (by simp [hp]), ih', List.filterMap_cons]
      cases hf : f x with
      | none => rfl
      | some b => rw [List.filter_cons_of_neg (by simp [hx b hf, hp])]
    | true =>
      rw [List.filter_cons_of_pos hp, List.filterMap_cons, List.filterMap_cons, hg x List.mem_cons_self hp, ih']
      cases hf : f x with
      | none => rfl
      | some b => rw [List.filter_cons_of_pos (by rw [hx b hf, hp])]

/-! ## The invariant of the loop -/

/-- A planned record of the first name uses the second. -/
def Links (records : List RecordPlan) (a b : String) : Prop := ∃ p ∈ records, p.name = a ∧ p.Uses b

/-- What holds between two rounds of a loop that starts with some failed names and records. -/
structure DropInvariant (failed : List String) (records : List RecordPlan) (s : DropState) : Prop where
  left : s.records = records.filter (·.name ∉ s.dropped.map (·.record))
  recent : ∀ m ∈ s.failed, m ∈ failed ∨ m ∈ s.dropped.map (·.record)
  frontier : ∀ p ∈ s.records, ∀ m, p.Uses m → m ∈ failed ∨ m ∈ s.dropped.map (·.record) → m ∈ s.failed
  member : ∀ d ∈ s.dropped, ∃ p ∈ records, p.name = d.record ∧ d.member ∈ p.fields.map (·.descriptor.nativeName)
  chain : ∀ a ∈ s.dropped.map (·.record), ∃ m ∈ failed, Relation.TransGen (Links records) a m
  nodup : (records.map (·.name)).Nodup → (s.dropped.map (·.record)).Nodup

namespace DropInvariant

variable {failed : List String} {records : List RecordPlan} {s : DropState}

theorem start (failed : List String) (records : List RecordPlan) :
    DropInvariant failed records (.start failed records) where
  left := by simp [DropState.start]
  recent _ hm := .inl hm
  frontier _ _ m _ hm := by simpa [DropState.start] using hm
  member _ hd := absurd hd List.not_mem_nil
  chain _ ha := absurd ha List.not_mem_nil
  nodup _ := List.nodup_nil

theorem mem_of_mem_left (h : DropInvariant failed records s) {p : RecordPlan} (hp : p ∈ s.records) :
    p ∈ records ∧ p.name ∉ s.dropped.map (·.record) := by
  rw [h.left] at hp
  simpa using List.mem_filter.1 hp

/-- A record that is dropped in a round leads to a failed name, by what it uses. -/
theorem chain_of_dropped? (h : DropInvariant failed records s) {p : RecordPlan} (hp : p ∈ s.records) {d : Dropped}
    (hd : p.dropped? s.failed = some d) : ∃ m ∈ failed, Relation.TransGen (Links records) p.name m := by
  obtain ⟨f, hf, -, hr, hm⟩ := RecordPlan.field_of_dropped? hd
  have hlink : Links records p.name d.cause := ⟨p, (h.mem_of_mem_left hp).1, rfl, f, hf, hr⟩
  rcases h.recent _ hm with hm | hm
  · exact ⟨d.cause, hm, .single hlink⟩
  · obtain ⟨m, hm, hchain⟩ := h.chain _ hm
    exact ⟨m, hm, .head hlink hchain⟩

theorem next (h : DropInvariant failed records s) : DropInvariant failed records s.next where
  left := by
    rw [DropState.records_next, survivors, h.left, List.filter_filter]
    apply List.filter_congr
    intro p _
    simp only [DropState.dropped_next, List.map_append, List.mem_append, not_or, ← Bool.decide_and, and_comm]
    rw [← h.left]
  recent m hm := by
    right
    rw [DropState.dropped_next, List.map_append]
    exact List.mem_append_right _ hm
  frontier p hp m hu hm := by
    obtain ⟨hp, hkept⟩ := mem_survivors_iff.1 hp
    rw [DropState.dropped_next, List.map_append, List.mem_append, ← or_assoc] at hm
    rcases hm with hm | hm
    · -- An earlier name is a recent one, and a record that uses it is dropped in this round.
      exact absurd (mem_dropRound_of_uses hp hu (h.frontier p hp m hu hm)) hkept
    · exact hm
  member d hd := by
    rcases List.mem_append.1 hd with hd | hd
    · exact h.member d hd
    · obtain ⟨p, hp, hd⟩ := mem_dropRound_iff.1 hd
      obtain ⟨f, hf, hn, -, -⟩ := RecordPlan.field_of_dropped? hd
      exact ⟨p, (h.mem_of_mem_left hp).1, (p.record_of_dropped? hd).symm, List.mem_map.2 ⟨f, hf, hn.symm⟩⟩
  chain a ha := by
    rw [DropState.dropped_next, List.map_append, List.mem_append] at ha
    rcases ha with ha | ha
    · exact h.chain a ha
    · obtain ⟨d, hd, rfl⟩ := List.mem_map.1 ha
      obtain ⟨p, hp, hd⟩ := mem_dropRound_iff.1 hd
      rw [p.record_of_dropped? hd]
      exact h.chain_of_dropped? hp hd
  nodup hn := by
    rw [DropState.dropped_next, List.map_append]
    have hsub : ((dropRound s.failed s.records).map (·.record)).Sublist (s.records.map (·.name)) := by
      rw [map_record_dropRound]
      exact List.filter_sublist.map _
    have hleft : (s.records.map (·.name)).Sublist (records.map (·.name)) := by
      rw [h.left]
      exact List.filter_sublist.map _
    refine (h.nodup hn).append ((hn.sublist hleft).sublist hsub) ?_
    intro a ha hround
    obtain ⟨p, hp, rfl⟩ := List.mem_map.1 (hsub.mem hround)
    exact (h.mem_of_mem_left hp).2 ha

end DropInvariant

section Loop

variable (failed : List String) (records : List RecordPlan)

theorem dropInvariant_rest : DropInvariant failed records (DropState.start failed records).rest :=
  DropState.rest_of_next (fun _ h => h.next) (.start failed records)

theorem dropDependents_left : (dropDependents failed records).1 =
    records.filter (·.name ∉ (dropDependents failed records).2.map (·.record)) :=
  (dropInvariant_rest failed records).left

/-- Nothing that is left uses a name that failed or was dropped. -/
theorem not_uses_of_left {p : RecordPlan} (hp : p ∈ (dropDependents failed records).1) {m : String}
    (hu : p.Uses m) : m ∉ failed ∧ m ∉ (dropDependents failed records).2.map (·.record) := by
  have h := (dropInvariant_rest failed records).frontier p hp m hu
  constructor
  · intro hm
    exact absurd (h (.inl hm)) List.not_mem_nil
  · intro hm
    exact absurd (h (.inr hm)) List.not_mem_nil

theorem mem_dropped_of_links {a m : String} (hl : Links records a m)
    (hm : m ∈ failed ∨ m ∈ (dropDependents failed records).2.map (·.record)) :
    a ∈ (dropDependents failed records).2.map (·.record) := by
  obtain ⟨p, hp, rfl, hu⟩ := hl
  by_contra hkept
  have hleft : p ∈ (dropDependents failed records).1 := by
    rw [dropDependents_left]
    exact List.mem_filter.2 ⟨hp, by simpa using hkept⟩
  obtain ⟨h₁, h₂⟩ := not_uses_of_left failed records hleft hu
  exact hm.elim h₁ h₂

/-- The dropped records are those that lead to a failed name. -/
theorem mem_dropped_iff {a : String} : a ∈ (dropDependents failed records).2.map (·.record) ↔
    ∃ m ∈ failed, Relation.TransGen (Links records) a m := by
  constructor
  · exact (dropInvariant_rest failed records).chain a
  · rintro ⟨m, hm, hchain⟩
    induction hchain using Relation.TransGen.head_induction_on with
    | single hl => exact mem_dropped_of_links failed records hl (.inl hm)
    | head hl _ ih => exact mem_dropped_of_links failed records hl (.inr ih)

/-- Of records with distinct names each is dropped once or left. -/
theorem perm_dropped_left (hn : (records.map (·.name)).Nodup) :
    ((dropDependents failed records).2.map (·.record) ++ (dropDependents failed records).1.map (·.name)).Perm
      (records.map (·.name)) := by
  have hI := dropInvariant_rest failed records
  set dropped := (dropDependents failed records).2.map (·.record) with hdropped
  have hmem : ∀ a ∈ dropped, a ∈ records.map (·.name) := by
    intro a ha
    obtain ⟨d, hd, rfl⟩ := List.mem_map.1 ha
    obtain ⟨p, hp, hname, -⟩ := hI.member d hd
    exact List.mem_map.2 ⟨p, hp, hname⟩
  have hcaught : dropped.Perm ((records.map (·.name)).filter (· ∈ dropped)) := by
    refine (List.perm_ext_iff_of_nodup (hI.nodup hn) (hn.filter _)).2 fun a => ?_
    rw [List.mem_filter, decide_eq_true_eq]
    exact ⟨fun ha => ⟨hmem a ha, ha⟩, fun ha => ha.2⟩
  have hleft : (dropDependents failed records).1.map (·.name) =
      (records.map (·.name)).filter fun a => !decide (a ∈ dropped) := by
    rw [dropDependents_left, List.filter_map]
    simp only [Function.comp_def, ← hdropped, decide_not]
  rw [hleft]
  exact (hcaught.append_right _).trans (List.filter_append_perm _ _)

end Loop

/-! ## Two loops -/

/-- Two loops over the same records, which may stand in another order. -/
structure DropState.Reordered (s t : DropState) : Prop where
  failed : ∀ m, m ∈ s.failed ↔ m ∈ t.failed
  records : s.records.Perm t.records
  dropped : s.dropped.Perm t.dropped

namespace DropState.Reordered

variable {s t : DropState}

theorem perm_dropRound (h : s.Reordered t) : (dropRound s.failed s.records).Perm (dropRound t.failed t.records) := by
  refine filterMap_perm_of_congr (fun p _ => ?_) h.records
  exact RecordPlan.dropped?_congr fun m _ => h.failed m

theorem next (h : s.Reordered t) : s.next.Reordered t.next where
  failed m := (h.perm_dropRound.map _).mem_iff
  records := by
    have hkeep : ∀ p : RecordPlan, (p.name ∉ (dropRound s.failed s.records).map (·.record)) =
        (p.name ∉ (dropRound t.failed t.records).map (·.record)) := fun p =>
      propext (not_congr (h.perm_dropRound.map _).mem_iff)
    rw [records_next, records_next, survivors, survivors]
    simp only [hkeep]
    exact h.records.filter _
  dropped := h.dropped.append h.perm_dropRound

end DropState.Reordered

theorem perm_dropDependents {failed failed' : List String} {records records' : List RecordPlan}
    (hf : ∀ m, m ∈ failed ↔ m ∈ failed') (hr : records.Perm records') :
    (dropDependents failed records).1.Perm (dropDependents failed' records').1 ∧
      (dropDependents failed records).2.Perm (dropDependents failed' records').2 := by
  have h : (DropState.start failed records).Reordered (.start failed' records') := ⟨hf, hr, .nil⟩
  have hrest := DropState.rest_of_next₂ (fun _ _ h => h.next) h
  exact ⟨hrest.records, hrest.dropped⟩

section Restricted

variable (N : Set String) [DecidablePred (· ∈ N)]

/-- The second loop is the first, restricted to records with names in `N`, which only use each other. -/
structure DropState.Restricted (s t : DropState) : Prop where
  failed : ∀ m ∈ N, m ∈ s.failed ↔ m ∈ t.failed
  closed : ∀ p ∈ s.records, p.name ∈ N → ∀ m, p.Uses m → m ∈ N
  records : t.records = s.records.filter (·.name ∈ N)
  dropped : t.dropped = s.dropped.filter (·.record ∈ N)

namespace DropState.Restricted

variable {N} {s t : DropState}

theorem dropRound_eq (h : s.Restricted N t) :
    dropRound t.failed t.records = (dropRound s.failed s.records).filter (·.record ∈ N) := by
  unfold dropRound
  rw [h.records]
  apply filterMap_filter_of_congr
  · intro p _ d hd
    rw [p.record_of_dropped? hd]
  · intro p hp hN
    exact RecordPlan.dropped?_congr fun m hu =>
      (h.failed m (h.closed p hp (of_decide_eq_true hN) m hu)).symm

theorem mem_round_iff (h : s.Restricted N t) {m : String} (hm : m ∈ N) :
    m ∈ (dropRound s.failed s.records).map (·.record) ↔ m ∈ (dropRound t.failed t.records).map (·.record) := by
  rw [h.dropRound_eq]
  constructor
  · rintro hd
    obtain ⟨d, hmem, rfl⟩ := List.mem_map.1 hd
    exact List.mem_map_of_mem (List.mem_filter.2 ⟨hmem, decide_eq_true hm⟩)
  · exact fun hd => (List.filter_sublist.map _).mem hd

theorem next (h : s.Restricted N t) : s.next.Restricted N t.next where
  failed m hm := h.mem_round_iff hm
  closed p hp := h.closed p (mem_survivors_iff.1 hp).1
  records := by
    rw [records_next, records_next, survivors, survivors, h.records, List.filter_filter, List.filter_filter]
    apply List.filter_congr
    intro p _
    rw [← h.records]
    by_cases hN : p.name ∈ N
    · simp only [h.mem_round_iff hN, hN, decide_true, Bool.and_true, Bool.true_and]
    · simp only [hN, decide_false, Bool.and_false, Bool.false_and]
  dropped := by
    rw [dropped_next, dropped_next, List.filter_append, h.dropped, h.dropRound_eq]

end DropState.Restricted

/-- Records that only use each other are dropped and left as they are beside others. -/
theorem dropDependents_filter {failed failed' : List String} {records : List RecordPlan}
    (hf : ∀ m ∈ N, m ∈ failed ↔ m ∈ failed') (hc : ∀ p ∈ records, p.name ∈ N → ∀ m, p.Uses m → m ∈ N) :
    dropDependents failed' (records.filter (·.name ∈ N)) =
      ((dropDependents failed records).1.filter (·.name ∈ N),
        (dropDependents failed records).2.filter (·.record ∈ N)) := by
  have h : (DropState.start failed records).Restricted N (.start failed' (records.filter (·.name ∈ N))) :=
    ⟨hf, hc, rfl, rfl⟩
  have hrest := DropState.rest_of_next₂ (fun _ _ h => h.next) h
  exact Prod.ext hrest.records hrest.dropped

end Restricted

end WireBridge
