import WireBridge.Assembly.Plan

/-!
# Dropping dependents

A record that uses a type which failed cannot be generated either. `dropDependents` drops such records round by
round: a round drops every record with a field that uses a type which failed in the round before, and ends when
there is none. The report names the first such field and, of the failed types that it uses, the first in order of
texts.
-/

set_option autoImplicit false

namespace WireBridge

/-- A record that was dropped, the field on which it was, and the failed type that the field uses. -/
structure Dropped where
  record : String
  member : String
  cause : String
  deriving DecidableEq, Repr

namespace Dropped

def error (d : Dropped) : ConfigError := ⟨.dependsOnFailed d.cause, some (d.record ++ "." ++ d.member)⟩

def note (d : Dropped) : String := "record " ++ d.record ++ " depends on failed " ++ d.cause

end Dropped

/-- The first failed type, in order of texts, that a shape uses. -/
def Shape.failedType? (failed : List String) (s : Shape) : Option String :=
  (Text.sortTexts (s.referenced.filter (· ∈ failed))).head?

/-- Why a record has to be dropped, if it uses a failed type. -/
def RecordPlan.dropped? (failed : List String) (p : RecordPlan) : Option Dropped :=
  p.fields.findSome? fun f =>
    (f.descriptor.shape.failedType? failed).map fun cause => ⟨p.name, f.descriptor.nativeName, cause⟩

theorem RecordPlan.record_of_dropped? {failed : List String} {p : RecordPlan} {d : Dropped}
    (h : p.dropped? failed = some d) : d.record = p.name := by
  obtain ⟨_, _, _, _, hf, _⟩ := List.findSome?_eq_some_iff.1 h
  obtain ⟨_, _, rfl⟩ := Option.map_eq_some_iff.1 hf
  rfl

/-- The records of one round that are dropped. -/
def dropRound (failed : List String) (records : List RecordPlan) : List Dropped :=
  records.filterMap (·.dropped? failed)

/-- The records that are not among the dropped ones, by name. -/
def survivors (dropped : List Dropped) (records : List RecordPlan) : List RecordPlan :=
  records.filter (·.name ∉ dropped.map (·.record))

theorem length_survivors_lt {failed : List String} {records : List RecordPlan}
    (h : dropRound failed records ≠ []) :
    (survivors (dropRound failed records) records).length < records.length := by
  obtain ⟨d, hd⟩ := List.exists_mem_of_ne_nil _ h
  obtain ⟨p, hp, hpd⟩ := List.mem_filterMap.1 hd
  apply List.length_filter_lt_length_iff_exists.2
  refine ⟨p, hp, ?_⟩
  have := p.record_of_dropped? hpd
  simpa using ⟨d, hd, this⟩

/-- The records that are left after every dependent is dropped, and the dropped ones in the order in which they
are found. -/
def dropDependents (failed : List String) (records : List RecordPlan) : List RecordPlan × List Dropped :=
  let dropped := dropRound failed records
  if _h : dropped = [] then (records, [])
  else
    let (left, more) := dropDependents (dropped.map (·.record)) (survivors dropped records)
    (left, dropped ++ more)
termination_by records.length
decreasing_by exact length_survivors_lt _h

end WireBridge
