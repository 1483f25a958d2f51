import WireBridge.Assembly.Tracing

/-!
# What a trace setting selects

A run is told apart by what it comes to and by what it adds to the log. `Logging.Emits` and `Run.Emits` say both, and
have a rule for each way in which runs are put together; from these the run of every stage is what the stage comes to,
with the decisions about its type where a tracer lets them through.

* `emits_assembleLogging` : the run of an assembly comes to the assembly, and logs the lines that are shown;
* `tracing_selects` : a setting has no influence on anything but the log, and of the log it leaves out the decisions
  about types that it does not select.
-/

set_option autoImplicit false

namespace WireBridge

/-! ## What is logged -/

/-- A computation comes to `a` and adds `out` to any log. -/
def Logging.Emits {α : Type} (x : Logging α) (a : α) (out : List LogEntry) : Prop :=
  ∀ log, x.run log = (a, log ++ out)

/-- A run comes to `r`, a result or a problem, and adds `out` to any log. -/
def Run.Emits {α : Type} (x : Run α) (r : Except ConfigError α) (out : List LogEntry) : Prop :=
  Logging.Emits x.run r out

namespace Logging

variable {α β : Type} {x : Logging α} {f : α → Logging β} {a : α} {b : β} {out out' : List LogEntry}

theorem Emits.pure (a : α) : Emits (Pure.pure a) a [] := fun log => by
  rw [List.append_nil]
  rfl

theorem Emits.bind (hx : Emits x a out) (hf : Emits (f a) b out') : Emits (x >>= f) b (out ++ out') := fun log => by
  have hrun : (x >>= f).run log = (f (x.run log).1).run (x.run log).2 := rfl
  rw [hrun, hx log, hf, List.append_assoc]

/-- A last step that logs nothing. -/
theorem Emits.bind_pure (hx : Emits x a out) (g : α → β) : Emits (x >>= fun a => Pure.pure (g a)) (g a) out := by
  have hbind := hx.bind (f := fun a => Pure.pure (g a)) (.pure (g a))
  rwa [List.append_nil] at hbind

theorem emits_emit (e : LogEntry) : Emits (emit e) () [e] := fun _ => rfl

theorem emits_mapM {γ : Type} {g : γ → Logging α} {result : γ → α} {lines : γ → List LogEntry}
    (h : ∀ c, Emits (g c) (result c) (lines c)) (cs : List γ) :
    Emits (cs.mapM g) (cs.map result) (cs.flatMap lines) := by
  induction cs with
  | nil => exact .pure []
  | cons c cs ih =>
    rw [List.mapM_cons]
    exact (h c).bind (ih.bind_pure (result c :: ·))

theorem emits_notes {γ : Type} (line : γ → LogEntry) (cs : List γ) :
    Emits (cs.forM fun c => emit (line c)) PUnit.unit (cs.map line) := by
  induction cs with
  | nil => exact .pure PUnit.unit
  | cons c cs ih => exact (emits_emit (line c)).bind ih

end Logging

namespace Run

variable {α β : Type} {x : Run α} {f : α → Run β} {r : Except ConfigError α} {r' : Except ConfigError β} {a : α}
  {e : ConfigError} {out out' : List LogEntry}

theorem emits_ofExcept (r : Except ConfigError α) : (ofExcept r).Emits r [] := Logging.Emits.pure r

theorem ofExcept_bind (r : Except ConfigError α) (g : α → Except ConfigError β) :
    ofExcept (r >>= g) = ofExcept r >>= fun a => ofExcept (g a) := by
  cases r <;> rfl

theorem ofExcept_pure (a : α) : ofExcept (pure a) = pure a := rfl

theorem Emits.bind (hx : x.Emits (.ok a) out) (hf : (f a).Emits r' out') : (x >>= f).Emits r' (out ++ out') :=
  Logging.Emits.bind (f := ExceptT.bindCont f) hx hf

/-- A run stops at the first problem. -/
theorem Emits.bind_error (hx : x.Emits (.error e) out) : (x >>= f).Emits (.error e) out := by
  have hbind := Logging.Emits.bind (f := ExceptT.bindCont f) hx (Logging.Emits.pure (Except.error e))
  rwa [List.append_nil] at hbind

/-- A last step that logs nothing. -/
theorem Emits.bind_pure (hx : x.Emits r out) (g : α → β) :
    (x >>= fun a => pure (g a)).Emits (r >>= fun a => pure (g a)) out := by
  cases r with
  | ok a =>
    have hbind := hx.bind (f := fun a => pure (g a)) (emits_ofExcept (.ok (g a)))
    rwa [List.append_nil] at hbind
  | error e => exact hx.bind_error

theorem Emits.placedAt (hx : x.Emits r out) (path : String) :
    (x.placedAt path).Emits (WireBridge.placedAt path r) out :=
  Logging.Emits.bind_pure hx (WireBridge.placedAt path)

end Run

/-! ## Types -/

namespace Tracer

/-- The lines of some decisions, where the tracer lets them through. -/
def entries (t : Tracer) (ds : List Decision) : List LogEntry := if t.enabled then ds.map (.decision t.type) else []

variable (t : Tracer)

theorem entries_nil : t.entries [] = [] := ite_self []

theorem entries_append (ds ds' : List Decision) : t.entries (ds ++ ds') = t.entries ds ++ t.entries ds' := by
  unfold entries
  split
  · exact List.map_append
  · rfl

theorem entries_cons (d : Decision) (ds : List Decision) : t.entries (d :: ds) = t.entries [d] ++ t.entries ds :=
  t.entries_append [d] ds

theorem emits_decision (d : Decision) : (t.decision d).Emits (.ok ()) (t.entries [d]) := by
  unfold decision entries
  split
  · exact (Logging.emits_emit _).bind_pure Except.ok
  · exact Logging.Emits.pure _

theorem emits_decisions (ds : List Decision) : (ds.forM t.decision).Emits (.ok ⟨⟩) (t.entries ds) := by
  induction ds with
  | nil =>
    rw [entries_nil]
    exact Logging.Emits.pure _
  | cons d ds ih =>
    rw [← List.singleton_append, entries_append]
    exact (t.emits_decision d).bind ih

section Fields

variable (scope : Scope) (r : RecordDescriptor) (f : FieldDescriptor)

variable {r f} in
theorem emits_absence_ok {a : Ruled Absence} (h : resolveAbsence f r = .ok a) :
    (t.absence r f).Emits (.ok a.outcome) (t.entries [a.absenceDecision f.nativeName]) := by
  rw [absence, h]
  exact Run.Emits.bind (Run.emits_ofExcept (.ok a)) ((t.emits_decision _).bind_pure fun _ => a.outcome)

variable {r f} in
theorem emits_absence_error {e : ConfigError} (h : resolveAbsence f r = .error e) :
    (t.absence r f).Emits (.error e) (t.entries []) := by
  rw [absence, h, entries_nil]
  exact (Run.emits_ofExcept (.error e)).bind_error

theorem emits_strategy (a : Absence) : (t.strategy f a).Emits (.ok (resolveStrategy f a).outcome)
    (t.entries [(resolveStrategy f a).strategyDecision f.nativeName]) :=
  (t.emits_decision _).bind_pure fun _ => (resolveStrategy f a).outcome

theorem emits_planWith (code : Strategy → Absence → Except ConfigError Artifact) :
    (t.planWith scope r f code).Emits (WireBridge.planWith scope r f code) (t.entries (conversionDecisions r f)) := by
  unfold planWith WireBridge.planWith conversionDecisions
  cases h : resolveAbsence f r with
  | error e => exact (t.emits_absence_error h).bind_error
  | ok a =>
    -- The code, the type and the default are made as in the plan, without a word in the log.
    have hrest := Run.emits_ofExcept (do
      let artifact ← code (resolveStrategy f a.outcome).outcome a.outcome
      let type ← NativeType.ofShape scope f.shape
      return (⟨f, a.outcome, (resolveStrategy f a.outcome).outcome, artifact, type, ← NativeDefault.ofField scope f⟩ :
        FieldPlan))
    simp only [Run.ofExcept_bind, Run.ofExcept_pure] at hrest
    dsimp only
    rw [t.entries_cons, ← List.append_nil (t.entries [(resolveStrategy f a.outcome).strategyDecision f.nativeName])]
    exact Run.Emits.bind (t.emits_absence_ok h) (Run.Emits.bind (t.emits_strategy f a.outcome) hrest)

theorem emits_planField :
    (t.planField scope r f).Emits (WireBridge.planField scope r f) (t.entries (fieldDecisions r f)) := by
  have hplan := t.emits_planWith scope r f fun s a => convertField scope f s a r
  rw [fieldDecisions, t.entries_cons _ (_ :: _), t.entries_cons _ (conversionDecisions r f)]
  refine Run.Emits.placedAt ?_ _
  exact Run.Emits.bind (t.emits_decision _) (Run.Emits.bind (t.emits_decision _) hplan)

theorem emits_planWrapped :
    (t.planWrapped scope r f).Emits (WireBridge.planWrapped scope r f) (t.entries (conversionDecisions r f)) :=
  (t.emits_planWith scope r f fun _ _ => wrapField scope f).placedAt _

/-- The fields of a record up to the first that cannot be planned. -/
theorem emits_planFields (fs : List FieldDescriptor) : (fs.mapM (t.planField scope r)).Emits
    (fs.mapM (WireBridge.planField scope r)) (t.entries (decisionsUpTo scope r fs)) := by
  induction fs with
  | nil =>
    rw [decisionsUpTo, entries_nil]
    exact Run.emits_ofExcept (.ok [])
  | cons f fs ih =>
    have hfield := t.emits_planField scope r f
    rw [List.mapM_cons, List.mapM_cons, decisionsUpTo]
    cases h : WireBridge.planField scope r f with
    | error e =>
      rw [h] at hfield
      rw [List.append_nil]
      exact hfield.bind_error
    | ok p =>
      rw [h] at hfield
      rw [entries_append]
      exact hfield.bind (ih.bind_pure (p :: ·))

section Described

variable {r f} {fs : List FieldDescriptor} (hf : r.fields = f :: fs)

include hf

theorem emits_planRecord_of_newtype (hn : r.newtype = true) :
    (t.planRecord scope r).Emits (r.plan scope) (t.entries (r.decisions scope)) := by
  have hrun : t.planRecord scope r = (t.planWrapped scope r f >>= fun p => pure ⟨r, [p], false, none, false⟩) := by
    rw [planRecord, hf]
    exact if_pos hn
  have hplan : r.plan scope = (WireBridge.planWrapped scope r f).map fun p => ⟨r, [p], false, none, false⟩ := by
    rw [RecordDescriptor.plan, hf]
    exact if_pos hn
  have hlines : r.decisions scope = conversionDecisions r f := by
    rw [RecordDescriptor.decisions, hf]
    exact if_pos hn
  rw [hrun, hplan, hlines]
  exact (t.emits_planWrapped scope r f).bind_pure _

/-- The decision about the record itself comes last, if all of its fields can be planned. -/
theorem emits_planRecord_of_fields (hn : r.newtype = false) :
    (t.planRecord scope r).Emits (r.plan scope) (t.entries (r.decisions scope)) := by
  have hmany : ¬ r.newtype = true := by simp [hn]
  have hrun : t.planRecord scope r = (r.fields.mapM (t.planField scope r) >>= fun fields =>
      t.decision (RecordPlan.ofFields r fields).decision >>= fun _ => pure (.ofFields r fields)) := by
    rw [planRecord, hf]
    exact if_neg hmany
  have hplan : r.plan scope = (r.fields.mapM (WireBridge.planField scope r)).map (.ofFields r) := by
    rw [RecordDescriptor.plan, hf]
    exact if_neg hmany
  have hfields := t.emits_planFields scope r r.fields
  rw [hrun]
  cases h : r.fields.mapM (WireBridge.planField scope r) with
  | error e =>
    rw [h] at hfields hplan
    have hlines : r.decisions scope = decisionsUpTo scope r r.fields := by
      simp [RecordDescriptor.decisions, hplan, hf, hn, Except.map]
    rw [hplan, hlines]
    exact hfields.bind_error
  | ok fields =>
    rw [h] at hfields hplan
    have hlines : r.decisions scope =
        decisionsUpTo scope r r.fields ++ [(RecordPlan.ofFields r fields).decision] := by
      simp [RecordDescriptor.decisions, hplan, hf, hn, Except.map]
    rw [hplan, hlines, entries_append]
    exact Run.Emits.bind hfields ((t.emits_decision _).bind_pure fun _ => RecordPlan.ofFields r fields)

end Described

theorem emits_planRecord : (t.planRecord scope r).Emits (r.plan scope) (t.entries (r.decisions scope)) := by
  cases hf : r.fields with
  | nil =>
    have hrun : t.planRecord scope r = .ofExcept (.error ⟨.emptyRecord, some r.name⟩) := by rw [planRecord, hf]
    rw [hrun, RecordDescriptor.plan, RecordDescriptor.decisions, hf, entries_nil]
    exact Run.emits_ofExcept _
  | cons f fs =>
    cases hn : r.newtype with
    | true => exact t.emits_planRecord_of_newtype scope hf hn
    | false => exact t.emits_planRecord_of_fields scope hf hn

end Fields

end Tracer

theorem RecordDecl.emits_run (d : RecordDecl Value) (patterns : List String) (scope : Scope) :
    (d.run patterns scope).Emits (d.plan scope) ((Tracer.ofType patterns d.name).entries (d.decisions scope)) := by
  have hdescribe := Run.emits_ofExcept (d.describe scope.symbols scope.helpers)
  rw [RecordDecl.plan, RecordDecl.decisions, RecordDecl.run]
  cases h : d.describe scope.symbols scope.helpers with
  | error e =>
    rw [h] at hdescribe
    rw [Tracer.entries_nil]
    exact hdescribe.bind_error
  | ok r =>
    rw [h] at hdescribe
    exact Run.Emits.bind hdescribe ((Tracer.ofType patterns d.name).emits_planRecord scope r)

theorem EnumDecl.emits_run (e : EnumDecl Value) (patterns : List String) :
    (e.run patterns).Emits e.plan ((Tracer.ofType patterns e.name).entries e.decisions) := by
  have hdescribe := Run.emits_ofExcept e.describe
  cases h : e.describe with
  | error f =>
    have hplan : e.plan = .error f := by
      rw [EnumDecl.plan, h]
      rfl
    rw [h] at hdescribe
    rw [EnumDecl.decisions, hplan, Tracer.entries_nil, EnumDecl.run, h]
    exact hdescribe.bind_error
  | ok d =>
    have hplan : e.plan = .ok ⟨d, d.mapping⟩ := by
      rw [EnumDecl.plan, h]
      rfl
    rw [h] at hdescribe
    rw [EnumDecl.decisions, hplan, EnumDecl.run, h]
    refine Run.Emits.bind hdescribe ?_
    have hdecisions := (Tracer.ofType patterns e.name).emits_decisions d.mapping.decisions
    exact hdecisions.bind_pure fun _ => EnumPlan.mk d d.mapping

/-! ## All types -/

/-- What the run of a type within the assembly comes to. -/
def Attempt.outcome {α : Type} (a : Attempt α) : Except ConfigError α := placedAt a.name a.result

/-- What is noted where a type fails. -/
def Attempt.failure {α : Type} (a : Attempt α) (kind : String) : List LogEntry :=
  match a.result with
  | .ok _ => []
  | .error e => [.note (kind ++ " " ++ a.name ++ " failed: " ++ ConfigError.text e)]

section Types

variable {α : Type} (patterns : List String)

open LogEntry (isShown)

theorem Tracer.filter_decisions (type : String) (ds : List Decision) :
    (ds.map (LogEntry.decision type)).filter (isShown patterns) = (ofType patterns type).entries ds := by
  have hshown : isShown patterns ∘ LogEntry.decision type = fun _ => isTraced patterns type := rfl
  have hall : ds.filter (fun _ => true) = ds := List.filter_eq_self.2 fun _ _ => rfl
  rw [List.filter_map, hshown, entries]
  cases h : isTraced patterns type <;> simp [ofType, h, hall]

theorem Attempt.filter_log (a : Attempt α) (kind : String) :
    (a.log kind).filter (isShown patterns) = (Tracer.ofType patterns a.name).entries a.decisions ++ a.failure kind := by
  rw [log, List.filter_append, Tracer.filter_decisions, failure]
  cases a.result <;> rfl

/-- The run of a type within the assembly. -/
theorem Attempt.emits_caught (a : Attempt α) (kind : String) {x : Run α}
    (h : x.Emits a.result ((Tracer.ofType patterns a.name).entries a.decisions)) :
    (Logging.caught kind a.name x).Emits a.outcome ((a.log kind).filter (isShown patterns)) := by
  rw [filter_log]
  refine Logging.Emits.bind h ?_
  unfold outcome failure
  cases a.result with
  | ok b => exact Logging.Emits.pure _
  | error e => exact (Logging.emits_emit _).bind_pure fun _ => Except.error (e.atPath a.name)

theorem Attempt.toOption_outcome (a : Attempt α) : a.outcome.toOption = a.plan? := by
  unfold outcome plan?
  cases a.result <;> rfl

theorem Attempt.fault?_outcome (a : Attempt α) : fault? a.outcome = a.error? := by
  unfold outcome error?
  cases a.result <;> rfl

theorem emits_attempts {γ : Type} (kind : String) (attempt : γ → Attempt α) {run : γ → Run α}
    (h : ∀ c, (run c).Emits (attempt c).result
      ((Tracer.ofType patterns (attempt c).name).entries (attempt c).decisions))
    (cs : List γ) : Logging.Emits (cs.mapM fun c => Logging.caught kind (attempt c).name (run c))
      ((cs.map attempt).map Attempt.outcome) (((cs.map attempt).flatMap (·.log kind)).filter (isShown patterns)) := by
  rw [List.map_map, List.filter_flatMap, List.flatMap_map]
  exact Logging.emits_mapM (fun c => (attempt c).emits_caught patterns kind (h c)) cs

theorem plans_of_outcomes (as : List (Attempt α)) :
    (as.map Attempt.outcome).filterMap (·.toOption) = as.filterMap (·.plan?) := by
  rw [List.filterMap_map]
  exact congrArg (List.filterMap · as) (funext Attempt.toOption_outcome)

theorem errors_of_outcomes (as : List (Attempt α)) :
    (as.map Attempt.outcome).filterMap fault? = as.filterMap (·.error?) := by
  rw [List.filterMap_map]
  exact congrArg (List.filterMap · as) (funext Attempt.fault?_outcome)

/-- The run of an assembly comes to the assembly, and logs the lines that are shown. -/
theorem emits_assembleLogging (d : Definitions Value) (settings : Settings) :
    (assembleLogging patterns d settings).Emits { assemble d settings with log := [] }
      ((assemble d settings).log.filter (isShown patterns)) := by
  have henums := emits_attempts patterns "enum" attemptEnum (fun e => e.emits_run patterns) d.enums
  have hrecords := emits_attempts patterns "record" (attemptRecord (.of (.ofDefinitions d) settings))
    (fun r => r.emits_run patterns (.of (.ofDefinitions d) settings)) d.records
  unfold assembleLogging assemble
  dsimp only
  generalize d.enums.map attemptEnum = enumAttempts at henums ⊢
  generalize d.records.map (attemptRecord (.of (.ofDefinitions d) settings)) = recordAttempts at hrecords ⊢
  simp only [List.filter_append, List.append_assoc]
  refine Logging.Emits.bind henums (Logging.Emits.bind hrecords ?_)
  simp only [plans_of_outcomes, errors_of_outcomes]
  generalize dropDependents _ _ = dropped
  have hnotes := Logging.emits_notes (fun x : Dropped => .note x.note) dropped.2
  have hshown : (dropped.2.map fun x => LogEntry.note x.note).filter (isShown patterns) =
      dropped.2.map fun x => .note x.note := by
    refine List.filter_eq_self.2 fun e he => ?_
    obtain ⟨x, -, rfl⟩ := List.mem_map.1 he
    rfl
  rw [hshown]
  exact hnotes.bind ((Logging.emits_emit _).bind_pure _)

end Types

/-! ## Settings -/

/-- The assembly under a setting, but for its log, is the assembly. -/
theorem tracedAssembly_eq (setting : Option String) (d : Definitions Value) (settings : Settings) :
    tracedAssembly setting d settings = { assemble d settings with
      log := (assemble d settings).log.filter (LogEntry.isShown (tracePatterns setting)) } := by
  rw [tracedAssembly, emits_assembleLogging (tracePatterns setting) d settings []]
  rfl

namespace Text

theorem someSuffix_isEmpty (s : List Char) : someSuffix (Glob.matchesChars []) s = true := by
  induction s with
  | nil => rfl
  | cons c s ih => exact Bool.or_eq_true_iff.2 (.inr ih)

theorem matches_star (s : String) : (Glob.ofText "*").matches s = true := by
  have hstar : Glob.ofText "*" = [.anyText] := by simp [Glob.ofText, Glob.ofChars]
  rw [hstar]
  exact someSuffix_isEmpty s.toList

end Text

theorem isShown_all (e : LogEntry) : e.isShown (tracePatterns (some "all")) = true := by
  have hall : tracePatterns (some "all") = ["*"] := by decide
  rw [hall]
  cases e with
  | decision type d => exact Bool.or_eq_true_iff.2 (.inl (Text.matches_star type))
  | note s => rfl

namespace Definitions

/-- The assembly under a trace setting is the one without a setting, with a log of its own: all that is ever logged,
without the decisions about types that the setting does not select. -/
theorem tracing_selects (d : Definitions Value) (settings : Settings) (setting : Option String) :
    { tracedAssembly setting d settings with log := [] } = { tracedAssembly none d settings with log := [] } ∧
      (tracedAssembly setting d settings).log =
        (tracedAssembly (some "all") d settings).log.filter (LogEntry.isShown (tracePatterns setting)) := by
  have hall : (assemble d settings).log.filter (LogEntry.isShown (tracePatterns (some "all"))) =
      (assemble d settings).log := List.filter_eq_self.2 fun e _ => isShown_all e
  rw [tracedAssembly_eq, tracedAssembly_eq none, tracedAssembly_eq (some "all"), hall]
  exact ⟨rfl, rfl⟩

end Definitions

end WireBridge
