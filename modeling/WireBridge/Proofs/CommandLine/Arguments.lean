import Mathlib.Data.List.TakeWhile
import WireBridge.CommandLine.Command

/-!
# Arguments that are read back

A command with its options written out, each as `--name value`, is read as that command. The values can be anything: an
option takes the next argument even if it looks like an option (`scan_value`).

* `ofArguments_generate`, `ofArguments_inspect` : the commands for a definition file, with or without the options for
  the modules.
-/

set_option autoImplicit false

namespace WireBridge

/-! ## Options -/

section Options

variable {specs : List OptionSpec} {leading : Bool} {rest : List String} {name : String} {o : OptionSpec}

/-- An option as it is written out, `--name`, is read as one. -/
theorem readOption?_long (ho : long? specs name = some o) (hplain : '=' ∉ name.toList) :
    readOption? specs ("--" ++ name).toList =
      some (if o.takesValue then .ok ([], some o) else .ok ([⟨o.name, none⟩], none)) := by
  have hall : ∀ c ∈ name.toList, decide (c ≠ '=') = true := fun c hc => decide_eq_true fun h => hplain (h ▸ hc)
  have hbody : ("--" ++ name).toList = '-' :: '-' :: name.toList := by simp
  rw [hbody, readOption?, readLong, List.takeWhile_eq_self_iff.2 hall, List.dropWhile_eq_nil_iff.2 hall,
    String.ofList_toList]
  simp only [ho]

theorem name_of_long? (ho : long? specs name = some o) : o.name = name := by
  simpa using List.find?_some ho

/-- The option of the name takes a value, and the name can be written out. -/
def TakesValue (specs : List OptionSpec) (name : String) : Prop :=
  (long? specs name).any (·.takesValue) = true ∧ '=' ∉ name.toList ∧ name ≠ ""

instance : Decidable (TakesValue specs name) := inferInstanceAs (Decidable (_ ∧ _))

/-- The next argument is the value, whatever it looks like. -/
theorem scan_value (h : TakesValue specs name) (value : String) :
    scan specs leading (("--" ++ name) :: value :: rest) =
      (scan specs leading rest).map fun s => ⟨⟨name, some value⟩ :: s.settings, s.arguments⟩ := by
  obtain ⟨hany, hplain, hne⟩ := h
  obtain ⟨o, ho, htakes⟩ := (Option.any_eq_true _ _).1 hany
  obtain rfl := name_of_long? ho
  rw [scan, if_neg (by simpa using hne), readOption?_long ho hplain, if_pos htakes]
  simp only [bind, Except.bind]
  cases scan specs leading rest <;> rfl

theorem scan_flag (ho : long? specs name = some o) (hflag : o.takesValue = false) (hplain : '=' ∉ name.toList)
    (hne : name ≠ "") : scan specs leading (("--" ++ name) :: rest) =
      (scan specs leading rest).map fun s => ⟨⟨name, none⟩ :: s.settings, s.arguments⟩ := by
  obtain rfl := name_of_long? ho
  rw [scan, if_neg (by simpa using hne), readOption?_long ho hplain, if_neg (by simp [hflag])]
  simp only [bind, Except.bind]
  cases scan specs leading rest <;> rfl

/-- Options with their values, where they have one. -/
def valueArguments (given : List (String × Option String)) : List String :=
  given.flatMap fun x => x.2.toList.flatMap (["--" ++ x.1, ·])

def valueSettings (given : List (String × Option String)) : List Setting :=
  given.flatMap fun x => x.2.toList.map (⟨x.1, some ·⟩)

theorem scan_valueArguments {given : List (String × Option String)} (h : ∀ x ∈ given, TakesValue specs x.1) :
    scan specs leading (valueArguments given) = .ok ⟨valueSettings given, []⟩ := by
  induction given with
  | nil => rfl
  | cons x given ih =>
    obtain ⟨hx, hgiven⟩ := List.forall_mem_cons.1 h
    obtain ⟨name, value⟩ := x
    cases value with
    | none => exact ih hgiven
    | some value =>
      have hcons : valueArguments ((name, some value) :: given) = ("--" ++ name) :: value :: valueArguments given := rfl
      rw [hcons, scan_value hx, ih hgiven]
      rfl

end Options

/-! ## Commands -/

def generateArguments (input output : String) (wireModule helpers : Option String) : List String :=
  "gen" :: valueArguments
    [("input", input), ("output", output), ("wire-module", wireModule), ("helpers", helpers)]

def inspectArguments (input : String) (wireModule helpers : Option String) : List String :=
  "info" :: ("--" ++ "json") :: valueArguments [("input", input), ("wire-module", wireModule), ("helpers", helpers)]

theorem ofArguments_command (spec : CommandSpec) {arguments : List String}
    (hname : readOption? [helpOption] spec.name.toList = none) (hne : spec.name ≠ "--")
    (hspec : commandSpecs.find? (fun c => c.name = spec.name) = some spec) :
    Invocation.ofArguments (spec.name :: arguments) = Invocation.ofCommand spec arguments := by
  unfold Invocation.ofArguments
  rw [scan, if_neg hne, hname]
  simp only [bind, Except.bind, if_true, Scan.isSet, List.any_nil, Bool.false_eq_true, if_false, hspec]

theorem ofArguments_generate (input output : String) (wireModule helpers : Option String) :
    Invocation.ofArguments (generateArguments input output wireModule helpers) = .ok (.command (.generate
      ⟨input, output, ⟨defaultRuntime, wireModule.map .text, helpers.map .text, true⟩, false⟩)) := by
  have htakes : ∀ x ∈ [("input", some input), ("output", some output), ("wire-module", wireModule),
      ("helpers", helpers)], TakesValue generateSpec.options x.1 := by
    simp only [List.forall_mem_cons, List.not_mem_nil, false_implies, implies_true, and_true]
    decide +kernel
  rw [generateArguments]
  refine (ofArguments_command generateSpec (by decide +kernel) (by decide) (by simp [commandSpecs])).trans ?_
  unfold Invocation.ofCommand
  rw [scan_valueArguments htakes]
  cases wireModule <;> cases helpers <;> rfl

theorem ofArguments_inspect (input : String) (wireModule helpers : Option String) :
    Invocation.ofArguments (inspectArguments input wireModule helpers) = .ok (.command (.inspect
      ⟨input, wireModule, helpers, true⟩)) := by
  have htakes : ∀ x ∈ [("input", some input), ("wire-module", wireModule), ("helpers", helpers)],
      TakesValue inspectSpec.options x.1 := by
    simp only [List.forall_mem_cons, List.not_mem_nil, false_implies, implies_true, and_true]
    decide +kernel
  rw [inspectArguments]
  refine (ofArguments_command inspectSpec (by decide +kernel) (by decide)
    (by simp [commandSpecs, generateSpec, inspectSpec])).trans ?_
  unfold Invocation.ofCommand
  rw [scan_flag (o := flagOption "json" none "Output as JSON") (by decide +kernel) rfl (by decide) (by decide),
    scan_valueArguments htakes]
  cases wireModule <;> cases helpers <;> rfl

end WireBridge
