import WireBridge.CommandLine.Outcome
import WireBridge.Proofs.CommandLine.Arguments
import WireBridge.Proofs.Output.Imports

/-!
# Verdicts of commands

`gen` writes the module of a definition file, and `info` shows what would be in it. Run on the same file with the same
modules they come to the same verdict, with one exception, and `gen` does nothing at all if its verdict is a bad one.

* `WorkTree.CanRead` : a definition file can be read, and the texts of its literals are made of characters;
* `withDefinitions_cases` : both commands go on with the definitions of their file, or refuse one that holds none;
* `exists_generate_eq_ok_iff` : a module can be generated if the settings can be made out, every type can be planned
  and the modules can be put in order. The last is what `info` does not look at;
* `GenerationRequest.MixesModules` : the modules cannot be put in order. The helpers module is set to a number in the
  definitions, and code is taken from another module too;
* `generate_cases` : what `gen` does to files;
* `verdicts_agree` : the verdicts are the same unless modules are mixed, the file that is written holds the module, and
  no other file is touched;
* `not_verdicts_agree_numbered` : a file with mixed modules, with which `info` finds no fault.
-/

set_option autoImplicit false

namespace WireBridge

/-! ## Files -/

namespace WorkTree

variable {t t' : WorkTree} {path text : String}

/-- Any text can be written to the file of the path. -/
def CanWrite (t : WorkTree) (path : String) : Prop := ∀ text, ∃ t', t.write path text = .ok t'

/-- The tree `t'` has a text in the file of a path, unless that is the one that takes everything, and is otherwise the
same. -/
def Written (t : WorkTree) (path text : String) (t' : WorkTree) : Prop :=
  ∃ place, t.locate path = .ok place ∧ (place = sink ∨ t'.fileAt? place = some text) ∧
    t'.directories = t.directories ∧ ∀ other, other ≠ place → t'.fileAt? other = t.fileAt? other

/-- Whatever is looked at first, a text that is written is put at the place of the path. -/
theorem exists_place_of_write (h : t.write path text = .ok t') :
    ∃ place, t.locate path = .ok place ∧ t' = if place = sink then t else t.put place text := by
  have hput (h : (do
      let place ← t.locate path
      if t.hasDirectory place then throw FileFault.isDirectory
      else pure (if place = sink then t else t.put place text)) = .ok t') :
      ∃ place, t.locate path = .ok place ∧ t' = if place = sink then t else t.put place text := by
    obtain ⟨place, hplace, h⟩ := bind_eq_ok_iff.1 h
    split at h <;> cases h
    exact ⟨place, hplace, rfl⟩
  unfold write at h
  split at h
  · obtain ⟨directory, -, h⟩ := bind_eq_ok_iff.1 h
    split at h
    · cases h
    · exact hput h
  · exact hput h

theorem written_of_write (h : t.write path text = .ok t') : t.Written path text t' := by
  obtain ⟨place, hplace, rfl⟩ := exists_place_of_write h
  refine ⟨place, hplace, ?_⟩
  split
  · next hsink => exact ⟨.inl hsink, rfl, fun _ _ => rfl⟩
  · exact ⟨.inr (t.fileAt?_put_self place text), rfl, fun other hother => t.fileAt?_put_of_ne text hother⟩

end WorkTree

/-! ## Outcomes -/

/-- The outcome has a fault and no effects. -/
def Outcome.Refuses (o : Outcome) : Prop := o.exitCode ≠ 0 ∧ o.effects = []

theorem Outcome.effects_report (blocks errors : List ConsoleBlock) (exitCode : Nat) :
    (Outcome.report blocks errors exitCode).effects = [] := by
  unfold Outcome.report
  split <;> rfl

theorem Outcome.refuses_report (blocks errors : List ConsoleBlock) : (Outcome.report blocks errors 1).Refuses := by
  refine ⟨?_, effects_report blocks errors 1⟩
  unfold Outcome.report
  split <;> simp

theorem Outcome.refuses_broken (b : Breakdown) : (Outcome.broken b).Refuses := ⟨by simp [broken], rfl⟩

/-! ## One file, two commands -/

/-- The commands read the same file with the same settings. -/
structure GenerateCommand.SameSource (c : GenerateCommand) (i : InspectCommand) : Prop where
  input : c.input = i.input
  wireModule : c.request.wireModule = i.wireModule.map .text
  helpers : c.request.helpers = i.helpers.map .text

theorem Settings.ofOptions_runtime (runtime : String) {runtime' : String} {options : List (OptionDecl Value)}
    {wireModule helpers : Option Value} :
    ofOptions options runtime' wireModule helpers =
      (ofOptions options runtime wireModule helpers).map ({ · with runtimeImport := runtime' }) := by
  unfold ofOptions
  split <;> rfl

/-- The place that support functions are imported from has no part in what is planned. -/
theorem errors_assemble_runtime (d : Definitions Value) (settings : Settings) (runtime : String) :
    (assemble d { settings with runtimeImport := runtime }).errors = (assemble d settings).errors := rfl

/-- The settings of a request can be made out, and every type can be generated with them. -/
def GenerationRequest.Accepts (request : GenerationRequest) (d : Definitions Value) (settings : Settings) : Prop :=
  Settings.ofOptions d.options request.runtimeImport request.wireModule request.helpers = .ok settings ∧
    (assemble d settings).errors = []

/-- The modules of a request cannot be put in order: the helpers module is set to a number, and code is taken from
another module too. -/
def GenerationRequest.MixesModules (request : GenerationRequest) (d : Definitions Value) : Prop :=
  ∃ settings, request.Accepts d settings ∧ (assemble d settings).MixesModules

section Definitions

variable {d : Definitions Value} {request : GenerationRequest}

theorem GenerationRequest.Accepts.unique {settings settings' : Settings} (h : request.Accepts d settings)
    (h' : request.Accepts d settings') : settings = settings' :=
  Except.ok.inj (h.1.symm.trans h'.1)

theorem exists_generate_eq_ok_iff (hs : request.strict = true) : (∃ g, generate d request = .ok g) ↔
    (∃ settings, request.Accepts d settings) ∧ ¬ request.MixesModules d := by
  constructor
  · rintro ⟨g, hg⟩
    obtain ⟨settings, hsettings, hg⟩ := bind_eq_ok_iff.1 hg
    dsimp only at hg
    split at hg
    · cases hg
    · next herrors =>
      have haccepts : request.Accepts d settings := ⟨mapError_eq_ok_iff.1 hsettings, by simpa [hs] using herrors⟩
      refine ⟨⟨settings, haccepts⟩, ?_⟩
      rintro ⟨settings', haccepts', hmixes⟩
      rw [haccepts'.unique haccepts, ← Definitions.modules?_eq_none_iff] at hmixes
      rw [hmixes] at hg
      cases hg
  · rintro ⟨⟨settings, hsettings, herrors⟩, hmixes⟩
    have hordered : (assemble d settings).modules? ≠ none := fun hnone =>
      hmixes ⟨settings, ⟨hsettings, herrors⟩, (Definitions.modules?_eq_none_iff d settings).1 hnone⟩
    obtain ⟨modules, hmodules⟩ := Option.ne_none_iff_exists'.1 hordered
    refine ⟨⟨moduleText (assemble d settings) modules, assemble d settings⟩, bind_eq_ok_iff.2 ⟨settings, ?_, ?_⟩⟩
    · exact mapError_eq_ok_iff.2 hsettings
    · simp [herrors, hmodules, pure, Except.pure]

theorem GenerateCommand.outcomeOn_cases (c : GenerateCommand) (patterns : List String) (d : Definitions Value) :
    (∃ g, generate d c.request = .ok g ∧ (c.outcomeOn patterns d).exitCode = 0 ∧
      (c.outcomeOn patterns d).effects = [.file c.output g.text]) ∨
    (¬ ∃ g, generate d c.request = .ok g) ∧ (c.outcomeOn patterns d).Refuses := by
  unfold outcomeOn
  split
  · next g hg => exact .inl ⟨g, hg, rfl, rfl⟩
  · next e he => exact .inr ⟨by simp [he], Outcome.refuses_report _ _⟩
  · next es hes => exact .inr ⟨by simp [hes], Outcome.refuses_report _ _⟩
  · next hmodules => exact .inr ⟨by simp [hmodules], Outcome.refuses_broken _⟩

theorem InspectCommand.exitCode_outcomeOn_eq_zero_iff {i : InspectCommand} (hj : i.json = true) :
    (i.outcomeOn d).exitCode = 0 ↔ ∃ settings, Settings.ofOptions d.options defaultRuntime (i.wireModule.map .text)
      (i.helpers.map .text) = .ok settings ∧ (assemble d settings).errors = [] := by
  unfold outcomeOn
  split
  · next e he => exact iff_of_false (Outcome.refuses_report _ _).1 (by simp [he])
  · next settings hsettings =>
    rw [if_pos hj]
    simp [hsettings]

theorem InspectCommand.effects_outcomeOn (i : InspectCommand) (d : Definitions Value) :
    (i.outcomeOn d).effects = [] := by
  unfold outcomeOn
  split
  · exact Outcome.effects_report _ _ _
  · dsimp only
    split
    · rfl
    · exact Outcome.effects_report _ _ _

theorem GenerateCommand.SameSource.exists_accepts_iff {c : GenerateCommand} {i : InspectCommand} (h : c.SameSource i) :
    (∃ settings, c.request.Accepts d settings) ↔ ∃ settings, Settings.ofOptions d.options defaultRuntime
      (i.wireModule.map .text) (i.helpers.map .text) = .ok settings ∧ (assemble d settings).errors = [] := by
  unfold GenerationRequest.Accepts
  rw [h.wireModule, h.helpers, Settings.ofOptions_runtime defaultRuntime]
  constructor
  · rintro ⟨settings, hsettings, herrors⟩
    obtain ⟨settings', hsettings', rfl⟩ := map_eq_ok_iff.1 hsettings
    rw [errors_assemble_runtime] at herrors
    exact ⟨settings', hsettings', herrors⟩
  · rintro ⟨settings, hsettings, herrors⟩
    refine ⟨_, map_eq_ok_iff.2 ⟨settings, hsettings, rfl⟩, ?_⟩
    rw [errors_assemble_runtime, herrors]

end Definitions

/-! ## Definition files -/

/-- The definitions in a file. -/
def WorkTree.Defines (t : WorkTree) (path : String) (d : Definitions Value) : Prop :=
  ∃ text, t.read? path = .ok text ∧ Definitions.ofText (String.ofList (Text.unifyLineEnds text.toList)) = .ok d

/-- The file can be read, and where it holds definitions, their texts are made of characters. A text with a surrogate
cannot be written to a file, and what becomes of it before is left open. -/
def WorkTree.CanRead (t : WorkTree) (path : String) : Prop :=
  ∃ text, t.read? path = .ok text ∧
    ∀ d, Definitions.parse (String.ofList (Text.unifyLineEnds text.toList)) = .ok d → ∃ d', t.Defines path d'

section Files

variable {t : WorkTree} {path : String} {d : Definitions Value}

theorem WorkTree.Defines.unique {d' : Definitions Value} (h : t.Defines path d) (h' : t.Defines path d') : d = d' := by
  obtain ⟨text, htext, hd⟩ := h
  obtain ⟨text', htext', hd'⟩ := h'
  obtain rfl := Except.ok.inj (htext.symm.trans htext')
  exact Except.ok.inj (hd.symm.trans hd')

/-- A command goes on with the definitions of its file, or refuses a file that holds none. -/
theorem withDefinitions_cases (h : ∃ text, t.read? path = .ok text) (go : Definitions Value → Outcome) :
    (∃ d, t.Defines path d ∧ withDefinitions path t.read? go = go d) ∨
      (¬ ∃ d, t.Defines path d) ∧ (withDefinitions path t.read? go).Refuses := by
  obtain ⟨text, htext⟩ := h
  unfold withDefinitions
  rw [htext]
  dsimp only
  split
  · next e he =>
    refine .inr ⟨?_, Outcome.refuses_report _ _⟩
    rintro ⟨d, text', htext', hd⟩
    obtain rfl := Except.ok.inj (htext.symm.trans htext')
    rw [he] at hd
    cases hd
  · next d hd => exact .inl ⟨d, ⟨text, htext, hd⟩, rfl⟩

end Files

/-! ## Command lines -/

section Runs

variable {patterns : List String} {t : WorkTree} {as : List String}

theorem runIn_of_perform {t' : WorkTree} (h : t.perform (outcomeOf patterns t.read? as).effects = (t', none)) :
    runIn patterns t as = (outcomeOf patterns t.read? as, t') := by
  simp only [runIn, h]

variable {c : GenerateCommand} {i : InspectCommand}

/-- A command to generate writes the module that it generates, or refuses and leaves all files as they are. -/
theorem generate_cases (patterns : List String) (has : Invocation.ofArguments as = .ok (.command (.generate c)))
    (hread : ∃ text, t.read? c.input = .ok text) (hwrite : t.CanWrite c.output) :
    (∃ d g, t.Defines c.input d ∧ generate d c.request = .ok g ∧ (runIn patterns t as).1.exitCode = 0 ∧
      (runIn patterns t as).1.effects = [.file c.output g.text] ∧ t.Written c.output g.text (runIn patterns t as).2) ∨
    (∀ d, t.Defines c.input d → ¬ ∃ g, generate d c.request = .ok g) ∧ (runIn patterns t as).1.Refuses ∧
      (runIn patterns t as).2 = t := by
  have houtcome : outcomeOf patterns t.read? as = withDefinitions c.input t.read? (c.outcomeOn patterns) := by
    rw [outcomeOf, has]
    rfl
  have hrefused (h : (outcomeOf patterns t.read? as).Refuses) :
      (runIn patterns t as).1.Refuses ∧ (runIn patterns t as).2 = t := by
    have hperform : t.perform (outcomeOf patterns t.read? as).effects = (t, none) := by rw [h.2, WorkTree.perform]
    rw [runIn_of_perform hperform]
    exact ⟨h, rfl⟩
  rcases withDefinitions_cases hread (c.outcomeOn patterns) with ⟨d, hd, hgo⟩ | ⟨hnone, hrefuses⟩
  · rw [← houtcome] at hgo
    rcases c.outcomeOn_cases patterns d with ⟨g, hg, hexit, heffects⟩ | ⟨hfails, hrefuses⟩
    · obtain ⟨t', ht'⟩ := hwrite g.text
      rw [← hgo] at hexit heffects
      have hperform : t.perform (outcomeOf patterns t.read? as).effects = (t', none) := by
        rw [heffects, WorkTree.perform, WorkTree.performOne, ht']
        rfl
      rw [runIn_of_perform hperform]
      exact .inl ⟨d, g, hd, hg, hexit, heffects, WorkTree.written_of_write ht'⟩
    · rw [← hgo] at hrefuses
      exact .inr ⟨fun d' hd' => hd.unique hd' ▸ hfails, hrefused hrefuses⟩
  · rw [← houtcome] at hrefuses
    exact .inr ⟨fun d hd => absurd ⟨d, hd⟩ hnone, hrefused hrefuses⟩

/-- A command to show decisions has no fault if every type can be generated. -/
theorem exitCode_inspect_eq_zero_iff (patterns : List String)
    (has : Invocation.ofArguments as = .ok (.command (.inspect i))) (hjson : i.json = true)
    (hread : ∃ text, t.read? i.input = .ok text) :
    (runIn patterns t as).1.exitCode = 0 ↔ ∃ d, t.Defines i.input d ∧
      ∃ settings, Settings.ofOptions d.options defaultRuntime (i.wireModule.map .text) (i.helpers.map .text) =
        .ok settings ∧ (assemble d settings).errors = [] := by
  have houtcome : outcomeOf patterns t.read? as = withDefinitions i.input t.read? i.outcomeOn := by
    rw [outcomeOf, has]
    rfl
  have hrun (h : (outcomeOf patterns t.read? as).effects = []) :
      (runIn patterns t as).1 = withDefinitions i.input t.read? i.outcomeOn := by
    have hperform : t.perform (outcomeOf patterns t.read? as).effects = (t, none) := by rw [h, WorkTree.perform]
    rw [runIn_of_perform hperform, houtcome]
  rcases withDefinitions_cases hread i.outcomeOn with ⟨d, hd, hgo⟩ | ⟨hnone, hrefuses⟩
  · rw [hrun (by rw [houtcome, hgo, i.effects_outcomeOn]), hgo, InspectCommand.exitCode_outcomeOn_eq_zero_iff hjson]
    constructor
    · exact fun h => ⟨d, hd, h⟩
    · rintro ⟨d', hd', h⟩
      exact hd.unique hd' ▸ h
  · rw [hrun (by rw [houtcome, hrefuses.2])]
    refine iff_of_false hrefuses.1 ?_
    rintro ⟨d, hd, -⟩
    exact hnone ⟨d, hd⟩

end Runs

/-- `gen` has no fault exactly if `info` has none and no modules are mixed. It writes the module if it has no fault, and
has no effect otherwise. -/
theorem verdicts_agree (patterns : List String) {t : WorkTree} {as bs : List String} {c : GenerateCommand}
    {i : InspectCommand} (has : Invocation.ofArguments as = .ok (.command (.generate c)))
    (hbs : Invocation.ofArguments bs = .ok (.command (.inspect i))) (hsource : c.SameSource i)
    (hstrict : c.request.strict = true) (hjson : i.json = true) (hread : t.CanRead c.input)
    (hwrite : t.CanWrite c.output) :
    ((runIn patterns t as).1.exitCode = 0 ↔
      (runIn patterns t bs).1.exitCode = 0 ∧ ∀ d, t.Defines c.input d → ¬ c.request.MixesModules d) ∧
    ((runIn patterns t as).1.exitCode = 0 → ∃ d g, t.Defines c.input d ∧ generate d c.request = .ok g ∧
      (runIn patterns t as).1.effects = [.file c.output g.text] ∧
      t.Written c.output g.text (runIn patterns t as).2) ∧
    ((runIn patterns t as).1.exitCode ≠ 0 → (runIn patterns t as).1.effects = [] ∧ (runIn patterns t as).2 = t) := by
  have hfound : ∃ text, t.read? c.input = .ok text := hread.imp fun _ h => h.1
  have hcases := generate_cases patterns has hfound hwrite
  have hinfo := exitCode_inspect_eq_zero_iff patterns hbs hjson (hsource.input ▸ hfound)
  refine ⟨?_, fun h => ?_, fun h => ?_⟩
  · rw [hinfo]
    constructor
    · intro h
      rcases hcases with ⟨d, g, hd, hg, -, -, -⟩ | ⟨-, hrefuses, -⟩
      · obtain ⟨haccepts, hmixes⟩ := (exists_generate_eq_ok_iff hstrict).1 ⟨g, hg⟩
        exact ⟨⟨d, hsource.input ▸ hd, hsource.exists_accepts_iff.1 haccepts⟩, fun d' hd' => hd.unique hd' ▸ hmixes⟩
      · exact absurd h hrefuses.1
    · rintro ⟨⟨d, hd, haccepts⟩, hmixes⟩
      rw [← hsource.input] at hd
      rcases hcases with ⟨d', g, -, -, hexit, -, -⟩ | ⟨hfails, -, -⟩
      · exact hexit
      · refine absurd ((exists_generate_eq_ok_iff hstrict).2 ⟨?_, hmixes d hd⟩) (hfails d hd)
        exact hsource.exists_accepts_iff.2 haccepts
  · rcases hcases with ⟨d, g, hd, hg, -, heffects, hwritten⟩ | ⟨-, hrefuses, -⟩
    · exact ⟨d, g, hd, hg, heffects, hwritten⟩
    · exact absurd h hrefuses.1
  · rcases hcases with ⟨d, g, -, -, hexit, -, -⟩ | ⟨-, hrefuses, hsame⟩
    · exact absurd hexit h
    · exact ⟨hrefuses.2, hsame⟩

/-- A definition file beside what an earlier run has written. -/
def workplace (definitions : String) : WorkTree where
  files := [(⟨.above 0, ["d.wiremap"]⟩, definitions), (⟨.above 0, ["out.py"]⟩, "x = 1")]
  directories := []

theorem read?_workplace (definitions : String) : (workplace definitions).read? "d.wiremap" = .ok definitions := by
  rfl

theorem canRead_workplace {definitions : String}
    (h : ∃ d, Definitions.ofText (String.ofList (Text.unifyLineEnds definitions.toList)) = .ok d) :
    (workplace definitions).CanRead "d.wiremap" :=
  ⟨definitions, read?_workplace definitions, fun _ _ =>
    h.imp fun _ hd => ⟨definitions, read?_workplace definitions, hd⟩⟩

theorem canWrite_workplace (definitions : String) : (workplace definitions).CanWrite "out.py" := by
  intro text
  have hends : "out.py".endsWith "/" = false := by decide +kernel
  have hlocate : (workplace definitions).locate "out.py" = .ok ⟨.above 0, ["out.py"]⟩ := by rfl
  refine ⟨(workplace definitions).put ⟨.above 0, ["out.py"]⟩ text, ?_⟩
  simp only [WorkTree.write, hends, hlocate]
  rfl

/-- A definition file without faults. -/
def faultless : String := "options \x7b wireModule = \"app.wire\" \x7d\nstruct Point \x7b x: int32 \x7d\n"

/-- A type is not declared. -/
def faulty : String := "struct Line \x7b start: Point \x7d\n"

theorem verdicts_agree_workplace :
    ((runIn [] (workplace faultless) (generateArguments "d.wiremap" "out.py" none none)).1.exitCode = 0 ∧
      (runIn [] (workplace faultless) (inspectArguments "d.wiremap" none none)).1.exitCode = 0 ∧
      ∃ g : Generated, (workplace faultless).Written "out.py" g.text
        (runIn [] (workplace faultless) (generateArguments "d.wiremap" "out.py" none none)).2) ∧
    (runIn [] (workplace faulty) (generateArguments "d.wiremap" "out.py" (some "app.wire") none)).1.exitCode ≠ 0 ∧
      (runIn [] (workplace faulty) (generateArguments "d.wiremap" "out.py" (some "app.wire") none)).2 =
        workplace faulty := by
  constructor
  · obtain ⟨hiff, hwritten, -⟩ := verdicts_agree [] (ofArguments_generate "d.wiremap" "out.py" none none)
      (ofArguments_inspect "d.wiremap" none none) ⟨rfl, rfl, rfl⟩ rfl rfl (canRead_workplace (by decide +kernel))
      (canWrite_workplace faultless)
    have hexit : (runIn [] (workplace faultless) (generateArguments "d.wiremap" "out.py" none none)).1.exitCode = 0 :=
      by decide +kernel
    obtain ⟨-, g, -, -, -, hg⟩ := hwritten hexit
    exact ⟨hexit, (hiff.1 hexit).1, g, hg⟩
  · obtain ⟨-, -, hrefused⟩ := verdicts_agree []
      (ofArguments_generate "d.wiremap" "out.py" (some "app.wire") none)
      (ofArguments_inspect "d.wiremap" (some "app.wire") none) ⟨rfl, rfl, rfl⟩ rfl rfl
      (canRead_workplace (by decide +kernel)) (canWrite_workplace faulty)
    have hexit : (runIn [] (workplace faulty)
        (generateArguments "d.wiremap" "out.py" (some "app.wire") none)).1.exitCode ≠ 0 := by decide +kernel
    exact ⟨hexit, (hrefused hexit).2⟩

/-- The helpers module is set to a number, and a field names a function of another module. -/
def numbered : String :=
  "options \x7b wireModule = \"app.wire\" helpers = 5 \x7d\nstruct A \x7b x: int32 @from_fn(\"app.conv:f\") \x7d\n"

theorem not_verdicts_agree_numbered : (workplace numbered).CanWrite "out.py" ∧
    (runIn [] (workplace numbered) (generateArguments "d.wiremap" "out.py" none none)).1.exitCode = 1 ∧
    (runIn [] (workplace numbered) (inspectArguments "d.wiremap" none none)).1.exitCode = 0 :=
  ⟨canWrite_workplace numbered, by decide +kernel⟩

end WireBridge
