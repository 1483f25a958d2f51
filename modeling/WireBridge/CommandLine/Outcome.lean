import WireBridge.CommandLine.Help
import WireBridge.CommandLine.Report
import WireBridge.CommandLine.WorkTree
import WireBridge.Definition.Reading
import WireBridge.Support.Package

/-!
# Outcomes of commands

An `Outcome` is all that a command does: the lines it prints, its effects on files and its exit code, or what
breaks it off. A command reads at most one file, its definition file, and writes only if nothing is wrong.

* `Command.outcome` : the outcome of a command, given the files that it may read;
* `outcomeOf` : the outcome of a command line. Arguments that are not understood lead to the exit code 2, and
  definitions that are not right to the exit code 1;
* `runIn` : a command line in a working directory.
-/

set_option autoImplicit false

namespace WireBridge

/-- What breaks a command off. -/
inductive Breakdown
  | file (fault : FileFault)
  /-- Modules that cannot be put in order. -/
  | unorderedModules
  /-- A text that the console cannot show. -/
  | console (fault : MarkupFault)
  deriving DecidableEq, Repr

structure Outcome where
  exitCode : Nat
  output : List String
  errors : List String
  effects : List Effect
  breakdown : Option Breakdown
  deriving DecidableEq, Repr

namespace Outcome

/-- A command that does what it should and prints some lines. -/
def success (output : List String) (effects : List Effect) : Outcome := ⟨0, output, [], effects, none⟩

def broken (b : Breakdown) : Outcome := ⟨1, [], [], [], some b⟩

/-- The lines of blocks, up to the first that cannot be shown. -/
def shownBlocks : List ConsoleBlock → List String × Option MarkupFault
  | [] => ([], none)
  | .error fault :: _ => ([], some fault)
  | .ok lines :: rest =>
    let (more, fault) := shownBlocks rest
    (lines ++ more, fault)

/-- A command that prints blocks on the console, up to the first that cannot be shown, and then reports errors. -/
def report (blocks errors : List ConsoleBlock) (exitCode : Nat) : Outcome :=
  match shownBlocks blocks, shownBlocks errors with
  | (output, none), (messages, none) => ⟨exitCode, output, messages, [], none⟩
  | (output, none), (messages, some fault) => ⟨1, output, messages, [], some (.console fault)⟩
  | (output, some fault), _ => ⟨1, output, [], [], some (.console fault)⟩

end Outcome

/-- Lines as they are printed. -/
def printed (lines : List String) : String := String.join (lines.map (· ++ "\n"))

/-! ## Errors -/

def errorLine (message : String) : ConsoleBlock :=
  consoleLine (Markup.styled "red" "error:" ++ " " ++ Markup.escape message)

def invalidLine (path : String) (e : ReadError) : ConsoleBlock :=
  consoleLine (Markup.styled "red" ("Invalid definition file " ++ Markup.escape path ++ ":") ++ " " ++
    Markup.escape e.message)

def configurationOutcome (errors : List ConfigError) : Outcome :=
  .report [] (errors.map fun e => errorLine (ConfigError.text e)) 1

/-! ## Commands -/

/-- Reads the definitions of a file and goes on with them. -/
def withDefinitions (path : String) (read : String → Except FileFault String) (go : Definitions Value → Outcome) :
    Outcome :=
  match read path with
  | .error fault => .broken (.file fault)
  | .ok text =>
    match Definitions.ofText (String.ofList (Text.unifyLineEnds text.toList)) with
    | .error e => .report [] [invalidLine path e] 1
    | .ok d => go d

namespace GenerateCommand

/-- The lines of the log that are printed: all of it or, unless the command is verbose, what is left out. -/
def logLines (c : GenerateCommand) (patterns : List String) (g : Generated) : List String :=
  LogEntry.shown patterns (if c.verbose then g.log else g.skipped)

def outcomeOn (c : GenerateCommand) (patterns : List String) (d : Definitions Value) : Outcome :=
  match generate d c.request with
  | .ok g => ⟨0, [], c.logLines patterns g, [.file c.output g.text], none⟩
  | .error (.configuration e) => configurationOutcome [e]
  | .error (.failedTypes es) => configurationOutcome es
  | .error .unorderedModules => .broken .unorderedModules

end GenerateCommand

def InspectCommand.outcomeOn (c : InspectCommand) (d : Definitions Value) : Outcome :=
  match Settings.ofOptions d.options defaultRuntime (c.wireModule.map .text) (c.helpers.map .text) with
  | .error e => configurationOutcome [e]
  | .ok settings =>
    let a := assemble d settings
    let exitCode := if a.errors.isEmpty then 0 else 1
    if c.json then ⟨exitCode, (decisionTree a).lines, [], [], none⟩
    else .report (decisionReport a) (a.errors.map fun e => errorLine (ConfigError.text e)) exitCode

/-- The slashes that a path begins with as it is written: one for the root, two where there are exactly two. -/
def rootMark (path : String) : String :=
  match (path.toList.takeWhile (· = '/')).length with
  | 0 => ""
  | 2 => "//"
  | _ => "/"

/-- A path without the parts that mean nothing. -/
def tidyPath (mark : String) (names : List String) : String :=
  let path := mark ++ "/".intercalate (names.filter fun n => n ≠ "" && n ≠ ".")
  if path = "" then "." else path

/-- A path below a directory; one that starts at the root is a path of its own. -/
def pathBelow (directory path : String) : String :=
  if WorkTree.isAbsolute path then tidyPath (rootMark path) (WorkTree.namesOf path)
  else tidyPath (rootMark directory) (WorkTree.namesOf directory ++ WorkTree.namesOf path)

def SupportCommand.outcome (c : SupportCommand) : Outcome :=
  let directory := pathBelow c.directory c.name
  .success ["Generated Python runtime in " ++ directory]
    (.directory directory :: supportFiles.map fun (name, text) => .file (pathBelow directory name) text)

/-- The file that a command reads. -/
def Command.input? : Command → Option String
  | generate c => some c.input
  | inspect c => some c.input
  | support _ => none

/-- The outcome of a command, where `patterns` select the types that are traced. -/
def Command.outcome (patterns : List String) (read : String → Except FileFault String) : Command → Outcome
  | generate c => withDefinitions c.input read (c.outcomeOn patterns)
  | inspect c => withDefinitions c.input read c.outcomeOn
  | support c => c.outcome

/-! ## Command lines -/

def usageOutcome (fault : UsageFault) : Outcome :=
  ⟨2, [], if fault = .noCommand then helpLines none else [usageLine none, "", "Error: " ++ fault.message], [], none⟩

def Invocation.outcome (patterns : List String) (read : String → Except FileFault String) : Invocation → Outcome
  | help about => .success (helpLines about) []
  | command c => c.outcome patterns read

/-- The outcome of a command line. -/
def outcomeOf (patterns : List String) (read : String → Except FileFault String) (arguments : List String) : Outcome :=
  match Invocation.ofArguments arguments with
  | .ok i => i.outcome patterns read
  | .error fault => usageOutcome fault

/-- The file that a command line reads. -/
def inputOf? (arguments : List String) : Option String :=
  match Invocation.ofArguments arguments with
  | .ok (.command c) => c.input?
  | _ => none

/-- The outcome of a command line in a working directory, and the directory after it. -/
def runIn (patterns : List String) (t : WorkTree) (arguments : List String) : Outcome × WorkTree :=
  let o := outcomeOf patterns t.read? arguments
  match t.perform o.effects with
  | (t, none) => (o, t)
  | (t, some fault) => (.broken (.file fault), t)

end WireBridge
