import WireBridge.CommandLine.Options
import WireBridge.Output.Generation

/-!
# Commands

`Invocation.ofArguments` reads a command line: one of three commands with its options, or a request for help.

* `gen` : write the module of a definition file;
* `info` : show the decisions about every type of a definition file;
* `runtime` : write the support package.
-/

set_option autoImplicit false

namespace WireBridge

structure GenerateCommand where
  input : String
  output : String
  request : GenerationRequest
  verbose : Bool
  deriving DecidableEq, Repr

structure InspectCommand where
  input : String
  wireModule : Option String
  helpers : Option String
  json : Bool
  deriving DecidableEq, Repr

structure SupportCommand where
  directory : String
  name : String
  deriving DecidableEq, Repr

inductive Command
  | generate (c : GenerateCommand)
  | inspect (c : InspectCommand)
  | support (c : SupportCommand)
  deriving DecidableEq, Repr

/-! ## Options -/

def valueOption (name : String) (letter : Option Char) (description : String) : OptionSpec :=
  ⟨name, letter, true, false, description⟩

def requiredOption (name : String) (letter : Option Char) (description : String) : OptionSpec :=
  ⟨name, letter, true, true, description⟩

def flagOption (name : String) (letter : Option Char) (description : String) : OptionSpec :=
  ⟨name, letter, false, false, description⟩

def helpOption : OptionSpec := flagOption "help" none "Show this message and exit."

def inputOption : OptionSpec := requiredOption "input" (some 'i') "Input definition file"

def moduleOptions : List OptionSpec :=
  [valueOption "wire-module" none "Module holding the wire types",
    valueOption "helpers" none "Module that bare function names resolve against"]

/-- A command by its name, with what help tells about it. -/
structure CommandSpec where
  name : String
  description : String
  options : List OptionSpec
  /-- The command that its options set up. -/
  command : Scan → Except UsageFault Command

namespace Scan

/-- The value of an option that has to be given. -/
def required (s : Scan) (option : String) : Except UsageFault String :=
  match s.value? option with
  | some v => .ok v
  | none => .error (.missingOption ("--" ++ option))

end Scan

def generateCommand (s : Scan) : Except UsageFault Command := do
  return .generate {
    input := ← s.required "input"
    output := ← s.required "output"
    request := {
      runtimeImport := (s.value? "runtime-import").getD defaultRuntime
      wireModule := (s.value? "wire-module").map .text
      helpers := (s.value? "helpers").map .text
      strict := !s.isSet "partial" }
    verbose := s.isSet "verbose" }

def inspectCommand (s : Scan) : Except UsageFault Command := do
  return .inspect {
    input := ← s.required "input"
    wireModule := s.value? "wire-module"
    helpers := s.value? "helpers"
    json := s.isSet "json" }

def supportCommand (s : Scan) : Except UsageFault Command := do
  return .support ⟨(s.value? "output").getD ".", (s.value? "name").getD "wiremap_runtime"⟩

def generateSpec : CommandSpec where
  name := "gen"
  description := "Generate conversion code from a definition file."
  options :=
    [inputOption, requiredOption "output" (some 'o') "Output file",
      valueOption "runtime-import" none
        "Import path for the runtime (use the folder name of `wiremap runtime` to vendor it)"] ++
    moduleOptions ++
    [flagOption "partial" none "Skip types that fail to generate",
      flagOption "verbose" (some 'v') "Log generation decisions", helpOption]
  command := generateCommand

def inspectSpec : CommandSpec where
  name := "info"
  description := "Display the conversion decisions taken for every field."
  options := inputOption :: moduleOptions ++ [flagOption "json" none "Output as JSON", helpOption]
  command := inspectCommand

def supportSpec : CommandSpec where
  name := "runtime"
  description := "Write the runtime support package."
  options :=
    [valueOption "output" (some 'o') "Output directory", valueOption "name" none "Runtime folder name", helpOption]
  command := supportCommand

def commandSpecs : List CommandSpec := [generateSpec, inspectSpec, supportSpec]

/-! ## Invocations -/

inductive Invocation
  /-- Help about a command, or about all of them. -/
  | help (about : Option CommandSpec)
  | command (c : Command)

namespace Invocation

/-- The command that a specification and its arguments stand for. -/
def ofCommand (spec : CommandSpec) (arguments : List String) : Except UsageFault Invocation := do
  let s ← scan spec.options false arguments
  if s.isSet helpOption.name then return .help (some spec)
  let c ← spec.command s
  if s.arguments.isEmpty then return .command c else throw (.extraArguments s.arguments)

def ofArguments (arguments : List String) : Except UsageFault Invocation := do
  let s ← scan [helpOption] true arguments
  if s.isSet helpOption.name then return .help none
  match s.arguments with
  | [] => throw .noCommand
  | name :: rest =>
    match commandSpecs.find? fun c => c.name = name with
    | some spec => ofCommand spec rest
    | none => throw (.noSuchCommand name)

end Invocation

end WireBridge
