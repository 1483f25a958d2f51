import WireBridge.CommandLine.Command

/-!
# Help

`helpLines` describes a command, or the program with all commands: its usage, what it does, and its options in two
columns, of which the second is filled up to the width of the page.
-/

set_option autoImplicit false

namespace WireBridge

def programName : String := "cli"

/-- The columns of a page of help. -/
def pageWidth : Nat := 78

/-- Words in lines of at most `width` columns, where a longer word has a line of its own. -/
def fillFrom (width : Nat) (line : String) : List String → List String
  | [] => [line]
  | word :: words =>
    if line.length + 1 + word.length ≤ width then fillFrom width (line ++ " " ++ word) words
    else line :: fillFrom width word words

def fill (width : Nat) (s : String) : List String :=
  match s.splitOn " " with
  | [] => []
  | word :: words => fillFrom width word words

/-- Terms and their descriptions in two columns. -/
def descriptionLines (entries : List (String × String)) : List String :=
  let column := (entries.map (·.1.length)).foldl max 0 + 2
  entries.flatMap fun (term, description) =>
    match fill (pageWidth - column - 2) description with
    | [] => ["  " ++ term]
    | first :: more =>
      ("  " ++ term ++ Text.spaces (column - term.length) ++ first) ::
        more.map fun line => Text.spaces (column + 2) ++ line

def OptionSpec.term (o : OptionSpec) : String :=
  (o.letter.map fun c => String.ofList ['-', c] ++ ", ").getD "" ++ "--" ++ o.name ++
    if o.takesValue then " TEXT" else ""

/-- What an option is for. -/
def OptionSpec.note (o : OptionSpec) : String := o.description ++ if o.required then "  [required]" else ""

def usageLine (about : Option CommandSpec) : String :=
  "Usage: " ++ programName ++
    match about with
    | some c => " " ++ c.name ++ " [OPTIONS]"
    | none => " [OPTIONS] COMMAND [ARGS]..."

def optionLines (options : List OptionSpec) : List String :=
  "Options:" :: descriptionLines (options.map fun o => (o.term, o.note))

def commandLines : List String :=
  "Commands:" :: descriptionLines (commandSpecs.map fun c => (c.name, c.description))

/-- The lines of help about a command, or about all commands. -/
def helpLines (about : Option CommandSpec) : List String :=
  match about with
  | some c => [usageLine about, "", "  " ++ c.description, ""] ++ optionLines c.options
  | none =>
    [usageLine about, "", "  Wiremap conversion code generator.", ""] ++ optionLines [helpOption] ++ "" :: commandLines

end WireBridge
