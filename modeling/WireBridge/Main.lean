import WireBridge.CommandLine.Outcome
import WireBridge.Decision.Selection

/-!
# The program

Reads the definition file of a command line, if it has one, prints the outcome and performs its effects.
-/

set_option autoImplicit false

namespace WireBridge

def faultOf : IO.Error → FileFault
  | .inappropriateType .. => .isDirectory
  | .alreadyExists .. => .inTheWay
  | _ => .missing

def readInput (path : String) : IO (Except FileFault String) := do
  try
    return .ok (← IO.FS.readFile path)
  catch e =>
    return .error (faultOf e)

def performEffect : Effect → IO Unit
  | .directory path => IO.FS.createDirAll path
  | .file path text => IO.FS.writeFile path text

def breakdownLine : Breakdown → String
  | .file .missing => "Error: no such file or directory"
  | .file .isDirectory => "Error: is a directory"
  | .file .notDirectory => "Error: not a directory"
  | .file .inTheWay => "Error: file exists"
  | .unorderedModules => "Error: modules cannot be put in order"
  | .console .strayEnd => "Error: a style tag ends nothing"
  | .console .unreadableCall => "Error: the call of a handler cannot be read"
  | .console .emptyColorPart => "Error: a part of a color is empty"

/-- Performs an outcome; a command whose effects fail prints nothing else. -/
def performOutcome (o : Outcome) : IO UInt32 := do
  o.effects.forM performEffect
  IO.print (printed o.output)
  IO.eprint (printed (o.errors ++ (o.breakdown.map breakdownLine).toList))
  return o.exitCode.toUInt32

end WireBridge

open WireBridge in
def main (arguments : List String) : IO UInt32 := do
  let patterns := tracePatterns (← IO.getEnv "WIREMAP_DEBUG")
  let source ←
    match inputOf? arguments with
    | some path => readInput path
    | none => pure (.error .missing)
  performOutcome (outcomeOf patterns (fun _ => source) arguments)
