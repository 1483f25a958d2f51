/-!
# Options on a command line

An option has a long name, perhaps a letter, and takes a value or is a flag. `scan` reads the arguments of a
command: `--name value`, `--name=value`, `-n value`, `-nvalue`, and several letters of flags behind one dash. Two
dashes alone end the options, and a value is the next argument whatever it looks like.

* `Setting` : an option that is given, with its value unless it is a flag;
* `Scan.value?`, `Scan.isSet` : what the settings say; of several values of one option the last counts.
-/

set_option autoImplicit false

namespace WireBridge

structure OptionSpec where
  name : String
  letter : Option Char
  takesValue : Bool
  required : Bool
  description : String
  deriving DecidableEq, Repr

/-- Why arguments are not understood. -/
inductive UsageFault
  | noSuchOption (option : String)
  | withoutValue (option : String)
  /-- A flag is given a value. -/
  | unwantedValue (option : String)
  | missingOption (option : String)
  | extraArguments (arguments : List String)
  | noSuchCommand (name : String)
  | noCommand
  deriving DecidableEq, Repr

def UsageFault.message : UsageFault → String
  | noSuchOption o => s!"No such option: {o}"
  | withoutValue o => s!"Option {o} requires an argument."
  | unwantedValue o => s!"Option {o} does not take a value."
  | missingOption o => s!"Missing option {o}."
  | extraArguments as => "Got unexpected extra arguments (" ++ " ".intercalate as ++ ")"
  | noSuchCommand c => s!"No such command {c}."
  | noCommand => "Missing command."

structure Setting where
  option : String
  value : Option String
  deriving DecidableEq, Repr

/-- The options and the other arguments of a command. -/
structure Scan where
  settings : List Setting
  arguments : List String
  deriving DecidableEq, Repr

namespace Scan

/-- The value of an option, if it is given. -/
def value? (s : Scan) (option : String) : Option String :=
  ((s.settings.filter fun x => x.option = option).getLast?).bind (·.value)

def isSet (s : Scan) (option : String) : Bool := s.settings.any fun x => x.option = option

end Scan

/-- The settings in one argument, and the option that takes the next argument as its value. -/
abbrev ArgumentReading := Except UsageFault (List Setting × Option OptionSpec)

section Reading

variable (specs : List OptionSpec)

def long? (name : String) : Option OptionSpec := specs.find? fun o => o.name = name

def letter? (c : Char) : Option OptionSpec := specs.find? fun o => o.letter = some c

/-- An argument behind two dashes. -/
def readLong (body : List Char) : ArgumentReading :=
  let name := String.ofList (body.takeWhile (· ≠ '='))
  match long? specs name, body.dropWhile (· ≠ '=') with
  | none, _ => .error (.noSuchOption ("--" ++ name))
  | some o, [] => if o.takesValue then .ok ([], some o) else .ok ([⟨o.name, none⟩], none)
  | some o, _ :: value =>
    if o.takesValue then .ok ([⟨o.name, some (String.ofList value)⟩], none) else .error (.unwantedValue ("--" ++ name))

/-- Letters behind one dash. -/
def readLetters : List Char → ArgumentReading
  | [] => .ok ([], none)
  | c :: rest =>
    match letter? specs c with
    | none => .error (.noSuchOption (String.ofList ['-', c]))
    | some o =>
      if o.takesValue then
        if rest.isEmpty then .ok ([], some o) else .ok ([⟨o.name, some (String.ofList rest)⟩], none)
      else do
        let (settings, pending) ← readLetters rest
        return (⟨o.name, none⟩ :: settings, pending)

/-- What an argument is; nothing if it is none of the options. -/
def readOption? (argument : List Char) : Option ArgumentReading :=
  match argument with
  | ['-'] => none
  | '-' :: '-' :: body => some (readLong specs body)
  | '-' :: letters => some (readLetters specs letters)
  | _ => none

/-- The options among some arguments. With `leading` they end at the first other argument. -/
def scan (leading : Bool) : List String → Except UsageFault Scan
  | [] => .ok ⟨[], []⟩
  | argument :: rest =>
    if argument = "--" then .ok ⟨[], rest⟩
    else
      match readOption? specs argument.toList with
      | none =>
        if leading then .ok ⟨[], argument :: rest⟩
        else do
          let s ← scan leading rest
          return ⟨s.settings, argument :: s.arguments⟩
      | some reading => do
        match ← reading with
        | (settings, none) =>
          let s ← scan leading rest
          return ⟨settings ++ s.settings, s.arguments⟩
        | (settings, some o) =>
          match rest with
          | [] => throw (.withoutValue ("--" ++ o.name))
          | value :: rest =>
            let s ← scan leading rest
            return ⟨settings ++ ⟨o.name, some value⟩ :: s.settings, s.arguments⟩

end Reading

end WireBridge
