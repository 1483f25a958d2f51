import WireBridge.Code.Expr
import WireBridge.Code.Native
import WireBridge.Text.Lines

/-!
# Statements of generated code

A field is read from the wire by a `Block`, which binds the local variable of the field: outright, or behind an
absence test whose branch raises an error or fills in a default.

`Block.lines` writes a block. After a branch whose line begins with `raise` the conversion follows at the margin;
after any other it stands in the other branch.
-/

set_option autoImplicit false

namespace WireBridge

/-- Lines moved to the right by four columns a level; an empty line stays empty. -/
def indent (depth : Nat) (lines : List String) : List String := lines.map (Text.padLine (4 * depth))

/-- What an absence test looks at. -/
inductive AbsenceTest
  | isNone (e : Expr)
  | isEmpty (e : Expr)
  deriving DecidableEq, Repr

def AbsenceTest.text : AbsenceTest → String
  | isNone e => e.text ++ " is None"
  | isEmpty e => "not " ++ e.text

/-- The error that a missing wire value raises. -/
inductive RaisedError
  /-- A panic about a required field. -/
  | missing (wireName : String)
  /-- A panic about a field that nothing handles. -/
  | absent (wireName : String)
  /-- An error of the class of a record. -/
  | ofClass (name wireName : String)
  /-- An error that a function builds and whose class may be checked. -/
  | built (function : FunctionRef) (wireName : String) (checked : Option FunctionRef)
  deriving DecidableEq, Repr

def RaisedError.text : RaisedError → String
  | missing n => "ConversionPanic(\"Missing required field: " ++ n ++ "\")"
  | absent n => "ConversionPanic(\"Wire field " ++ n ++ " is absent\")"
  | ofClass c n => c ++ "(\"" ++ n ++ "\")"
  | built f n checked =>
    let error := f.expression ++ "(\"" ++ n ++ "\")"
    match checked with
    | some c => "check_error(" ++ error ++ ", " ++ c.expression ++ ")"
    | none => error

/-- What is done where a wire value is missing. -/
inductive MissingAction
  | fill (name : String) (value : DefaultValue)
  | raise (error : RaisedError)
  deriving DecidableEq, Repr

def assignment (name value : String) : String := name ++ " = " ++ value

def MissingAction.line : MissingAction → String
  | fill name value => assignment name value.text
  | raise error => "raise " ++ error.text

/-- A line that ends the branch where it stands. -/
def leavesBranch (line : String) : Bool := "raise".toList.isPrefixOf line.toList

inductive Block
  /-- The converted value itself. -/
  | value (e : Expr)
  | bind (name : String) (e : Expr)
  | fill (name : String) (value : DefaultValue)
  /-- The conversion behind an absence test. -/
  | guarded (test : AbsenceTest) (missing : MissingAction) (name : String) (present : Expr)
  deriving DecidableEq, Repr

def Block.lines : Block → List String
  | value e => [e.text]
  | bind name e => [assignment name e.text]
  | fill name v => [assignment name v.text]
  | guarded test missing name present =>
    let head := ("if " ++ test.text ++ ":") :: indent 1 [missing.line]
    let binding := [assignment name present.text]
    if leavesBranch missing.line then head ++ binding else head ++ "else:" :: indent 1 binding

end WireBridge
