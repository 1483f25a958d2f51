import WireBridge.Text.Identifier
import WireBridge.Value

/-!
# References to functions

A `FunctionRef` names a function or a class attribute by its module and its dotted path in it.

* `parts?` : a written reference, `module:path` or a bare `path`, split in two; one line feed may follow it;
* `ofValue` : the reference that a value stands for, where a bare path belongs to the helpers module;
* `expression`, `text` : the reference in generated code and in reports.

A module is a value, since an option may name the helpers module by a number.
-/

set_option autoImplicit false

namespace WireBridge

structure FunctionRef where
  module : Value
  path : String
  deriving DecidableEq, Repr

/-- Why a value is no reference. -/
inductive ReferenceFault
  | malformed
  | withoutModule
  deriving DecidableEq, Repr

namespace FunctionRef

def expression (r : FunctionRef) : String := r.module.plain ++ "." ++ r.path

def text (r : FunctionRef) : String := r.module.plain ++ ":" ++ r.path

/-- The module, if any, and the path of a written reference. -/
def parts? (s : List Char) : Option (Option (List Char) × List Char) :=
  match Text.splitAt ':' (Text.dropFinalNewline s) with
  | [path] => if Text.isDotted path then some (none, path) else none
  | [module, path] => if Text.isDotted module && Text.isDotted path then some (some module, path) else none
  | _ => none

/-- The reference that a value stands for. -/
def ofValue (helpers : Option Value) (v : Value) : Except ReferenceFault FunctionRef :=
  match v with
  | .text s =>
    match parts? s.toList with
    | none => .error .malformed
    | some (some module, path) => .ok ⟨.text (String.ofList module), String.ofList path⟩
    | some (none, path) =>
      match helpers with
      | some module => .ok ⟨module, String.ofList path⟩
      | none => .error .withoutModule
  | _ => .error .malformed

end FunctionRef

end WireBridge
