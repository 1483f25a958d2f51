import WireBridge.Naming

/-!
# Expressions of generated code

An `Expr` is an expression of the generated language as a tree; `Expr.text` writes it out. A tree starts from
given expressions (`source`) and from loop variables, and every other node is one of the forms that conversions
are made of. A call of a function of a declared type keeps the type (`read`, `write`). `Expr.text` is the only place
where such a tree becomes text.
-/

set_option autoImplicit false

namespace WireBridge

/-- A variable that a comprehension binds, with a number that sets it apart from those around it. -/
inductive LoopVar
  | value (number : Int)
  | key (number : Int)
  /-- A wire value before its conversion, in a keyed map. -/
  | wire (number : Int)
  deriving DecidableEq, Repr

def LoopVar.name : LoopVar → String
  | value n => "_v" ++ toString n
  | key n => "_k" ++ toString n
  | wire n => "_w" ++ toString n

/-- What a comprehension builds. -/
inductive Brackets
  | list
  | set
  | deque
  /-- A sequence that is read once. -/
  | lazy
  deriving DecidableEq, Repr

def Brackets.enclose (b : Brackets) (s : String) : String :=
  match b with
  | list => "[" ++ s ++ "]"
  | set => "\x7b" ++ s ++ "\x7d"
  | deque => "deque(" ++ s ++ ")"
  | lazy => "(" ++ s ++ ")"

/-- What stands for a missing collection. -/
inductive EmptyCollection
  | tuple
  | list
  | map
  | nothing
  deriving DecidableEq, Repr

def EmptyCollection.text : EmptyCollection → String
  | tuple => "()"
  | list => "[]"
  | map => "\x7b\x7d"
  | nothing => "None"

inductive Expr
  /-- An expression that is given as text. -/
  | source (text : String)
  | var (v : LoopVar)
  /-- A wire value of a declared type, read by the function of the type. -/
  | read (type : String) (argument : Expr)
  /-- A native value of a declared type, written by the function of the type. -/
  | write (type : String) (argument : Expr)
  /-- A call whose last argument is an expression. -/
  | call (callee : String) (before : List String) (argument : Expr)
  /-- A record that holds one value. -/
  | construct (type field : String) (argument : Expr)
  /-- Nothing where `tested` is nothing, else `body`. -/
  | unlessNone (tested body : Expr)
  /-- `body` where `tested` holds something, else an empty collection. -/
  | whenHeld (body tested : Expr) (otherwise : EmptyCollection)
  /-- The collection `held`, or an empty one where it is missing. -/
  | orEmpty (held : Expr) (empty : EmptyCollection)
  | parens (e : Expr)
  | comprehension (b : Brackets) (element : Expr) (v : LoopVar) (held : Expr)
  /-- A map built from the entries of another. -/
  | entries (key value : Expr) (keyVar valueVar : LoopVar) (held : Expr)
  /-- A map from an attribute of each value to the value. -/
  | keyedBy (member : String) (v : LoopVar) (held : Expr)
  /-- The values of a map. -/
  | mapValues (held : Expr)
  deriving DecidableEq, Repr

namespace Expr

def text : Expr → String
  | source s => s
  | var v => v.name
  | read type argument => fromWireFunction type ++ "(" ++ argument.text ++ ")"
  | write type argument => toWireFunction type ++ "(" ++ argument.text ++ ")"
  | call callee before argument => callee ++ "(" ++ ", ".intercalate (before ++ [argument.text]) ++ ")"
  | construct type field argument => type ++ "(" ++ field ++ "=" ++ argument.text ++ ")"
  | unlessNone tested body => "None if " ++ tested.text ++ " is None else " ++ body.text
  | whenHeld body tested otherwise => body.text ++ " if " ++ tested.text ++ " else " ++ otherwise.text
  | orEmpty held empty => held.text ++ " or " ++ empty.text
  | parens e => "(" ++ e.text ++ ")"
  | comprehension b element v held => b.enclose (element.text ++ " for " ++ v.name ++ " in " ++ held.text)
  | entries key value keyVar valueVar held =>
    "\x7b" ++ key.text ++ ": " ++ value.text ++ " for " ++ keyVar.name ++ ", " ++ valueVar.name ++ " in " ++
      held.text ++ ".items()\x7d"
  | keyedBy member v held =>
    "\x7b" ++ v.name ++ "." ++ member ++ ": " ++ v.name ++ " for " ++ v.name ++ " in " ++ held.text ++ "\x7d"
  | mapValues held => held.text ++ ".values()"

section Text

variable (e e' held : Expr)

@[simp] theorem text_source (s : String) : (source s).text = s := rfl

@[simp] theorem text_call (callee : String) (before : List String) :
    (call callee before e).text = callee ++ "(" ++ ", ".intercalate (before ++ [e.text]) ++ ")" := rfl

@[simp] theorem text_unlessNone : (unlessNone e e').text = "None if " ++ e.text ++ " is None else " ++ e'.text := rfl

@[simp] theorem text_whenHeld (empty : EmptyCollection) :
    (whenHeld e e' empty).text = e.text ++ " if " ++ e'.text ++ " else " ++ empty.text := rfl

@[simp] theorem text_orEmpty (empty : EmptyCollection) :
    (orEmpty held empty).text = held.text ++ " or " ++ empty.text := rfl

@[simp] theorem text_parens : (parens e).text = "(" ++ e.text ++ ")" := rfl

@[simp] theorem text_comprehension (b : Brackets) (v : LoopVar) :
    (comprehension b e v held).text = b.enclose (e.text ++ " for " ++ v.name ++ " in " ++ held.text) := rfl

@[simp] theorem text_entries (k v : LoopVar) :
    (entries e e' k v held).text =
      "\x7b" ++ e.text ++ ": " ++ e'.text ++ " for " ++ k.name ++ ", " ++ v.name ++ " in " ++ held.text ++
        ".items()\x7d" := rfl

@[simp] theorem text_keyedBy (member : String) (v : LoopVar) :
    (keyedBy member v held).text =
      "\x7b" ++ v.name ++ "." ++ member ++ ": " ++ v.name ++ " for " ++ v.name ++ " in " ++ held.text ++ "\x7d" := rfl

@[simp] theorem text_mapValues : (mapValues held).text = held.text ++ ".values()" := rfl

end Text

end Expr

end WireBridge
