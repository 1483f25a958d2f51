import WireBridge.Value

/-!
# Definitions

The content of a definition file: enums, records and options. A record lists the fields of a native type, each
with a type expression, a comment and directives (written `@name(arguments)`); a record declared as a newtype
wraps one field, which is called `value`.

Directive arguments and options hold values of a type `V`: the literals as they are written while a file is
read, and `Value` in every later stage. `Item.mapM` replaces them one by one in the order of the text.
-/

set_option autoImplicit false

namespace WireBridge

/-- The type of a native field: a name with arguments. `wire` marks a type of the wire module, whose name is
dotted. -/
inductive TypeExpr
  | mk (name : String) (args : List TypeExpr) (wire : Bool)
  deriving Repr, Inhabited

namespace TypeExpr

def name : TypeExpr → String
  | mk n _ _ => n

def args : TypeExpr → List TypeExpr
  | mk _ as _ => as

def wire : TypeExpr → Bool
  | mk _ _ w => w

/-- A name without arguments. -/
def named (n : String) : TypeExpr := mk n [] false

mutual

/-- The type as it is written in a definition file. -/
def text : TypeExpr → String
  | mk n as w =>
    (if w then "wire." else "") ++ n ++ (if as.isEmpty then "" else "[" ++ ", ".intercalate (texts as) ++ "]")

def texts : List TypeExpr → List String
  | [] => []
  | t :: ts => t.text :: texts ts

end

end TypeExpr

/-- An argument of a directive, with the name it is given under. -/
structure Argument (V : Type) where
  name : Option String
  value : V
  deriving DecidableEq, Repr

structure Directive (V : Type) where
  name : String
  arguments : List (Argument V)
  deriving DecidableEq, Repr

structure VariantDecl (V : Type) where
  name : String
  comment : Option String
  directives : List (Directive V)
  deriving DecidableEq, Repr

structure EnumDecl (V : Type) where
  name : String
  variants : List (VariantDecl V)
  comment : Option String
  directives : List (Directive V)
  deriving DecidableEq, Repr

structure FieldDecl (V : Type) where
  name : String
  type : TypeExpr
  comment : Option String
  directives : List (Directive V)
  deriving Repr

structure RecordDecl (V : Type) where
  name : String
  fields : List (FieldDecl V)
  comment : Option String
  directives : List (Directive V)
  newtype : Bool
  deriving Repr

structure OptionDecl (V : Type) where
  name : String
  value : V
  comment : Option String
  deriving DecidableEq, Repr

/-- What a definition file declares, each kind in the order of the file. -/
structure Definitions (V : Type) where
  enums : List (EnumDecl V)
  records : List (RecordDecl V)
  options : List (OptionDecl V)
  deriving Repr

/-- One top-level item of a definition file. -/
inductive Item (V : Type)
  | options (settings : List (OptionDecl V))
  | enum (decl : EnumDecl V)
  | record (decl : RecordDecl V)
  deriving Repr

namespace Definitions

variable {V : Type}

def empty : Definitions V := ⟨[], [], []⟩

/-- The definitions of a list of items. -/
def ofItems (items : List (Item V)) : Definitions V where
  enums := items.filterMap fun | .enum e => some e | _ => none
  records := items.filterMap fun | .record r => some r | _ => none
  options := items.flatMap fun | .options os => os | _ => []

/-- The names of all declared types, enums first. -/
def typeNames (d : Definitions V) : List String := d.enums.map (·.name) ++ d.records.map (·.name)

end Definitions

/-! ## Replacing the values -/

section MapM

variable {V W : Type} {m : Type → Type} [Monad m]

def Directive.mapM (f : V → m W) (a : Directive V) : m (Directive W) := do
  return ⟨a.name, ← a.arguments.mapM fun x => do return ⟨x.name, ← f x.value⟩⟩

def VariantDecl.mapM (f : V → m W) (v : VariantDecl V) : m (VariantDecl W) := do
  return ⟨v.name, v.comment, ← v.directives.mapM (·.mapM f)⟩

def EnumDecl.mapM (f : V → m W) (e : EnumDecl V) : m (EnumDecl W) := do
  let directives ← e.directives.mapM (·.mapM f)
  return ⟨e.name, ← e.variants.mapM (·.mapM f), e.comment, directives⟩

def FieldDecl.mapM (f : V → m W) (d : FieldDecl V) : m (FieldDecl W) := do
  return ⟨d.name, d.type, d.comment, ← d.directives.mapM (·.mapM f)⟩

def RecordDecl.mapM (f : V → m W) (r : RecordDecl V) : m (RecordDecl W) := do
  let directives ← r.directives.mapM (·.mapM f)
  return ⟨r.name, ← r.fields.mapM (·.mapM f), r.comment, directives, r.newtype⟩

def OptionDecl.mapM (f : V → m W) (o : OptionDecl V) : m (OptionDecl W) := do
  return ⟨o.name, ← f o.value, o.comment⟩

/-- The values of an item stand in the text before its body (its directives) and then in its body. -/
def Item.mapM (f : V → m W) : Item V → m (Item W)
  | .options os => return .options (← os.mapM (·.mapM f))
  | .enum e => return .enum (← e.mapM f)
  | .record r => return .record (← r.mapM f)

def Definitions.mapM (f : V → m W) (d : Definitions V) : m (Definitions W) := do
  return ⟨← d.enums.mapM (·.mapM f), ← d.records.mapM (·.mapM f), ← d.options.mapM (·.mapM f)⟩

end MapM

end WireBridge
