import WireBridge.Enum.Mapping
import WireBridge.Value

/-!
# Matching of enums at run time

A wire enum is an enumeration, whose members have names and values, or any other object. The function `Name` of a wire
enum tells the name of a value and its function `Value` the value of a name, where it has them; they are given from
outside. `matchFromWire` and `matchToWire` convert between the variants of a native enum and the values of a wire enum
by their names; a value without a counterpart is a drift.

* `Objects` : what has to be known of the objects that are no members of enumerations. `Object` is a value that is told
  from other objects of the same value;
* `memberOf?` : the member that a name of an enumeration stands for. A member is another name of an earlier one if that
  is found by its value: it has the same object for its value, or an equal one;
* `wireName` : the name of a wire value, or the value as text where `Name` knows none;
* `wireMember?` : the wire value of a name;
* `enumFromWire`, `enumToWire` : the conversions of an enum that is known by its variants only. The table of all
  candidate names (`candidateTable`) is built anew on each call;
* `NativeEnum.fromWire`, `NativeEnum.toWire` : the same for a native enumeration, which is run through member by member.
-/

set_option autoImplicit false

namespace WireBridge

/-! ## Objects -/

/-- What a call stops with in place of a result. -/
inductive Raised
  | valueError
  /-- Any other exception, by its class. -/
  | other (type : String)
  deriving DecidableEq, Repr

/-- What matching has to know of objects. -/
class Objects (V : Type) where
  /-- The object as text. -/
  text : V → Except Raised String
  /-- The first object is found where the second is looked up: they are one object, or they are equal. -/
  finds : V → V → Bool
  /-- The object stands for no value. -/
  isNull : V → Bool

/-- A value that is told from other objects of the same value, by a number. -/
structure Object where
  id : Nat
  value : Value
  deriving DecidableEq, Repr

instance : Objects Object where
  text o := match o.value.plain? with
    | some s => .ok s
    | none => .error .valueError
  finds a b := a = b || a.value.same b.value
  isNull o := o.value = .null

/-- A value on either side: a member of a wire enumeration, a member of any other enumeration, or another object. -/
inductive EnumValue (V : Type)
  | member (name : String)
  | variant (name : String)
  | plain (v : V)
  deriving DecidableEq, Repr

/-! ## Enumerations -/

section Members

variable {V : Type} [Objects V]

/-- The first name of a value. -/
def nameOf? (entries : List (String × V)) (v : V) : Option String :=
  (entries.find? fun e => Objects.finds e.2 v).map (·.1)

/-- The member that a name of an enumeration stands for. -/
def memberOf? (members : List (String × V)) (name : String) : Option String :=
  (members.lookup name).map fun v => (nameOf? (members.takeWhile (·.1 ≠ name)) v).getD name

end Members

/-! ## Wire enums -/

/-- A native and a wire enum no longer share a name. -/
inductive EnumDrift
  | noVariant (enum wireName : String)
  | noWireName (enum variant : String)
  deriving DecidableEq, Repr

def EnumDrift.message : EnumDrift → String
  | noVariant e n => s!"No matching {e} variant for wire value {n}"
  | noWireName e v => s!"No matching wire variant for {e}.{v}"

/-- Why there is no counterpart: there is none, or a function of the wire enum stops. -/
inductive MatchFault
  | drift (d : EnumDrift)
  | raised (e : Raised)
  deriving DecidableEq, Repr

/-- Every candidate name of some variants with the first variant that has it, met variant by variant. -/
def candidateTable (enum : String) (variants : List String) : List (String × String) :=
  variants.foldl
    (fun table v => (candidateNames enum v).foldl (fun table n => EnumMapping.addEntry table (n, v)) table) []

structure WireEnum (V : Type) where
  /-- The members of an enumeration with their values. -/
  members? : Option (List (String × V))
  /-- The function `Name`. -/
  name? : Option (V → Except Raised String)
  /-- The function `Value`. -/
  value? : Option (String → Except Raised (EnumValue V))

namespace WireEnum

variable {V : Type}

/-- An enumeration without functions of its own. A member called `Name` stands in the place of the function, and cannot
be called. -/
def enumeration (members : List (String × V)) : WireEnum V where
  members? := some members
  name? := if (members.lookup "Name").isSome then some fun _ => .error (.other "TypeError") else none
  value? := none

variable [Objects V]

/-- An object whose functions look through a list of names with values. -/
def listing (entries : List (String × V)) : WireEnum V where
  members? := none
  name? := some fun v => match nameOf? entries v with
    | some n => .ok n
    | none => .error .valueError
  value? := some fun n => match entries.lookup n with
    | some v => .ok (.plain v)
    | none => .error .valueError

/-- The name of a wire value. -/
def wireName (w : WireEnum V) : EnumValue V → Except Raised String
  | .member n => .ok ((w.members?.bind (memberOf? · n)).getD n)
  | .variant n => .ok n
  | .plain v =>
    match w.name? with
    | none => Objects.text v
    | some name =>
      match name v with
      | .error .valueError => Objects.text v
      | answer => answer

/-- The wire value of a name; nothing counts as no value. -/
def wireMember? (w : WireEnum V) (name : String) : Except Raised (Option (EnumValue V)) :=
  match w.members? with
  | some members => .ok ((memberOf? members name).map .member)
  | none =>
    match w.value? with
    | none => .ok none
    | some value =>
      match value name with
      | .error .valueError => .ok none
      | .error e => .error e
      | .ok (.plain v) => .ok (if Objects.isNull v then none else some (.plain v))
      | .ok m => .ok (some m)

/-- The variant that a table has for a wire value. -/
def matchFromWire (w : WireEnum V) (table : List (String × String)) (v : EnumValue V) (enum : String) :
    Except MatchFault String := do
  let name ← (w.wireName v).mapError .raised
  match table.lookup name with
  | some variant => return variant
  | none => throw (.drift (.noVariant enum name))

/-- The first wire value that one of the names has. -/
def matchToWire (w : WireEnum V) (candidates : List String) (enum variant : String) :
    Except MatchFault (EnumValue V) :=
  match candidates with
  | [] => .error (.drift (.noWireName enum variant))
  | n :: rest => do
    match ← (w.wireMember? n).mapError .raised with
    | some v => return v
    | none => w.matchToWire rest enum variant

def enumFromWire (w : WireEnum V) (enum : String) (variants : List String) (v : EnumValue V) :
    Except MatchFault String :=
  w.matchFromWire (candidateTable enum variants) v enum

def enumToWire (w : WireEnum V) (enum variant : String) : Except MatchFault (EnumValue V) :=
  w.matchToWire (candidateNames enum variant) enum variant

end WireEnum

/-! ## Native enumerations -/

/-- A native enumeration: its members in order, with their values. -/
structure NativeEnum (V : Type) where
  name : String
  members : List (String × V)
  deriving DecidableEq, Repr

namespace NativeEnum

variable {U V : Type} [Objects U] [Objects V]

/-- The members in order, without those that are another name of an earlier member. -/
def variants (c : NativeEnum U) : List String :=
  (c.members.map (·.1)).filter fun n => memberOf? c.members n = some n

def fromWire (c : NativeEnum U) (w : WireEnum V) (v : EnumValue V) : Except MatchFault String :=
  w.enumFromWire c.name c.variants v

def toWire (c : NativeEnum U) (w : WireEnum V) (variant : String) : Except MatchFault (EnumValue V) :=
  w.enumToWire c.name variant

end NativeEnum

end WireBridge
