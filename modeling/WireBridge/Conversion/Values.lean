import WireBridge.Code.Expr
import WireBridge.Conversion.Scope

/-!
# Conversion of values

* `fromWire scope s e d` : the expression that converts the present wire value `e` to the shape `s`, where the
  variables of comprehensions are numbered from `d` on;
* `toWire scope s e d` : the other direction;
* `Shape.isVerbatim` : values of the shape cross as they are. Containers of such values are copied whole, and an
  optional one needs no test;
* `keyedFromWire`, `keyedToWire` : a map from an attribute of its values to the values, which is a sequence of the
  values on the wire.

A custom type that is not declared cannot be converted, and an enum that is not declared only with a helpers
module.
-/

set_option autoImplicit false

namespace WireBridge

/-- Values of this shape cross as they are. -/
def Shape.isVerbatim : Shape → Bool
  | primitive _ => true
  | wire _ => true
  | optional s => s.isVerbatim
  | _ => false

def SequenceKind.brackets : SequenceKind → Brackets
  | list => .list
  | set => .set
  | deque => .deque

/-- The expression that converts a wire value. -/
def fromWire (scope : Scope) : Shape → Expr → (number : Int) → Except ConfigError Expr
  | .primitive _, e, _ => return e
  | .wire _, e, _ => return e
  | .enum n, e, _ => do
    if scope.symbols.isEnum n then return .read n e
    else return .call "enum_from_wire" [← scope.externalEnum n, wireTypeText n] e
  | .custom n, e, _ =>
    if scope.isRecord n then return .read n e else problem (.undeclared n)
  | .optional s, e, d => do
    let inner ← fromWire scope s e d
    return if s.isVerbatim then e else .unlessNone e inner
  | .sequence k s, e, d => do
    let inner ← fromWire scope s (.var (.value d)) (d + 1)
    return if s.isVerbatim then .call k.name [] e else .comprehension k.brackets inner (.value d) e
  | .map k v, e, d => do
    let key ← fromWire scope k (.var (.key d)) (d + 1)
    let value ← fromWire scope v (.var (.value d)) (d + 1)
    return if k.isVerbatim && v.isVerbatim then .call "dict" [] e else .entries key value (.key d) (.value d) e

/-- The expression that converts a native value; every sequence becomes a list. -/
def toWire (scope : Scope) : Shape → Expr → (number : Int) → Except ConfigError Expr
  | .primitive _, e, _ => return e
  | .wire _, e, _ => return e
  | .enum n, e, _ =>
    if scope.symbols.isEnum n then return .write n e
    else return .call "enum_to_wire" [wireTypeText n] e
  | .custom n, e, _ =>
    if scope.isRecord n then return .write n e else problem (.undeclared n)
  | .optional s, e, d => do
    let inner ← toWire scope s e d
    return if s.isVerbatim then e else .unlessNone e inner
  | .sequence _ s, e, d => do
    let inner ← toWire scope s (.var (.value d)) (d + 1)
    return if s.isVerbatim then .call "list" [] e else .comprehension .list inner (.value d) e
  | .map k v, e, d => do
    let key ← toWire scope k (.var (.key d)) (d + 1)
    let value ← toWire scope v (.var (.value d)) (d + 1)
    return if k.isVerbatim && v.isVerbatim then .call "dict" [] e else .entries key value (.key d) (.value d) e

/-- The values of a map shape. -/
def mapValueShape (s : Shape) : Except ConfigError Shape :=
  match s with
  | .map _ v => return v
  | _ => problem (.keyedWithoutMap s)

/-- A map by an attribute of its values, from a sequence of wire values. -/
def keyedFromWire (scope : Scope) (s : Shape) (member : String) (e : Expr) : Except ConfigError Expr := do
  let v ← mapValueShape s
  let value ← fromWire scope v (.var (.wire 0)) 1
  let values := if v.isVerbatim then e else .comprehension .lazy value (.wire 0) e
  return .keyedBy member (.value 0) values

/-- The sequence of the values of a map. -/
def keyedToWire (scope : Scope) (s : Shape) (e : Expr) : Except ConfigError Expr := do
  let v ← mapValueShape s
  let value ← toWire scope v (.var (.value 0)) 1
  return if v.isVerbatim then .call "list" [] (.mapValues e)
    else .comprehension .list value (.value 0) (.mapValues e)

end WireBridge
