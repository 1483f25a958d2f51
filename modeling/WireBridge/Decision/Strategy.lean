import WireBridge.Decision.Absence

/-!
# Conversion strategies

A `Strategy` is the way in which a field is converted, in both directions. `resolveStrategy` takes the first rule
that applies: an ignored field, conversion functions, a transparent field, a collection, an optional or a field
whose absence is handled; what is left is converted directly.

A collection that is expected with a panic or an error counts as missing when it is empty.
-/

set_option autoImplicit false

namespace WireBridge

inductive StrategyKind
  | ignore
  | custom
  | transparent
  | collection
  | optionOrDefault
  | direct
  deriving DecidableEq, Repr

def StrategyKind.name : StrategyKind → String
  | ignore => "ignore"
  | custom => "custom"
  | transparent => "transparent"
  | collection => "collection"
  | optionOrDefault => "option_or_default"
  | direct => "direct"

/-- The way in which a field is converted. `withError` marks a collection that is missing when it is empty. -/
structure Strategy where
  kind : StrategyKind
  collection : Option CollectionKind
  withError : Bool
  deriving DecidableEq, Repr

namespace Strategy

def ofKind (kind : StrategyKind) : Strategy := ⟨kind, none, false⟩

def text (s : Strategy) : String :=
  match s.kind with
  | .collection =>
    let collection := (s.collection.map CollectionKind.name).getD "None"
    let suffix := if s.withError then ", with error" else ""
    s!"collection({collection}{suffix})"
  | kind => kind.name

end Strategy

/-- A rule for the strategy of a field whose absence is resolved, if it applies. -/
abbrev StrategyRule := FieldDescriptor → Absence → Option Strategy

namespace StrategyRule

def byIgnore : StrategyRule := fun f _ => if f.ignored then some (.ofKind .ignore) else none

def byCustom : StrategyRule := fun f _ => if f.custom.isSome then some (.ofKind .custom) else none

def byTransparent : StrategyRule := fun f _ => if f.transparent then some (.ofKind .transparent) else none

def byCollection : StrategyRule := fun f a =>
  f.collection.map fun c =>
    ⟨.collection, some c, f.expectation.explicit && (a.kind = .error || a.kind = .panic)⟩

def byOptionality : StrategyRule := fun f a =>
  if f.shape.isOptional || a.kind ≠ .unhandled then some (.ofKind .optionOrDefault) else none

end StrategyRule

/-- The rules by name; the first that applies decides. -/
def strategyRules : List (String × StrategyRule) :=
  [("ignored", .byIgnore), ("custom functions", .byCustom), ("transparent", .byTransparent),
    ("collection shape", .byCollection), ("optional or error mode", .byOptionality)]

/-- The strategy of a field whose absence is resolved. -/
def resolveStrategy (f : FieldDescriptor) (a : Absence) : Ruled Strategy :=
  (strategyRules.findSome? fun (name, rule) => (rule f a).map fun s => ⟨s, name⟩).getD
    ⟨.ofKind .direct, "structural"⟩

def Ruled.strategyDecision (member : String) (s : Ruled Strategy) : Decision :=
  ⟨some member, "strategy", s.outcome.text, s.rule⟩

end WireBridge
