import WireBridge.CommandLine.Style.Color

/-!
# Styles

A style is a text of words: attributes such as `bold` or `b`, `not` and an attribute, a color, `on` and a color, and
`link` and an address. Later words go before earlier ones.

* `Style.ofText` : the style that a text describes;
* `Style.text` : the normal form of a style: attributes in a fixed order, the color, the background, the link;
* `Style.normalName` : the normal form of a text that describes a style, and of any other text its small letters.
-/

set_option autoImplicit false

namespace WireBridge

inductive StyleAttribute
  | bold
  | dim
  | italic
  | underline
  | blink
  | fastBlink
  | reverse
  | conceal
  | strike
  | doubleUnderline
  | frame
  | encircle
  | overline
  deriving DecidableEq, Repr

namespace StyleAttribute

/-- All attributes, in the order of a normal form. -/
def all : List StyleAttribute :=
  [bold, dim, italic, underline, blink, fastBlink, reverse, conceal, strike, doubleUnderline, frame, encircle, overline]

/-- The names of an attribute, of which the first is the normal one. -/
def names : StyleAttribute → List String
  | bold => ["bold", "b"]
  | dim => ["dim", "d"]
  | italic => ["italic", "i"]
  | underline => ["underline", "u"]
  | blink => ["blink"]
  | fastBlink => ["blink2"]
  | reverse => ["reverse", "r"]
  | conceal => ["conceal", "c"]
  | strike => ["strike", "s"]
  | doubleUnderline => ["underline2", "uu"]
  | frame => ["frame"]
  | encircle => ["encircle"]
  | overline => ["overline", "o"]

def named? (name : List Char) : Option StyleAttribute := all.find? fun a => a.names.contains (String.ofList name)

end StyleAttribute

structure Style where
  /-- What has been said about attributes, the last first. -/
  attributes : List (StyleAttribute × Bool)
  color : Option (List Char)
  background : Option (List Char)
  link : Option (List Char)
  deriving DecidableEq, Repr

namespace Style

def plain : Style := ⟨[], none, none, none⟩

/-- The style with some words added. -/
def withWords (s : Style) : List (List Char) → Except StyleFault Style
  | [] => .ok s
  | [word] =>
    match StyleAttribute.named? (Text.lower word) with
    | some a => .ok { s with attributes := (a, true) :: s.attributes }
    | none =>
      if ["on", "not", "link"].contains (String.ofList (Text.lower word)) then .error .unknownWord
      else (colorNamed word).map fun c => { s with color := some c }
  | word :: next :: rest =>
    match String.ofList (Text.lower word) with
    | "on" => do ({ s with background := some (← colorNamed next) } : Style).withWords rest
    | "not" =>
      match StyleAttribute.named? next with
      | some a => ({ s with attributes := (a, false) :: s.attributes } : Style).withWords rest
      | none => .error .unknownWord
    | "link" => ({ s with link := some next } : Style).withWords rest
    | _ =>
      match StyleAttribute.named? (Text.lower word) with
      | some a => ({ s with attributes := (a, true) :: s.attributes } : Style).withWords (next :: rest)
      | none => do ({ s with color := some (← colorNamed word) } : Style).withWords (next :: rest)

/-- The style that a text describes; `none` is the style that changes nothing. -/
def ofText (text : List Char) : Except StyleFault Style :=
  if Text.strip text = "none".toList then .ok plain else plain.withWords (Text.inkParts text)

/-- The words on an attribute. -/
def attributeWords (s : Style) (a : StyleAttribute) : List String :=
  match s.attributes.lookup a with
  | none => []
  | some true => a.names.take 1
  | some false => "not" :: a.names.take 1

/-- The normal form of a style. -/
def text (s : Style) : String :=
  let words := StyleAttribute.all.flatMap s.attributeWords ++ (s.color.map String.ofList).toList ++
    (s.background.map fun c => ["on", String.ofList c]).getD [] ++
    (s.link.map fun l => ["link", String.ofList l]).getD []
  if words.isEmpty then "none" else " ".intercalate words

/-- The name by which a style is begun and ended. -/
def normalName (text : List Char) : Except StyleFault (List Char) :=
  match ofText text with
  | .ok s => .ok s.text.toList
  | .error .unknownWord => .ok (Text.lower (Text.strip text))
  | .error .emptyPart => .error .emptyPart

end Style

end WireBridge
