import WireBridge.CommandLine.Emoji
import WireBridge.CommandLine.Literal
import WireBridge.CommandLine.Style
import WireBridge.Text.Wrap

/-!
# Style tags

A text for the console may hold tags in square brackets: `[red]` begins a style, `[/red]` or `[/]` ends it, and a
backslash before a bracket takes its meaning away. `[@click=run(1)]` begins a handler instead of a style, whose call
has to be readable when it ends. The console has no colors, so that tags only disappear. In the text between two tags
emoji stand in place of their codes.

* `Markup.shown` : what the console shows of a text;
* `Shown.lines` : the lines of what is shown;
* `Markup.escape` : a text with its brackets escaped;
* `Markup.styled` : a text in a style.
-/

set_option autoImplicit false

namespace WireBridge

/-- Why the console cannot show a text. -/
inductive MarkupFault
  /-- A tag ends nothing. -/
  | strayEnd
  /-- The call of a handler that ends is not readable. -/
  | unreadableCall
  /-- A style has an `rgb` color of which a part is empty. -/
  | emptyColorPart
  deriving DecidableEq, Repr

/-- What the console shows of a text, and the styles that it begins. -/
structure Shown where
  text : List Char
  styles : List (List Char)
  deriving DecidableEq, Repr

namespace Markup

/-! ## Fragments -/

/-- A text without tags, or what stands inside a tag and the number of backslashes before it. -/
inductive Fragment
  | text (s : List Char)
  | tag (backslashes : Nat) (content : List Char)
  deriving DecidableEq, Repr

def isTagStart (c : Char) : Bool := ('a' ≤ c && c ≤ 'z') || c = '#' || c = '/' || c = '@'

def isTagChar (c : Char) : Bool := c ≠ '[' && c ≠ ']'

/-- The tag after an opening bracket, and what follows it. -/
def tagAfter? (s : List Char) : Option (List Char × List Char) :=
  match s.dropWhile isTagChar with
  | ']' :: rest => if s.head?.any isTagStart then some (s.takeWhile isTagChar, rest) else none
  | _ => none

theorem length_of_tagAfter? {s content rest : List Char} (h : tagAfter? s = some (content, rest)) :
    rest.length < s.length := by
  unfold tagAfter? at h
  split at h
  · next r hr =>
    split at h
    · cases h
      have := (List.dropWhile_sublist isTagChar (l := s)).length_le
      rw [hr] at this
      simp only [List.length_cons] at this
      omega
    · cases h
  · cases h

def isBackslash (c : Char) : Bool := c = '\\'

/-- The tag at the start of a text, behind any number of backslashes. -/
def tag? (s : List Char) : Option (Nat × List Char × List Char) :=
  match s.dropWhile isBackslash with
  | '[' :: body => (tagAfter? body).map fun (content, rest) => ((s.takeWhile isBackslash).length, content, rest)
  | _ => none

theorem length_of_tag? {s content rest : List Char} {n : Nat} (h : tag? s = some (n, content, rest)) :
    rest.length < s.length := by
  unfold tag? at h
  split at h
  · next body hb =>
    obtain ⟨⟨_, _⟩, hx, he⟩ := Option.map_eq_some_iff.1 h
    cases he
    have := length_of_tagAfter? hx
    have := (List.dropWhile_sublist isBackslash (l := s)).length_le
    rw [hb] at this
    simp only [List.length_cons] at this
    omega
  · cases h

/-- Fragments with a character before them. -/
def consText (c : Char) : List Fragment → List Fragment
  | .text s :: fs => .text (c :: s) :: fs
  | fs => .text [c] :: fs

/-- The fragments of a text. -/
def fragments (s : List Char) : List Fragment :=
  match s with
  | [] => []
  | c :: rest =>
    match _h : tag? (c :: rest) with
    | some (n, content, after) => .tag n content :: fragments after
    | none => consText c (fragments rest)
termination_by s.length
decreasing_by
  · exact length_of_tag? _h
  · simp

def bracketed (content : List Char) : List Char := '[' :: content ++ [']']

def backslashes (n : Nat) : List Char := List.replicate n '\\'

/-! ## Tags -/

/-- The name of a tag, and what stands behind its equals sign. -/
structure Tag where
  name : List Char
  parameters : Option (List Char)
  deriving DecidableEq, Repr

namespace Tag

def ofContent (content : List Char) : Tag :=
  ⟨content.takeWhile (· ≠ '='), (content.dropWhile (· ≠ '=')).tail?⟩

def isHandler (t : Tag) : Bool := t.name.head? = some '@'

/-- A handler is called without values, or with values that can be read. -/
def isReadable (t : Tag) : Bool := !t.isHandler || t.parameters.all fun p => p.isEmpty || isReadableCall p

/-- The style that a tag begins, as a text. -/
def styleText (t : Tag) : List Char := t.name ++ (t.parameters.map fun p => ' ' :: p).getD []

end Tag

/-- The name of a style in its normal form. -/
def styleName (text : List Char) : Except MarkupFault (List Char) :=
  (Style.normalName text).mapError fun _ => .emptyColorPart

/-- The tag that is ended, by its name or else the last, and the tags that are left. -/
def endedTag? (opened : List Tag) (name : Option (List Char)) : Option (Tag × List Tag) :=
  match name with
  | none => opened.head?.map (·, opened.tail)
  | some name => (opened.find? (·.name = name)).map (·, opened.eraseP (·.name = name))

/-- The tags that are open after a tag that ends one. -/
def endTag (opened : List Tag) (text : List Char) : Except MarkupFault (List Tag) := do
  let name ← if text = [] then pure none else some <$> styleName text
  match endedTag? opened name with
  | none => throw .strayEnd
  | some (t, left) => if t.isReadable then return left else throw .unreadableCall

/-! ## What is shown -/

/-- A text with its escaped brackets opened and its emoji codes replaced. -/
def plainText (s : List Char) : List Char := Emoji.replaceCodes (openBrackets s)
where
  openBrackets : List Char → List Char
    | '\\' :: '[' :: rest => '[' :: openBrackets rest
    | c :: rest => c :: openBrackets rest
    | [] => []

/-- Some text before what is shown. -/
def before (s : List Char) (shown : Shown) : Shown := { shown with text := s ++ shown.text }

/-- What is shown of some fragments, behind tags that are open. -/
def showFragments (opened : List Tag) : List Fragment → Except MarkupFault Shown
  | [] => .ok ⟨[], []⟩
  | .text s :: rest => before (plainText s) <$> showFragments opened rest
  | .tag n content :: rest =>
    let tag := Tag.ofContent content
    if n % 2 = 1 then
      before (backslashes (n / 2) ++ Emoji.replaceCodes (bracketed content)) <$> showFragments opened rest
    else
      match tag.name with
      | '/' :: name => do before (backslashes (n / 2)) <$> showFragments (← endTag opened (Text.strip name)) rest
      | name => do
        let opening : Tag := ⟨← styleName name, tag.parameters⟩
        let shown ← showFragments (opening :: opened) rest
        return { before (backslashes (n / 2)) shown with styles := opening.styleText :: shown.styles }

/-- The controls that the console leaves out: bell, backspace, two feeds and the carriage return. -/
def isSilent (c : Char) : Bool := [7, 8, 11, 12, 13].contains c.toNat

/-- What the console shows of a text. -/
def shown (s : String) : Except MarkupFault Shown :=
  (showFragments [] (fragments s.toList)).map fun shown =>
    { shown with text := shown.text.filter fun c => !isSilent c }

end Markup

namespace Shown

/-- A style that can be used or passed over. -/
def isUsable (style : List Char) : Bool :=
  match Style.ofText style with
  | .error .emptyPart => false
  | _ => true

/-- What is shown, if all its styles are usable. -/
def checked (s : Shown) : Except MarkupFault Shown :=
  if s.styles.all isUsable then .ok s else .error .emptyColorPart

/-- The lines of what is shown. -/
def lines (s : Shown) : List String :=
  (Text.splitAt '\n' s.text).map fun line => String.ofList (Text.expandTabs line)

end Shown

namespace Markup

/-! ## Writing -/

def escapeFragment : Fragment → List Char
  | .text s => s
  | .tag n content => backslashes (2 * n + 1) ++ bracketed content

/-- A backslash that ends a text is doubled, unless it stands behind another. -/
def guardEnd (s : List Char) : List Char :=
  match s.reverse with
  | '\\' :: '\\' :: _ => s
  | '\\' :: _ => s ++ ['\\']
  | _ => s

/-- The text with its tags escaped. -/
def escape (s : String) : String := String.ofList (guardEnd ((fragments s.toList).flatMap escapeFragment))

/-- The text in a style. -/
def styled (style text : String) : String := "[" ++ style ++ "]" ++ text ++ "[/" ++ style ++ "]"

end Markup

end WireBridge
