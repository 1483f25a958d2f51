import WireBridge.Definition.Reading
import WireBridge.Proofs.Definition.Token

/-!
# Derivations

The grammar of definition files as a relation between texts and derivations. A derivation holds, rule by rule, the
alternatives that were taken and the tokens whose text the grammar leaves open; `tokens` spells out the row of tokens
that a derivation stands for, word and mark by mark, and so has one equation for every alternative of a rule.

    start       :  (options | enum | struct | newtype)*
    options     :  "options" "{" option* "}"
    option      :  doc? name "=" value
    enum        :  doc? directive* "enum" name "{" variant* "}"
    variant     :  doc? name directive*
    struct      :  doc? directive* "struct" name "{" field* "}"
    newtype     :  doc? directive* "struct" name "(" type ")"
    field       :  doc? name ":" type directive*
    type        :  "wire" ("." NAME)+  |  NAME "[" type ("," type)* "]"  |  NAME
    directive   :  "@" NAME ["(" [argument ("," argument)*] ")"]
    argument    :  NAME "=" value  |  value
    value       :  QUOTED  |  NUMBER  |  NAME
    doc         :  DOC+

A `Derivation` of a text is a derivation of `start` with the layout that stands before each of its tokens and after
the last. `items` are the definitions it stands for, with the literals as they are written, and `definitions?` has
their values.
-/

set_option autoImplicit false

namespace WireBridge

/-! ## Values, directives, comments -/

def Literal.token : Literal → Token
  | quoted body => .quoted body
  | number lexeme => .number lexeme
  | symbol n => .name n

def Argument.tokens (x : Argument Literal) : List Token :=
  match x.name with
  | some n => [.name n, .mark '=', x.value.token]
  | none => [x.value.token]

/-- A row with commas between its parts. -/
def separated {α : Type} (tokens : α → List Token) : List α → List Token
  | [] => []
  | a :: as => tokens a ++ as.flatMap fun b => .mark ',' :: tokens b

/-- A directive has no arguments, or a list of them in parentheses, which may be empty. -/
structure DirectiveTree where
  name : String
  arguments : Option (List (Argument Literal))
  deriving DecidableEq, Repr

namespace DirectiveTree

def argumentTokens : Option (List (Argument Literal)) → List Token
  | none => []
  | some as => .mark '(' :: (separated Argument.tokens as ++ [.mark ')'])

def tokens (d : DirectiveTree) : List Token := .mark '@' :: .name d.name :: argumentTokens d.arguments

def directive (d : DirectiveTree) : Directive Literal := ⟨d.name, d.arguments.getD []⟩

end DirectiveTree

/-- The lines of a doc comment, as they stand behind the number signs; none if there is no comment. -/
abbrev DocTree : Type := List (List Char)

namespace DocTree

def tokens (d : DocTree) : List Token := d.flatMap fun body => [.doc body]

def comment (d : DocTree) : Option String :=
  if d.isEmpty then none else some (Text.joinLines (d.map fun body => String.ofList (Text.strip body)))

end DocTree

/-! ## Types -/

inductive TypeTree
  | wire (first : String) (more : List String)
  | generic (name : String) (first : TypeTree) (more : List TypeTree)
  | simple (name : String)

namespace TypeTree

def pathTokens (path : List String) : List Token := path.flatMap fun n => [.mark '.', .name n]

mutual

def tokens : TypeTree → List Token
  | wire first more => .word "wire" :: pathTokens (first :: more)
  | generic n first more => .name n :: .mark '[' :: (tokens first ++ (moreTokens more ++ [.mark ']']))
  | simple n => [.name n]

def moreTokens : List TypeTree → List Token
  | [] => []
  | t :: ts => .mark ',' :: (tokens t ++ moreTokens ts)

end

mutual

def type : TypeTree → TypeExpr
  | wire first more => .mk (".".intercalate (first :: more)) [] true
  | generic n first more => .mk n (type first :: types more) false
  | simple n => .named n

def types : List TypeTree → List TypeExpr
  | [] => []
  | t :: ts => type t :: types ts

end

theorem moreTokens_eq (ts : List TypeTree) : moreTokens ts = ts.flatMap fun t => .mark ',' :: t.tokens := by
  induction ts with
  | nil => rfl
  | cons t ts ih => rw [moreTokens, ih, List.flatMap_cons, List.cons_append]

theorem types_eq (ts : List TypeTree) : types ts = ts.map type := by
  induction ts with
  | nil => rfl
  | cons t ts ih => rw [types, ih, List.map_cons]

/-- Induction on types. -/
theorem induction {P : TypeTree → Prop} (wire : ∀ first more, P (.wire first more))
    (generic : ∀ n first more, P first → (∀ t ∈ more, P t) → P (.generic n first more))
    (simple : ∀ n, P (.simple n)) (t : TypeTree) : P t := by
  match t with
  | .wire first more => exact wire first more
  | .simple n => exact simple n
  | .generic n first more =>
    exact generic n first more (induction wire generic simple first) fun t ht =>
      induction wire generic simple t
termination_by sizeOf t
decreasing_by
  · simp; omega
  · have := List.sizeOf_lt_of_mem ht
    simp; omega

end TypeTree

/-! ## Entries of blocks -/

structure VariantTree where
  doc : DocTree
  name : String
  directives : List DirectiveTree

namespace VariantTree

def tokens (v : VariantTree) : List Token := v.doc.tokens ++ .name v.name :: v.directives.flatMap DirectiveTree.tokens

def variant (v : VariantTree) : VariantDecl Literal := ⟨v.name, v.doc.comment, v.directives.map (·.directive)⟩

end VariantTree

structure FieldTree where
  doc : DocTree
  name : String
  type : TypeTree
  directives : List DirectiveTree

namespace FieldTree

def tokens (f : FieldTree) : List Token :=
  f.doc.tokens ++ .name f.name :: .mark ':' :: (f.type.tokens ++ f.directives.flatMap DirectiveTree.tokens)

def field (f : FieldTree) : FieldDecl Literal := ⟨f.name, f.type.type, f.doc.comment, f.directives.map (·.directive)⟩

end FieldTree

structure OptionTree where
  doc : DocTree
  name : String
  value : Literal

namespace OptionTree

def tokens (o : OptionTree) : List Token := o.doc.tokens ++ [.name o.name, .mark '=', o.value.token]

def option (o : OptionTree) : OptionDecl Literal := ⟨o.name, o.value, o.doc.comment⟩

end OptionTree

/-- Entries between braces. -/
def blockTokens {α : Type} (tokens : α → List Token) (entries : List α) : List Token :=
  .mark '\x7b' :: (entries.flatMap tokens ++ [.mark '\x7d'])

/-! ## Items -/

/-- What follows the comment and the directives of a declared type. -/
inductive BodyTree
  | enum (name : String) (variants : List VariantTree)
  | struct (name : String) (fields : List FieldTree)
  | newtype (name : String) (wrapped : TypeTree)

namespace BodyTree

def tokens : BodyTree → List Token
  | enum n variants => .word "enum" :: .name n :: blockTokens VariantTree.tokens variants
  | struct n fields => .word "struct" :: .name n :: blockTokens FieldTree.tokens fields
  | newtype n wrapped => .word "struct" :: .name n :: .mark '(' :: (wrapped.tokens ++ [.mark ')'])

def item (comment : Option String) (directives : List (Directive Literal)) : BodyTree → Item Literal
  | enum n variants => .enum ⟨n, variants.map (·.variant), comment, directives⟩
  | struct n fields => .record ⟨n, fields.map (·.field), comment, directives, false⟩
  | newtype n wrapped => .record ⟨n, [⟨"value", wrapped.type, none, []⟩], comment, directives, true⟩

end BodyTree

/-- A block of options, or one of the three declarations, which all begin with a comment and directives. -/
inductive ItemTree
  | options (entries : List OptionTree)
  | declaration (doc : DocTree) (directives : List DirectiveTree) (body : BodyTree)

namespace ItemTree

def tokens : ItemTree → List Token
  | options entries => .word "options" :: blockTokens OptionTree.tokens entries
  | declaration doc directives body => doc.tokens ++ (directives.flatMap DirectiveTree.tokens ++ body.tokens)

def item : ItemTree → Item Literal
  | options entries => .options (entries.map (·.option))
  | declaration doc directives body => body.item doc.comment (directives.map (·.directive))

end ItemTree

/-! ## Texts -/

/-- A derivation of a text, with the layout around its tokens. -/
structure Derivation (text : List Char) where
  trees : List ItemTree
  places : List LaidToken
  trailing : List Char
  tokens_eq : places.map LaidToken.token = trees.flatMap ItemTree.tokens
  readable : Readable places trailing
  isTrailing : IsTrailing trailing
  text_eq : text = spelling places ++ trailing

namespace Derivation

variable {text : List Char}

def items (d : Derivation text) : List (Item Literal) := d.trees.map ItemTree.item

/-- The definitions that a derivation stands for, if each of its literals has a value. -/
def definitions? (d : Derivation text) : Except LiteralFault (Definitions LiteralValue) :=
  Definitions.ofItems <$> d.items.mapM (Item.mapM Literal.evaluate)

end Derivation

end WireBridge
