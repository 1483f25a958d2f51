import WireBridge.Assembly.Basic
import WireBridge.CommandLine.JsonTree
import WireBridge.CommandLine.Markup
import WireBridge.CommandLine.Table

/-!
# Reports on decisions

What an assembly decided about every field and every variant, for a reader (`decisionReport`) and for a program
(`decisionTree`). A report for a reader is a list of blocks for the console, of which some may not be fit to be shown.
-/

set_option autoImplicit false

namespace WireBridge

/-! ## For a reader -/

/-- Lines for the console, or why they cannot be shown. -/
abbrev ConsoleBlock := Except MarkupFault (List String)

def consoleLine (markup : String) : ConsoleBlock := do return (← (← Markup.shown markup).checked).lines

/-- The cells of a table, column by column. -/
def columnsOf (rows : List (List String)) : List (List String) :=
  (List.range ((rows.map List.length).foldl max 0)).map fun n => rows.filterMap (·[n]?)

/-- A table; its cells are read column by column, and only then are their styles used. -/
def consoleTable (rows : List (List String)) : ConsoleBlock := do
  discard ((columnsOf rows).flatten.mapM Markup.shown)
  let cells ← rows.mapM fun (row : List String) => row.mapM fun cell => do (← Markup.shown cell).checked
  return tableLines (cells.map fun (row : List Shown) => row.map fun cell => String.ofList cell.text)

def RecordPlan.title (p : RecordPlan) : String :=
  Markup.styled "bold cyan" p.name ++
  (if p.descriptor.wireName = p.name then "" else " " ++ Markup.styled "dim" ("<- " ++ p.descriptor.wireName)) ++
  match p.errorClass with
  | some e => if e = "" then "" else " " ++ Markup.styled "yellow" ("raises " ++ e)
  | none => ""

def FieldPlan.row (p : FieldPlan) : List String :=
  let f := p.descriptor
  [f.nativeName, f.shape.text, f.wireName ++ if f.wireOptional then "?" else "", p.absence.text, p.strategy.text]

def RecordPlan.report (p : RecordPlan) : List ConsoleBlock :=
  [consoleLine p.title,
    consoleTable (["Field", "Shape", "Wire", "Error mode", "Strategy"] :: p.fields.map FieldPlan.row),
    .ok [""]]

def EnumPlan.rows (p : EnumPlan) : List (List String) :=
  p.mapping.variants.map fun (variant, names) => [p.name ++ "." ++ variant, ", ".intercalate names]

def enumReport (plans : List EnumPlan) : List ConsoleBlock :=
  if plans.isEmpty then []
  else
    [consoleLine (Markup.styled "bold cyan" "Enums"),
      consoleTable (["Variant", "Wire names"] :: plans.flatMap EnumPlan.rows), .ok [""]]

/-- The decisions about all types that are planned. -/
def decisionReport (a : Assembly) : List ConsoleBlock := a.records.flatMap RecordPlan.report ++ enumReport a.enums

/-! ## For a program -/

def FunctionRef.tree (r : FunctionRef) : JsonTree := .object [("module", .scalar r.module), ("path", .text r.path)]

def Absence.tree (a : Absence) : JsonTree :=
  .object [("kind", .text a.kind.name), ("function", (a.function.map FunctionRef.tree).getD (.scalar .null))]

def Strategy.tree (s : Strategy) : JsonTree :=
  .object [("kind", .text s.kind.name), ("collection", .textOrNull (s.collection.map CollectionKind.name)),
    ("collect_with_error", .flag s.withError)]

def FieldPlan.tree (p : FieldPlan) : JsonTree :=
  .object [("wire_name", .text p.descriptor.wireName), ("shape", .text p.descriptor.shape.text),
    ("wire_optional", .flag p.descriptor.wireOptional), ("error_mode", p.absence.tree), ("strategy", p.strategy.tree)]

def RecordPlan.tree (p : RecordPlan) : JsonTree :=
  .object [("wire_name", .text p.descriptor.wireName), ("newtype", .flag p.descriptor.newtype),
    ("fallible", .flag p.fallible), ("error_class", .textOrNull p.errorClass),
    ("fields", .object (p.fields.map fun f => (f.descriptor.nativeName, f.tree)))]

def EnumMapping.tree (m : EnumMapping) : JsonTree :=
  .object [("name", .text m.name), ("wire_name", .text m.wireName),
    ("variants", .list (m.variants.map fun (variant, names) => .list [.text variant, .list (names.map .text)]))]

def problemTree (e : ConfigError) : JsonTree :=
  .object [("path", .textOrNull e.path), ("message", .text e.content.message)]

/-- The decisions about all types that are planned, and the problems of the others. -/
def decisionTree (a : Assembly) : JsonTree :=
  .object [("records", .object (a.records.map fun r => (r.name, r.tree))),
    ("enums", .object (a.enums.map fun e => (e.name, e.mapping.tree))),
    ("errors", .list (a.errors.map problemTree))]

end WireBridge
