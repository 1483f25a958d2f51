import WireBridge.Text.Blank
import WireBridge.Text.Casing
import WireBridge.Text.Glob
import WireBridge.Text.Identifier

/-!
# Selection of the types that are traced

* `tracePatterns` : the patterns that a setting holds. `all`, `1`, `true` and `*` in any case select every type;
  an empty setting, `0`, `false` and `none` select nothing; any other setting is a list of patterns with commas
  between them;
* `isTraced` : some pattern fits the name of a type.
-/

set_option autoImplicit false

namespace WireBridge

def traceAll : List String := ["all", "1", "true", "*"]

def traceNone : List String := ["", "0", "false", "none"]

/-- The patterns of a setting; no setting is an empty one. -/
def tracePatterns (setting : Option String) : List String :=
  let raw := Text.strip (setting.getD "").toList
  let word := String.ofList (Text.lower raw)
  if word ∈ traceNone then []
  else if word ∈ traceAll then ["*"]
  else ((Text.splitAt ',' raw).map fun p => String.ofList (Text.strip p)).filter (· ≠ "")

/-- Some pattern fits the name. -/
def isTraced (patterns : List String) (type : String) : Bool :=
  patterns.any fun p => (Text.Glob.ofText p).matches type

end WireBridge
