/-!
# Order of texts

Texts are ordered by the code points of their characters. `sortTexts` puts a list in order and keeps every text of
it (`mem_sortTexts`).
-/

set_option autoImplicit false

namespace WireBridge.Text

def sortTexts (ts : List String) : List String := ts.mergeSort fun a b => decide (a ≤ b)

theorem mem_sortTexts {t : String} {ts : List String} : t ∈ sortTexts ts ↔ t ∈ ts := by
  simp [sortTexts]

end WireBridge.Text
