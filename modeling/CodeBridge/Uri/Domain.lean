import CodeBridge.Text.Runs
import CodeBridge.Uri.Domain.Label

/-! # Domain names

The name of a host is put into the form in which it is looked up: folded, composed, and each of its
labels in ASCII.
-/

namespace CodeBridge.Uri

/-- ASCII characters that no domain name holds. -/
def isForbiddenInDomain (c : Char) : Bool :=
  c.toNat ≤ 0x20 || c.toNat = 0x7F ||
    ['%', '#', '/', ':', '<', '>', '?', '@', '[', '\\', ']', '^', '|'].contains c

/-- The labels of a name. As soon as one of them runs from right to left, each one has to keep to
its direction. -/
def labels? (name : List Char) : Option (List Label) := do
  let labels ← (Text.runs (· == '.') name).mapM Label.of?
  let mixed := labels.any fun label => Label.hasRightToLeft label.text
  if mixed && !labels.all fun label => Label.keepsDirection label.text then none
  else some labels

/-- The form in which a name is looked up. -/
def domain? (name : List Char) : Option (List Char) := do
  let name := Unicode.composed (← fold? name)
  if name.any isForbiddenInDomain then none
  else
    let labels ← labels? name
    some (['.'].intercalate (labels.map Label.written))

end CodeBridge.Uri
