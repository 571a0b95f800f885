import Contracts.Domain.Direction
import Contracts.Domain.Folding
import Contracts.Domain.Joining
import Contracts.Text.Composition
import Contracts.Text.Punycode

/-!
Names of hosts in normal form: labels between dots, folded and composed, and those that are not
ASCII written in Punycode.
-/

namespace Contracts.Domain

/-- The mark of a label in Punycode. -/
def mark : List Char := ['x', 'n', '-', '-']

def isAscii (cs : List Char) : Bool := cs.all (·.toNat < 0x80)

/-- Whether folding leaves a label as it is. -/
def isFolded (label : List Char) : Bool :=
  label.all (fun c => fold? c == some [c]) && Composition.normalize label == label

/-- Whether a label may be shown as it is: no mark begins it and each joiner has its place. -/
def isValid (label : List Char) : Bool :=
  !label.head?.any isMark && joinersFit [] label

/-- The label that is shown for a folded one: a label in Punycode is decoded, and has to decode to
a folded one that is not ASCII. -/
def shown? (label : List Char) : Option (List Char) :=
  let shown? :=
    if mark.isPrefixOf label then
      let digits := label.drop mark.length
      if digits.isEmpty ∨ digits.getLast? = some '-' ∨ digits.length > 2000 then none
      else (Punycode.decode? digits).filter isFolded
    else some label
  shown?.filter fun label => isAscii label || isValid label

/-- The written form of a label that is shown. -/
def written? (label : List Char) : Option (List Char) :=
  if isAscii label then some label
  else if label.length > 1000 then none
  else some (mark ++ Punycode.encode label)

/-- Whether the labels of a name agree with each other in direction. -/
def isConsistent (labels : List (List Char)) : Bool :=
  let labels := labels.map (·.map Direction.ofChar)
  !labels.any (·.any Direction.isRightward) || labels.all Direction.isConsistent

/-- Whether a character may not stand in a name. -/
def isForbidden (c : Char) : Bool :=
  c.toNat ≤ 0x20 || c.toNat == 0x7F || "#/:<>?@[\\]^|%".toList.contains c

/-- The normal form of a name. -/
def normalize? (name : List Char) : Option (List Char) := do
  let folded ← name.mapM fold?
  let labels ← (splitAll '.' (Composition.normalize folded.flatten)).mapM shown?
  if labels.any (·.any isForbidden) || !isConsistent labels then none
  else
    let written ← labels.mapM written?
    some (['.'].intercalate written)

end Contracts.Domain
