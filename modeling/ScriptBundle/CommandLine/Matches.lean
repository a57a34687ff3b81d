import ScriptBundle.CommandLine.Item
import ScriptBundle.CommandLine.Run

/-!
# Values by kind

A reader of command lines may hand out its values by kind, each with an index that grows along the
line. Labels then come in two lists, the bare arguments and the values of their option. Sorting both
together by the indices gives the order of the line again, and the labels are added in that order.
-/

namespace ScriptBundle.CommandLine

structure Matches where
  /-- Bare arguments, each with its index. -/
  bare : List (Nat × String)
  /-- Values of the option for labels, each with its index. -/
  named : List (Nat × String)
  /-- All that is no label. -/
  others : Arguments
  deriving DecidableEq, Repr

namespace Matches

/-- The values of some kind among the items, with the indices of these. -/
def pick (index : Nat → Nat) (value? : Item → Option String) (items : List Item) :
    List (Nat × String) :=
  items.zipIdx.filterMap fun x => (value? x.1).map (index x.2, ·)

/-- What the items of a line come to, given the index of each. -/
def collect (index : Nat → Nat) (items : List Item) (a : Arguments) : Matches where
  bare := pick index Item.bare? items
  named := pick index (Item.value? .label) items
  others := { a with labels := [] }

/-- The names of labels in the order of the line. -/
def inOrder (m : Matches) : List (Nat × String) :=
  (m.bare ++ m.named).mergeSort fun x y => x.1 ≤ y.1

def labels (m : Matches) : LabelSet := LabelSet.defaults.extend (m.inOrder.map (·.2))

/-- The first bare argument that is no label. -/
def stray? (m : Matches) : Option String := (m.bare.map (·.2)).find? (·.toList.head? ≠ some '@')

/-- The configuration that the values describe. -/
def config (env : Environment) (m : Matches) : Action Config := do
  if let some text := m.stray? then throw (.unknownArgument text)
  let c ← CommandLine.config env m.others
  return { c with labels := m.labels }

end Matches
end ScriptBundle.CommandLine
