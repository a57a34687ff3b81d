import ScriptBundle.LabelSet

/-!
# Label lists

A label list grows in place, name by name. Nothing in its type keeps an empty label or a repeat out:
`insert` looks before it adds, and says whether it did. `LabelSet` holds the same list together with
the proof that it has neither.
-/

namespace ScriptBundle

/-- A step that may add to a list of labels. -/
abbrev LabelList := StateM (List String)

namespace LabelList

/-- Adds a name without one leading at sign, unless that is empty or there already. -/
def insert (name : String) : LabelList Bool := do
  let label := LabelSet.bare name
  if label = "" ∨ label ∈ (← get) then return false
  modify (· ++ [label])
  return true

/-- Adds the names in order. -/
def extend : List String → LabelList Unit
  | [] => return
  | name :: names => do
    let _ ← insert name
    extend names

/-- The list that the names make. -/
def collect (names : List String) : List String := ((extend names).run []).2

/-- What is done to a list. -/
inductive Operation where
  | insert (name : String)
  | extend (names : List String)
  deriving DecidableEq, Repr

def Operation.perform : Operation → LabelList Unit
  | .insert name => do
    let _ ← LabelList.insert name
    return
  | .extend names => LabelList.extend names

def performAll : List Operation → LabelList Unit
  | [] => return
  | op :: ops => do
    op.perform
    performAll ops

/-- The lists that operations start from. -/
inductive Start where
  | empty
  | defaults
  | collected (names : List String)
  deriving DecidableEq, Repr

def Start.labels : Start → List String
  | .empty => []
  | .defaults => collect ["dev", "debug", "assert"]
  | .collected names => collect names

end LabelList
end ScriptBundle
