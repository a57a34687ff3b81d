import ScriptBundle.CommandLine.Arguments

/-!
# Items of a command line

What a command line says, apart from how it is spelled: bare arguments, options with their values,
and flags, in the order of the line.
-/

namespace ScriptBundle.CommandLine

inductive Item where
  | bare (text : String)
  | valued (v : Valued) (value : String)
  | flag (f : Flag)
  deriving DecidableEq, Repr

namespace Arguments

/-- The arguments with what an item gives. -/
def add (a : Arguments) : Item → Arguments
  | .bare text => a.bare text
  | .valued v value => a.put value v
  | .flag f => { a with flags := a.flags ++ [f] }

/-- Takes one more item. What may be given once is refused the second time. -/
def take (a : Arguments) : Item → Except Usage Arguments
  | .bare text => .ok (a.bare text)
  | .valued v value => a.record v value
  | .flag f =>
    if a.has f then .error (.repeated (.flag f)) else .ok { a with flags := a.flags ++ [f] }

theorem eq_add_of_take {a b : Arguments} {item : Item} (h : a.take item = .ok b) : b = a.add item := by
  cases item with
  | bare text => exact (Except.ok.inj h).symm
  | valued v value =>
    unfold take record at h
    dsimp only at h
    split at h
    · cases h
    · exact (Except.ok.inj h).symm
  | flag f =>
    unfold take at h
    dsimp only at h
    split at h
    · cases h
    · exact (Except.ok.inj h).symm

end Arguments

namespace Item

/-- The text of a bare argument. -/
def bare? : Item → Option String
  | .bare text => some text
  | _ => none

/-- The value of an option, if it is this one. -/
def value? (v : Valued) : Item → Option String
  | .valued v' value => if v' = v then some value else none
  | _ => none

def flag? : Item → Option Flag
  | .flag f => some f
  | _ => none

/-- The label that the item gives, bare or with its option. -/
def label? (item : Item) : Option LabelArgument :=
  (item.bare?.map .bare).or ((item.value? .label).map .option)

end Item
end ScriptBundle.CommandLine
