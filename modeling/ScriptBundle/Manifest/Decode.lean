import ScriptBundle.Manifest.Number
import ScriptBundle.Manifest.Text

/-!
# Decoding a manifest

A manifest is an object with a web module under `webmodule`, and a web module names its sources and
its output, both of which may be missing. Either may be written as a list of its fields in order.
Other keys are passed over, whatever their value is, but it has to be well formed.
-/

namespace ScriptBundle

/-- The section of a package manifest that a build reads. -/
structure WebModule where
  source : List String
  output : String
  deriving DecidableEq, Repr

namespace Manifest

namespace Reader

/-- The kinds of bracket. -/
inductive Bracket where
  | list
  | object
  deriving DecidableEq, Repr

def Bracket.closing : Bracket → Char
  | .list => ']'
  | .object => '\x7d'

def Bracket.atEnd : Bracket → Cause
  | .list => .endInList
  | .object => .endInObject

def Bracket.expectedEnd : Bracket → Cause
  | .list => .expectedListEnd
  | .object => .expectedObjectEnd

/-- A colon, after white space. -/
def colon : Reader Unit := do
  match ← peekPastBlanks? with
  | some ':' => skip
  | some _ => failAtNext .expectedColon
  | none => failAtNext .endInObject

/-- Passes over a key and its colon. -/
def skipKey : Reader Unit := do
  match ← peekPastBlanks? with
  | some '"' => skip
  | some _ => failAtNext .keyNotString
  | none => failAtNext .endInObject
  skipString
  colon

/-- Passes over a value that is no list and no object; for a bracket it says which one it is. -/
def skipScalar : Reader (Option Bracket) := do
  match ← peekPastBlanks? with
  | none => failAtNext .endInValue
  | some 'n' => skip; word ['u', 'l', 'l']; return none
  | some 't' => skip; word ['r', 'u', 'e']; return none
  | some 'f' => skip; word ['a', 'l', 's', 'e']; return none
  | some '-' => skip; skipNumber; return none
  | some '"' => skip; skipString; return none
  | some '[' => skip; return some .list
  | some '{' => skip; return some .object
  | some c => if isDigit c then skipNumber; return none else failAtNext .expectedValue

mutual

/-- Passes over a value inside the brackets, and over the rest of what they enclose. Each call takes
a byte or leaves a value to the next one, so twice the length of the text is fuel enough. -/
def skipInside (enclosing : List Bracket) : Nat → Reader Unit
  | 0 => fail .endInValue
  | fuel + 1 => do
    match ← skipScalar with
    | some bracket => skipRest false bracket enclosing fuel
    | none =>
      match enclosing with
      | [] => return
      | bracket :: outer => skipRest true bracket outer fuel

/-- Goes on inside a bracket, where a comma counts if a value came before. -/
def skipRest (comma : Bool) (bracket : Bracket) (outer : List Bracket) : Nat → Reader Unit
  | 0 => fail .endInValue
  | fuel + 1 => do
    match ← peekPastBlanks? with
    | none => failAtNext bracket.atEnd
    | some c =>
      if comma ∧ c = ',' then
        skip
        skipNext bracket outer fuel
      else if c = bracket.closing then
        skip
        match outer with
        | [] => return
        | next :: outer => skipRest true next outer fuel
      else if comma then failAtNext bracket.expectedEnd
      else skipNext bracket outer fuel

/-- Goes on with the next value inside a bracket. -/
def skipNext (bracket : Bracket) (outer : List Bracket) : Nat → Reader Unit
  | 0 => fail .endInValue
  | fuel + 1 => do
    if bracket = .object then skipKey
    skipInside (bracket :: outer) fuel

end

/-- Passes over a value. -/
def skipValue : Reader Unit := do skipInside [] (3 * (← get).length + 3)

/-- Refuses a value of the wrong kind. A list or an object is not taken. -/
def wrongType (wanted : Wanted) : Reader α := do
  let found ← kind
  placed (failInside (.wrongType found wanted))
where
  kind : Reader Found := do
    match ← peek? with
    | some 'n' => skip; word ['u', 'l', 'l']; return .null
    | some 't' => skip; word ['r', 'u', 'e']; return .boolean true
    | some 'f' => skip; word ['a', 'l', 's', 'e']; return .boolean false
    | some '-' => skip; number true
    | some '"' => skip; return .string (← string)
    | some '[' => return .sequence
    | some '{' => return .mapping
    | some c => if isDigit c then number false else failAtNext .expectedValue
    | none => failAtNext .expectedValue

/-- Whether another element of a list follows. -/
def hasElement (first : Bool) : Reader Bool := do
  match ← peekPastBlanks? with
  | none => failAtNext .endInList
  | some ']' => return false
  | some c =>
    if first then return true
    else if c = ',' then
      skip
      match ← peekPastBlanks? with
      | some ']' => failAtNext .trailingComma
      | some _ => return true
      | none => failAtNext .endInValue
    else failAtNext .expectedListEnd

/-- The next key of an object. -/
def key? (first : Bool) : Reader (Option String) := do
  match ← peekPastBlanks? with
  | none => failAtNext .endInObject
  | some '}' => return none
  | some c =>
    if !first && c == ',' then
      skip
      keyFrom (← peekPastBlanks?)
    else if first then keyFrom (some c)
    else failAtNext .expectedObjectEnd
where
  keyFrom : Option Char → Reader (Option String)
    | some '"' => do skip; return some (← string)
    | some '}' => failAtNext .trailingComma
    | some _ => failAtNext .keyNotString
    | none => failAtNext .endInValue

/-- The end of a list. -/
def endList : Reader Unit := do
  match ← peekPastBlanks? with
  | some ']' => skip
  | some ',' =>
    skip
    match ← peekPastBlanks? with
    | some ']' => failAtNext .trailingComma
    | _ => failAtNext .trailingCharacters
  | some _ => failAtNext .trailingCharacters
  | none => failAtNext .endInList

/-- The end of an object. -/
def endObject : Reader Unit := do
  match ← peekPastBlanks? with
  | some '}' => skip
  | some ',' => failAtNext .trailingComma
  | some _ => failAtNext .trailingCharacters
  | none => failAtNext .endInObject

def stringValue : Reader String := do
  match ← peekPastBlanks? with
  | none => failAtNext .endInValue
  | some '"' => skip; string
  | some _ => wrongType .string

def elements (first : Bool) : Nat → Reader (List String)
  | 0 => fail .endInList
  | fuel + 1 => do
    if ← hasElement first then return (← stringValue) :: (← elements false fuel) else return []

def stringList : Reader (List String) := do
  match ← peekPastBlanks? with
  | none => failAtNext .endInValue
  | some '[' =>
    skip
    closedBy (do elements true ((← get).length + 1)) endList
  | some _ => wrongType .sequence

/-- A value that may be written as a list of its fields or as an object. -/
def fields (wanted : Wanted) (ofList ofObject : Reader α) : Reader α := do
  match ← peekPastBlanks? with
  | none => failAtNext .endInValue
  | some '[' => skip; closedBy ofList endList
  | some '{' => skip; closedBy ofObject endObject
  | some _ => wrongType wanted

/-- Reads the value of a field that has not been met before. -/
def once (seen : Option β) (name : String) (value : Reader β) : Reader (Option β) := do
  if seen.isSome then failInside (.duplicateField name)
  else
    colon
    return some (← value)

def otherField : Reader Unit := do
  colon
  skipValue

def webModuleFields (source : Option (List String)) (output : Option String) (first : Bool) :
    Nat → Reader WebModule
  | 0 => fail .endInObject
  | fuel + 1 => do
    match ← key? first with
    | none => return ⟨source.getD [], output.getD ""⟩
    | some "source" => webModuleFields (← once source "source" stringList) output false fuel
    | some "output" => webModuleFields source (← once output "output" stringValue) false fuel
    | some _ => otherField; webModuleFields source output false fuel

def webModuleList : Reader WebModule := do
  if ← hasElement true then
    let source ← stringList
    if ← hasElement false then return ⟨source, ← stringValue⟩ else return ⟨source, ""⟩
  else return ⟨[], ""⟩

def webModule : Reader WebModule :=
  fields .webModule webModuleList do webModuleFields none none true ((← get).length + 1)

def manifestFields (known : Option WebModule) (first : Bool) : Nat → Reader WebModule
  | 0 => fail .endInObject
  | fuel + 1 => do
    match ← key? first with
    | none =>
      match known with
      | some m => return m
      | none => failInside (.missingField "webmodule")
    | some "webmodule" => manifestFields (← once known "webmodule" webModule) false fuel
    | some _ => otherField; manifestFields known false fuel

def manifestList : Reader WebModule := do
  if ← hasElement true then webModule else failInside .tooShort

/-- A manifest with nothing but white space after it. -/
def manifest : Reader WebModule := do
  let m ← fields .manifest manifestList do manifestFields none true ((← get).length + 1)
  match ← peekPastBlanks? with
  | some _ => failAtNext .trailingCharacters
  | none => return m

end Reader

/-- The web module that the text of a manifest describes. -/
def decode (text : String) : Except Error WebModule :=
  Reader.manifest.run (Utf8.encode text.toList)

end Manifest
end ScriptBundle
