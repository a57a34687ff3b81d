import ScriptBundle.Regex.Node
import ScriptBundle.Text.Blank
import ScriptBundle.Text.Letter

/-!
# Reading written expressions

The reader goes through an expression from left to right and stops at the first fault. Groups and
brackets are read by functions that call each other; each call has fuel, and as every call takes a
character first, as much as there are characters is enough.
-/

namespace ScriptBundle.Regex.Reader

/-- What is left of the expression and how much came before. -/
structure Cursor where
  rest : List Char
  position : Nat := 0
  /-- Whether blanks and comments mean nothing. -/
  spaced : Bool := false
  names : List (List Char × Extent) := []
  /-- The number of groups with a number so far. -/
  groups : Nat := 0

abbrev Read := StateT Cursor (Except Fault)

def peek? : Read (Option Char) := return (← get).rest.head?

def position : Read Nat := return (← get).position

def fail (start stop : Nat) (cause : Cause) : Read α :=
  throw { place := ⟨start, stop⟩, cause }

/-- A fault of no extent at the present position. -/
def failHere (cause : Cause) : Read α := do
  let here ← position
  fail here here cause

/-- A fault of the character that comes next. -/
def failChar (cause : Cause) : Read α := do
  let here ← position
  fail here (here + 1) cause

def take (n : Nat) : Read Unit :=
  modify fun c => { c with rest := c.rest.drop n, position := c.position + (c.rest.take n).length }

def takeIf (text : List Char) : Read Bool := do
  if text.isPrefixOf (← get).rest then
    take text.length
    return true
  else return false

/-- The number of characters that mean nothing at the start of a text. -/
def skipped (inComment : Bool) : List Char → Nat
  | [] => 0
  | c :: rest =>
    if inComment then 1 + skipped (c != '\n') rest
    else if isBlank c then 1 + skipped false rest
    else if c = '#' then 1 + skipped true rest
    else 0

def skipSpaces : Read Unit := do
  if (← get).spaced then take (skipped false (← get).rest)

/-- Takes a character and what means nothing behind it. -/
def takeSpaced : Read Unit := do
  take 1
  skipSpaces

/-- The character after the next one. -/
def second? : Read (Option Char) := return (← get).rest.tail.head?

/-- The first character that is no blank and does not begin a comment. Within a comment blanks, line
feeds among them, are passed over too, and the first other character is taken. -/
def firstSigned? : Bool → List Char → Option Char
  | _, [] => none
  | inComment, c :: rest =>
    if isBlank c then firstSigned? inComment rest
    else if !inComment && c == '#' then firstSigned? true rest
    else some c

/-- The character after the next one, with what means nothing left out unless there is nothing else. -/
def secondSpaced? : Read (Option Char) := do
  let tail := (← get).rest.tail
  return if (← get).spaced then (firstSigned? false tail).or tail.head? else tail.head?

def isHex (c : Char) : Bool := c.isDigit || ('a' ≤ c && c ≤ 'f') || ('A' ≤ c && c ≤ 'F')

def hexValue (c : Char) : Nat :=
  if c.isDigit then c.toNat - '0'.toNat else c.toLower.toNat - 'a'.toNat + 10

def hexNumber (digits : List Char) : Nat := digits.foldl (fun n c => n * 16 + hexValue c) 0

def scalar? (n : Nat) : Option Char := if n.isValidChar then some (Char.ofNat n) else none

/-- Characters while they pass a test, each with what means nothing behind it. -/
def runOf (test : Char → Bool) : Nat → Read (List Char)
  | 0 => return []
  | fuel + 1 => do
    match ← peek? with
    | some c =>
      if test c then
        takeSpaced
        return c :: (← runOf test fuel)
      else return []
    | none => return []

def fuel : Read Nat := return (← get).rest.length + 1

/-- A whole number, or what is wrong with it. -/
def decimal : Read (Except Fault Nat) := do
  take ((← get).rest.takeWhile isBlank).length
  let start ← position
  let digits ← runOf Char.isDigit (← fuel)
  let stop ← position
  let _ ← runOf isBlank (← fuel)
  let value := digits.foldl (fun n c => n * 10 + (c.toNat - '0'.toNat)) 0
  if digits.isEmpty then return .error { place := ⟨start, start⟩, cause := .countEmpty }
  else if value < 4294967296 then return .ok value
  else return .error { place := ⟨start, stop⟩, cause := .decimalInvalid }

/-- The digits of a character written by its number, a fixed count of them. -/
def hexDigits : Nat → Bool → Read (List Char)
  | 0, _ => do
    takeSpaced
    return []
  | n + 1, isFirst => do
    unless isFirst do takeSpaced
    match ← peek? with
    | none => failHere .escapeAtEnd
    | some c =>
      if isHex c then return c :: (← hexDigits n false)
      else failChar .hexDigit

/-- A character written by its number, after the letter that says so. -/
def hexChar (digits : Nat) : Read (Char × Bool) := do
  takeSpaced
  match ← peek? with
  | none => failHere .escapeAtEnd
  | some '{' =>
    let brace ← position
    takeSpaced
    let text ← runOf isHex (← fuel)
    match ← peek? with
    | none =>
      let here ← position
      fail brace here .escapeAtEnd
    | some c =>
      if c ≠ '}' then failChar .hexDigit
      else
        let stop ← position
        takeSpaced
        let here ← position
        if text.isEmpty then fail brace here .hexEmpty
        else
          match scalar? (hexNumber text) with
          | some c => return (c, false)
          | none => fail (brace + 1) stop .hexInvalid
  | some _ =>
    let start ← position
    let text ← hexDigits digits true
    let stop ← position
    match scalar? (hexNumber text) with
    | some c => return (c, digits == 2)
    | none => fail start stop .hexInvalid

/-- The name of a property without what does not count: case, blanks, hyphens, low lines, an `is` at
its start and everything beyond ASCII. -/
def propertyKey (name : List Char) : List Char :=
  let rest := if (name.take 2).map Char.toLower = ['i', 's'] then name.drop 2 else name
  (rest.filter fun c => c.toNat < 128 && !(c == ' ' || c == '-' || c == '_')).map Char.toLower

/-- The names that might be those of a property or of a value, and count as those of a value. -/
def valueNames : List (List Char) := [['c', 'f'], ['s', 'c'], ['l', 'c']]

/-- Passes over a property of characters, after the letter that says so. Says whether its name can
only be that of a value. -/
def propertyName : Read Bool := do
  takeSpaced
  match ← peek? with
  | none => failHere .escapeAtEnd
  | some '{' =>
    takeSpaced
    let name ← runOf (· ≠ '}') (← fuel)
    if (← peek?).isNone then failHere .escapeAtEnd
    take 1
    return !name.contains ':' && !name.contains '=' && valueNames.contains (propertyKey name)
  | some '\\' => failChar .propertyInvalid
  | some _ =>
    takeSpaced
    return false

def isWordEdgeChar (c : Char) : Bool := c.isAlpha || c == '-'

/-- The name in braces that may follow the escape for the edge of a word. A brace that begins no
name is left alone. -/
def wordEdgeName? (escape : Nat) : Read (Option Look) := do
  let before ← get
  let brace ← position
  takeSpaced
  let start ← position
  match ← peek? with
  | none =>
    let here ← position
    fail escape here .wordEdgeAtEnd
  | some c =>
    if !isWordEdgeChar c then
      set before
      return none
    else
      let name ← runOf isWordEdgeChar (← fuel)
      let stop ← position
      if (← peek?) ≠ some '}' then fail brace stop .wordEdgeUnclosed
      take 1
      match String.ofList name with
      | "start" => return some .wordStart
      | "end" => return some .wordEnd
      | "start-half" => return some .outsideBefore
      | "end-half" => return some .outsideAfter
      | _ => fail start stop .wordEdgeUnknown

def isMeta (c : Char) : Bool := "\\.+*?()|[]\x7b\x7d^$#&-~".toList.contains c

/-- The characters of ASCII that stand for themselves behind a backslash. -/
def isEscapable (c : Char) : Bool :=
  isMeta c || (c.toNat < 128 && !c.isAlphanum && c != '<' && c != '>')

def shorthand? (c : Char) : Option (Shorthand × Bool) :=
  match c with
  | 'd' => some (.digit, false)
  | 'D' => some (.digit, true)
  | 's' => some (.space, false)
  | 'S' => some (.space, true)
  | 'w' => some (.word, false)
  | 'W' => some (.word, true)
  | _ => none

def control? (c : Char) : Option Char :=
  match c with
  | 'a' => some '\x07'
  | 'f' => some '\x0c'
  | 't' => some '\t'
  | 'n' => some '\n'
  | 'r' => some '\r'
  | 'v' => some '\x0b'
  | _ => none

def mark? (c : Char) : Option Mark :=
  match c with
  | 'A' => some .textStart
  | 'z' => some .textEnd
  | 'B' => some (.word .noWordEdge)
  | '<' => some (.word .wordStart)
  | '>' => some (.word .wordEnd)
  | _ => none

/-- What a backslash begins. -/
def escaped : Read Node := do
  let start ← position
  take 1
  match ← peek? with
  | none =>
    let here ← position
    fail start here .escapeAtEnd
  | some c =>
    let extent : Read Extent := return ⟨start, ← position⟩
    let hex (digits : Nat) : Read Node := do
      let (c, isByte) ← hexChar digits
      return .char (← extent) c isByte
    if c.isDigit then fail start (start + 2) .backReference
    else if c = 'x' then hex 2
    else if c = 'u' then hex 4
    else if c = 'U' then hex 8
    else if c = 'p' ∨ c = 'P' then
      let isValue ← propertyName
      return .property (← extent) isValue
    else
      take 1
      match shorthand? c, control? c, mark? c with
      | some (kind, negated), _, _ => return .shorthand (← extent) kind negated
      | _, some control, _ => return .char (← extent) control false
      | _, _, some mark => return .mark mark
      | _, _, _ =>
        if isEscapable c then return .char (← extent) c false
        else if c = 'b' then
          if (← peek?) = some '{' then
            return .mark (.word ((← wordEdgeName? start).getD .wordEdge))
          else return .mark (.word .wordEdge)
        else fail start (start + 2) .escapeUnknown

/-- One member of brackets that may be the end of a range, and its extent. -/
def memberEnd : Read (Node × Extent) := do
  let start ← position
  match ← peek? with
  | some '\\' =>
    let node ← escaped
    return (node, ⟨start, ← position⟩)
  | some c =>
    take 1
    return (.char ⟨start, start + 1⟩ c false, ⟨start, start + 1⟩)
  | none => return (.empty, ⟨start, start⟩)

/-- A member, or a range of characters. `unclosed` is the fault of the brackets. -/
def memberOrRange (unclosed : Fault) : Read Member := do
  let (low, lowAt) ← memberEnd
  skipSpaces
  match ← peek? with
  | none => throw unclosed
  | some c =>
    let next ← secondSpaced?
    if c ≠ '-' ∨ next = some ']' ∨ next = some '-' then
      match low with
      | .char place c isByte => return .char place c isByte
      | .shorthand place kind negated => return .shorthand place kind negated
      | .property place isValue => return .property place isValue
      | _ => fail lowAt.start lowAt.stop .classEscape
    else
      takeSpaced
      if (← peek?).isNone then throw unclosed
      let (high, highAt) ← memberEnd
      match low, high with
      | .char _ a aByte, .char _ b bByte =>
        if a ≤ b then return .range lowAt highAt a b aByte bByte
        else fail lowAt.start highAt.stop .classRange
      | .char .., _ => fail highAt.start highAt.stop .classRangeEnd
      | _, _ => fail lowAt.start lowAt.stop .classRangeEnd

/-- A named class in brackets of its own; none, and nothing taken, if there is none. -/
def namedClass? : Read (Option Member) := do
  let start ← position
  match (← get).rest with
  | '[' :: ':' :: text =>
    let negated := text.head? == some '^'
    let text := if negated then text.drop 1 else text
    let name := text.takeWhile (· ≠ ':')
    match text.drop name.length, CharSet.named? (String.ofList name) with
    | ':' :: ']' :: _, some set =>
      take (4 + name.length + (if negated then 1 else 0))
      return some (.named ⟨start, ← position⟩ (.ascii set.has) negated)
    | _, _ => return none
  | _ => return none

def setOp? (c : Char) : Option SetOp :=
  match c with
  | '&' => some .both
  | '-' => some .minus
  | '~' => some .either
  | _ => none

/-- The operands of an operation so far: the left side and the operation, or nothing. -/
abbrev Pending := Option (Member × SetOp)

/-- Members, from the last to the first, as one; `start` is where the first would stand. -/
def unite (start : Nat) (items : List Member) : Member :=
  match items with
  | [] => .empty ⟨start, start⟩
  | [m] => m
  | last :: before =>
    let first := before.getLast?.getD last
    .union ⟨first.place.start, last.place.stop⟩ items.reverse

def settle (pending : Pending) (m : Member) : Member :=
  match pending with
  | some (left, kind) => .op ⟨left.place.start, m.place.stop⟩ kind left m
  | none => m

/-- Hyphens at the start of brackets stand for themselves. -/
def openingHyphens (bracket : Nat) : Nat → Read (List Member)
  | 0 => return []
  | fuel + 1 => do
    if (← peek?) = some '-' then
      let here ← position
      takeSpaced
      if (← peek?).isNone then fail bracket bracket .classUnclosed
      return .char ⟨here, here + 1⟩ '-' false :: (← openingHyphens bracket fuel)
    else return []

/-- The start of brackets: whether they are negated, where their members begin, and the first of
them. -/
def openingBracket : Read (Bool × Nat × List Member) := do
  let bracket ← position
  let unclosed : Read Unit := do
    let here ← position
    if (← peek?).isNone then fail bracket here .classUnclosed
  takeSpaced
  unclosed
  let negated := (← peek?) = some '^'
  if negated then
    takeSpaced
    unclosed
  let start ← position
  let hyphens ← openingHyphens bracket (← fuel)
  let here ← position
  if hyphens.isEmpty ∧ (← peek?) = some ']' then
    takeSpaced
    unclosed
    return (negated, start, [.char ⟨here, here + 1⟩ ']' false])
  else return (negated, start, hyphens)

mutual

/-- Brackets with all that is in them. -/
def brackets : Nat → Read Member
  | 0 => failHere .classUnclosed
  | fuel + 1 => do
    let start ← position
    let (negated, first, items) ← openingBracket
    let unclosed : Fault := { place := ⟨start, ← position⟩, cause := .classUnclosed }
    let inside ← members fuel unclosed first none items.reverse
    return .brackets ⟨start, ← position⟩ negated inside

/-- The members up to the closing bracket, given those before them from the last to the first and
where the first stands. -/
def members : Nat → Fault → Nat → Pending → List Member → Read Member
  | 0, unclosed, _, _, _ => throw unclosed
  | fuel + 1, unclosed, start, pending, items => do
    skipSpaces
    let present := settle pending (unite start items)
    match ← peek? with
    | none => throw unclosed
    | some '[' =>
      match ← namedClass? with
      | some m => members fuel unclosed start pending (m :: items)
      | none => do
        let inner ← brackets fuel
        members fuel unclosed start pending (inner :: items)
    | some ']' =>
      take 1
      return present
    | some c =>
      match setOp? c with
      | some kind =>
        if (← second?) = some c then
          take 2
          members fuel unclosed (← position) (some (present, kind)) []
        else
          let m ← memberOrRange unclosed
          members fuel unclosed start pending (m :: items)
      | none =>
        let m ← memberOrRange unclosed
        members fuel unclosed start pending (m :: items)

end

def flag? (c : Char) : Option Flag :=
  match c with
  | 'i' => some .anyCase
  | 'm' => some .manyLines
  | 's' => some .dotAll
  | 'U' => some .lazy
  | 'u' => some .wide
  | 'R' => some .carriageReturn
  | 'x' => some .spaced
  | _ => none

/-- What was read of flags: each with its position, and the position of the sign that clears. -/
structure Flags where
  given : List (Flag × Nat) := []
  change : FlagChange := {}
  clearing : Option Nat := none

/-- The flags up to a colon or a closing bracket. -/
def flags : Nat → Flags → Read Flags
  | 0, _ => failHere .flagAtEnd
  | fuel + 1, f => do
    let here ← position
    let taken : Read Unit := do
      take 1
      if (← peek?).isNone then failHere .flagAtEnd
    match ← peek? with
    | none => failHere .flagAtEnd
    | some c =>
      if c = ':' ∨ c = ')' then
        match f.clearing with
        | some sign =>
          if sign + 1 = here then fail sign here .flagDangling else return f
        | none => return f
      else if c = '-' then
        match f.clearing with
        | some earlier =>
          throw {
            place := ⟨here, here + 1⟩
            cause := .flagNegatedTwice
            earlier := some ⟨earlier, earlier + 1⟩ }
        | none =>
          taken
          flags fuel { f with clearing := some here }
      else
        match flag? c with
        | none => failChar .flagUnknown
        | some flag =>
          match f.given.lookup flag with
          | some earlier =>
            throw {
              place := ⟨here, here + 1⟩
              cause := .flagRepeated
              earlier := some ⟨earlier, earlier + 1⟩ }
          | none =>
            taken
            let change :=
              if f.clearing.isSome then { f.change with clear := flag :: f.change.clear }
              else { f.change with set := flag :: f.change.set }
            flags fuel { f with given := (flag, here) :: f.given, change }

def isNameChar (isFirst : Bool) (c : Char) : Bool :=
  c == '_' || Letter.isLetter c ||
    (!isFirst && (Letter.isNumber c || c == '.' || c == '[' || c == ']'))

/-- The name of a group, up to its closing sign. -/
def groupName : Read Unit := do
  if (← peek?).isNone then failHere .groupNameAtEnd
  let start ← position
  let rest := (← get).rest
  let name := rest.take 1 |>.takeWhile (isNameChar true)
  let name := if name.isEmpty then [] else name ++ (rest.drop 1).takeWhile (isNameChar false)
  take name.length
  let stop ← position
  match ← peek? with
  | none => failHere .groupNameAtEnd
  | some c =>
    if c ≠ '>' then failChar .groupNameChar
    take 1
    if name.isEmpty then fail start start .groupNameEmpty
    match (← get).names.lookup name with
    | some earlier =>
      throw { place := ⟨start, stop⟩, cause := .groupNameRepeated, earlier := some earlier }
    | none => modify fun c => { c with names := (name, ⟨start, stop⟩) :: c.names }

/-- What an opening bracket begins. -/
inductive Opening where
  | flags (change : FlagChange)
  | group (number : Option Nat) (change : FlagChange)

/-- The number of the next group. -/
def nextGroup : Read Nat := do
  let number := (← get).groups + 1
  modify fun c => { c with groups := number }
  return number

def opening : Read Opening := do
  let start ← position
  take 1
  skipSpaces
  for sign in ["?=", "?!", "?<=", "?<!"] do
    if ← takeIf sign.toList then
      let here ← position
      fail start here .lookAround
  let inner ← position
  if ← (do if ← takeIf "?P<".toList then return true else takeIf "?<".toList) then
    let number ← nextGroup
    groupName
    return .group (some number) {}
  else if ← takeIf ['?'] then
    if (← peek?).isNone then fail start (start + 1) .groupUnclosed
    let f ← flags (← fuel) {}
    let closes := (← peek?) = some ')'
    take 1
    if closes then
      if f.given.isEmpty ∧ f.clearing.isNone then fail inner inner .nothingToRepeat
      return .flags f.change
    else return .group none f.change
  else return .group (some (← nextGroup)) {}

/-- The last node, which an operator repeats. -/
def repeatable (nodes : List Node) : Read (Node × List Node) :=
  match nodes with
  | [] => failHere .nothingToRepeat
  | .empty :: _ | .flags _ :: _ => failHere .nothingToRepeat
  | n :: rest => return (n, rest)

def countUnclosed (start : Nat) : Read Unit := do
  let here ← position
  if (← peek?).isNone then fail start here .countUnclosed

/-- The bounds of a repetition in braces. A missing end is a fault before a bad number is. -/
def bounds : Read (Nat × Option Nat) := do
  let start ← position
  takeSpaced
  countUnclosed start
  let least ← decimal
  countUnclosed start
  if (← peek?) = some ',' then
    takeSpaced
    countUnclosed start
    if (← peek?) = some '}' then
      return (← MonadExcept.ofExcept least, none)
    else
      let least ← MonadExcept.ofExcept least
      return (least, some (← MonadExcept.ofExcept (← decimal)))
  else
    let n ← MonadExcept.ofExcept least
    return (n, some n)

/-- The repetition of the last node that an operator asks for. -/
def repetition (start : Nat) (c : Char) (nodes : List Node) : Read (List Node) := do
  let (node, rest) ← repeatable nodes
  let done (least : Nat) (most : Option Nat) (isLazy : Bool) : Read (List Node) := do
    return .repeated ⟨start, ← position⟩ node least most isLazy :: rest
  match c with
  | '?' => take 1; done 0 (some 1) (← takeIf ['?'])
  | '*' => take 1; done 0 none (← takeIf ['?'])
  | '+' => take 1; done 1 none (← takeIf ['?'])
  | _ =>
    let brace ← position
    let (least, most) ← bounds
    if (← peek?) ≠ some '}' then
      let here ← position
      fail brace here .countUnclosed
    takeSpaced
    let isLazy ← takeIf ['?']
    let stop ← position
    if most.any (· < least) then fail brace stop .countRange
    done least most isLazy

def sequence (start stop : Nat) (nodes : List Node) : Node :=
  match nodes with
  | [] => .empty
  | [n] => n
  | ns => .seq ⟨start, stop⟩ ns

def alternatives (start stop : Nat) (nodes : List Node) : Node :=
  match nodes with
  | [] => .empty
  | [n] => n
  | ns => .alt ⟨start, stop⟩ ns

mutual

/-- The alternatives up to the end or a closing bracket, given those before them and the nodes of
the present one, both from the last to the first, each node with its start. -/
def body : Nat → Nat → List Node → Nat → List (Node × Nat) → Read Node
  | 0, _, _, _, _ => failHere .groupUnclosed
  | fuel + 1, start, before, present, nodes => do
    skipSpaces
    let here ← position
    let branch := sequence present here (nodes.reverse.map (·.1))
    match ← peek? with
    | none => return alternatives start here (branch :: before).reverse
    | some ')' => return alternatives start here (branch :: before).reverse
    | some '|' =>
      take 1
      body fuel start (branch :: before) (here + 1) []
    | some '(' =>
      let node ← group fuel
      body fuel start before present ((node, here) :: nodes)
    | some '[' =>
      let m ← brackets fuel
      let node := match m with
        | .brackets place negated inside => .brackets place negated inside
        | _ => .empty
      body fuel start before present ((node, here) :: nodes)
    | some c =>
      if c = '?' ∨ c = '*' ∨ c = '+' ∨ c = '{' then
        let first := (nodes.head?.map (·.2)).getD here
        let repeated ← repetition first c (nodes.map (·.1))
        body fuel start before present ((repeated.take 1).map (·, first) ++ nodes.drop 1)
      else
        let node ← (do
          match c with
          | '\\' => escaped
          | '.' => take 1; return .dot ⟨here, here + 1⟩
          | '^' => take 1; return .mark .lineStart
          | '$' => take 1; return .mark .lineEnd
          | c => take 1; return .char ⟨here, here + 1⟩ c false)
        body fuel start before present ((node, here) :: nodes)

/-- A group, or flags for what follows. -/
def group : Nat → Read Node
  | 0 => failHere .groupUnclosed
  | fuel + 1 => do
    let start ← position
    let outside := (← get).spaced
    match ← opening with
    | .flags change =>
      modify fun c => { c with spaced := (change.value? .spaced).getD outside }
      return .flags change
    | .group number change =>
      modify fun c => { c with spaced := (change.value? .spaced).getD outside }
      let inner ← position
      let node ← body fuel inner [] inner []
      if (← peek?).isNone then fail start (start + 1) .groupUnclosed
      modify fun c => { c with spaced := outside }
      take 1
      return .group ⟨start, ← position⟩ number change node

end

/-- Reads a whole expression. -/
def whole : Read Node := do
  let node ← body (2 * (← get).rest.length + 2) 0 [] 0 []
  if (← peek?).isSome then failChar .groupUnopened
  return node

end Reader

/-- Reads a written expression. -/
def Node.parse (text : List Char) : Except Fault Node := do
  let (node, _) ← Reader.whole.run { rest := text }
  node.checkDepth 0
  return node

end ScriptBundle.Regex
