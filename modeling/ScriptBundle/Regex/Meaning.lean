import ScriptBundle.Regex.Reader
import ScriptBundle.Regex.Weight

/-!
# The meaning of written expressions

A written expression becomes an expression that can be searched for. Flags hold from where they stand
to the end of their group. Characters beyond ASCII count as characters unless a flag says otherwise;
no tables of their classes and cases are at hand, so what would need one is a fault, and without the
flag nothing may match a part of a character.
-/

namespace ScriptBundle.Regex

structure Modes where
  anyCase : Bool := false
  manyLines : Bool := false
  dotAll : Bool := false
  lazy : Bool := false
  wide : Bool := true
  carriageReturn : Bool := false
  deriving DecidableEq, Repr

def Modes.change (m : Modes) (c : FlagChange) : Modes where
  anyCase := (c.value? .anyCase).getD m.anyCase
  manyLines := (c.value? .manyLines).getD m.manyLines
  dotAll := (c.value? .dotAll).getD m.dotAll
  lazy := (c.value? .lazy).getD m.lazy
  wide := (c.value? .wide).getD m.wide
  carriageReturn := (c.value? .carriageReturn).getD m.carriageReturn

/-- A class of characters, and whether it is known to hold each character in either case. -/
structure CaseRanges where
  ranges : Ranges
  folded : Bool
  deriving DecidableEq, Repr

namespace CaseRanges

/-- The empty class holds each of its characters in either case. -/
def empty : CaseRanges := ⟨.empty, true⟩

/-- Nothing is known about the cases of characters that were written out. -/
def written (ranges : Ranges) : CaseRanges := ⟨ranges, false⟩

def union (a b : CaseRanges) : CaseRanges :=
  if b.ranges.isEmpty ∨ a.ranges = b.ranges then a
  else ⟨a.ranges.union b.ranges, a.folded && b.folded⟩

def inter (a b : CaseRanges) : CaseRanges :=
  if a.ranges.isEmpty then a
  else if b.ranges.isEmpty then empty
  else ⟨a.ranges.inter b.ranges, a.folded && b.folded⟩

def diff (a b : CaseRanges) : CaseRanges :=
  if a.ranges.isEmpty ∨ b.ranges.isEmpty then a
  else ⟨a.ranges.diff b.ranges, a.folded && b.folded⟩

def complement (a : CaseRanges) : CaseRanges :=
  if a.ranges.isEmpty then ⟨.all, true⟩ else ⟨a.ranges.complement, a.folded⟩

def combine (kind : SetOp) (a b : CaseRanges) : CaseRanges :=
  match kind with
  | .both => a.inter b
  | .minus => a.diff b
  | .either => (a.union b).diff (a.inter b)

end CaseRanges

namespace Meaning

abbrev Interpret := StateT Modes (Except Fault)

def fail (place : Extent) (cause : Cause) : Interpret α := throw { place, cause }

def isBeyondAscii (c : Char) : Bool := c.toNat ≥ 128

/-- Adds the other cases if the flag for case asks for them. Beyond ASCII no cases are known. -/
def fold (place : Extent) (set : CaseRanges) : Interpret CaseRanges := do
  let m ← get
  if !m.anyCase || set.folded then return set
  else if !m.wide then return ⟨set.ranges.anyCase, true⟩
  else if set.ranges.isEmpty then return .empty
  else fail place .caseUnavailable

/-- Applies the flag for case and the negation to a class. What is not wide must stay in ASCII. -/
def finish (place : Extent) (negated : Bool) (set : CaseRanges) : Interpret CaseRanges := do
  let set ← fold place set
  if !negated then return set
  else if (← get).wide then return set.complement
  else fail place .brokenText

/-- A class outside of brackets. -/
def ofClass (set : CaseRanges) : Interpret Form := return .ofRanges set.ranges (← get).wide

/-- A character outside of brackets. -/
def char (place : Extent) (c : Char) (isByte : Bool) : Interpret Form := do
  let m ← get
  if m.wide then
    if m.anyCase then fail place .caseUnavailable else return .text [c]
  else if isByte && isBeyondAscii c then fail place .brokenText
  else if m.anyCase && c.isAlpha then return .ofRanges (Ranges.single c).anyCase false
  else return .text [c]

/-- A character in brackets. -/
def memberChar (place : Extent) (c : Char) (isByte : Bool) : Interpret Char := do
  if (← get).wide || !isBeyondAscii c then return c
  else if isByte then fail place .brokenText
  else fail place .wideNotAllowed

def shorthand (place : Extent) (kind : Shorthand) (negated : Bool) : Interpret CaseRanges := do
  if (← get).wide then fail place .shorthandUnavailable
  else if negated then fail place .brokenText
  else
    let set := match kind with
      | .digit => CharSet.digits
      | .space => CharSet.spaces
      | .word => CharSet.wordChars
    return .written (.ascii set.has)

def property (place : Extent) (isValue : Bool) : Interpret CaseRanges := do
  if !(← get).wide then fail place .wideNotAllowed
  else if isValue then fail place .propertyValueUnknown
  else fail place .propertyUnknown

mutual

/-- Adds a member of brackets to those before it. -/
def member (before : CaseRanges) : Member → Interpret CaseRanges
  | .empty _ => return before
  | .char place c isByte => do
    let c ← memberChar place c isByte
    return .written (before.ranges.union (.single c))
  | .range lowAt highAt low high lowByte highByte => do
    let low ← memberChar lowAt low lowByte
    let high ← memberChar highAt high highByte
    return .written (before.ranges.union (.span low high))
  | .named place set negated => return before.union (← finish place negated (.written set))
  | .shorthand place kind negated => return before.union (← shorthand place kind negated)
  | .property place isValue => return before.union (← property place isValue)
  | .brackets place negated inside => do
    return before.union (← finish place negated (← member .empty inside))
  | .union _ items => members before items
  | .op _ kind a b => do
    let left ← member .empty a
    let right ← member .empty b
    let right ← fold b.place right
    let left ← fold a.place left
    return before.union (.combine kind left right)

def members (before : CaseRanges) : List Member → Interpret CaseRanges
  | [] => return before
  | m :: rest => do members (← member before m) rest

end

def mark (m : Modes) : Mark → Form
  | .lineStart =>
    .look (if m.manyLines then if m.carriageReturn then .anyLineStart else .lineStart
      else .textStart) false
  | .lineEnd =>
    .look (if m.manyLines then if m.carriageReturn then .anyLineEnd else .lineEnd
      else .textEnd) false
  | .textStart => .look .textStart false
  | .textEnd => .look .textEnd false
  | .word l => .look l m.wide

def dot (place : Extent) : Interpret Form := do
  let m ← get
  if !m.wide then fail place .brokenText
  else
    let excluded : List Char :=
      if m.dotAll then [] else if m.carriageReturn then ['\n', '\r'] else ['\n']
    return .ofRanges (Ranges.ascii excluded.contains).complement true

mutual

def node : Node → Interpret Form
  | .empty => return .empty
  | .char place c isByte => char place c isByte
  | .dot place => dot place
  | .mark m => return mark (← get) m
  | .shorthand place kind negated => do ofClass (← shorthand place kind negated)
  | .property place isValue => do ofClass (← property place isValue)
  | .brackets place negated inside => do
    ofClass (← finish place negated (← member .empty inside))
  | .repeated _ inner least most isLazy => do
    let f ← node inner
    return .ofRepeated f least most (isLazy != (← get).lazy)
  | .group _ number change inner => do
    let outside ← get
    set (outside.change change)
    let f ← node inner
    set outside
    return match number with
      | some n => .group n f
      | none => f
  | .flags change => do
    modify (·.change change)
    return .empty
  | .alt _ inner => return .ofAlt (← nodes inner)
  | .seq _ inner => return .ofSeq (← nodes inner)

def nodes : List Node → Interpret (List Form)
  | [] => return []
  | n :: rest => do
    let f ← node n
    return f :: (← nodes rest)

end

end Meaning

/-- The form of a written expression, or what is wrong with it. -/
def form (text : List Char) : Except Fault Form := do
  let n ← Node.parse text
  let (f, _) ← (Meaning.node n).run {}
  return f

/-- Reads a written expression, or says why it cannot be searched for. The forward machine is built
first, then the edges of words are looked up, and then the backward machine is built. -/
def read (text : String) : Except String Regex :=
  let tooHeavy := s!"Compiled regex exceeds size limit of {Weight.limit} bytes."
  match form text.toList with
  | .error f => .error (f.message text.toList)
  | .ok f =>
    if Weight.machine false f > Weight.limit then .error tooHeavy
    else if f.asksWideWords then .error "error building NFA"
    else if Weight.machine true f > Weight.limit then .error tooHeavy
    else .ok f.toRegex

end ScriptBundle.Regex
