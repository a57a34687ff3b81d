import ScriptBundle.Regex.Form
import ScriptBundle.Text.Utf8

/-!
# The weight of expressions

An expression is searched for by a machine with states, and it is refused if the machine takes too
much room. A state weighs 32 bytes, with 8 more for each range of bytes that a state of several ranges
tells apart, and 4 for each state that a fork leads to.

Two machines are built: one reads forward and also keeps the groups, one reads backward. They differ
in how they take apart characters beyond ASCII. Forward, states that go on alike are one state;
backward, the bytes are read from the first on, and what begins alike is read once.
-/

namespace ScriptBundle.Regex.Weight

def state : Nat := 32
def range : Nat := 8
def way : Nat := 4

/-- A place where ways meet, and one state for several ranges. -/
def ranges (n : Nat) : Nat := 2 * state + n * range

/-- The ranges of the bytes of a character, from the first byte on. -/
abbrev ByteRanges := List (Nat × Nat)

/-- The bytes of the character with a number. -/
def bytesOf (n : Nat) : List Nat := (Utf8.encode [Char.ofNat n]).map UInt8.toNat

/-- Where a range has to be cut: the last number of the first part. What is left whole has numbers with
equally many bytes, and all combinations of the bytes between those of its ends. -/
def cut? (low high : Nat) : Option Nat :=
  if low < 0xe000 ∧ 0xd7ff < high then some 0xd7ff
  else
    match [0x7f, 0x7ff, 0xffff].find? fun m => low ≤ m && m < high with
    | some m => some m
    | none =>
      if high < 0x80 then none
      else
        [64, 4096, 262144].findSome? fun unit =>
          if low / unit = high / unit then none
          else if low % unit ≠ 0 then some (low / unit * unit + (unit - 1))
          else if high % unit ≠ unit - 1 then some (high / unit * unit - 1)
          else none

/-- The byte ranges of a range of characters, in order. The fuel bounds the cuts. -/
def byteRanges : Nat → Nat → Nat → List ByteRanges
  | 0, _, _ => []
  | fuel + 1, low, high =>
    if high < low ∨ (0xd7ff < low ∧ low < 0xe000) then []
    else
      match cut? low high with
      | some m =>
        let next := if m = 0xd7ff then 0xe000 else m + 1
        byteRanges fuel low m ++ byteRanges fuel next high
      | none => [(bytesOf low).zip (bytesOf high)]

def byteRangesOf (r : Ranges) : List ByteRanges :=
  r.spans.flatMap fun (low, high) => byteRanges 64 low high

/-- A state of the forward machine: each range with the number of the state that it leads to. The
state behind the character has the number zero. -/
abbrev Fork := List ((Nat × Nat) × Nat)

/-- Puts neighbours with the same first range together. -/
def byFirst : List ByteRanges → List ((Nat × Nat) × List ByteRanges)
  | [] => []
  | [] :: rest => byFirst rest
  | (r :: tail) :: rest =>
    match byFirst rest with
    | (q, tails) :: more =>
      if r = q then (q, tail :: tails) :: more else (r, [tail]) :: (q, tails) :: more
    | [] => [(r, [tail])]

/-- Builds the state that reads some byte ranges, given the states so far, and gives its number. The
fuel is how many bytes follow at most. -/
def build : Nat → List ByteRanges → List Fork → Nat × List Fork
  | 0, _, forks => (0, forks)
  | fuel + 1, seqs, forks =>
    if seqs.all List.isEmpty then (0, forks)
    else
      let (fork, forks) := (byFirst seqs).foldl (fun ((fork, forks) : Fork × List Fork) (r, tails) =>
        let (next, forks) := build fuel tails forks
        (fork ++ [(r, next)], forks)) ([], forks)
      match forks.findIdx? (· == fork) with
      | some i => (forks.length - i, forks)
      | none => (forks.length + 1, fork :: forks)

def wideForward (r : Ranges) : Nat :=
  let (_, forks) := build 5 (byteRangesOf r) []
  forks.foldl (fun n fork => n + state + fork.length * range) state

/-- The number of different beginnings of byte ranges. -/
def beginnings : Nat → List ByteRanges → Nat
  | 0, _ => 0
  | fuel + 1, seqs =>
    let seqs := seqs.filter (!·.isEmpty)
    let firsts := (seqs.flatMap (·.take 1)).eraseDups
    firsts.foldl (fun n r =>
      n + 1 + beginnings fuel ((seqs.filter (·.head? == some r)).map (·.drop 1))) 0

def wideBackward (r : Ranges) : Nat :=
  let seqs := byteRangesOf r
  2 * state + seqs.length * way + beginnings 5 seqs * state

/-- Ways on from a place among texts that are alternatives: for each next byte what follows it. -/
abbrev Ways := List (UInt8 × List (List UInt8))

/-- Adds a way, behind those before it. -/
def addWay (b : UInt8) (tail : List UInt8) : Ways → Ways
  | [] => [(b, [tail])]
  | (c, tails) :: rest =>
    if b = c then (c, tails ++ [tail]) :: rest else (c, tails) :: addWay b tail rest

/-- The ways in groups. Where a text ends, a group is closed, since the texts before it come first. -/
def groupWays (texts : List (List UInt8)) : List Ways :=
  let (closed, current) := texts.foldl (fun ((closed, current) : List Ways × Ways) text =>
    match text with
    | b :: tail => (closed, addWay b tail current)
    | [] =>
      if current.isEmpty && !closed.isEmpty && closed.all List.isEmpty then (closed, current)
      else (closed ++ [current], [])) ([], [])
  closed ++ [current]

/-- The states for texts that are alternatives, without the one behind them. The fuel is the length of
the longest text. -/
def texts : Nat → List (List UInt8) → Nat
  | 0, _ => 0
  | fuel + 1, all =>
    let groups := groupWays all
    let used := groups.filter (!·.isEmpty)
    let forks := used.foldl (fun n ways =>
      n + state + (if ways.length = 1 then 0 else ways.length * range)) 0
    let inner := used.flatten.foldl (fun n (_, tails) =>
      if tails.all List.isEmpty then n else n + texts fuel tails) 0
    state + (used.length + groups.length - 1) * way + forks + inner

def textsOf (isBackward : Bool) (all : List (List Char)) : Nat :=
  let all := all.map fun cs => if isBackward then (Utf8.encode cs).reverse else Utf8.encode cs
  state + texts ((all.map List.length).foldl max 0 + 1) all

def text? : Form → Option (List Char)
  | .text cs => some cs
  | _ => none

mutual

def form (isBackward : Bool) : Form → Nat
  | .empty | .look .. => state
  | .text cs => Form.textSize cs * state
  | .set r isWide =>
    if !isWide || r.isAscii then ranges r.spans.length
    else if isBackward then wideBackward r
    else wideForward r
  | .repeated f least most _ =>
    let once := form isBackward f
    let fork := state + 2 * way
    match most with
    | none =>
      if least = 0 then
        if (Form.minLength f).any (0 < ·) then once + fork else once + 2 * fork + state
      else least * once + fork
    | some most =>
      if least = 0 ∧ most = 1 then once + fork + state
      else if most = least then least * once
      else
        (if least = 0 then state else least * once) + state + (most - least) * (once + fork)
  | .group _ f => form isBackward f + (if isBackward then 0 else 2 * state)
  | .seq fs => forms isBackward fs
  | .alt fs =>
    match fs.mapM text? with
    | some all => textsOf isBackward all
    | none => forms isBackward fs + 2 * state + fs.length * way

def forms (isBackward : Bool) : List Form → Nat
  | [] => 0
  | f :: fs => form isBackward f + forms isBackward fs

end

/-- The weight of a machine: what finds the start of a match, the expression with a group around it,
and what says that there is a match. -/
def machine (isBackward : Bool) (f : Form) : Nat :=
  let atPlace := if isBackward then Form.toEnd f else Form.fromStart f
  let start := if atPlace then state else ranges 1 + state + 2 * way
  start + form isBackward (.group 0 f) + state

def limit : Nat := 10485760

end ScriptBundle.Regex.Weight
