import ScriptBundle.Shell.Tool.Basic

/-!
# Copies by blocks

`dd` copies its input to its output in blocks. It can pass over the first blocks of either, stop after
so many, and change octets on the way.
-/

namespace ScriptBundle.Shell.Tool.Blocks

/-- The settings of a copy. -/
structure Plan where
  source : Option String := none
  target : Option String := none
  inBlock : Nat := 512
  outBlock : Nat := 512
  both : Option Nat := none
  count : Option Nat := none
  skip : Nat := 0
  seek : Nat := 0
  /-- Whether the numbers mean octets and not blocks. -/
  countsOctets : Bool := false
  skipsOctets : Bool := false
  seeksOctets : Bool := false
  conversions : List String := []
  appends : Bool := false
  status : String := ""
  deriving Repr

/-- A complaint, and whether the hint about help follows it. -/
abbrev Complaint := String × Bool

/-- A product of numbers with factors. -/
def product? (text : String) : Option Nat :=
  (text.splitOn "x").foldlM (fun n part => (size? part).map (n * ·)) 1

/-- A number, and whether it ends with the letter that stands for octets. -/
def amount (text : String) : Except Complaint (Nat × Bool) :=
  let octets := text.endsWith "B" && (text.toList.dropLast.getLast?.any Char.isDigit)
  let body := if octets then (text.dropEnd 1).toString else text
  match product? body with
  | some n => .ok (n, octets)
  | none => .error (s!"invalid number: {Quoting.always text}", false)

def size (text : String) : Except Complaint Nat := do
  let (n, _) ← amount text
  if n = 0 then throw (s!"invalid number: {Quoting.always text}", false)
  return n

def conversionNames : List String :=
  ["lcase", "ucase", "notrunc", "sync", "swab", "noerror", "fsync", "fdatasync", "excl", "nocreat", "sparse"]

def readConversions (text : String) : Except Complaint (List String) :=
  (text.splitOn ",").mapM fun name =>
    if conversionNames.contains name then .ok name
    else .error (s!"invalid conversion: {Quoting.always name}", true)

def flagNames : List String :=
  ["append", "fullblock", "skip_bytes", "count_bytes", "seek_bytes", "nofollow", "sync", "dsync", "binary",
    "text", "direct", "nonblock", "noatime", "nocache", "noctty", "directory"]

def flags (kind text : String) : Except Complaint (List String) :=
  (text.splitOn ",").mapM fun name =>
    if flagNames.contains name then .ok name
    else .error (s!"invalid {kind} flag: {Quoting.always name}", true)

/-- Reads one operand. -/
def Plan.take (p : Plan) (operand : String) : Except Complaint Plan := do
  let name := String.ofList (operand.toList.takeWhile (· ≠ '='))
  let value := String.ofList ((operand.toList.dropWhile (· ≠ '=')).drop 1)
  let unknown : Complaint := (s!"unrecognized operand {Quoting.always operand}", true)
  if !operand.toList.contains '=' then throw unknown
  match name with
  | "if" => return { p with source := some value }
  | "of" => return { p with target := some value }
  | "bs" => return { p with both := some (← size value) }
  | "ibs" => return { p with inBlock := ← size value }
  | "obs" => return { p with outBlock := ← size value }
  | "cbs" =>
    let _ ← size value
    return p
  | "count" =>
    let (n, octets) ← amount value
    return { p with count := some n, countsOctets := p.countsOctets || octets }
  | "skip" | "iseek" =>
    let (n, octets) ← amount value
    return { p with skip := n, skipsOctets := p.skipsOctets || octets }
  | "seek" | "oseek" =>
    let (n, octets) ← amount value
    return { p with seek := n, seeksOctets := p.seeksOctets || octets }
  | "conv" => return { p with conversions := p.conversions ++ (← readConversions value) }
  | "iflag" =>
    let names ← flags "input" value
    return { p with
      countsOctets := p.countsOctets || names.contains "count_bytes"
      skipsOctets := p.skipsOctets || names.contains "skip_bytes" }
  | "oflag" =>
    let names ← flags "output" value
    return { p with
      appends := p.appends || names.contains "append"
      seeksOctets := p.seeksOctets || names.contains "seek_bytes" }
  | "status" =>
    if ["none", "noxfer", "progress"].contains value then return { p with status := value }
    else throw (s!"invalid status level: {Quoting.always value}", true)
  | _ => throw unknown

/-- Octets with every two of them exchanged. -/
def exchanged : List UInt8 → List UInt8
  | a :: b :: rest => b :: a :: exchanged rest
  | rest => rest

def Plan.convert (p : Plan) (bytes : List UInt8) : List UInt8 :=
  let on (test : UInt8 → Bool) (change : UInt8 → UInt8) (bytes : List UInt8) : List UInt8 :=
    bytes.map fun b => if test b then change b else b
  let bytes := if p.conversions.contains "swab" then exchanged bytes else bytes
  let bytes :=
    if p.conversions.contains "ucase" then on (fun b => 97 ≤ b && b ≤ 122) (· - 32) bytes
    else if p.conversions.contains "lcase" then on (fun b => 65 ≤ b && b ≤ 90) (· + 32) bytes
    else bytes
  let missing := (p.inBlock - bytes.length % p.inBlock) % p.inBlock
  if p.conversions.contains "sync" then bytes ++ List.replicate missing 0 else bytes

/-- The lines about the blocks that went in and out. -/
def Plan.report (p : Plan) (m : Machine) (taken given : Nat) : Machine :=
  if p.status = "none" then m
  else
    let counts (n block : Nat) : String :=
      let part := if n % block = 0 then 0 else 1
      s!"{n / block}+{part}"
    let (ins, outs) := (counts taken p.inBlock, counts given (p.both.getD p.outBlock))
    let m := ((m.writeOut.1).complain s!"{ins} records in").complain s!"{outs} records out"
    if p.status = "noxfer" then m
    else
      let unit := if given = 1 then "byte" else "bytes"
      m.complain s!"{given} {unit} copied, 2e-05 s, 0.0 kB/s"

/-- What is read of an open file for a copy. -/
def Plan.read (p : Plan) (m : Machine) (number : Nat) : Except FileError (List UInt8 × Machine) := do
  let skipped := if p.skipsOctets then p.skip else p.skip * p.inBlock
  let most := p.count.map fun n => if p.countsOctets then n else n * p.inBlock
  let bytes ← m.unread number
  let bytes := match m.handles[number]?, most with
    | some (.endless _), some n => List.replicate n 0
    | _, some n => (bytes.drop skipped).take n
    | _, none => bytes.drop skipped
  return (bytes, m.skip number (skipped + bytes.length))

/-- Opens what the copy goes to, and gives it room before the first block. -/
def Plan.openTarget (p : Plan) (m : Machine) (path : String) : Except FileError (Nat × Machine) := do
  let keeps := p.conversions.contains "notrunc"
  let how : Machine.Opening :=
    { writes := true, creates := !p.conversions.contains "nocreat", truncates := !keeps && p.seek = 0,
      appends := p.appends, mustBeNew := p.conversions.contains "excl" }
  let (number, m) ← m.openPath path how
  let start := if p.seeksOctets then p.seek else p.seek * p.outBlock
  match m.handles[number]? with
  | some (.file key _ ..) =>
    match m.files.node? key with
    | some (.file content mode) =>
      let kept := if keeps || start = 0 then content else content.take start
      let kept := if start > kept.length && start > 0 then kept ++ List.replicate (start - kept.length) 0 else kept
      let m := m.putNode key (.file kept mode)
      return (number, m.skip number start)
    | _ => return (number, m)
  | _ => return (number, m)

def Plan.run (p : Plan) (m : Machine) : Machine :=
  let failing (what name : String) (e : FileError) : String :=
    s!"{what} {Quoting.always name}: {Machine.words e}"
  let opened : Except FileError (Nat × Machine) :=
    match p.source with
    | some path => m.openPath path .reading
    | none => match m.handleOf? 0 with
      | some number => .ok (number, m)
      | none => .error .badDescriptor
  match opened with
  | .error e => m.noteFailure 1 (failing "failed to open" (p.source.getD "standard input") e)
  | .ok (input, m) =>
    let output : Except FileError (Nat × Machine) :=
      match p.target with
      | some path => p.openTarget m path
      | none => match m.handleOf? 1 with
        | some number => .ok (number, m)
        | none => .error .badDescriptor
    match output with
    | .error e => m.noteFailure 1 (failing "failed to open" (p.target.getD "standard output") e)
    | .ok (output, m) =>
      match p.read m input with
      | .error e =>
        let m := m.note (failing "error reading" (p.source.getD "standard input") e)
        (p.report m 0 0).ends 1
      | .ok (bytes, m) =>
        let out := p.convert bytes
        match m.writeHandle output out with
        | .ok m => p.report m bytes.length out.length
        | .error e =>
          let m := m.note (failing "error writing" (p.target.getD "standard output") e)
          (p.report m bytes.length 0).ends 1

end Blocks

def dd : Program :=
  make ⟨"", [], false⟩ 1 fun o m =>
    match o.operands.foldlM Blocks.Plan.take {} with
    | .error (text, true) => m.noteUsage 1 text
    | .error (text, false) => m.noteFailure 1 text
    | .ok p =>
      let p := match p.both with
        | some n => { p with inBlock := n, outBlock := n }
        | none => p
      p.run m

end ScriptBundle.Shell.Tool
