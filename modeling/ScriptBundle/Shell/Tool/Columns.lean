import ScriptBundle.Regex.Basic
import ScriptBundle.Shell.Format
import ScriptBundle.Shell.Tool.Basic

/-!
# Tools on columns

Tools that take columns out of lines, and that put lines next to each other.
-/

namespace ScriptBundle.Shell.Tool

/-- Positions from a first one to a last one, if there is one; positions count from one. -/
structure Range where
  first : Nat
  last : Option Nat
  deriving DecidableEq, Repr

def Range.has (r : Range) (n : Nat) : Bool := r.first ≤ n && r.last.all (n ≤ ·)

/-- The ranges of a list. -/
def ranges (fields : Bool) (list : String) : Except String (List Range) :=
  let zero := if fields then "fields are numbered from 1"
    else "byte/character positions are numbered from 1"
  let what := if fields then "field value" else "byte/character position"
  let number (text : List Char) : Except String Nat :=
    let name := String.ofList text
    match natural? name with
    | some 0 => .error zero
    | some n => .ok n
    | none => .error s!"invalid {what} {Quoting.always name}"
  let one (item : List Char) : Except String Range := do
    let before := item.takeWhile (· ≠ '-')
    match item.drop before.length with
    | [] =>
      let n ← if item.isEmpty then throw zero else number item
      return ⟨n, some n⟩
    | _ :: after =>
      if before.isEmpty && after.isEmpty then throw "invalid range with no endpoint: -"
      let first ← if before.isEmpty then pure 1 else number before
      if after.isEmpty then return ⟨first, none⟩
      let last ← number after
      if last < first then throw "invalid decreasing range"
      return ⟨first, some last⟩
  (list.toList.splitOnP fun c => c == ',' || c == ' ').mapM one

/-- The items at positions that are asked for. -/
def pick (rs : List Range) (complement : Bool) (items : List α) : List α :=
  (items.zipIdx.filter fun (_, i) => (rs.any (·.has (i + 1))) != complement).map (·.1)

/-- Items in runs of neighbours that are asked for. -/
def pickRuns (rs : List Range) (complement : Bool) (items : List α) : List (List α) :=
  let marked := items.zipIdx.map fun (x, i) => (x, (rs.any (·.has (i + 1))) != complement)
  let starts (i : Nat) := rs.any fun r => r.first == i
  ((marked.zipIdx.foldl (fun (runs : List (List α) × Bool) ((x, wanted), i) =>
    if !wanted then (runs.1, false)
    else
      match runs with
      | (run :: more, true) =>
        if starts (i + 1) && !complement then ([x] :: run :: more, true) else ((x :: run) :: more, true)
      | (more, _) => ([x] :: more, true)) ([], false)).1.map List.reverse).reverse

def cut : Program :=
  make ⟨"b:c:d:f:nszO:C", [("bytes", 'b'), ("characters", 'c'), ("delimiter", 'd'), ("fields", 'f'),
    ("only-delimited", 's'), ("output-delimiter", 'O'), ("complement", 'C')], false⟩ 1 fun o m =>
    let lists := o.found.filter fun f => "bcf".toList.contains f.1
    match lists with
    | [] => m.noteUsage 1 "you must specify a list of bytes, characters, or fields"
    | (kind, list) :: more =>
      let fields := kind == 'f'
      if !more.isEmpty then m.noteUsage 1 "only one list may be specified"
      else if (o.value? 'd').any (·.length > 1) then
        m.noteUsage 1 "the delimiter must be a single character"
      else if o.has 'd' && !fields then
        m.noteUsage 1 "an input delimiter may be specified only when operating on fields"
      else if o.has 's' && !fields then
        m.noteUsage 1
          "suppressing non-delimited lines makes sense\n\tonly when operating on fields"
      else
        match ranges fields list with
        | .error text => m.noteUsage 1 text
        | .ok rs =>
          let delimiter := ((o.value? 'd').getD "\t").toList.headD '\x00'
          let between := ((o.value? 'O').map String.toList).getD [delimiter]
          let complement := o.has 'C'
          let line (text : List Char) : Option (List Char) :=
            if !fields then
              if o.has 'O' then some (between.intercalate (pickRuns rs complement text))
              else some (pick rs complement text)
            else if !text.contains delimiter then if o.has 's' then none else some text
            else some (between.intercalate (pick rs complement (text.splitOn delimiter)))
          forEach o m 1 fun m _ text => m.print (unlines false ((linesOf text).filterMap line))

/-- The delimiters of a list, with its escapes. -/
def delimiters : List Char → List (Option Char)
  | [] => []
  | '\\' :: 'n' :: rest => some '\n' :: delimiters rest
  | '\\' :: 't' :: rest => some '\t' :: delimiters rest
  | '\\' :: '0' :: rest => none :: delimiters rest
  | '\\' :: '\\' :: rest => some '\\' :: delimiters rest
  | c :: rest => some c :: delimiters rest

/-- The delimiters of an option; an empty list stands for none between the columns. -/
def delimitersOf (text : String) : List (Option Char) :=
  if text = "" then [none] else delimiters text.toList

/-- Texts with the delimiters between them in turn. -/
def interleave (ds : List (Option Char)) (texts : List (List Char)) : List Char :=
  (texts.zipIdx.flatMap fun (text, i) =>
    (if i = 0 then [] else ((ds[(i - 1) % max ds.length 1]?.getD (some '\t')).toList)) ++ text)

/-- The columns of a table whose columns may end at different rows. -/
def transposed (columns : List (List (List Char))) : List (List (List Char)) :=
  let rows := (columns.map List.length).foldl max 0
  let columns := columns.map List.toArray
  (List.range rows).map fun i => columns.map fun column => column[i]?.getD []

def paste : Program :=
  make ⟨"d:sz", [("delimiters", 'd'), ("serial", 's')], false⟩ 1 fun o m =>
    let ds := delimitersOf ((o.value? 'd').getD "\t")
    let operands := inputs o
    let failed := operands.findSome? fun operand =>
      match m.contents operand with
      | .error e => some (operand, e)
      | .ok _ => none
    match failed with
    | some (operand, e) => m.noteFailure 1 s!"{Quoting.ifNeeded operand}: {Machine.words e}"
    | none =>
      /- The input is shared by all dashes, line by line. -/
      let dashes := operands.count "-"
      let (input, m) :=
        if dashes = 0 then (([] : List (List Char)), m)
        else
          match m.contents "-" with
          | .ok (text, m) => (linesOf text, m)
          | .error _ => ([], m)
      let share (nth : Nat) : List (List Char) :=
        if o.has 's' then (if nth = 0 then input else [])
        else (input.zipIdx.filter fun (_, i) => i % dashes == nth).map (·.1)
      let (columns, _) := operands.foldl (fun (columns, nth) operand =>
        if operand = "-" then (columns ++ [share nth], nth + 1)
        else
          let text := ((m.contents operand).toOption.map (·.1)).getD []
          (columns ++ [linesOf text], nth)) (([] : List (List (List Char))), 0)
      let rows := if o.has 's' then columns else transposed columns
      m.print (unlines false (rows.map (interleave ds)))

/-! ### Characters in exchange for others -/

/-- A part of a set of characters. -/
inductive SetPart where
  | chars (cs : List Char)
  /-- A character so many times, or as often as it takes. -/
  | many (c : Char) (count : Option Nat)
  | members (name : String)

def SetPart.expanded (fill : Nat) : SetPart → List Char
  | .chars cs => cs
  | .many c count => List.replicate (count.getD fill) c
  | .members name =>
    let set := (CharSet.named? name).getD .empty
    ((List.range 256).map Char.ofNat).filter set.has

/-- The character that a text begins with; a backslash begins an escape. -/
def setChar : List Char → Option (Char × List Char)
  | [] => none
  | '\\' :: rest =>
    match rest with
    | [] => some ('\\', [])
    | c :: more =>
      match Format.control? c with
      | some d => if c = 'e' then some (c, more) else some (d, more)
      | none =>
        let digits := (rest.takeWhile Format.isOctal).take 3
        if digits.isEmpty then some (c, more) else some (Format.octal digits, rest.drop digits.length)
  | c :: rest => some (c, rest)

def setParts : Nat → List Char → Except String (List SetPart)
  | 0, _ => .ok []
  | _, [] => .ok []
  | fuel + 1, text =>
    let single : Except String (List SetPart) :=
      match setChar text with
      | none => .ok []
      | some (c, rest) =>
        match rest with
        | '-' :: more =>
          match setChar more with
          | none => do return .chars [c, '-'] :: (← setParts fuel [])
          | some (d, after) =>
            if d < c then
              let shown (c : Char) := String.singleton c
              .error (s!"range-endpoints of '{shown c}-{shown d}' are in reverse collating sequence order")
            else do
              let cs := (List.range (d.toNat - c.toNat + 1)).map fun i => Char.ofNat (c.toNat + i)
              return .chars cs :: (← setParts fuel after)
        | _ => do return .chars [c] :: (← setParts fuel rest)
    match text with
    | '[' :: ':' :: rest =>
      let name := rest.takeWhile (· ≠ ':')
      match rest.drop name.length with
      | ':' :: ']' :: after =>
        let name := String.ofList name
        if (CharSet.named? name).isSome && name != "ascii" && name != "word" then do
          return .members name :: (← setParts fuel after)
        else .error s!"invalid character class '{name}'"
      | _ => single
    | '[' :: '=' :: c :: '=' :: ']' :: after => do return .chars [c] :: (← setParts fuel after)
    | '[' :: rest =>
      match setChar rest with
      | some (c, '*' :: more) =>
        let digits := more.takeWhile Char.isDigit
        match more.drop digits.length with
        | ']' :: after =>
          let base := if digits.head? = some '0' then 8 else 10
          let n := (Arithmetic.numeral base digits).1
          do return .many c (if n = 0 then none else some n) :: (← setParts fuel after)
        | _ => single
      | _ => single
    | _ => single

def readSet (text : String) : Except String (List SetPart) :=
  setParts (text.length + 1) text.toList

def expandSet (fill : Nat) (parts : List SetPart) : List Char := parts.flatMap (SetPart.expanded fill)

/-- Leaves one of each run of characters of a set. -/
def squeeze (set : Array Bool) (text : List Char) : List Char :=
  (text.foldl (fun (out, last) c =>
    if last == some c && set.getD c.toNat false then (out, last) else (c :: out, some c))
    (([] : List Char), none)).1.reverse

/-- Which octets a list holds. -/
def flags (cs : List Char) : Array Bool :=
  cs.foldl (fun a c => a.setIfInBounds c.toNat true) (Array.replicate 256 false)

def tr : Program :=
  make ⟨"cCdst", [("complement", 'c'), ("delete", 'd'), ("squeeze-repeats", 's'),
    ("truncate-set1", 't')], true⟩ 1 fun o m =>
    let deletes := o.has 'd'
    let squeezes := o.has 's'
    let exchanges := !deletes && !(squeezes && o.operands.length = 1)
    let least := if deletes == squeezes then 2 else 1
    let most := if deletes && !squeezes then 1 else 2
    let complement := o.has 'c' || o.has 'C'
    match o.operands with
    | [] => m.noteUsage 1 "missing operand"
    | first :: rest =>
      if o.operands.length < least then
        let why := if squeezes then
            "Two strings must be given when both deleting and squeezing repeats."
          else "Two strings must be given when translating."
        ((m.note s!"missing operand after {Quoting.always first}").complain why).complain
          s!"Try '{m.name} --help' for more information." |>.ends 1
      else if o.operands.length > most then
        let extra := o.operands.getD most ""
        let m := m.note s!"extra operand {Quoting.always extra}"
        let m := if o.operands.length = 2 then
            m.complain "Only one string may be given when deleting without squeezing repeats."
          else m
        (m.complain s!"Try '{m.name} --help' for more information.").ends 1
      else
        match readSet first, readSet (rest.headD "") with
        | .error text, _ | _, .error text => m.noteFailure 1 text
        | .ok parts, .ok others =>
          let set := expandSet 0 parts
          let set := if complement then
              ((List.range 256).map Char.ofNat).filter fun c => !set.contains c
            else set
          match m.readAll 0 with
          | .error e => m.noteFailure 1 s!"read error: {Machine.words e}"
          | .ok (bytes, read) =>
            let text := Octet.ofBytes bytes
            let inFirst := flags set
            if exchanges then
              let sized := (others.map fun
                | .many _ none => 0
                | p => (p.expanded 0).length).foldl (· + ·) 0
              let targets := expandSet (set.length - sized) others
              let hasClass := others.any fun
                | .members name => name != "upper" && name != "lower"
                | _ => false
              -- A case may only stand opposite a case.
              let offsets (parts : List SetPart) : List Nat :=
                (parts.foldl (fun ((n, found) : Nat × List Nat) p =>
                  match p with
                  | .members name =>
                    (n + (p.expanded 0).length,
                      if name = "upper" ∨ name = "lower" then n :: found else found)
                  | .many _ none => (n + (set.length - sized), found)
                  | p => (n + (p.expanded 0).length, found)) (0, [])).2
              let isMisaligned := !hasClass && !complement &&
                !((offsets others).all (offsets parts).contains)
              if isMisaligned then
                m.noteFailure 1 "misaligned [:upper:] and/or [:lower:] construct"
              else if hasClass then
                m.noteFailure 1
                  "when translating, the only character classes that may appear in\nstring2 are 'upper' and 'lower'"
              else if targets.isEmpty && !o.has 't' then
                m.noteFailure 1 "when not truncating set1, string2 must be non-empty"
              else
                let set := if o.has 't' then set.take targets.length else set
                let padded := targets ++
                  List.replicate (set.length - targets.length) (targets.getLastD '\x00')
                let table := (set.zip padded).foldl (fun (a : Array Char) (c, d) =>
                  a.setIfInBounds c.toNat d) ((List.range 256).map Char.ofNat).toArray
                let out := text.map fun c => table.getD c.toNat c
                read.print (if squeezes then squeeze (flags targets) out else out)
            else if deletes then
              let kept := text.filter fun c => !(inFirst.getD c.toNat false)
              read.print (if squeezes then squeeze (flags (expandSet 0 others)) kept else kept)
            else read.print (squeeze inFirst text)

end ScriptBundle.Shell.Tool
