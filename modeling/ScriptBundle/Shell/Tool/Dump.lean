import ScriptBundle.Shell.Tool.Lines

/-!
# Octets in figures

`od` shows the octets of its files as numbers or names, one block a line, behind the position of the
block. A block that is like the one before is not shown again, but for a star.
-/

namespace ScriptBundle.Shell.Tool.Dump

/-- How the items of a block are shown. -/
structure Style where
  letter : Char
  /-- The number of octets in an item. -/
  size : Nat := 1
  /-- Whether the characters are shown behind the items. -/
  trailer : Bool := false
  deriving DecidableEq, Repr

namespace Style

/-- The widest an item can be. -/
def width (s : Style) : Nat :=
  let widths : List Nat :=
    match s.letter with
    | 'o' => [3, 6, 11, 22]
    | 'd' => [4, 6, 11, 20]
    | 'u' => [3, 5, 10, 20]
    | 'x' => [2, 4, 8, 16]
    | _ => [3]
  widths.getD s.size.log2 3

def names : List String :=
  ["nul", "soh", "stx", "etx", "eot", "enq", "ack", "bel", "bs", "ht", "nl", "vt", "ff", "cr", "so", "si",
    "dle", "dc1", "dc2", "dc3", "dc4", "nak", "syn", "etb", "can", "em", "sub", "esc", "fs", "gs", "rs", "us",
    "sp"]

/-- The number in some octets, of which the first is the lowest. -/
def numberOf (part : List Char) : Nat := part.reverse.foldl (fun n c => n * 256 + c.toNat) 0

def inDigits (base width n : Nat) : String :=
  let digits := Nat.toDigits base n
  String.ofList (List.replicate (width - digits.length) '0' ++ digits)

def isShown (c : Char) : Bool := 32 ≤ c.toNat && c.toNat < 127

def item (s : Style) (part : List Char) : String :=
  let n := numberOf part
  match s.letter with
  | 'o' => inDigits 8 s.width n
  | 'x' => inDigits 16 s.width n
  | 'u' => toString n
  | 'd' =>
    let full := Nat.pow 256 s.size
    toString (if 2 * n ≥ full then (n : Int) - full else (n : Int))
  | 'a' => if n % 128 = 127 then "del" else names.getD (n % 128) (String.singleton (Char.ofNat (n % 128)))
  | _ =>
    match n with
    | 0 => "\\0"
    | 7 => "\\a"
    | 8 => "\\b"
    | 9 => "\\t"
    | 10 => "\\n"
    | 11 => "\\v"
    | 12 => "\\f"
    | 13 => "\\r"
    | n => if isShown (Char.ofNat n) then String.singleton (Char.ofNat n) else inDigits 8 3 n

/-- The items of a block of which so many octets are there, one column each; the octets are filled up to
the end of the last item. The room that other styles need is spread over the columns. -/
def items (s : Style) (block room count : Nat) (filled : List Char) : List Char :=
  let fields := block / s.size
  let missing := (block - count) / s.size
  let spare := room - s.width * fields
  let body := (List.range (fields - missing)).flatMap fun k =>
    let i := fields - k
    let column := spare * i / fields - spare * (i - 1) / fields + s.width
    inColumn column (s.item ((filled.drop (k * s.size)).take s.size))
  if s.trailer then
    body ++ List.replicate (missing * s.width + spare * missing / fields) ' ' ++ "  >".toList
      ++ (filled.take count).map (fun c => if isShown c then c else '.') ++ ['<']
  else body

end Style

/-- The styles that a text of letters and sizes names. -/
def readStyles (whole : String) : Nat → List Char → Except String (List Style)
  | 0, _ | _, [] => .ok []
  | fuel + 1, letter :: rest =>
    if letter = 'a' ∨ letter = 'c' then do
      let (trailer, rest) := match rest with
        | 'z' :: rest => (true, rest)
        | rest => (false, rest)
      return ⟨letter, 1, trailer⟩ :: (← readStyles whole fuel rest)
    else if letter = 'd' ∨ letter = 'o' ∨ letter = 'u' ∨ letter = 'x' then do
      let digits := rest.takeWhile Char.isDigit
      let (size, rest) :=
        match digits, rest with
        | [], 'C' :: rest => (1, rest)
        | [], 'S' :: rest => (2, rest)
        | [], 'I' :: rest => (4, rest)
        | [], 'L' :: rest => (8, rest)
        | [], rest => (4, rest)
        | digits, rest => ((String.ofList digits).toNat?.getD 0, rest.drop digits.length)
      if size ∉ [1, 2, 4, 8] then
        let shown := Quoting.always whole
        throw s!"invalid type string {shown};\nthis system doesn't provide a {size}-byte integral type"
      let (trailer, rest) := match rest with
        | 'z' :: rest => (true, rest)
        | rest => (false, rest)
      return ⟨letter, size, trailer⟩ :: (← readStyles whole fuel rest)
    else
      let shown := Quoting.always whole
      .error s!"invalid character '{letter}' in type string {shown}"

/-- The type that a letter of its own stands for. -/
def shortFor : List (Char × String) :=
  [('a', "a"), ('b', "o1"), ('c', "c"), ('D', "u4"), ('d', "u2"), ('H', "x4"), ('h', "x2"), ('i', "d4"),
    ('I', "d8"), ('L', "d8"), ('l', "d8"), ('O', "o4"), ('o', "o2"), ('B', "o2"), ('s', "d2"), ('X', "x4"),
    ('x', "x2")]

def styles (o : Options) : Except String (List Style) := do
  let texts := o.found.filterMap fun (letter, value) => if letter = 't' then some value else shortFor.lookup letter
  let all ← texts.mapM fun text => readStyles text (text.length + 1) text.toList
  return if all.flatten.isEmpty then [⟨'o', 2, false⟩] else all.flatten

/-- A position, as the letter of a base says. -/
def address (base : Char) (n : Nat) : List Char :=
  match base with
  | 'd' => (Style.inDigits 10 7 n).toList
  | 'x' => (Style.inDigits 16 6 n).toList
  | 'n' => []
  | _ => (Style.inDigits 8 7 n).toList

/-- What is to be shown, and how. -/
structure Plan where
  styles : List Style
  base : Char
  block : Nat
  all : Bool

/-- The lines of a block of which so many octets are there. -/
def Plan.lines (p : Plan) (offset count : Nat) (filled : List Char) : List Char :=
  let room := (p.styles.map fun s => (s.width + 1) * (p.block / s.size)).foldl max 0
  let front := address p.base offset
  (p.styles.zipIdx).flatMap fun (s, i) =>
    (if i = 0 then front else List.replicate front.length ' ') ++ s.items p.block room count filled ++ ['\n']

/-- All blocks from a position on. -/
def Plan.blocks (p : Plan) (unit : Nat) : Nat → Nat → Option (List Char) → Bool → List Char → List (List Char)
  | 0, _, _, _, _ => []
  | fuel + 1, offset, last, starred, text =>
    if text.isEmpty then
      let front := address p.base offset
      if front.isEmpty then [] else [front ++ ['\n']]
    else
      let part := text.take p.block
      let rest := text.drop p.block
      if !p.all && part.length = p.block && last == some part then
        (if starred then [] else [['*', '\n']]) ++ p.blocks unit fuel (offset + part.length) last true rest
      else
        let filled := part ++ List.replicate ((unit - part.length % unit) % unit) '\x00'
        p.lines offset part.length filled :: p.blocks unit fuel (offset + part.length) (some part) false rest

end Dump

def od : Program :=
  make ⟨"A:j:N:t:vw::abcdDhHiIlLoOBsxX", [("address-radix", 'A'), ("skip-bytes", 'j'), ("read-bytes", 'N'),
    ("format", 't'), ("output-duplicates", 'v'), ("width", 'w')], false⟩ 1 fun o m =>
    let size (letter : Char) : Option (Option Nat) := (o.value? letter).map size?
    let shown (letter : Char) : String := Quoting.always ((o.value? letter).getD "")
    let skipped := shown 'j'
    let limit := shown 'N'
    let radix := (o.value? 'A').getD "o"
    match Dump.styles o, size 'j', size 'N' with
    | _, some none, _ => m.noteFailure 1 s!"invalid -j argument {skipped}"
    | _, _, some none => m.noteFailure 1 s!"invalid -N argument {limit}"
    | .error text, _, _ => m.noteFailure 1 text
    | .ok styles, skip, most =>
      if radix ∉ ["d", "o", "x", "n"] then
        m.noteFailure 1
          s!"invalid output address radix '{radix.take 1}'; it must be one character from [doxn]"
      else
        let unit := styles.foldl (fun n s => Nat.lcm n s.size) 1
        let usual := if unit < 16 then unit * (16 / unit) else unit
        let asked := (o.value? 'w').map fun text => if text.isEmpty then 32 else (natural? text).getD 0
        let (block, m) := match asked with
          | none => (usual, m)
          | some n =>
            if n = 0 || n % unit != 0 then (unit, m.note s!"warning: invalid width {n}; using {unit} instead")
            else (n, m)
        let opens (operand : String) : Bool := operand == "-" || (m.openPath operand .reading).toOption.isSome
        let isOpen := (inputs o).any opens
        let (text, m) := gather o m 1
        let skip := (skip.bind fun n => n).getD 0
        if !isOpen then m
        else if skip > text.length then m.noteFailure 1 "cannot skip past end of combined input"
        else
          let text := text.drop skip
          let text := match most.bind fun n => n with
            | some n => text.take n
            | none => text
          let p : Dump.Plan := ⟨styles, radix.toList.headD 'o', block, o.has 'v'⟩
          m.print (p.blocks unit (text.length + 1) skip none false text).flatten

end ScriptBundle.Shell.Tool
