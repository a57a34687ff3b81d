import ScriptBundle.Regex.Match
import ScriptBundle.Regex.Posix
import ScriptBundle.Shell.Format
import ScriptBundle.Shell.Tool.Basic
import ScriptBundle.Shell.Tool.ModeChange
import ScriptBundle.Shell.Wildcard

/-!
# Tools on names

Tools that tell what there is: the names in directories, the files below them that fit conditions, and
the parts of a path.
-/

namespace ScriptBundle.Shell.Tool

/-! ### Parts of paths -/

/-- The last name of a path, without an ending unless that is all there is. -/
def baseName (path ending : String) : String :=
  let chars := path.toList
  let kept := (chars.reverse.dropWhile (· == '/')).reverse
  let name :=
    if kept.isEmpty then (if chars.isEmpty then "" else "/")
    else Program.lastName (String.ofList kept)
  if ending ≠ "" && name.endsWith ending && name ≠ ending then (name.dropEnd ending.length).toString
  else name

/-- A path without its last name. -/
def dirName (path : String) : String :=
  let chars := path.toList
  let kept := chars.reverse.dropWhile (· == '/')
  let before := (kept.dropWhile (· ≠ '/')).dropWhile (· == '/')
  if before.isEmpty then (if chars.head? = some '/' then "/" else ".")
  else String.ofList before.reverse

def basename : Program :=
  make ⟨"as:z", [("multiple", 'a'), ("suffix", 's'), ("zero", 'z')], true⟩ 1 fun o m =>
    let stop := if o.has 'z' then "\x00" else "\n"
    match o.operands with
    | [] => m.noteUsage 1 "missing operand"
    | operands =>
      if o.has 'a' || o.has 's' then
        operands.foldl (fun m path => m.printText (baseName path ((o.value? 's').getD "") ++ stop)) m
      else
        match operands with
        | _ :: _ :: extra :: _ => m.noteUsage 1 s!"extra operand {Quoting.always extra}"
        | path :: rest => m.printText (baseName path (rest.headD "") ++ stop)
        | [] => m

def dirname : Program :=
  make ⟨"z", [("zero", 'z')], false⟩ 1 fun o m =>
    let stop := if o.has 'z' then "\x00" else "\n"
    if o.operands.isEmpty then m.noteUsage 1 "missing operand"
    else o.operands.foldl (fun m path => m.printText (dirName path ++ stop)) m

def absolute (key : Key) : String := Octet.ofText ("/" ++ String.intercalate "/" key)

/-- Where a path would lead if all its names were there. -/
def imagined (m : Machine) (operand : String) : Key :=
  let names := (Octet.toText operand).toList.splitOn '/'
  let start := if operand.startsWith "/" then [] else m.files.start
  names.foldl (fun key name =>
    match String.ofList name with
    | "" | "." => key
    | ".." => key.dropLast
    | name => key ++ [name]) start

/-- Where a path leads, from the root. Its last name need not be there; perhaps none of its names. -/
def resolved (m : Machine) (operand : String) (mustBe mayMiss : Bool) : Except FileError Key := do
  if mayMiss && operand != "" then return imagined m operand
  let key ← m.files.locate (Machine.pathOf operand)
  if mustBe && (m.files.node? key).isNone then throw .notFound
  return key

/-- The way from a directory to a file. -/
def relative (base key : Key) : String :=
  let shared := ((base.zip key).takeWhile fun (a, b) => a == b).length
  let names := List.replicate (base.length - shared) ".." ++ key.drop shared
  if names.isEmpty then "." else Octet.ofText (String.intercalate "/" names)

def realpath : Program :=
  make ⟨"emqszLP\x01:\x02:", [("canonicalize-existing", 'e'), ("canonicalize-missing", 'm'),
    ("quiet", 'q'), ("strip", 's'), ("no-symlinks", 's'), ("relative-to", '\x01'),
    ("relative-base", '\x02'), ("zero", 'z')], false⟩ 1 fun o m =>
    if o.operands.isEmpty then m.noteUsage 1 "missing operand"
    else
      o.operands.foldl (fun m operand =>
        match resolved m operand (o.has 'e') (o.has 'm') with
        | .ok key =>
          let shown := match o.value? '\x01' with
            | none => absolute key
            | some base => relative (imagined m base) key
          m.printText (shown ++ (if o.has 'z' then "\x00" else "\n"))
        | .error e =>
          if o.has 'q' then m.ends 1
          else m.noteFailure 1 s!"{Quoting.ifNeeded operand}: {Machine.words e}") m

def readlink : Program :=
  make ⟨"efmnqsvz", [("canonicalize", 'f'), ("canonicalize-existing", 'e'),
    ("canonicalize-missing", 'm'), ("no-newline", 'n')], false⟩ 1 fun o m =>
    if o.operands.isEmpty then m.noteUsage 1 "missing operand"
    else
      o.operands.foldl (fun m operand =>
        if o.has 'f' || o.has 'e' || o.has 'm' then
          match resolved m operand (o.has 'e') (o.has 'm') with
          | .ok key => m.printText (absolute key ++ (if o.has 'n' then "" else "\n"))
          | .error _ => m.ends 1
        else m.ends 1) m

def pwd : Program :=
  make ⟨"LP", [], false⟩ 1 fun _ m => m.printText (absolute m.files.start ++ "\n")

def which : Program := fun _ m args =>
  let all := args.contains "-a"
  let names := args.filter fun arg => !arg.startsWith "-"
  (names.foldl (fun m name =>
    let paths := if name.toList.contains '/' then [name]
      else Program.candidates ((m.get? "PATH").getD "") name
    let found := paths.filter fun path =>
      FileTree.isInstalled path ||
        ((m.nodeAt path).toOption.any Node.isProgram)
    match found with
    | [] => m.ends 1
    | first :: _ =>
      (if all then found else [first]).foldl (fun m path => m.printText (path ++ "\n")) m)
    (m.ends (if names.isEmpty then 1 else 0))).finish 1

def sizeOf : Node → Nat
  | .file content _ => content.length
  | .directory _ => 4096
  | .device .. => 0

/-- The kind of a file and its mode in letters. -/
def modeLetters (n : Node) : String :=
  let kind := match n with
    | .directory _ => 'd'
    | .file .. => '-'
    | .device .. => 'c'
  String.ofList (kind :: n.mode.letters)

def modeDigits (n : Node) : String := String.ofList n.mode.digits

/-- The bits of a kind of file that stand before those of its mode. -/
def kindBits : Node → Nat
  | .directory _ => 0x4000
  | .file .. => 0x8000
  | .device .. => 0x2000

/-- The links to a file: one from each key, and to a directory one from itself and from each directory
in it. -/
def linksOf (m : Machine) (key : Key) (node : Node) : Nat :=
  if node.isDirectory then 2 + (m.files.children key).countP (·.2.isDirectory)
  else 1 + (m.otherKeys key).length

def kindOf : Node → String
  | .directory _ => "directory"
  | .file [] _ => "regular empty file"
  | .file .. => "regular file"
  | .device .. => "character special file"

/-- What a letter of a format stands for; none if it stands for nothing. -/
def factOf? (name : String) (node : Node) (links : Nat) (letter : Char) : Option String :=
  match letter with
  | 's' => some (toString (sizeOf node))
  | 'n' => some name
  | 'N' => some (Quoting.always name)
  | 'F' => some (kindOf node)
  | 'a' => some (modeDigits node)
  | 'A' => some (modeLetters node)
  | 'f' => some (String.ofList (Nat.toDigits 16 (kindBits node + node.mode.toNat)))
  | 'U' | 'G' => some "root"
  | 'u' | 'g' => some "0"
  | 'h' => some (toString links)
  | 'b' => some (toString ((sizeOf node + 4095) / 4096 * 8))
  | 'B' => some "512"
  | 'o' => some "4096"
  | '%' => some "%"
  | _ => none

/-- Brings a text to a width: at its end, or with blanks or zeros at its start. -/
def toWidth (flags : List Char) (width : Nat) (text : String) : String :=
  let fill (c : Char) : String := String.ofList (List.replicate (width - text.length) c)
  if flags.contains '-' then text ++ fill ' '
  else if flags.contains '0' then fill '0' ++ text
  else fill ' ' ++ text

/-- Fills a format with what is known of a file. -/
def describeFile (escapes : Bool) (fact? : Char → Option String) : Nat → List Char → List Char
  | 0, _ => []
  | fuel + 1, text =>
    match text with
    | [] => []
    | '%' :: rest =>
      let flags := rest.takeWhile "-0#+ ".toList.contains
      let digits := (rest.drop flags.length).takeWhile Char.isDigit
      let front := flags ++ digits
      let width := (String.ofList digits).toNat?.getD 0
      match rest.drop front.length with
      | [] => '%' :: front
      | letter :: rest =>
        match fact? letter with
        | some shown =>
          (toWidth flags width shown).toList ++ describeFile escapes fact? fuel rest
        | none => '%' :: front ++ letter :: describeFile escapes fact? fuel rest
    | '\\' :: rest =>
      if escapes then
        let (c, rest) := Format.escape rest
        c :: describeFile escapes fact? fuel rest
      else '\\' :: describeFile escapes fact? fuel rest
    | c :: rest => c :: describeFile escapes fact? fuel rest

def stat : Program :=
  make ⟨"Lfc:t\x01:", [("format", 'c'), ("dereference", 'L'), ("printf", '\x01'), ("terse", 't'),
    ("file-system", 'f')], false⟩ 1 fun o m =>
    if o.operands.isEmpty then m.noteUsage 1 "missing operand"
    else
      o.operands.foldl (fun m operand =>
        match m.nodeAt operand with
        | .error e => m.noteFailure 1 s!"cannot statx {Quoting.always operand}: {Machine.words e}"
        | .ok node =>
          let key := (m.files.locate (Machine.pathOf operand)).toOption.getD []
          let links := linksOf m key node
          let filled (escapes : Bool) (format : String) : List Char :=
            describeFile escapes (factOf? operand node links) (format.length + 1) format.toList
          match o.value? '\x01' with
          | some format => m.print (filled true format)
          | none => m.print (filled false ((o.value? 'c').getD "%n") ++ ['\n'])) m

/-! ### Directories -/

structure Entry where
  name : String
  node : Node
  key : Key

def entriesOf (m : Machine) (key : Key) : List Entry :=
  (m.files.children key).map fun (name, node) => ⟨Octet.ofText name, node, key ++ [name]⟩

/-- The order of a listing: by name, size or age. -/
def sortEntries (o : Options) (m : Machine) (entries : List Entry) : List Entry :=
  let byName := entries.mergeSort fun a b => a.name ≤ b.name
  let age (e : Entry) := (m.files.entries.findIdx? fun other => other.1 == e.key).getD 0
  let sorted :=
    match o.lastOf? ['S', 't', 'U'] with
    | some 'S' => byName.mergeSort fun a b => sizeOf a.node ≥ sizeOf b.node
    | some 't' => byName.mergeSort fun a b => age a ≤ age b
    | _ => byName
  if o.has 'r' then sorted.reverse else sorted

/-- How a name is shown. -/
def shownName (o : Options) (e : Entry) : String :=
  let mark :=
    if o.has 'F' || o.has 'p' then
      match e.node with
      | .directory _ => "/"
      | node => if o.has 'F' && node.isProgram then "*" else ""
    else ""
  let body := if o.has 'Q' then "\"" ++ e.name ++ "\"" else e.name
  body ++ mark

/-- The room that a file takes, in units of 1024 octets. -/
def blocksOf (n : Node) : Nat := (sizeOf n + 4095) / 4096 * 4

def fillFront (width : Nat) (text : String) : String :=
  String.ofList (List.replicate (width - text.length) ' ') ++ text

/-- A size in the largest unit in which it is not below one. -/
def readableSize (n : Nat) : String :=
  let rec go : Nat → Nat → List Char → String
    | 0, unit, _ => toString (n / unit)
    | fuel + 1, unit, letters =>
      match letters with
      | [] => toString (n / unit)
      | letter :: rest =>
        if n < unit * 1024 then
          let tenths := (n * 10 + unit - 1) / unit
          if tenths < 100 then s!"{tenths / 10}.{tenths % 10}{letter}"
          else s!"{(n + unit - 1) / unit}{letter}"
        else go fuel (unit * 1024) rest
  if n < 1024 then toString n else go 8 1024 ['K', 'M', 'G', 'T']

/-- The lines of a listing with all that is known of each file. -/
def longLines (o : Options) (m : Machine) (entries : List Entry) : List String :=
  let size (e : Entry) : String :=
    if o.has 'h' then readableSize (sizeOf e.node) else toString (sizeOf e.node)
  let widest (shown : Entry → String) : Nat := (entries.map fun e => (shown e).length).foldl max 0
  let links (e : Entry) : String := toString (linksOf m e.key e.node)
  let blocks (e : Entry) : String := toString (blocksOf e.node)
  let (sizeWidth, linksWidth, blocksWidth) := (widest size, widest links, widest blocks)
  let owner := if o.has 'n' then "0" else "root"
  entries.map fun e =>
    let front := if o.has 's' then fillFront blocksWidth (blocks e) ++ " " else ""
    let owners := (if o.has 'g' then "" else owner ++ " ") ++ (if o.has 'o' || o.has 'G' then "" else owner ++ " ")
    let (mode, count, length) := (modeLetters e.node, fillFront linksWidth (links e), fillFront sizeWidth (size e))
    s!"{front}{mode} {count} {owners}{length} Jan  1 00:00 {shownName o e}"

def isLong (o : Options) : Bool := o.has 'l' || o.has 'n' || o.has 'o' || o.has 'g'

def printEntries (o : Options) (m : Machine) (entries : List Entry) : Machine :=
  let names :=
    if isLong o then longLines o m entries
    else if o.has 's' then
      let width := (entries.map fun e => (toString (blocksOf e.node)).length).foldl max 0
      entries.map fun e => fillFront width (toString (blocksOf e.node)) ++ " " ++ shownName o e
    else entries.map (shownName o)
  if o.has 'm' && !isLong o then
    if names.isEmpty then m else m.printText (String.intercalate ", " names ++ "\n")
  else names.foldl (fun m name => m.printText (name ++ "\n")) m

/-- Lists a directory, and those below it if that is asked for. -/
def listDirectory (o : Options) : Nat → Machine → String → Key → Bool → Machine
  | 0, m, _, _, _ => m
  | fuel + 1, m, name, key, headed =>
    let hidden := o.lastOf? ['a', 'A', 'f']
    let entries := entriesOf m key
    let entries := if hidden.isSome then entries else entries.filter (!·.name.startsWith ".")
    let mode := ((m.files.node? key).map Node.mode).getD Mode.directory
    let here (name : String) : Entry := ⟨name, .directory mode, key⟩
    let dots : List Entry := if hidden = some 'a' ∨ hidden = some 'f' then
      [here ".", { here ".." with key := key.dropLast }] else []
    let sorted := sortEntries o m (dots ++ entries)
    let m := if headed then m.printText s!"{name}:\n" else m
    let total := (sorted.map fun e => blocksOf e.node).foldl (· + ·) 0
    let m := if isLong o || o.has 's' then m.printText s!"total {total}\n" else m
    let m := printEntries o m sorted
    if !o.has 'R' then m
    else
      (sorted.filter fun e => e.node.isDirectory && e.name != "." && e.name != "..").foldl
        (fun m e =>
          let inner := if name.endsWith "/" then name ++ e.name else name ++ "/" ++ e.name
          listDirectory o fuel (m.printText "\n") inner e.key true) m

def ls : Program :=
  make ⟨"1aAbBcCdfFgGhHiklLmnNopqQrRsStuUvw:xXZ", [("all", 'a'), ("almost-all", 'A'),
    ("directory", 'd'), ("recursive", 'R'), ("reverse", 'r'), ("classify", 'F'), ("quote-name", 'Q'),
    ("human-readable", 'h'), ("size", 's'), ("numeric-uid-gid", 'n'), ("no-group", 'G')], false⟩ 2 fun o m =>
    let operands := if o.operands.isEmpty then ["."] else o.operands
    let (found, m) := operands.foldl (fun (found, m) operand =>
      match m.nodeAt operand, (m.files.locate (Machine.pathOf operand)).toOption with
      | .ok node, some key => (({ name := operand, node, key } : Entry) :: found, m)
      | .error e, _ =>
        (found, m.noteFailure 2 s!"cannot access {Quoting.always operand}: {Machine.words e}")
      | _, none => (found, m)) (([] : List Entry), m)
    let sorted := sortEntries o m found.reverse
    let isListed (e : Entry) := e.node.isDirectory && !o.has 'd'
    let files := sorted.filter (!isListed ·)
    let m := printEntries o m files
    let headed := operands.length > 1 || o.has 'R'
    ((sorted.filter isListed).foldl (fun (m, isFirst) e =>
      let m := if isFirst then m else m.printText "\n"
      (listDirectory o 100 m e.name e.key headed, false)) (m, files.isEmpty)).1

/-! ### Searching -/

/-- A condition on a file. -/
inductive Test where
  | yes
  | name (pattern : List Wildcard) (anyCase : Bool)
  | path (pattern : List Wildcard) (anyCase : Bool)
  | kind (letter : Char)
  | size (sign : Char) (count : Nat) (unit : Nat)
  | isEmpty
  | executable
  | fits (r : Regex)
  | mode (sign : Option Char) (bits : Mode)
  | newer (key : Key)
  | print (stop : Char)
  | form (format : List Char)
  | prune
  | quit
  | delete
  /-- Starts a program for the file, or once for many files. -/
  | run (words : List String) (many : Bool)
  | not (t : Test)
  | both (a b : Test)
  | either (a b : Test)

def wildcards (text : String) (anyCase : Bool) : List Wildcard :=
  let ws := Wildcard.read (text.toList.map fun c => ⟨c, false⟩)
  if anyCase then
    ws.map fun
      | .one set => .one (.anyCase set)
      | .run => .run
  else ws

/-- A number with a sign and a unit. -/
def sizeTest? (text : String) : Option Test :=
  let sign := text.toList.head?.filter fun c => c == '+' || c == '-'
  let body := if sign.isSome then text.toList.tail else text.toList
  let digits := body.takeWhile Char.isDigit
  let unit := match body.drop digits.length with
    | [] | ['b'] => some 512
    | ['c'] => some 1
    | ['w'] => some 2
    | ['k'] => some 1024
    | ['M'] => some 1048576
    | ['G'] => some 1073741824
    | _ => none
  match (String.ofList digits).toNat?, unit with
  | some n, some unit => some (.size (sign.getD '=') n unit)
  | _, _ => none

/-- What an expression asks for besides its conditions. -/
structure Search where
  least : Nat := 0
  most : Nat := 100000
  deepFirst : Bool := false

abbrev FindRead := StateT (List String × Search) (Except String)

def nextWord (option : String) : FindRead String := do
  match (← get).1 with
  | [] => throw s!"missing argument to {Char.ofNat 96}{option}'"
  | word :: rest =>
    modify fun s => (rest, s.2)
    return word

def fileKey (m : Machine) (operand : String) : FindRead Key := do
  match m.files.locate (Machine.pathOf operand) with
  | .ok key =>
    if (m.files.node? key).isNone then throw s!"{Quoting.always operand}: No such file or directory"
    return key
  | .error e => throw s!"{Quoting.always operand}: {Machine.words e}"

mutual

def readEither (m : Machine) : Nat → FindRead Test
  | 0 => throw "invalid expression"
  | fuel + 1 => do
    let a ← readBoth m fuel
    match (← get).1 with
    | "-o" :: rest | "-or" :: rest =>
      modify fun s => (rest, s.2)
      return .either a (← readEither m fuel)
    | _ => return a

def readBoth (m : Machine) : Nat → FindRead Test
  | 0 => throw "invalid expression"
  | fuel + 1 => do
    let a ← readOne m fuel
    match (← get).1 with
    | [] | ")" :: _ | "-o" :: _ | "-or" :: _ => return a
    | "-a" :: rest | "-and" :: rest =>
      modify fun s => (rest, s.2)
      return .both a (← readBoth m fuel)
    | _ => return .both a (← readBoth m fuel)

def readOne (m : Machine) : Nat → FindRead Test
  | 0 => throw "invalid expression"
  | fuel + 1 => do
    let word ← nextWord ""
    let value : FindRead String := nextWord word
    let count : FindRead Nat := do
      let text ← value
      match natural? text with
      | some n => return n
      | none =>
        throw s!"Expected a positive decimal integer argument to {word}, but got {Quoting.always text}"
    match word with
    | "!" | "-not" => return .not (← readOne m fuel)
    | "(" =>
      let t ← readEither m fuel
      match (← get).1 with
      | ")" :: rest =>
        modify fun s => (rest, s.2)
        return t
      | _ =>
        throw "invalid expression; I was expecting to find a ')' somewhere but did not see one."
    | "-name" => return .name (wildcards (← value) false) false
    | "-iname" => return .name (wildcards (← value) true) true
    | "-path" | "-wholename" => return .path (wildcards (← value) false) false
    | "-ipath" => return .path (wildcards (← value) true) true
    | "-regex" | "-iregex" =>
      let text ← value
      match Regex.Posix.read { extended := false, anyCase := word == "-iregex" } text.toList with
      | .ok r => return .fits (.seq (.look .textStart) (.seq r (.look .textEnd)))
      | .error e => throw s!"failed to compile regular expression '{text}': {e}"
    | "-type" =>
      let text ← value
      match text.toList with
      | [letter] =>
        if "bcdpflsD".toList.contains letter then return .kind letter
        else throw s!"Unknown argument to -type: {letter}"
      | _ => throw s!"Must separate multiple arguments to -type using: ','"
    | "-perm" =>
      let text ← value
      let sign := text.toList.head?.filter fun c => c == '-' || c == '/'
      let rest := if sign.isSome then text.toList.tail else text.toList
      match ModeChange.read? rest with
      | some changes => return .mode sign (ModeChange.applyAll false 0 0 changes)
      | none => throw s!"invalid mode {Quoting.always text}"
    | "-mtime" | "-atime" | "-ctime" | "-mmin" | "-amin" | "-cmin" =>
      -- All files are new.
      let text ← value
      match text.toList with
      | '+' :: _ => return .not .yes
      | '-' :: _ => return .yes
      | digits => return if digits == ['0'] then .yes else .not .yes
    | "-links" => return if ["1", "+0"].contains (← value) then .yes else .not .yes
    | "-user" | "-group" | "-uid" | "-gid" =>
      return if ["root", "0"].contains (← value) then .yes else .not .yes
    | "-readable" | "-writable" => return .yes
    | "-size" =>
      let text ← value
      match sizeTest? text with
      | some t => return t
      | none => throw s!"invalid -size type {Char.ofNat 96}{text}'"
    | "-empty" => return .isEmpty
    | "-executable" => return .executable
    | "-newer" => return .newer (← fileKey m (← value))
    | "-print" => return .print '\n'
    | "-print0" => return .print '\x00'
    | "-printf" => return .form (← value).toList
    | "-prune" => return .prune
    | "-quit" => return .quit
    | "-true" => return .yes
    | "-false" => return .not .yes
    | "-delete" =>
      modify fun s => (s.1, { s.2 with deepFirst := true })
      return .delete
    | "-depth" =>
      modify fun s => (s.1, { s.2 with deepFirst := true })
      return .yes
    | "-maxdepth" =>
      let n ← count
      modify fun s => (s.1, { s.2 with most := n })
      return .yes
    | "-mindepth" =>
      let n ← count
      modify fun s => (s.1, { s.2 with least := n })
      return .yes
    | "-exec" | "-ok" =>
      let words := (← get).1
      let inner := words.takeWhile fun w => w != ";" && w != "+"
      match words.drop inner.length with
      | [] => throw "missing argument to `-exec'"
      | stop :: rest =>
        modify fun s => (rest, s.2)
        if stop = "+" then return .run inner.dropLast true else return .run inner false
    | "-mount" | "-xdev" | "-follow" | "-noleaf" => return .yes
    | _ =>
      if word.startsWith "-" then throw s!"unknown predicate {Char.ofNat 96}{word}'"
      else throw s!"paths must precede expression: {Char.ofNat 96}{word}'"

end

/-- Whether an expression does something by itself. -/
def Test.acts : Test → Bool
  | .print _ | .form _ | .delete | .run .. => true
  | .not t => t.acts
  | .both a b | .either a b => a.acts || b.acts
  | _ => false

/-- What a search has come to. -/
structure Searching where
  machine : Machine
  pruned : Bool := false
  stopped : Bool := false
  /-- Files that wait for a program that takes many. -/
  waiting : List String := []

/-- A format for a file that was found. -/
def foundText (path : String) (node : Node) (depth : Nat) : List Char → List Char
  | [] => []
  | '\\' :: 'n' :: rest => '\n' :: foundText path node depth rest
  | '\\' :: 't' :: rest => '\t' :: foundText path node depth rest
  | '\\' :: '0' :: rest => '\x00' :: foundText path node depth rest
  | '\\' :: '\\' :: rest => '\\' :: foundText path node depth rest
  | '%' :: 'p' :: rest => path.toList ++ foundText path node depth rest
  | '%' :: 'f' :: rest => (baseName path "").toList ++ foundText path node depth rest
  | '%' :: 'h' :: rest => (dirName path).toList ++ foundText path node depth rest
  | '%' :: 's' :: rest => (toString (sizeOf node)).toList ++ foundText path node depth rest
  | '%' :: 'd' :: rest => (toString depth).toList ++ foundText path node depth rest
  | '%' :: 'y' :: rest =>
    (if node.isDirectory then 'd' else if node.isFile then 'f' else 'c') ::
      foundText path node depth rest
  | '%' :: '%' :: rest => '%' :: foundText path node depth rest
  | c :: rest => c :: foundText path node depth rest

/-- Decides an expression for a file, and does what it says. -/
def Test.apply (exec : Exec) (path : String) (key : Key) (node : Node) (depth : Nat) :
    Test → Searching → Bool × Searching
  | .yes, s => (true, s)
  | .name pattern _, s => (Wildcard.accepts pattern (baseName path "").toList, s)
  | .path pattern _, s => (Wildcard.accepts pattern path.toList, s)
  | .kind letter, s =>
    (match node with
      | .file .. => letter == 'f'
      | .directory _ => letter == 'd'
      | .device .. => letter == 'c', s)
  | .size sign count unit, s =>
    let blocks := (sizeOf node + unit - 1) / unit
    (if sign = '+' then blocks > count else if sign = '-' then blocks < count else blocks == count, s)
  | .isEmpty, s =>
    (match node with
      | .file content _ => content.isEmpty
      | .directory _ => (s.machine.files.children key).isEmpty
      | .device .. => false, s)
  | .executable, s => (node.isDirectory || node.isProgram, s)
  | .fits r, s => (r.occursIn path.toList, s)
  | .mode sign bits, s =>
    let own := node.mode
    (match sign with
      | none => own == bits
      | some '-' => own &&& bits == bits
      | some _ => bits == 0 || own.hasAny bits, s)
  | .newer other, s =>
    let age (key : Key) := s.machine.files.entries.findIdx? fun e => e.1 == key
    (((age key).bind fun i => (age other).map fun j => decide (i < j)).getD false, s)
  | .print stop, s => (true, { s with machine := s.machine.print (path.toList ++ [stop]) })
  | .form format, s =>
    (true, { s with machine := s.machine.print (foundText path node depth format) })
  | .prune, s => (true, { s with pruned := true })
  | .quit, s => (true, { s with stopped := true })
  | .delete, s =>
    match node with
    | .directory _ =>
      if (s.machine.files.children key).isEmpty then
        (true, { s with machine := { s.machine with files := s.machine.files.erase key } })
      else
        let text := s!"cannot delete {Quoting.always path}: Directory not empty"
        (false, { s with machine := s.machine.noteFailure 1 text })
    | _ => (true, { s with machine := s.machine.unname key })
  | .run _ true, s => (true, { s with waiting := s.waiting ++ [path] })
  | .run words false, s =>
    let place (word : String) : String := word.replace "\x7b\x7d" path
    let before := s.machine.status
    let m := s.machine.writeOut.1
    match exec m (words.map place) with
    | .ok done =>
      let status := done.status
      (status == 0, { s with machine := { done with flow := .running, status := before } })
    | .error e =>
      let text := Quoting.always (words.headD "") ++ ": " ++ Machine.words e
      (false, { s with machine := m.note text })
  | .not t, s =>
    let (b, s) := t.apply exec path key node depth s
    (!b, s)
  | .both a b, s =>
    let (x, s) := a.apply exec path key node depth s
    if x && !s.stopped then b.apply exec path key node depth s else (false, s)
  | .either a b, s =>
    let (x, s) := a.apply exec path key node depth s
    if x || s.stopped then (true, s) else b.apply exec path key node depth s

/-- Goes down from a file. -/
def descend (exec : Exec) (how : Search) (t : Test) :
    Nat → Nat → String → Key → Searching → Searching
  | 0, _, _, _, s => s
  | fuel + 1, depth, path, key, s =>
    match s.machine.files.node? key with
    | none => s
    | some node =>
      if s.stopped then s
      else
        let here (s : Searching) : Searching :=
          if depth ≥ how.least then (t.apply exec path key node depth { s with pruned := false }).2
          else { s with pruned := false }
        let inside (s : Searching) : Searching :=
          if !node.isDirectory || depth ≥ how.most then s
          else
            ((entriesOf s.machine key).mergeSort fun a b => a.name ≤ b.name).foldl (fun s e =>
              let inner := if path.endsWith "/" then path ++ e.name else path ++ "/" ++ e.name
              descend exec how t fuel (depth + 1) inner e.key s) s
        if how.deepFirst then here (inside s)
        else
          let s := here s
          if s.pruned then { s with pruned := false } else inside s

/-- The program of an expression that takes many files. -/
def Test.many? : Test → Option (List String)
  | .run words true => some words
  | .not t => t.many?
  | .both a b | .either a b => a.many? <|> b.many?
  | _ => none

def find : Program := fun exec m args =>
  let isExpression (arg : String) : Bool := arg.startsWith "-" || arg = "(" || arg = "!"
  let paths := args.takeWhile (!isExpression ·)
  let words := args.drop paths.length
  let read : Except String (Test × List String × Search) :=
    if words.isEmpty then .ok (.yes, [], {})
    else (readEither m (4 * words.length + 8)).run (words, {})
  match read with
  | .error text => m.noteFailure 1 text
  | .ok (t, rest, how) =>
    if !rest.isEmpty then m.noteFailure 1 "invalid expression"
    else
      let t := if t.acts then t else .both t (.print '\n')
      let start : Searching := { machine := m.ends 0 }
      let s := (if paths.isEmpty then ["."] else paths).foldl (fun (s : Searching) path =>
        match s.machine.nodeAt path, (s.machine.files.locate (Machine.pathOf path)).toOption with
        | .ok _, some key => descend exec how t 200 0 path key s
        | .error e, _ =>
          let text := s!"{Quoting.always path}: {Machine.words e}"
          { s with machine := s.machine.noteFailure 1 text }
        | _, none => s) start
      let m := s.machine
      match if s.waiting.isEmpty then none else t.many? with
      | none => m.finish 1
      | some words =>
        let m := m.writeOut.1
        match exec m (words ++ s.waiting) with
        | .ok done =>
          { done with flow := .running, status := if done.status = 0 then m.status else 1 }
        | .error e => m.noteFailure 1 (Quoting.always (words.headD "") ++ ": " ++ Machine.words e)

end ScriptBundle.Shell.Tool
