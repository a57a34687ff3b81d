import ScriptBundle.Shell.Builtin
import ScriptBundle.Shell.Tool.Basic

/-!
# Tools that start programs

Tools that start another program with other variables, with arguments that they read, or under a
limit, and the programs that do what commands of the shell do as well.
-/

namespace ScriptBundle.Shell.Tool

/-- Why a program cannot be started: a status, and words. -/
def startFailure (e : FileError) : Nat × String :=
  match e with
  | .notFound | .notADirectory => (127, "No such file or directory")
  | e => (126, Machine.words e)

/-- Starts a program in the place of a tool. -/
def become (exec : Exec) (m : Machine) (words : List String) (complaint : String → String) : Machine :=
  match exec m.writeOut.1 words with
  | .ok left => left
  | .error e =>
    let (status, text) := startFailure e
    m.noteFailure status (complaint (words.headD "") ++ ": " ++ text)

/-! ### Variables -/

/-- The settings in front of a command, and the command. -/
def settings : List String → List (String × String) × List String
  | [] => ([], [])
  | arg :: rest =>
    match arg.toList.splitOn '=' with
    | name :: _ :: _ =>
      let value := String.ofList (arg.toList.drop (name.length + 1))
      let (more, command) := settings rest
      ((String.ofList name, value) :: more, command)
    | _ => ([], arg :: rest)

def env : Program := fun exec m args =>
  let known : Known := ⟨"iu:0C:vS:", [("ignore-environment", 'i'), ("unset", 'u'), ("null", '0'),
    ("chdir", 'C'), ("debug", 'v'), ("split-string", 'S')], true⟩
  match known.read args with
  | .error text => m.noteUsage 125 text
  | .ok o =>
    let (clears, operands) := match o.operands with
      | "-" :: rest => (true, rest)
      | operands => (o.has 'i', operands)
    let given := (o.values 'S').flatMap fun text =>
      ((text.toList.splitOn ' ').filter (!·.isEmpty)).map String.ofList
    let (set, command) := settings (given ++ operands)
    let m := if clears then { m with bindings := [] } else m
    let m := (o.values 'u').foldl Machine.drop m
    let m := set.foldl (fun m (name, value) => m.put name { value := some value, exported := true }) m
    let moved : Except String Machine := match o.value? 'C' with
      | none => .ok m
      | some path =>
        match m.files.locate (Machine.pathOf path), m.nodeAt path with
        | .ok key, .ok (.directory _) => .ok { m with files := { m.files with start := key } }
        | _, .ok _ => .error s!"cannot change directory to {Quoting.always path}: Not a directory"
        | _, .error e => .error s!"cannot change directory to {Quoting.always path}: {Machine.words e}"
    match moved with
    | .error text => m.noteFailure 125 text
    | .ok m =>
      if command.isEmpty then
        let stop := if o.has '0' then "\x00" else "\n"
        ((m.environment.reverse.foldl (fun m (name, value) =>
          m.printText (name ++ "=" ++ value ++ stop)) m).ends 0).finish 125
      else become exec m command Quoting.always

def printenv : Program :=
  make ⟨"0", [("null", '0')], true⟩ 2 fun o m =>
    let stop := if o.has '0' then "\x00" else "\n"
    let all := m.environment
    if o.operands.isEmpty then
      all.reverse.foldl (fun m (name, value) => m.printText (name ++ "=" ++ value ++ stop)) m
    else
      o.operands.foldl (fun m name =>
        match all.lookup name with
        | some value => m.printText (value ++ stop)
        | none => m.ends 1) m

/-! ### Arguments that are read -/

/-- How words are read: what was read of the one that is open, and the words before it. -/
structure Words where
  /-- The word that is open, from its end on. -/
  word : Option (List Char) := none
  done : List String := []
  quote : Option Char := none
  escaped : Bool := false

namespace Words

def close (w : Words) : Words :=
  match w.word with
  | none => w
  | some chars => { w with word := none, done := String.ofList chars.reverse :: w.done }

def push (w : Words) (c : Char) : Words := { w with word := some (c :: w.word.getD []) }

def step (w : Words) (c : Char) : Words :=
  if w.escaped then { w.push c with escaped := false }
  else
    match w.quote with
    | some q => if c = q then { w with quote := none } else w.push c
    | none =>
      if c = '\\' then { w with escaped := true, word := some (w.word.getD []) }
      else if c = '\'' ∨ c = '"' then { w with quote := some c, word := some (w.word.getD []) }
      else if Arithmetic.isBlank c then w.close
      else w.push c

end Words

/-- The words of a text, with quotes and backslashes. -/
def wordsOf (text : List Char) : Except String (List String) :=
  let w := text.foldl Words.step {}
  match w.quote with
  | some q =>
    let kind := if q = '"' then "double" else "single"
    .error s!"unmatched {kind} quote; by default quotes are special to xargs unless you use the -0 option"
  | none => .ok w.close.done.reverse

/-- A list in groups of a size at most. -/
def groupsOf (size : Nat) : Nat → List α → List (List α)
  | 0, _ => []
  | fuel + 1, xs => if xs.isEmpty then [] else xs.take size :: groupsOf size fuel (xs.drop size)

/-- A text with each occurrence of another one replaced. -/
def replaceAll (mark value : List Char) : Nat → List Char → List Char
  | 0, text => text
  | fuel + 1, text =>
    match text with
    | [] => []
    | c :: rest =>
      if !mark.isEmpty && mark.isPrefixOf text then
        value ++ replaceAll mark value fuel (text.drop mark.length)
      else c :: replaceAll mark value fuel rest

/-- The status that starting a command leaves, and whether to go on. -/
def afterRun (status : Nat) (flow : Flow) : Nat × Bool :=
  match flow with
  | .killed _ => (125, false)
  | _ => if status = 0 then (0, true) else if status = 255 then (124, false) else (123, true)

def xargs : Program := fun exec m args =>
  let known : Known := ⟨"0a:d:E:e::I:i::L:l::n:oprs:tP:x", [("null", '0'), ("arg-file", 'a'),
    ("delimiter", 'd'), ("replace", 'i'), ("max-lines", 'l'), ("max-args", 'n'), ("interactive", 'p'),
    ("no-run-if-empty", 'r'), ("max-chars", 's'), ("verbose", 't'), ("max-procs", 'P'), ("exit", 'x')], true⟩
  match known.read args with
  | .error text => m.noteUsage 1 text
  | .ok o =>
    let command := if o.operands.isEmpty then ["echo"] else o.operands
    let wrong := ['n', 'L', 'P', 's'].findSome? fun letter =>
      (o.value? letter).bind fun text => if (natural? text).isNone then some (letter, text) else none
    let zero := ['n', 'L'].find? fun letter => (o.value? letter).bind natural? == some 0
    match wrong, zero with
    | some (letter, text), _ =>
      m.noteUsage 1 s!"invalid number \"{text}\" for -{letter} option"
    | none, some letter =>
      m.noteUsage 1 s!"value 0 for -{letter} option should be >= 1"
    | none, none =>
      match m.contents ((o.value? 'a').getD "-") with
      | .error e =>
        let name := (o.value? 'a').getD "-"
        m.noteFailure 1 s!"Cannot open input file {Quoting.always name}: {Machine.words e}"
      | .ok (text, m) =>
        let mark := ((o.value? 'I').or (o.value? 'i')).map fun text => if text = "" then "\x7b\x7d" else text
        let apart (c : Char) : List String :=
          let parts := text.splitOn c
          ((if parts.getLast? = some [] then parts.dropLast else parts)).map String.ofList
        let lines := (linesOf text).map fun line => line.dropWhile Arithmetic.isBlank
        let read : Except String (List (List String)) :=
          if o.has '0' then .ok ((apart '\x00').map fun w => [w])
          else
            match o.value? 'd' with
            | some d =>
              let c := ((Format.unescaped d.toList).1.head?).getD '\n'
              .ok ((apart c).map fun w => [w])
            | none =>
              if mark.isSome then
                (lines.filter (!·.isEmpty)).mapM fun line => do
                  let ws ← wordsOf (line.map fun c => if Arithmetic.isBlank c then '\x01' else c)
                  return [String.ofList ((ws.headD "").toList.map fun c => if c = '\x01' then ' ' else c)]
              else if o.has 'L' || o.has 'l' then (lines.filter (!·.isEmpty)).mapM wordsOf
              else do
                let ws ← wordsOf text
                let ws := match (o.value? 'E').or (o.value? 'e') with
                  | some stop => if stop = "" then ws else ws.takeWhile (· ≠ stop)
                  | none => ws
                return ws.map fun w => [w]
        match read with
        | .error text => m.noteFailure 1 text
        | .ok items =>
          let runs : List (List String) :=
            match mark with
            | some mark =>
              items.map fun item =>
                let value := (item.headD "").toList
                command.map fun w =>
                  String.ofList (replaceAll mark.toList value (w.length + 1) w.toList)
            | none =>
              let size := ((o.value? 'n').bind natural?).or
                (((o.value? 'L').or (o.value? 'l')).bind natural?)
              let size := if size.isNone && o.has 'l' then some 1 else size
              let groups := match size with
                | some n => groupsOf n (items.length + 1) items
                | none => if items.isEmpty then [] else [items]
              let groups := if groups.isEmpty && !o.has 'r' then [[]] else groups
              groups.map fun group => command ++ group.flatten
          let (opened, null) := m.addHandle (.device .null ["dev", "null"])
          let quiet := opened.point 0 (some null)
          let (m, status, _) := runs.foldl (fun ((m, status, goes) : Machine × Nat × Bool) words =>
            if !goes then (m, status, goes)
            else
              let m := if o.has 't' then m.complain (String.intercalate " " words) else m
              match exec m words with
              | .error e =>
                let (failure, text) := startFailure e
                let name := words.headD ""
                (m.note s!"{name}: {text}", failure, false)
              | .ok left =>
                let (now, goes) := afterRun left.status left.flow
                let m := { left with flow := m.flow }
                let name := words.headD ""
                (match left.flow with
                  | .killed signal => m.note s!"{name}: terminated by signal {signal}"
                  | _ => m, if now = 0 then status else now, goes)) (quiet, 0, true)
          m.ends status

/-! ### Limits -/

/-- A time in units of a millionth of a second. -/
def interval? (text : String) : Option Nat :=
  let chars := text.toList
  let (factor, digits) := match chars.getLast? with
    | some 's' => (1, chars.dropLast)
    | some 'm' => (60, chars.dropLast)
    | some 'h' => (3600, chars.dropLast)
    | some 'd' => (86400, chars.dropLast)
    | _ => (1, chars)
  if String.ofList digits = "infinity" ∨ String.ofList digits = "inf" then some (Nat.pow 10 18)
  else
    let front := digits.takeWhile Char.isDigit
    let rest := digits.drop front.length
    let back := match rest with
      | '.' :: more => more.takeWhile Char.isDigit
      | _ => []
    let used := front.length + (if rest.head? = some '.' then back.length + 1 else 0)
    if (front.isEmpty && back.isEmpty) || used < digits.length then none
    else
      let padded := (back ++ List.replicate 6 '0').take 6
      some (factor * (Arithmetic.numeral 10 (front ++ padded)).1)

def sleep : Program := fun exec m args =>
  make ⟨"", [], false⟩ 1 (fun o m =>
    if o.operands.isEmpty then m.noteUsage 1 "missing operand"
    else
      let wrong := o.operands.filter fun text => (interval? text).isNone
      if wrong.isEmpty then m
      else
        let m := wrong.dropLast.foldl (fun m text => m.note s!"invalid time interval {Quoting.always text}") m
        let last := wrong.getLastD ""
        m.noteUsage 1 s!"invalid time interval {Quoting.always last}") exec m args

/-- Whether a command is there to wait, and longer than a time. -/
def waitsLonger (limit : Nat) (words : List String) : Bool :=
  match words with
  | name :: times =>
    Program.lastName name == "sleep" && limit > 0 && ((times.filterMap interval?).foldl (· + ·) 0 > limit)
  | [] => false

def timeout : Program := fun exec m args =>
  let known : Known := ⟨"k:s:v", [("kill-after", 'k'), ("signal", 's'), ("verbose", 'v'),
    ("foreground", 'v'), ("preserve-status", 'v')], true⟩
  match known.read args with
  | .error text => m.noteUsage 125 text
  | .ok o =>
    match o.operands with
    | [] => m.noteUsage 125 "missing operand"
    | [limit] => m.noteUsage 125 s!"missing operand after {Quoting.always limit}"
    | limit :: words =>
      match interval? limit with
      | none => m.noteUsage 125 s!"invalid time interval {Quoting.always limit}"
      | some time =>
        if waitsLonger time words then m.ends 124
        else become exec m words fun name => s!"failed to run command {Quoting.always name}"

def nice : Program := fun exec m args =>
  let args := match args with
    | first :: rest =>
      match first.toList with
      | '-' :: c :: more =>
        if c.isDigit then "-n" :: String.ofList (c :: more) :: rest else args
      | _ => args
    | [] => []
  let known : Known := ⟨"n:", [("adjustment", 'n')], true⟩
  match known.read args with
  | .error text => m.noteUsage 125 text
  | .ok o =>
    let wrong := (o.value? 'n').filter fun text => (Machine.number? text).isNone && !text.startsWith "-"
    match wrong, o.operands with
    | some text, _ => m.noteFailure 125 s!"invalid adjustment {Quoting.always text}"
    | none, [] =>
      if o.has 'n' then m.noteUsage 125 "a command must be given with an adjustment"
      else ((m.printText "0\n").ends 0).finish 125
    | none, words => become exec m words Quoting.always

/-- Starts a command as it is. -/
def nohup : Program := fun exec m args =>
  let words := if args.head? = some "--" then args.tail else args
  match words with
  | [] => m.noteUsage 125 "missing operand"
  | words => become exec m words fun name => s!"failed to run command {Quoting.always name}"

def stdbuf : Program := fun exec m args =>
  let known : Known := ⟨"i:o:e:", [("input", 'i'), ("output", 'o'), ("error", 'e')], true⟩
  match known.read args with
  | .error text => m.noteUsage 125 text
  | .ok o =>
    match o.operands with
    | [] => m.noteUsage 125 "missing operand"
    | words => become exec m words fun name => s!"failed to run command {Quoting.always name}"

/-! ### What the shell does as well -/

/-- The letters of an argument that holds options of `echo` alone. -/
def echoLetters? (arg : String) : Option (List Char) :=
  match arg.toList with
  | '-' :: c :: rest => if (c :: rest).all "neE".toList.contains then some (c :: rest) else none
  | _ => none

def echo : Program := fun _ m args =>
  let options := args.takeWhile fun arg => (echoLetters? arg).isSome
  let letters := options.flatMap fun arg => (echoLetters? arg).getD []
  let text := (String.intercalate " " (args.drop options.length)).toList
  let escapes := (letters.reverse.find? (· ≠ 'n')) == some 'e'
  let (text, stops) := if escapes then Format.unescaped text else (text, false)
  ((m.print (if stops || letters.contains 'n' then text else text ++ ['\n'])).ends 0).finish 1

/-- A complaint about an argument in the words of the program. -/
def reworded (text : String) : String :=
  let before (ending : String) : Option String :=
    if text.endsWith ending then some (text.dropEnd ending.length).toString else none
  match before ": expected numeric value", before ": not completely converted", before ": invalid directive" with
  | some arg, _, _ => s!"{Quoting.always arg}: expected a numeric value"
  | _, some arg, _ => s!"{Quoting.always arg}: value not completely converted"
  | _, _, some arg => s!"{arg}: invalid conversion specification"
  | _, _, _ => text

def printf : Program := fun _ m args =>
  let args := if args.head? = some "--" then args.tail else args
  match args with
  | [] => m.noteUsage 1 "missing operand"
  | format :: args =>
    let o := Format.printf format args
    let m := (m.print o.out.reverse).ends 0
    let m := o.complaints.foldl (fun m text => m.noteFailure 1 (reworded text)) m
    let m := match o.fault with
      | some text => m.noteFailure 1 (reworded text)
      | none =>
        if o.args.isEmpty || o.stops then m
        else
          let extra := o.args.headD ""
          m.note s!"warning: ignoring excess arguments, starting with {Quoting.always extra}"
    m.finish 1

def test : Program := fun _ m args =>
  match Condition.holds m 10 args with
  | .ok value => m.ends (if value then 0 else 1)
  | .error text =>
    let before (ending : String) : Option String :=
      if text.endsWith ending then some (text.dropEnd ending.length).toString else none
    let said :=
      if text.startsWith "Illegal number: " then
        let arg := (text.drop 16).toString
        s!"invalid integer {Quoting.always arg}"
      else
        match before ": unexpected operator", before ": argument expected" with
        | some arg, _ =>
          if args.length = 3 then s!"{Quoting.always arg}: binary operator expected"
          else s!"extra argument {Quoting.always arg}"
        | _, some arg => s!"missing argument after {Quoting.always arg}"
        | _, _ => text
    m.noteFailure 2 said

def bracket : Program := fun exec m args =>
  if args.getLast? = some "]" then test exec m args.dropLast
  else m.noteFailure 2 "missing ']'"

def kill : Program := fun _ m args => Machine.kill m args

/-! ### About the system -/

def whoami : Program :=
  make ⟨"", [], false⟩ 1 fun o m =>
    match o.operands with
    | [] => m.printText "root\n"
    | extra :: _ => m.noteUsage 1 s!"extra operand {Quoting.always extra}"

def groups : Program :=
  make ⟨"", [], false⟩ 1 fun o m =>
    if o.operands.isEmpty then m.printText "root\n"
    else
      o.operands.foldl (fun m name =>
        if name = "root" then m.printText "root : root\n"
        else m.noteFailure 1 s!"{Quoting.always name}: no such user") m

/-- The kind of machine. -/
def arch : Program :=
  make ⟨"", [], false⟩ 1 fun o m =>
    match o.operands with
    | [] => m.printText "x86_64\n"
    | extra :: _ => m.noteUsage 1 s!"extra operand {Quoting.always extra}"

def id : Program :=
  make ⟨"agGnruz", [("group", 'g'), ("groups", 'G'), ("name", 'n'), ("user", 'u'), ("real", 'r')], false⟩ 1
    fun o m =>
    match o.operands.find? (· ≠ "root") with
    | some name => m.noteFailure 1 s!"{Quoting.always name}: no such user"
    | none =>
      if o.has 'u' || o.has 'g' || o.has 'G' then m.printText (if o.has 'n' then "root\n" else "0\n")
      else if o.has 'n' || o.has 'r' then
        m.noteFailure 1 "cannot print only names or real IDs in default format"
      else m.printText "uid=0(root) gid=0(root) groups=0(root)\n"

def uname : Program :=
  make ⟨"asnrvmpio", [("all", 'a'), ("kernel-name", 's'), ("nodename", 'n'), ("kernel-release", 'r'),
    ("machine", 'm'), ("operating-system", 'o')], false⟩ 1 fun o m =>
    match o.operands with
    | extra :: _ => m.noteUsage 1 s!"extra operand {Quoting.always extra}"
    | [] =>
      let facts := [('s', "Linux"), ('n', "localhost"), ('r', "6.1.0"), ('v', "#1 SMP"), ('m', "x86_64"),
        ('o', "GNU/Linux")]
      let asked := if o.found.isEmpty then ['s']
        else if o.has 'a' then "snrvmo".toList
        else o.found.map (·.1)
      let shown := (facts.filter fun f => asked.contains f.1).map (·.2)
      m.printText (String.intercalate " " shown ++ "\n")

def tty : Program := fun _ m args =>
  if args.contains "-s" then m.ends 1 else ((m.printText "not a tty\n").ends 1).finish 1

/-- The parts of the first moment that a clock can show. -/
def moment (letter : Char) : String :=
  match letter with
  | 'Y' | 'G' => "1970"
  | 'm' | 'd' | 'I' | 'V' | 'W' => "01"
  | 'y' | 'g' => "70"
  | 'C' => "19"
  | 'H' | 'M' | 'S' | 'U' => "00"
  | 'N' => "000000000"
  | 's' | 'w' => if letter = 's' then "0" else "4"
  | 'u' => "4"
  | 'j' => "001"
  | 'F' => "1970-01-01"
  | 'T' | 'X' => "00:00:00"
  | 'R' => "00:00"
  | 'D' | 'x' => "01/01/70"
  | 'a' => "Thu"
  | 'A' => "Thursday"
  | 'b' | 'h' => "Jan"
  | 'B' => "January"
  | 'Z' => "UTC"
  | 'z' => "+0000"
  | 'p' => "AM"
  | 'e' | 'k' | 'l' => " 1"
  | 'c' => "Thu Jan  1 00:00:00 1970"
  | 'n' => "\n"
  | 't' => "\t"
  | '%' => "%"
  | c => "%" ++ String.singleton c

def clockText : List Char → List Char
  | '%' :: c :: rest => (moment c).toList ++ clockText rest
  | c :: rest => c :: clockText rest
  | [] => []

def date : Program :=
  make ⟨"d:f:I::r:Rs:u", [("date", 'd'), ("utc", 'u'), ("reference", 'r'), ("iso-8601", 'I'),
    ("rfc-email", 'R')], false⟩ 1 fun o m =>
    match o.operands.find? (·.startsWith "+") with
    | some format => m.print (clockText (format.toList.drop 1) ++ ['\n'])
    | none =>
      match o.operands with
      | [] => m.printText (if o.has 'I' then "1970-01-01\n" else "Thu Jan  1 00:00:00 UTC 1970\n")
      | wrong :: _ => m.noteFailure 1 s!"invalid date {Quoting.always wrong}"

/-- Changes of owner, which change nothing that counts. -/
def own (kind : String) : Program :=
  make ⟨"cfhHLPRv", [("recursive", 'R'), ("verbose", 'v'), ("silent", 'f'), ("changes", 'c')], false⟩ 1
    fun o m =>
    match o.operands with
    | [] => m.noteUsage 1 "missing operand"
    | [name] => m.noteUsage 1 s!"missing operand after {Quoting.always name}"
    | name :: operands =>
      let known := (name.toList.splitOn ':').all fun part =>
        ["", "root", "0", "nobody", "daemon", "bin"].contains (String.ofList part) || part.all Char.isDigit
      if !known then m.noteFailure 1 s!"invalid {kind}: {Quoting.always name}"
      else
        operands.foldl (fun m operand =>
          match m.nodeAt operand with
          | .ok _ => m
          | .error e => m.noteFailure 1 s!"cannot access {Quoting.always operand}: {Machine.words e}") m

end ScriptBundle.Shell.Tool
