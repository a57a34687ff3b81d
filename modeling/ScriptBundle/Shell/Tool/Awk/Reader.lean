import ScriptBundle.Shell.Tool.Awk.Syntax

/-!
# Reading patterns and actions

A reader that goes down through the levels of expressions. Every call has less fuel than the one it
was made from, and there is more of it than a program can use.
-/

namespace ScriptBundle.Shell.Tool.Awk

/-- The words that are left, and the number of ranges so far. -/
structure Cursor where
  left : List Located
  ranges : Nat := 0
  /-- Whether a function is read, and whether the action of a rule. -/
  inFunction : Bool := false
  inRule : Bool := false
  /-- The loops that are open. -/
  loops : Nat := 0
  /-- The parentheses that are open. -/
  parens : Nat := 0
  /-- The functions that are called, with the number of arguments. -/
  calls : List (String × Nat) := []

abbrev Parse := EStateM Complaint Cursor

namespace Parse

def peek : Parse Token := return ((← get).left.head?.map (·.token)).getD .done

def second : Parse Token := return (((← get).left.drop 1).head?.map (·.token)).getD .done

def skip : Parse Unit := modify fun s =>
  match s.left with
  | [] | [_] => s
  | t :: rest =>
    let parens :=
      if t.token = .op "(" then s.parens + 1 else if t.token = .op ")" then s.parens - 1 else s.parens
    { s with left := rest, parens }

/-- How a word is shown in a complaint. -/
def shown : Token → String
  | .lineEnd => "end of line"
  | .num _ text => text
  | .str s => s
  | .regex s => s!"/{s}/"
  | .function x | .name x | .builtin x | .word x => x
  | .op s => s
  | .done => "end of file"

/-- A complaint about the word that is next. Where a statement ends and a parenthesis is open, that one is
missing. -/
def unexpected : Parse α := do
  let s ← get
  let here := s.left.head?.getD ⟨.done, 1⟩
  let text := shown here.token
  let endsHere := here.token = .lineEnd || here.token = .op ";" || here.token = .op "\x7d"
  let complaint :=
    if s.parens > 0 && endsHere then s!"missing ) near {text}"
    else if s.parens = 0 && here.token = .op ")" then "extra ')'"
    else s!"syntax error at or near {text}"
  throw { line := here.line, text := complaint }

/-- A complaint about the line that is read. -/
def refuse (text : String) : Parse α := do
  throw { line := ((← get).left.head?.getD ⟨.done, 1⟩).line, text }

def isOp (s : String) : Parse Bool := return (← peek) == .op s

def isWord (s : String) : Parse Bool := return (← peek) == .word s

/-- Takes an operator if it is next. -/
def takeOp (s : String) : Parse Bool := do
  if ← isOp s then
    skip
    return true
  else return false

def takeWord (s : String) : Parse Bool := do
  if ← isWord s then
    skip
    return true
  else return false

def need (s : String) : Parse Unit := do
  if !(← takeOp s) then unexpected

def lineEnds : Nat → Parse Unit
  | 0 => return
  | fuel + 1 => do
    if (← peek) == .lineEnd then
      skip
      lineEnds fuel

/-- Passes over line ends and semicolons. -/
def separators : Nat → Parse Unit
  | 0 => return
  | fuel + 1 => do
    if (← peek) == .lineEnd || (← isOp ";") then
      skip
      separators fuel

def isTarget : Expr → Bool
  | .name _ | .field _ | .item .. => true
  | _ => false

def storeOp? : Token → Option (Option Char)
  | .op "=" => some none
  | .op "+=" => some (some '+')
  | .op "-=" => some (some '-')
  | .op "*=" => some (some '*')
  | .op "/=" => some (some '/')
  | .op "%=" => some (some '%')
  | .op "^=" => some (some '^')
  | _ => none

/-- Whether a word can begin the second part of two texts side by side. -/
def beginsValue (t next : Token) : Bool :=
  match t with
  | .num .. | .str _ | .name _ | .function _ | .builtin _ | .regex _ => true
  | .op s => s == "(" || s == "$" || s == "!" || ((s == "++" || s == "--") && (match next with
      | .name _ | .op "$" => true
      | _ => false))
  | _ => false

/-- The least and the greatest number of arguments. -/
def argumentCounts (f : String) : Nat × Nat :=
  match f with
  | "length" | "srand" | "fflush" => (0, 1)
  | "rand" | "systime" => (0, 0)
  | "substr" | "split" | "sub" | "gsub" => (2, 3)
  | "index" | "match" | "atan2" => (2, 2)
  | "sprintf" => (1, 1000)
  | "strftime" => (0, 3)
  | "mktime" => (1, 2)
  | _ => (1, 1)

def comparisons : List String := ["<", "<=", "==", "!=", ">", ">="]

mutual

/-- An expression. Where something is printed, a bare sign for greater does not compare. -/
def expr (printing : Bool) : Nat → Parse Expr
  | 0 => unexpected
  | fuel + 1 => do
    let c ← either printing fuel
    if ← takeOp "?" then
      lineEnds fuel
      let a ← expr printing fuel
      lineEnds fuel
      need ":"
      lineEnds fuel
      let b ← expr printing fuel
      return .choice c a b
    else return c

def either (printing : Bool) : Nat → Parse Expr
  | 0 => unexpected
  | fuel + 1 => do eitherMore printing fuel (← both printing fuel)

def eitherMore (printing : Bool) : Nat → Expr → Parse Expr
  | 0, _ => unexpected
  | fuel + 1, a => do
    if ← takeOp "||" then
      lineEnds fuel
      eitherMore printing fuel (.or a (← both printing fuel))
    else return a

def both (printing : Bool) : Nat → Parse Expr
  | 0 => unexpected
  | fuel + 1 => do bothMore printing fuel (← membership printing fuel)

def bothMore (printing : Bool) : Nat → Expr → Parse Expr
  | 0, _ => unexpected
  | fuel + 1, a => do
    if ← takeOp "&&" then
      lineEnds fuel
      bothMore printing fuel (.and a (← membership printing fuel))
    else return a

def membership (printing : Bool) : Nat → Parse Expr
  | 0 => unexpected
  | fuel + 1 => do membershipMore fuel (← matching printing fuel)

def membershipMore : Nat → Expr → Parse Expr
  | 0, _ => unexpected
  | fuel + 1, a => do
    if ← takeWord "in" then
      match ← peek with
      | .name x =>
        skip
        membershipMore fuel (.member [a] x)
      | _ => unexpected
    else return a

def matching (printing : Bool) : Nat → Parse Expr
  | 0 => unexpected
  | fuel + 1 => do matchingMore printing fuel (← comparison printing fuel)

def matchingMore (printing : Bool) : Nat → Expr → Parse Expr
  | 0, _ => unexpected
  | fuel + 1, a => do
    if ← takeOp "~" then matchingMore printing fuel (.isMatch false a (← comparison printing fuel))
    else if ← takeOp "!~" then matchingMore printing fuel (.isMatch true a (← comparison printing fuel))
    else return a

def comparison (printing : Bool) : Nat → Parse Expr
  | 0 => unexpected
  | fuel + 1 => do comparisonMore printing fuel (← stored printing fuel)

def comparisonMore (printing : Bool) : Nat → Expr → Parse Expr
  | 0, _ => unexpected
  | fuel + 1, a => do
    match ← peek with
    | .op s =>
      if comparisons.contains s && !(printing && s == ">") then
        skip
        comparisonMore printing fuel (.compare s a (← stored printing fuel))
      else return a
    | _ => return a

/-- Texts side by side, or a value that is stored. -/
def stored (printing : Bool) : Nat → Parse Expr
  | 0 => unexpected
  | fuel + 1 => do
    let a ← concatMore fuel (← sum fuel)
    match storeOp? (← peek), isTarget a with
    | some op, true =>
      skip
      lineEnds fuel
      return .store op a (← expr printing fuel)
    | _, _ => return a

def concatMore : Nat → Expr → Parse Expr
  | 0, _ => unexpected
  | fuel + 1, a => do
    if beginsValue (← peek) (← second) then concatMore fuel (.concat a (← sum fuel))
    else return a

def sum : Nat → Parse Expr
  | 0 => unexpected
  | fuel + 1 => do sumMore fuel (← product fuel)

def sumMore : Nat → Expr → Parse Expr
  | 0, _ => unexpected
  | fuel + 1, a => do
    if ← takeOp "+" then sumMore fuel (.arith '+' a (← product fuel))
    else if ← takeOp "-" then sumMore fuel (.arith '-' a (← product fuel))
    else return a

def product : Nat → Parse Expr
  | 0 => unexpected
  | fuel + 1 => do productMore fuel (← unary fuel)

def productMore : Nat → Expr → Parse Expr
  | 0, _ => unexpected
  | fuel + 1, a => do
    if ← takeOp "*" then productMore fuel (.arith '*' a (← unary fuel))
    else if ← takeOp "/" then productMore fuel (.arith '/' a (← unary fuel))
    else if ← takeOp "%" then productMore fuel (.arith '%' a (← unary fuel))
    else return a

def unary : Nat → Parse Expr
  | 0 => unexpected
  | fuel + 1 => do
    if ← takeOp "!" then return .not (← unary fuel)
    else if ← takeOp "-" then return .neg (← unary fuel)
    else if ← takeOp "+" then return .plus (← unary fuel)
    else piped fuel (← power fuel)

/-- A command whose output is read. -/
def piped : Nat → Expr → Parse Expr
  | 0, _ => unexpected
  | fuel + 1, a => do
    if (← peek) == .op "|" && (← second) == .word "getline" then
      skip
      skip
      piped fuel (.getline .command (some a) (← target fuel))
    else return a

/-- The place for a record, if one is named. -/
def target : Nat → Parse (Option Expr)
  | 0 => unexpected
  | fuel + 1 => do
    match ← peek with
    | .name _ | .op "$" => return some (← place fuel)
    | _ => return none

def power : Nat → Parse Expr
  | 0 => unexpected
  | fuel + 1 => do
    let a ← stepped fuel
    if ← takeOp "^" then
      let b ← if ← takeOp "-" then (do return .neg (← power fuel))
        else if ← takeOp "+" then (do return .plus (← power fuel))
        else if ← takeOp "!" then (do return .not (← power fuel))
        else power fuel
      return .arith '^' a b
    else return a

/-- A value with a step before or behind it. -/
def stepped : Nat → Parse Expr
  | 0 => unexpected
  | fuel + 1 => do
    if ← takeOp "++" then return .step true true (← place fuel)
    else if ← takeOp "--" then return .step true false (← place fuel)
    else
      let a ← primary fuel
      if !isTarget a then return a
      else if ← takeOp "++" then return .step false true a
      else if ← takeOp "--" then return .step false false a
      else return a

/-- A place where a value can be stored. -/
def place : Nat → Parse Expr
  | 0 => unexpected
  | fuel + 1 => do
    match ← peek with
    | .name x =>
      skip
      if ← takeOp "[" then
        let keys ← exprs fuel
        need "]"
        return .item x keys
      else return .name x
    | .op "$" =>
      skip
      let inner ← if ← takeOp "-" then (do return .neg (← fieldNumber fuel)) else fieldNumber fuel
      return .field inner
    | .op "(" =>
      skip
      let a ← place fuel
      need ")"
      return a
    | _ => unexpected

/-- What stands behind the sign of a field. -/
def fieldNumber : Nat → Parse Expr
  | 0 => unexpected
  | fuel + 1 => do
    if ← takeOp "++" then return .step true true (← place fuel)
    else if ← takeOp "--" then return .step true false (← place fuel)
    else primary fuel

def primary : Nat → Parse Expr
  | 0 => unexpected
  | fuel + 1 => do
    match ← peek with
    | .num n _ =>
      skip
      return .num n
    | .str s =>
      skip
      return .str s
    | .regex s =>
      skip
      return .regex s
    | .name _ | .op "$" => place fuel
    | .function f =>
      skip
      need "("
      let args ← arguments fuel
      modify fun s => { s with calls := (f, args.length) :: s.calls }
      return .call f args
    | .builtin f =>
      skip
      if f == "length" && !(← isOp "(") then return .builtin f []
      need "("
      let args ← arguments fuel
      let (least, most) := argumentCounts f
      if args.length < least || args.length > most then
        refuse s!"wrong number of arguments in call to {f}"
      return .builtin f args
    | .op "-" | .op "+" | .op "!" => unary fuel
    | .word "getline" =>
      skip
      let t ← target fuel
      if ← takeOp "<" then
        let file ← stepped fuel
        return .getline .file (some file) t
      else return .getline .main none t
    | .op "(" =>
      skip
      let es ← exprs fuel
      need ")"
      match es with
      | [e] => return .group e
      | es =>
        if ← takeWord "in" then
          match ← peek with
          | .name x =>
            skip
            return .member es x
          | _ => unexpected
        else unexpected
    | _ => unexpected

/-- The arguments up to the parenthesis. -/
def arguments : Nat → Parse (List Expr)
  | 0 => unexpected
  | fuel + 1 => do
    if ← takeOp ")" then return []
    let es ← exprs fuel
    need ")"
    return es

def exprs : Nat → Parse (List Expr)
  | 0 => unexpected
  | fuel + 1 => do
    let e ← expr false fuel
    if ← takeOp "," then
      lineEnds fuel
      return e :: (← exprs fuel)
    else return [e]

end

/-- What is printed, if it does not stand in parentheses. -/
def printedList : Nat → Parse (List Expr)
  | 0 => unexpected
  | fuel + 1 => do
    let e ← expr true fuel
    if ← takeOp "," then
      lineEnds fuel
      return e :: (← printedList fuel)
    else return [e]

/-- Whether a statement that prints can end here. -/
def endsPrint (t : Token) : Bool :=
  match t with
  | .lineEnd | .done => true
  | .op s => [";", "\x7d", ">", ">>", "|"].contains s
  | _ => false

/-- What is printed. A list may stand in parentheses as a whole. -/
def printed (fuel : Nat) : Parse (List Expr) := do
  if endsPrint (← peek) then return []
  else if ← isOp "(" then
    let saved ← get
    let whole ← tryCatch (do
        skip
        let es ← exprs fuel
        need ")"
        if endsPrint (← peek) then return some es else return none)
      fun _ => return none
    match whole with
    | some es => return es
    | none =>
      set saved
      printedList fuel
  else printedList fuel

def outlet (fuel : Nat) : Parse Outlet := do
  if ← takeOp ">" then return .file (← expr true fuel)
  else if ← takeOp ">>" then return .append (← expr true fuel)
  else if ← takeOp "|" then return .command (← expr true fuel)
  else return .output

/-- The end of a simple statement. -/
def finish (fuel : Nat) : Parse Unit := do
  match ← peek with
  | .op ";" | .lineEnd =>
    skip
    lineEnds fuel
  | .op "\x7d" | .done => return
  | _ => unexpected

/-- A statement without its end. -/
def simple (fuel : Nat) : Parse Stmt := do
  if ← takeWord "print" then
    let args ← printed fuel
    return .print args (← outlet fuel)
  else if ← takeWord "printf" then
    let args ← printed fuel
    if args.isEmpty then refuse "no arguments in call to printf"
    return .printf args (← outlet fuel)
  else if ← takeWord "delete" then
    match ← peek with
    | .name x =>
      skip
      if ← takeOp "[" then
        let keys ← exprs fuel
        need "]"
        return .delete x keys
      else return .clear x
    | _ => unexpected
  else return .expr (← expr false fuel)

/-- Reads an expression unless the statement ends here. -/
def perhaps (fuel : Nat) : Parse (Option Expr) := do
  match ← peek with
  | .lineEnd | .done | .op ";" | .op "\x7d" => return none
  | _ => return some (← expr false fuel)

mutual

def stmt : Nat → Parse Stmt
  | 0 => unexpected
  | fuel + 1 => do
    match ← peek with
    | .op "\x7b" => return .block (← braces fuel)
    | .op ";" =>
      skip
      separators fuel
      return .block []
    | .word "if" =>
      skip
      need "("
      let c ← expr false fuel
      need ")"
      let a ← body fuel
      let saved ← get
      lineEnds fuel
      if ← takeWord "else" then return .ifThen c a (← body fuel)
      else
        set saved
        return .ifThen c a []
    | .word "while" =>
      skip
      need "("
      let c ← expr false fuel
      need ")"
      if ← takeOp ";" then
        separators fuel
        return .whileDo c []
      else return .whileDo c (← repeated fuel)
    | .word "do" =>
      skip
      let b ← repeated fuel
      lineEnds fuel
      if !(← takeWord "while") then unexpected
      need "("
      let c ← expr false fuel
      need ")"
      finish fuel
      return .doWhile b c
    | .word "for" =>
      skip
      need "("
      loop fuel
    | .word "next" =>
      if !(← get).inRule then refuse "improper use of next"
      alone fuel .next
    | .word "nextfile" =>
      if !(← get).inRule then refuse "improper use of nextfile"
      alone fuel .nextFile
    | .word "break" =>
      if (← get).loops = 0 then refuse "break statement outside of loop"
      alone fuel .leave
    | .word "continue" =>
      if (← get).loops = 0 then refuse "continue statement outside of loop"
      alone fuel .again
    | .word "exit" =>
      skip
      let e ← perhaps fuel
      finish fuel
      return .exit e
    | .word "return" =>
      if !(← get).inFunction then refuse "return outside function body"
      skip
      let e ← perhaps fuel
      finish fuel
      return .giveBack e
    | _ =>
      let s ← simple fuel
      finish fuel
      return s

def alone : Nat → Stmt → Parse Stmt
  | 0, _ => unexpected
  | fuel + 1, s => do
    skip
    finish fuel
    return s

/-- A loop behind the parenthesis of its head. -/
def loop : Nat → Parse Stmt
  | 0 => unexpected
  | fuel + 1 => do
    let saved ← get
    let ahead : List Token := saved.left.map fun l => l.token
    let items ← match ahead with
      | .name x :: .word "in" :: .name a :: .op ")" :: _ => pure (some (x, a))
      | _ => pure none
    match items with
    | some (x, a) =>
      set { saved with left := saved.left.drop 4, parens := saved.parens - 1 }
      if ← takeOp ";" then return .forIn x a []
      return .forIn x a (← repeated fuel)
    | none =>
      let start ← if ← isOp ";" then pure [] else do pure [← simple fuel]
      need ";"
      lineEnds fuel
      let c ← if ← isOp ";" then pure none else do pure (some (← expr false fuel))
      need ";"
      lineEnds fuel
      let next ← if ← isOp ")" then pure [] else do pure [← simple fuel]
      need ")"
      if ← takeOp ";" then
        separators fuel
        return .forDo start c next []
      else return .forDo start c next (← repeated fuel)

/-- The body of a loop. -/
def repeated : Nat → Parse (List Stmt)
  | 0 => unexpected
  | fuel + 1 => do
    modify fun s => { s with loops := s.loops + 1 }
    let b ← body fuel
    modify fun s => { s with loops := s.loops - 1 }
    return b

/-- The statement that a condition or a loop is about. -/
def body : Nat → Parse (List Stmt)
  | 0 => unexpected
  | fuel + 1 => do
    lineEnds fuel
    if ← isOp "\x7d" then return []
    return [← stmt fuel]

def braces : Nat → Parse (List Stmt)
  | 0 => unexpected
  | fuel + 1 => do
    need "\x7b"
    separators fuel
    let ss ← stmts fuel
    need "\x7d"
    return ss

def stmts : Nat → Parse (List Stmt)
  | 0 => unexpected
  | fuel + 1 => do
    separators fuel
    if ← isOp "\x7d" then return []
    if (← peek) == .done then return []
    let s ← stmt fuel
    return s :: (← stmts fuel)

end

def params : Nat → Parse (List String)
  | 0 => unexpected
  | fuel + 1 => do
    match ← peek with
    | .name x =>
      skip
      if ← takeOp "," then
        lineEnds fuel
        return x :: (← params fuel)
      else return [x]
    | _ => return []

/-- The action of a rule. -/
def action (fuel : Nat) : Parse (List Stmt) := do
  modify fun s => { s with inRule := true }
  let b ← braces fuel
  modify fun s => { s with inRule := false }
  return b

def firstTwice : List String → Option String
  | [] => none
  | x :: rest => if rest.contains x then some x else firstTwice rest

/-- One rule or function. -/
def rule (fuel : Nat) (script : Script) : Parse Script := do
  match ← peek with
  | .word "BEGIN" =>
    skip
    let b ← braces fuel
    return { script with first := script.first ++ [b] }
  | .word "END" =>
    skip
    let b ← braces fuel
    return { script with last := script.last ++ [b] }
  | .word "function" =>
    skip
    let name ← match ← peek with
      | .name x | .function x => do
        skip
        pure x
      | _ => unexpected
    need "("
    let ps ← params fuel
    match firstTwice ps with
    | some x => refuse s!"{x} is duplicated in argument list"
    | none => pure ()
    need ")"
    lineEnds fuel
    modify fun s => { s with inFunction := true }
    let b ← braces fuel
    modify fun s => { s with inFunction := false }
    return { script with functions := script.functions ++ [⟨name, ps, b⟩] }
  | .op "\x7b" =>
    let b ← action fuel
    return { script with rules := script.rules ++ [⟨.always, some b⟩] }
  | _ =>
    let a ← expr false fuel
    let pattern ← if ← takeOp "," then do
        lineEnds fuel
        let b ← expr false fuel
        let number := (← get).ranges
        modify fun s => { s with ranges := number + 1 }
        pure (Pattern.range number a b)
      else pure (Pattern.holds a)
    if ← isOp "\x7b" then
      let b ← action fuel
      return { script with rules := script.rules ++ [⟨pattern, some b⟩] }
    else
      match ← peek with
      | .lineEnd | .op ";" | .done => return { script with rules := script.rules ++ [⟨pattern, none⟩] }
      | _ => unexpected

def rules : Nat → Script → Parse Script
  | 0, _ => unexpected
  | fuel + 1, script => do
    separators fuel
    if (← peek) == .done then return script
    let script ← rule fuel script
    rules fuel script

end Parse

/-- The braces that are open at the end of a program, or one that is closed too often. -/
def braceBalance (ts : List Located) : Except Nat Nat :=
  ts.foldlM (fun depth t =>
    if t.token = .op "\x7b" then .ok (depth + 1)
    else if t.token = .op "\x7d" then (if depth = 0 then .error t.line else .ok (depth - 1))
    else .ok depth) 0

/-- Reads a program, or gives the lines of a complaint. -/
def Script.read (text : String) : Except (List String) Script :=
  let chars := text.toList
  match tokens (chars.length + 2) 1 .lineEnd chars with
  | .error c => .error [c.shown]
  | .ok ts =>
    let fuel := 60 * ts.length + 400
    let lastLine := (ts.getLast?.map (·.line)).getD 1
    match (Parse.rules fuel {}).run { left := ts } with
    | .ok script s =>
      let calls := s.calls.reverse
      let missing := (calls.map (·.1)).eraseDups.filter fun f => script.functions.all (·.name != f)
      let crowded := calls.find? fun (f, n) => script.functions.any fun g => g.name == f && n > g.params.length
      match missing, crowded with
      | [], none => .ok script
      | [], some (f, _) => .error [s!"line {lastLine - 1}: too many arguments in call to {f}"]
      | missing, _ => .error (missing.map fun f => s!"line {lastLine}: function {f} never defined")
    | .error c _ =>
      match braceBalance ts with
      | .ok 0 => .error [c.shown]
      | .ok _ =>
        if c.line = lastLine then .error [s!"line {lastLine}: missing \x7d near end of file"]
        else .error [c.shown]
      | .error line =>
        .error [s!"line {line}: extra '\x7d'", s!"line {line}: syntax error at or near end of line"]

end ScriptBundle.Shell.Tool.Awk
