import ScriptBundle.Shell.Tool.Lines
import ScriptBundle.Text.Digest

/-!
# Checksums of files

Tools that print a checksum of each of their files, or compare files with checksums that were printed
before; and files written in the letters of base 64 or 32.
-/

namespace ScriptBundle.Shell.Tool

/-! ### Digests -/

/-- A digest with the name under which it is printed. -/
structure DigestKind where
  label : String
  octets : Nat
  compute : List UInt8 → List UInt8

namespace DigestKind

def md5 : DigestKind := ⟨"MD5", 16, Digest.md5⟩
def sha1 : DigestKind := ⟨"SHA1", 20, Digest.sha1⟩
def sha224 : DigestKind := ⟨"SHA224", 28, Digest.sha224⟩
def sha256 : DigestKind := ⟨"SHA256", 32, Digest.sha256⟩
def sha384 : DigestKind := ⟨"SHA384", 48, Digest.sha384⟩
def sha512 : DigestKind := ⟨"SHA512", 64, Digest.sha512⟩

def digits (k : DigestKind) (text : List Char) : String := Digest.hex (k.compute (Octet.toBytes text))

end DigestKind

/-- A name in which the characters that would break a line are written with backslashes. -/
def escapedName (name : String) : Option String :=
  if name.toList.any fun c => c == '\n' || c == '\\' || c == '\r' then
    some (String.ofList (name.toList.flatMap fun c =>
      match c with
      | '\n' => ['\\', 'n']
      | '\r' => ['\\', 'r']
      | '\\' => ['\\', '\\']
      | c => [c]))
  else none

/-- The name that was written with backslashes. -/
def plainName : List Char → List Char
  | '\\' :: 'n' :: rest => '\n' :: plainName rest
  | '\\' :: 'r' :: rest => '\r' :: plainName rest
  | '\\' :: '\\' :: rest => '\\' :: plainName rest
  | c :: rest => c :: plainName rest
  | [] => []

/-- The line of a file and its digest. -/
def digestLine (k : DigestKind) (tagged marked zero : Bool) (name : String) (text : List Char) : String :=
  let escaped := if zero then none else escapedName name
  let front := if escaped.isSome then "\\" else ""
  let name := escaped.getD name
  let stop := if zero then "\x00" else "\n"
  let digits := k.digits text
  if tagged then s!"{front}{k.label} ({name}) = {digits}{stop}"
  else
    let mark := if marked then "*" else " "
    s!"{front}{digits} {mark}{name}{stop}"

/-- A line that says which digest a file has. -/
structure DigestEntry where
  digits : String
  name : String

def isHexText (text : List Char) : Bool :=
  text.all fun c => c.isDigit || ('a' ≤ c && c ≤ 'f') || ('A' ≤ c && c ≤ 'F')

def readDigestLine (k : DigestKind) (line : List Char) : Option DigestEntry :=
  let line := line.dropWhile fun c => c == ' ' || c == '\t'
  let (escaped, line) := match line with
    | '\\' :: rest => (true, rest)
    | line => (false, line)
  let name (text : List Char) : String := String.ofList (if escaped then plainName text else text)
  let opening := s!"{k.label} (".toList
  if opening.isPrefixOf line then
    let digits := (line.reverse.takeWhile (· ≠ ' ')).reverse
    let front := (line.drop opening.length).take (line.length - opening.length - digits.length)
    if ") = ".toList.isSuffixOf front && digits.length = 2 * k.octets && isHexText digits then
      some ⟨String.ofList (digits.map Char.toLower), name (front.take (front.length - 4))⟩
    else none
  else
    let digits := line.take (2 * k.octets)
    match line.drop (2 * k.octets) with
    | ' ' :: rest =>
      if digits.length = 2 * k.octets && isHexText digits && !rest.isEmpty then
        let rest := match rest with
          | ' ' :: more | '*' :: more => more
          | rest => rest
        if rest.isEmpty then none
        else some ⟨String.ofList (digits.map Char.toLower), name rest⟩
      else none
    | _ => none

/-- What was found so far when digests are compared. -/
structure Verdict where
  malformed : Nat := 0
  unreadable : Nat := 0
  mismatched : Nat := 0
  wellFormed : Nat := 0
  verified : Nat := 0

def verifyLine (k : DigestKind) (o : Options) (list : String) (v : Verdict) (m : Machine) (number : Nat)
    (line : List Char) : Verdict × Machine :=
  let isQuiet := o.has '\x02' || o.has '\x03'
  match readDigestLine k line with
  | none =>
    let v := { v with malformed := v.malformed + 1 }
    if o.has 'w' then (v, m.note s!"{list}: {number}: improperly formatted {k.label} checksum line")
    else (v, m)
  | some entry =>
    let v := { v with wellFormed := v.wellFormed + 1 }
    let shown := match escapedName entry.name with
      | some escaped => "\\" ++ escaped
      | none => entry.name
    match m.contents entry.name with
    | .error .notFound =>
      if o.has '\x05' then (v, m)
      else
        let m := m.note s!"{Quoting.ifNeeded entry.name}: {Machine.words .notFound}"
        let m := if o.has '\x03' then m else m.printText s!"{shown}: FAILED open or read\n"
        ({ v with unreadable := v.unreadable + 1 }, m)
    | .error e =>
      let m := m.note s!"{Quoting.ifNeeded entry.name}: {Machine.words e}"
      let m := if o.has '\x03' then m else m.printText s!"{shown}: FAILED open or read\n"
      ({ v with unreadable := v.unreadable + 1 }, m)
    | .ok (text, m) =>
      if k.digits text = entry.digits then
        ({ v with verified := v.verified + 1 }, if isQuiet then m else m.printText s!"{shown}: OK\n")
      else
        ({ v with mismatched := v.mismatched + 1 },
          if o.has '\x03' then m else m.printText s!"{shown}: FAILED\n")

def verify (k : DigestKind) (o : Options) (m : Machine) (list : String) : Machine :=
  match m.contents list with
  | .error e => m.noteFailure 1 s!"{Quoting.ifNeeded list}: {Machine.words e}"
  | .ok (text, m) =>
    let shown := if list = "-" then "'standard input'" else Quoting.ifNeeded list
    let lines := (linesOf text).filter fun line => line.head? != some '#'
    let (v, m) := lines.zipIdx.foldl (fun ((v, m) : Verdict × Machine) (line, i) =>
      verifyLine k o shown v m (i + 1) line) ({}, m)
    if v.wellFormed = 0 then m.noteFailure 1 s!"{shown}: no properly formatted checksum lines found"
    else
      let tell (m : Machine) (n : Nat) (one more : String) : Machine :=
        if n = 0 || o.has '\x03' then m
        else
          let what := if n = 1 then one else more
          m.note s!"WARNING: {n} {what}"
      let m := tell m v.malformed "line is improperly formatted" "lines are improperly formatted"
      let m := tell m v.unreadable "listed file could not be read" "listed files could not be read"
      let m := tell m v.mismatched "computed checksum did NOT match" "computed checksums did NOT match"
      let m := if o.has '\x05' && v.verified = 0 && !o.has '\x03' then
          m.note s!"{shown}: no file was verified"
        else m
      if v.unreadable > 0 || v.mismatched > 0 || (o.has '\x04' && v.malformed > 0) ||
          (o.has '\x05' && v.verified = 0) then m.ends 1
      else m

def digestKnown : Known :=
  ⟨"bctwz\x01\x02\x03\x04\x05", [("binary", 'b'), ("check", 'c'), ("text", 't'), ("warn", 'w'), ("zero", 'z'),
    ("tag", '\x01'), ("quiet", '\x02'), ("status", '\x03'), ("strict", '\x04'), ("ignore-missing", '\x05')], false⟩

/-- Complains about options that only make sense when digests are compared. -/
def onlyVerifying : List (Char × String) :=
  [('\x05', "ignore-missing"), ('\x03', "status"), ('w', "warn"), ('\x02', "quiet"), ('\x04', "strict")]

def digestSum (k : DigestKind) : Program :=
  make digestKnown 1 fun o m =>
    if o.has '\x01' && o.has 'c' then
      m.noteUsage 1 "the --tag option is meaningless when verifying checksums"
    else if o.has 'z' && o.has 'c' then
      m.noteUsage 1 "the --zero option is not supported when verifying checksums"
    else if (o.has 'b' || o.has 't') && o.has 'c' then
      m.noteUsage 1 "the --binary and --text options are meaningless when verifying checksums"
    else
      match if o.has 'c' then none else onlyVerifying.find? fun (letter, _) => o.has letter with
      | some (_, name) =>
        m.noteUsage 1 s!"the --{name} option is meaningful only when verifying checksums"
      | none =>
        if o.has 'c' then (inputs o).foldl (verify k o) m
        else
          forEach o m 1 fun m name text =>
            m.printText (digestLine k (o.has '\x01') (o.lastOf? ['b', 't'] == some 'b') (o.has 'z') name text)

/-! ### Sums -/

/-- The line of a sum: with the name if the file was named. -/
def sumLine (o : Options) (front name : String) : String :=
  if o.operands.isEmpty then front ++ "\n" else s!"{front} {name}\n"

def cyclicLine (o : Options) (name : String) (text : List Char) : String :=
  sumLine o s!"{Digest.cyclic (Octet.toBytes text)} {text.length}" name

def turnedLine (o : Options) (name : String) (text : List Char) : String :=
  let sum := toString (Digest.turned (Octet.toBytes text))
  let zeros := String.ofList (List.replicate (5 - sum.length) '0')
  let blocks := String.ofList (inColumn 5 (toString ((text.length + 1023) / 1024)))
  sumLine o s!"{zeros}{sum} {blocks}" name

def addedLine (o : Options) (name : String) (text : List Char) : String :=
  sumLine o s!"{Digest.added (Octet.toBytes text)} {(text.length + 511) / 512}" name

def sum : Program :=
  make ⟨"rs", [("sysv", 's')], false⟩ 1 fun o m =>
    let line := if o.lastOf? ['r', 's'] == some 's' then addedLine else turnedLine
    forEach o m 1 fun m name text => m.printText (line o name text)

def digestKinds : List (String × DigestKind) :=
  [("md5", .md5), ("sha1", .sha1), ("sha224", .sha224), ("sha256", .sha256), ("sha384", .sha384),
    ("sha512", .sha512)]

def cksum : Program :=
  make ⟨"a:bctwz\x01\x02\x03\x04\x05\x06", [("algorithm", 'a'), ("untagged", '\x06')] ++ digestKnown.words, false⟩ 1
    fun o m =>
      let name := (o.value? 'a').getD "crc"
      match name, digestKinds.lookup name with
      | _, some k =>
        if o.has 'c' then (inputs o).foldl (verify k o) m
        else
          forEach o m 1 fun m name text =>
            m.printText (digestLine k (!o.has '\x06') (o.lastOf? ['b', 't'] == some 'b') (o.has 'z') name text)
      | "crc", none => forEach o m 1 fun m name text => m.printText (cyclicLine o name text)
      | "bsd", none => forEach o m 1 fun m name text => m.printText (turnedLine o name text)
      | "sysv", none => forEach o m 1 fun m name text => m.printText (addedLine o name text)
      | _, none => m.noteUsage 1 s!"invalid argument {Quoting.always name} for '--algorithm'"

/-! ### Letters for bits -/

/-- An alphabet in which each letter stands for some bits, and how many letters make a group. -/
structure BitLetters where
  letters : Array Char
  bits : Nat
  group : Nat

namespace BitLetters

def base64 : BitLetters :=
  ⟨"ABCDEFGHIJKLMNOPQRSTUVWXYZabcdefghijklmnopqrstuvwxyz0123456789+/".toList.toArray, 6, 4⟩

def base32 : BitLetters := ⟨"ABCDEFGHIJKLMNOPQRSTUVWXYZ234567".toList.toArray, 5, 8⟩

/-- The octets of a full group. -/
def octets (b : BitLetters) : Nat := b.group * b.bits / 8

def encodeGroup (b : BitLetters) (part : List Char) : List Char :=
  let n := (part ++ List.replicate (b.octets - part.length) '\x00').foldl (fun n c => n * 256 + c.toNat) 0
  let base := b.letters.size
  let all := ((List.range b.group).map fun i => b.letters[n / Nat.pow base i % base]!).reverse
  let used := (part.length * 8 + b.bits - 1) / b.bits
  all.take used ++ List.replicate (b.group - used) '='

def encode (b : BitLetters) : Nat → List Char → List Char
  | 0, _ | _, [] => []
  | fuel + 1, text => b.encodeGroup (text.take b.octets) ++ encode b fuel (text.drop b.octets)

def valueOf? (b : BitLetters) (c : Char) : Option Nat := b.letters.toList.idxOf? c

/-- The octets of a group, as far as they can be told, and whether the group is right. -/
def decodeGroup (b : BitLetters) (part : List Char) : List Char × Bool :=
  let values := (part.map b.valueOf?).takeWhile Option.isSome |>.filterMap fun v => v
  let n := values.foldl (fun n v => n * b.letters.size + v) 0
  let count := values.length * b.bits / 8
  let spare := values.length * b.bits - count * 8
  let out := ((List.range count).map fun i =>
    Char.ofNat (n / Nat.pow 2 spare / Nat.pow 256 i % 256)).reverse
  let fill := part.drop values.length
  let right := part.length = b.group && fill.all (· == '=') &&
    count > 0 && spare < b.bits
  (if right || b.group = 4 then out else [], right)

def decode (b : BitLetters) : Nat → List Char → List Char × Bool
  | 0, _ | _, [] => ([], true)
  | fuel + 1, text =>
    match b.decodeGroup (text.take b.group) with
    | (out, false) => (out, false)
    | (out, true) =>
      let (more, right) := decode b fuel (text.drop b.group)
      (out ++ more, right)

end BitLetters

/-- A text in lines of some width. -/
def wrapped (width : Nat) : Nat → List Char → List Char
  | 0, text => text
  | fuel + 1, text =>
    if text.isEmpty then []
    else if width = 0 then text
    else text.take width ++ '\n' :: wrapped width fuel (text.drop width)

def bitLetters (b : BitLetters) : Program :=
  make ⟨"diw:", [("decode", 'd'), ("ignore-garbage", 'i'), ("wrap", 'w')], false⟩ 1 fun o m =>
    let size := (o.value? 'w').getD "76"
    match o.operands, natural? size with
    | _, none => m.noteFailure 1 s!"invalid wrap size: {Quoting.always size}"
    | _ :: extra :: _, _ => m.noteUsage 1 s!"extra operand {Quoting.always extra}"
    | operands, some width =>
      let operand := operands.headD "-"
      match m.contents operand with
      | .error .isADirectory => m.noteFailure 1 s!"read error: {Machine.words .isADirectory}"
      | .error e => m.noteFailure 1 s!"{Quoting.ifNeeded operand}: {Machine.words e}"
      | .ok (text, m) =>
        if o.has 'd' then
          let kept := text.filter fun c =>
            if o.has 'i' then c == '=' || (b.valueOf? c).isSome else c != '\n'
          let (out, right) := b.decode kept.length kept
          let m := m.print out
          if right then m else m.noteFailure 1 "invalid input"
        else
          let letters := b.encode text.length text
          m.print (wrapped width (letters.length + 1) letters)

end ScriptBundle.Shell.Tool
