/-!
# Names in messages

How a tool writes the name of a file in a message, so that a shell could read it back. A plain name
may stand as it is; other names stand in single quotes, a name with a single quote and nothing else
of note in double quotes, and octets that cannot be printed are written by their numbers.
-/

namespace ScriptBundle.Shell.Quoting

def isPrintable (c : Char) : Bool := ' ' ≤ c && c ≤ '~'

/-- Characters that are plain anywhere. -/
def isPlain (c : Char) : Bool := c.isAlphanum || "%+,-./:]_@".toList.contains c

/-- Whether a character at a position asks for quotes. -/
def needsQuotes (size position : Nat) (c : Char) : Bool :=
  if isPlain c then false
  else if c = '{' ∨ c = '}' then size = 1
  else if c = '#' ∨ c = '~' then position = 0
  else true

def octalDigits (n : Nat) : List Char :=
  let digits := Nat.toDigits 8 n
  List.replicate (3 - digits.length) '0' ++ digits

/-- What stands for an octet that cannot be printed. -/
def escaped (c : Char) : List Char :=
  match c.toNat with
  | 7 => ['\\', 'a']
  | 8 => ['\\', 'b']
  | 9 => ['\\', 't']
  | 10 => ['\\', 'n']
  | 11 => ['\\', 'v']
  | 12 => ['\\', 'f']
  | 13 => ['\\', 'r']
  | n => '\\' :: octalDigits n

/-- The inside of single quotes. -/
def inside : Bool → List Char → List Char
  | _, [] => []
  | escaping, c :: rest =>
    if isPrintable c then
      let start := if escaping then ['\'', '\''] else []
      let body := if c = '\'' then ['\'', '\\', '\'', '\''] else [c]
      start ++ body ++ inside false rest
    else
      let start := if escaping then [] else ['\'', '$', '\'']
      start ++ escaped c ++ inside true rest

/-- Whether double quotes are enough for a text with a single quote in it. -/
def fitsDoubleQuotes (text : List Char) : Bool :=
  text.contains '\'' && text.all fun c => isPlain c || c == ' ' || c == '\''

/-- A name in quotes. -/
def always (name : String) : String :=
  let text := name.toList
  if fitsDoubleQuotes text then "\"" ++ name ++ "\""
  else String.ofList ('\'' :: inside false text ++ ['\''])

/-- A name, in quotes if it needs them. -/
def ifNeeded (name : String) : String :=
  let text := name.toList
  let size := text.length
  if text.isEmpty || text.zipIdx.any fun (c, i) => needsQuotes size i c then always name else name

end ScriptBundle.Shell.Quoting
