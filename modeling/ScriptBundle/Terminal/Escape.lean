import ScriptBundle.Text.Utf8

/-!
# Escape sequences

Text for a terminal may hold sequences that begin with an escape character and only tell the terminal
what to do. `visible` leaves out all of them and every control character that is no white space, so
that what remains can go to a file.

A sequence is followed byte by byte. What decides is only where a sequence ends and whether a control
character inside of it still has its effect. White space that has its effect in the middle of a
sequence interrupts it: what follows is shown as if there were no sequence, up to the next character
that is not shown, and from there the sequence goes on.
-/

namespace ScriptBundle.Terminal

/-- Where in a sequence a reader stands. -/
inductive Mode where
  /-- In no sequence. -/
  | plain
  | escape
  /-- After an escape and a byte that asks for more. -/
  | middle
  /-- In the numbers of a control sequence. -/
  | control
  /-- At the start of a device string, in its numbers, and behind them. -/
  | device
  | deviceNumbers
  | deviceMiddle
  /-- In data that a byte of its own ends. -/
  | data
  /-- In a command to the system around the terminal. -/
  | command
  deriving DecidableEq, Repr

/-- Whether a byte lies in a range of ASCII. -/
def within (low high : Char) (b : UInt8) : Bool := low.toNat ≤ b.toNat && b.toNat ≤ high.toNat

namespace Mode

def afterEscape (b : UInt8) : Mode :=
  if within ' ' '/' b then .middle
  else
    match Char.ofNat b.toNat with
    | '[' => .control
    | ']' => .command
    | 'P' => .device
    | 'X' | '^' | '_' => .data
    | _ => if within '0' '~' b then .plain else .escape

/-- Goes on by one byte. -/
def next (m : Mode) (b : UInt8) : Mode :=
  if b = 0x18 ∨ b = 0x1a then .plain
  else if b = 0x1b then .escape
  else
    match m with
    | .plain => .plain
    | .escape => afterEscape b
    | .middle => if within '0' '~' b then .plain else .middle
    | .control => if within '@' '~' b then .plain else .control
    | .device =>
      if within '@' '~' b then .data
      else if within '0' '?' b then .deviceNumbers
      else if within ' ' '/' b then .deviceMiddle
      else .device
    | .deviceNumbers =>
      if within '<' '~' b then .data
      else if within ' ' '/' b then .deviceMiddle
      else .deviceNumbers
    | .deviceMiddle => if within '0' '~' b then .data else .deviceMiddle
    | .data => if b = 0x9c then .plain else .data
    | .command => if b = 7 then .plain else .command

/-- Whether control characters have their effect. -/
def obeys : Mode → Bool
  | .plain | .escape | .middle | .control => true
  | .device | .deviceNumbers | .deviceMiddle | .data | .command => false

end Mode

/-- Whether a character is shown in a mode. -/
def isShown (m : Mode) (c : Char) : Bool :=
  if "\t\n\x0c\r".toList.contains c then m.obeys
  else m == .plain && (' ' ≤ c && c ≤ '~' || 128 ≤ c.toNat)

/-- What is shown of a text, from a mode on. In a run of shown characters the mode waits; one beyond
ASCII ends the sequence. -/
def visibleFrom (inRun : Bool) (m : Mode) : List Char → List Char
  | [] => []
  | c :: rest =>
    if isShown (if inRun then .plain else m) c then
      c :: visibleFrom true (if 128 ≤ c.toNat then .plain else m) rest
    else visibleFrom false ((Utf8.encode [c]).foldl Mode.next m) rest

def visible (text : String) : String := String.ofList (visibleFrom false .plain text.toList)

end ScriptBundle.Terminal
