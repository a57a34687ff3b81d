import ScriptBundle.Files.Mode

/-!
# The mask of a process

What files that a process makes do not permit. A script gives the mask as a number, or it says what is
to be permitted: whose permissions change, how, and which. A change may name the letters of permissions
and may name others whose permissions are copied; both are looked up as they were before the first
change.
-/

namespace ScriptBundle.Shell.Mask

/-- A mask as it is shown. -/
def shown (mask : Mode) : String := String.ofList (mask &&& Mode.permissions).fourDigits

/-- What a mask permits, in letters. -/
def permitted (mask : Mode) : String :=
  let permits := Mode.permissions.without mask
  let letters (who : Mode) : String :=
    String.ofList (((permits &&& who).letters.filter (· != '-')))
  s!"u={letters Mode.owner},g={letters Mode.group},o={letters Mode.others}"

/-- A mask as a number, as far as it is one. -/
def ofDigits? (digits : List Char) : Option Mode :=
  if digits.all fun c => '0' ≤ c && c ≤ '7' then
    let value := digits.foldl (fun n c => n * 8 + (c.toNat - '0'.toNat)) 0
    some (BitVec.ofNat 12 (value % 512))
  else none

def who? (c : Char) : Option Mode :=
  match c with
  | 'u' => some Mode.owner
  | 'g' => some Mode.group
  | 'o' => some Mode.others
  | 'a' => some Mode.permissions
  | _ => none

/-- What a letter stands for, given what was permitted before. -/
def what? (before : Mode) (c : Char) : Option Mode :=
  match c with
  | 'r' => some Mode.reading
  | 'w' => some Mode.writing
  | 'x' => some Mode.executing
  | 'X' => some (if before.isExecutable then Mode.executing else 0)
  | 's' => some 0
  | 'u' => some (before &&& Mode.owner).spread
  | 'g' => some (before &&& Mode.group).spread
  | 'o' => some (before &&& Mode.others).spread
  | _ => none

/-- The permissions that letters at the start of a text stand for, and the rest. -/
def read (meaning : Char → Option Mode) : List Char → Mode × List Char
  | [] => (0, [])
  | c :: rest =>
    match meaning c with
    | some bits =>
      let (more, rest) := read meaning rest
      (bits ||| more, rest)
    | none => (0, c :: rest)

/-- Applies changes to what is permitted; none if they make no sense. The fuel bounds the signs. -/
def change (before : Mode) : Nat → Mode → Mode → List Char → Option Mode
  | 0, _, permits, _ => some permits
  | fuel + 1, who, permits, text =>
    match text with
    | [] => some permits
    | ',' :: rest => if rest.isEmpty then some permits else clause fuel permits rest
    | sign :: rest =>
      let (bits, rest) := read (what? before) rest
      let bits := bits &&& who
      match sign with
      | '+' => change before fuel who (permits ||| bits) rest
      | '-' => change before fuel who (permits.without bits) rest
      | '=' => change before fuel who (permits.without who ||| bits) rest
      | _ => none
where
  clause (fuel : Nat) (permits : Mode) (text : List Char) : Option Mode :=
    let (who, rest) := read who? text
    let who := if who = 0 then Mode.permissions else who
    match rest with
    | [] | ',' :: _ => none
    | rest => change before fuel who permits rest

/-- The mask after changes of what it permits. -/
def changed? (mask : Mode) (text : List Char) : Option Mode :=
  let permits := Mode.permissions.without mask
  (change.clause permits (text.length + 1) permits text).map fun permits =>
    Mode.permissions.without permits

end ScriptBundle.Shell.Mask
