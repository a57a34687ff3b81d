/-!
# Reading a text by byte offsets

An offset counts the UTF-8 bytes before a place. A text is cut only between two characters and a byte is
read only where there is one; any other offset is a fault and gives nothing.
-/

namespace ScriptBundle.Bytes

inductive Fault where
  /-- A slice that would end before it starts. -/
  | reversed (start stop : Nat)
  /-- There is no byte at the offset, or no place. -/
  | outside (i : Nat)
  /-- The offset is between the bytes of one character. -/
  | splits (i : Nat)
  deriving DecidableEq, Repr

/-- Whether a character starts at the offset, or the text ends there. -/
def isCharBoundary (bytes : List UInt8) (i : Nat) : Bool :=
  i == 0 || i == bytes.length || bytes[i]?.any fun b => decide b.IsUTF8FirstByte

/-- The bytes between two offsets. -/
def slice (bytes : List UInt8) (start stop : Nat) : Except Fault (List UInt8) :=
  if stop < start then .error (.reversed start stop)
  else if bytes.length < stop then .error (.outside stop)
  else if !isCharBoundary bytes start then .error (.splits start)
  else if !isCharBoundary bytes stop then .error (.splits stop)
  else .ok (bytes.extract start stop)

def byteAt (bytes : List UInt8) (i : Nat) : Except Fault UInt8 :=
  match bytes[i]? with
  | some b => .ok b
  | none => .error (.outside i)

/-- Where the first occurrence of `needle` starts. -/
def find? (needle : List UInt8) : List UInt8 → Option Nat
  | [] => if needle = [] then some 0 else none
  | b :: bytes =>
    if needle.isPrefixOf (b :: bytes) then some 0 else (find? needle bytes).map (· + 1)

theorem slice_eq_ok_iff {bytes part : List UInt8} {start stop : Nat} :
    slice bytes start stop = .ok part ↔
      (start ≤ stop ∧ stop ≤ bytes.length) ∧
        (isCharBoundary bytes start = true ∧ isCharBoundary bytes stop = true) ∧
        bytes.extract start stop = part := by
  unfold slice
  grind

example : slice [0xc3, 0xa9] 0 1 = .error (.splits 1) := rfl

end ScriptBundle.Bytes
