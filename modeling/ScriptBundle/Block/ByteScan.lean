import ScriptBundle.Strip
import ScriptBundle.Text.Bytes
import ScriptBundle.Text.Utf8

/-!
# Stripping by byte offsets

Blocks are removed here from the bytes of a text. No text is split: a search for a marker goes on from
offset to offset, and a pass keeps the offset up to which the text is copied and the offset from which
it looks for the next opener. Every slice is checked, so that a wrong offset would make the whole fail.

Both loops end because their offset grows: `lt_of_seek` and `lt_of_step`.
-/

namespace ScriptBundle.ByteScan

open Bytes (Fault slice byteAt find?)

/-- ASCII letters, digits and the underscore. -/
def isWordByte (b : UInt8) : Bool :=
  (0x30 ≤ b && b ≤ 0x39) || (0x41 ≤ b && b ≤ 0x5a) || (0x61 ≤ b && b ≤ 0x7a) || b == 0x5f

/-- Whether a word starts or ends at the offset, by the bytes on its two sides. -/
def isBoundary (bytes : List UInt8) (i : Nat) : Except Fault Bool := do
  let before ← if i = 0 then pure false else isWordByte <$> byteAt bytes (i - 1)
  return before != bytes[i]?.any isWordByte

/-- What one look for a marker gives. -/
inductive Sought where
  | missing
  | found (start : Nat)
  /-- The characters are there, but not on the edge of a word: look again from here on. -/
  | again (i : Nat)
  deriving DecidableEq, Repr

def seek (bytes marker : List UInt8) (i : Nat) : Except Fault Sought := do
  let tail ← slice bytes i bytes.length
  match find? marker tail with
  | none => return .missing
  | some skipped =>
    let start := i + skipped
    if ← isBoundary bytes (start + marker.length) then return .found start
    else return .again (start + 1)

theorem bind_eq_ok {ε α β : Type} {x : Except ε α} {f : α → Except ε β} {b : β} :
    (x >>= f) = .ok b ↔ ∃ a, x = .ok a ∧ f a = .ok b := by
  cases x <;> simp [bind, Except.bind]

theorem lt_of_seek {bytes marker : List UInt8} {i j : Nat} (h : seek bytes marker i = .ok (.again j)) :
    i ≤ bytes.length ∧ i < j := by
  obtain ⟨tail, hs, h⟩ := bind_eq_ok.1 h
  have hle := (Bytes.slice_eq_ok_iff.1 hs).1.1
  refine ⟨hle, ?_⟩
  split at h
  · cases h
  · obtain ⟨edge, -, h⟩ := bind_eq_ok.1 h
    cases edge <;> cases h
    omega

/-- The first marker at or behind an offset that ends on the edge of a word. -/
def findMarker (bytes marker : List UInt8) (i : Nat) : Except Fault (Option Nat) :=
  match _h : seek bytes marker i with
  | .error fault => .error fault
  | .ok .missing => .ok none
  | .ok (.found start) => .ok (some start)
  | .ok (.again j) => findMarker bytes marker j
termination_by bytes.length + 1 - i
decreasing_by
  have hlt := lt_of_seek ‹_›
  omega

theorem findMarker_eq_match (bytes marker : List UInt8) (i : Nat) :
    findMarker bytes marker i = match seek bytes marker i with
      | .error fault => .error fault
      | .ok .missing => .ok none
      | .ok (.found start) => .ok (some start)
      | .ok (.again j) => findMarker bytes marker j := by
  rw [findMarker]
  split <;> next hs => rw [hs]

theorem le_of_findMarker {bytes marker : List UInt8} {i start : Nat}
    (h : findMarker bytes marker i = .ok (some start)) : i ≤ start ∧ i ≤ bytes.length := by
  fun_induction findMarker bytes marker i with
  | case1 => cases h
  | case2 => cases h
  | case3 i j hs =>
    cases h
    obtain ⟨tail, hslice, hs⟩ := bind_eq_ok.1 hs
    have hle := (Bytes.slice_eq_ok_iff.1 hslice).1.1
    refine ⟨?_, hle⟩
    split at hs
    · cases hs
    · obtain ⟨edge, -, hs⟩ := bind_eq_ok.1 hs
      cases edge <;> cases hs
      omega
  | case4 i j hs ih =>
    have hlt := lt_of_seek hs
    have hle := ih h
    omega

/-- Where the line ends that an offset is on, if another follows. -/
def lineEnd? (bytes : List UInt8) (i : Nat) : Except Fault (Option Nat) := do
  let tail ← slice bytes i bytes.length
  return (find? [0x0a] tail).map (i + ·)

/-- Where the closer starts that belongs to an opener whose label ends at `body`. -/
def closing (form : Form) (bytes close : List UInt8) (body : Nat) : Except Fault (Option Nat) := do
  let lineEnd ← lineEnd? bytes body
  match form with
  | .singleLine =>
    let line ← slice bytes 0 (lineEnd.getD bytes.length)
    findMarker line close body
  | .multiLine =>
    match lineEnd with
    | none => return none
    | some stop => findMarker bytes close (stop + 1)

theorem le_of_closing {form : Form} {bytes close : List UInt8} {body start : Nat}
    (h : closing form bytes close body = .ok (some start)) : body ≤ start := by
  obtain ⟨lineEnd, hline, h⟩ := bind_eq_ok.1 h
  cases form with
  | singleLine =>
    obtain ⟨line, -, h⟩ := bind_eq_ok.1 h
    exact (le_of_findMarker h).1
  | multiLine =>
    cases lineEnd with
    | none => cases h
    | some stop =>
      obtain ⟨tail, -, hline⟩ := bind_eq_ok.1 hline
      obtain ⟨skipped, -, rfl⟩ := Option.map_eq_some_iff.1 (Except.ok.inj hline)
      have hle := (le_of_findMarker h).1
      omega

/-- How far a removal has come. -/
structure Pass where
  out : List UInt8
  /-- What is before this offset is in `out`, with its blocks replaced. -/
  copied : Nat
  /-- The next opener is looked for from this offset on. -/
  resume : Nat
  deriving DecidableEq, Repr

inductive Step where
  | next (p : Pass)
  | done (out : List UInt8)
  deriving DecidableEq, Repr

/-- The bytes of the opener of a label that is given by its bytes. -/
def openerBytes (label : List UInt8) : List UInt8 := 0x7b :: 0x40 :: label

def closerBytes (label : List UInt8) : List UInt8 := 0x7d :: 0x40 :: label

/-- Looks for one opener and its closer. -/
def step (form : Form) (label bytes : List UInt8) (p : Pass) : Except Fault Step := do
  match ← findMarker bytes (openerBytes label) p.resume with
  | none =>
    let rest ← slice bytes p.copied bytes.length
    return .done (p.out ++ rest)
  | some start =>
    match ← closing form bytes (closerBytes label) (start + (openerBytes label).length) with
    | some stop =>
      let kept ← slice bytes p.copied start
      let past := stop + (closerBytes label).length
      return .next ⟨p.out ++ kept ++ [0x20], past, past⟩
    | none => return .next { p with resume := start + 1 }

theorem lt_of_step {form : Form} {label bytes : List UInt8} {p p' : Pass}
    (h : step form label bytes p = .ok (.next p')) :
    p.resume ≤ bytes.length ∧ p.resume < p'.resume := by
  obtain ⟨found, hf, h⟩ := bind_eq_ok.1 h
  cases found with
  | none =>
    obtain ⟨rest, -, h⟩ := bind_eq_ok.1 h
    cases h
  | some start =>
    have hle := le_of_findMarker hf
    obtain ⟨closed, hc, h⟩ := bind_eq_ok.1 h
    cases closed with
    | none =>
      cases h
      exact ⟨hle.2, by dsimp only; omega⟩
    | some stop =>
      obtain ⟨kept, -, h⟩ := bind_eq_ok.1 h
      cases h
      have hstop := le_of_closing hc
      simp only [openerBytes, List.length_cons] at hstop
      exact ⟨hle.2, by dsimp only; omega⟩

def run (form : Form) (label bytes : List UInt8) (p : Pass) : Except Fault (List UInt8) :=
  match _h : step form label bytes p with
  | .error fault => .error fault
  | .ok (.done out) => .ok out
  | .ok (.next p') => run form label bytes p'
termination_by bytes.length + 1 - p.resume
decreasing_by
  have hlt := lt_of_step ‹_›
  omega

theorem run_eq_match (form : Form) (label bytes : List UInt8) (p : Pass) :
    run form label bytes p = match step form label bytes p with
      | .error fault => .error fault
      | .ok (.done out) => .ok out
      | .ok (.next p') => run form label bytes p' := by
  rw [run]
  split <;> next hs => rw [hs]

/-- Replaces every block of the form by a space. -/
def remove (form : Form) (label bytes : List UInt8) : Except Fault (List UInt8) :=
  run form label bytes ⟨[], 0, 0⟩

def stripLabel (label bytes : List UInt8) : Except Fault (List UInt8) := do
  remove .multiLine label (← remove .singleLine label bytes)

/-- The bytes of the text without the blocks of all labels. -/
def strip (labels : List String) (text : String) : Except Fault (List UInt8) :=
  labels.foldlM (fun bytes label => stripLabel (Utf8.encode label.toList) bytes)
    (Utf8.encode (Lines.normalize text.toList))

end ScriptBundle.ByteScan
