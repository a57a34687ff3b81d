/-!
# Modes of files

A mode says what may be done with a file, by its owner, by its group, and by all others: reading it,
writing it, and executing it. Three marks stand before these nine bits; they say that a program runs as
the owner or the group of its file, and that only owners take files out of a directory.
-/

namespace ScriptBundle

abbrev Mode := BitVec 12

namespace Mode

/-- The mode of files and of directories that nothing is said about. -/
def file : Mode := 0o644
def directory : Mode := 0o755
def program : Mode := 0o755

/-- What programs ask for when they make a file. What is masked is left out of it. -/
def fresh : Mode := 0o666

/-- All that a mode permits, without the marks. -/
def permissions : Mode := 0o777

def owner : Mode := 0o700
def group : Mode := 0o070
def others : Mode := 0o007

def reading : Mode := 0o444
def writing : Mode := 0o222
def executing : Mode := 0o111

/-- The marks. -/
def asOwner : Mode := 0o4000
def asGroup : Mode := 0o2000
def sticky : Mode := 0o1000

/-- The mode without what is masked. -/
def without (m mask : Mode) : Mode := m &&& ~~~mask

/-- Whether a mode has one of some bits. -/
def hasAny (m bits : Mode) : Bool := m &&& bits != 0

def isExecutable (m : Mode) : Bool := m.hasAny executing

/-- What one of the three may do, given to all three. -/
def spread (m : Mode) : Mode :=
  (if m.hasAny reading then reading else 0) ||| (if m.hasAny writing then writing else 0) |||
    (if m.hasAny executing then executing else 0)

/-- The letters of what the owner, the group and others may do. A mark shows in the place of the
third letter, large if the letter itself would not stand there. -/
def letters (m : Mode) : List Char :=
  let one (bits mark : Mode) (small large : Char) : List Char :=
    let may (what : Mode) : Bool := m.hasAny (bits &&& what)
    [if may reading then 'r' else '-', if may writing then 'w' else '-',
      if m.hasAny mark then (if may executing then small else large)
      else if may executing then 'x' else '-']
  one owner asOwner 's' 'S' ++ one group asGroup 's' 'S' ++ one others sticky 't' 'T'

/-- The mode in octal digits, without zeros before it. -/
def digits (m : Mode) : List Char := Nat.toDigits 8 m.toNat

/-- The mode in four octal digits. -/
def fourDigits (m : Mode) : List Char :=
  List.replicate (4 - m.digits.length) '0' ++ m.digits

end Mode
end ScriptBundle
