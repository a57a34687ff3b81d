import ScriptBundle.Text.Utf8

/-!
# Texts of octets

A shell and its utilities work on bytes. In a script, in the values of variables and in the arguments
of commands each character stands for one byte, so that every character is below 256. These functions
go between such texts, bytes, and texts of characters.
-/

namespace ScriptBundle.Shell.Octet

def ofByte (b : UInt8) : Char := Char.ofNat b.toNat

def toByte (c : Char) : UInt8 := c.toNat.toUInt8

/-- The octets of some bytes. -/
def ofBytes (bytes : List UInt8) : List Char := bytes.map ofByte

def toBytes (octets : List Char) : List UInt8 := octets.map toByte

/-- The octets that write a text of characters. -/
def ofText (text : String) : String :=
  if text.toList.all (·.toNat < 128) then text
  else String.ofList (ofBytes (Utf8.encode text.toList))

/-- The characters that octets write. -/
def toText (octets : String) : String :=
  if octets.toList.all (·.toNat < 128) then octets
  else String.ofList (Utf8.decodeLossy (toBytes octets.toList))

end ScriptBundle.Shell.Octet
