import ScriptBundle.Text.Quoted

/-!
# What is wrong with a manifest

The causes for which a manifest is refused, their wording, and the place of a fault: its line, and
the number of bytes since that line began.
-/

namespace ScriptBundle.Manifest

/-- A value that stands where another kind of value is wanted. -/
inductive Found where
  | null
  | boolean (value : Bool)
  | integer (negative : Bool) (magnitude : Nat)
  /-- A number with a fraction, an exponent or too many digits, in its shortest spelling. -/
  | real (spelling : String)
  | string (text : String)
  | sequence
  | mapping
  deriving DecidableEq, Repr

inductive Wanted where
  | manifest
  | webModule
  | sequence
  | string
  deriving DecidableEq, Repr

inductive Cause where
  | endInValue
  | endInObject
  | endInList
  | endInString
  | expectedColon
  | expectedListEnd
  | expectedObjectEnd
  | expectedIdent
  | expectedValue
  | keyNotString
  | trailingComma
  | trailingCharacters
  | invalidNumber
  | numberOutOfRange
  | controlCharacter
  | invalidEscape
  | loneSurrogate
  | unpairedSurrogate
  | wrongType (found : Found) (wanted : Wanted)
  | tooShort
  | duplicateField (name : String)
  | missingField (name : String)
  deriving DecidableEq, Repr

namespace Found

def message : Found → String
  | .null => "null"
  | .boolean value => s!"boolean `{value}`"
  | .integer negative magnitude =>
    let sign := if negative then "-" else ""
    s!"integer `{sign}{magnitude}`"
  | .real spelling => s!"floating point `{spelling}`"
  | .string text => s!"string {Quoted.encode text}"
  | .sequence => "sequence"
  | .mapping => "map"

end Found

namespace Wanted

def message : Wanted → String
  | .manifest => "struct PackageManifest"
  | .webModule => "struct WebModule"
  | .sequence => "a sequence"
  | .string => "a string"

end Wanted

namespace Cause

def message : Cause → String
  | .endInValue => "EOF while parsing a value"
  | .endInObject => "EOF while parsing an object"
  | .endInList => "EOF while parsing a list"
  | .endInString => "EOF while parsing a string"
  | .expectedColon => "expected `:`"
  | .expectedListEnd => "expected `,` or `]`"
  | .expectedObjectEnd => "expected `,` or `\x7d`"
  | .expectedIdent => "expected ident"
  | .expectedValue => "expected value"
  | .keyNotString => "key must be a string"
  | .trailingComma => "trailing comma"
  | .trailingCharacters => "trailing characters"
  | .invalidNumber => "invalid number"
  | .numberOutOfRange => "number out of range"
  | .controlCharacter => "control character (\\u0000-\\u001F) found while parsing a string"
  | .invalidEscape => "invalid escape"
  | .loneSurrogate => "lone leading surrogate in hex escape"
  | .unpairedSurrogate => "unexpected end of hex escape"
  | .wrongType found wanted => s!"invalid type: {found.message}, expected {wanted.message}"
  | .tooShort => s!"invalid length 0, expected {Wanted.manifest.message} with 1 element"
  | .duplicateField name => s!"duplicate field `{name}`"
  | .missingField name => s!"missing field `{name}`"

end Cause

structure Error where
  cause : Cause
  line : Nat
  column : Nat
  deriving DecidableEq, Repr

def Error.message (e : Error) : String :=
  s!"{e.cause.message} at line {e.line} column {e.column}"

/-- The error whose place is the end of the bytes read. -/
def Error.after (cause : Cause) (bytes : List UInt8) : Error :=
  ⟨cause, 1 + bytes.count 10, (bytes.reverse.takeWhile (· ≠ 10)).length⟩

end ScriptBundle.Manifest
