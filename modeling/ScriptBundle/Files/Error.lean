/-!
# What goes wrong with files

The causes for which opening, reading, writing, removing or starting a file fails, and the wording
of each.
-/

namespace ScriptBundle

inductive FileError where
  | notFound
  | notExecutable
  | permissionDenied
  | alreadyExists
  | notADirectory
  | isADirectory
  | nameTooLong
  | directoryNotEmpty
  | badDescriptor
  | noSuchDevice
  | invalidArgument
  | noSpace
  | tooManyLinks
  /-- The bytes of the file are no text. -/
  | notText
  /-- A name holds the null character. -/
  | nullInName
  /-- An argument of a program holds the null character. -/
  | nullInArgument
  deriving DecidableEq, Repr

namespace FileError

/-- The system's words for the cause, and its number. -/
def system? : FileError → Option (String × Nat)
  | .notFound => some ("No such file or directory", 2)
  | .noSuchDevice => some ("No such device or address", 6)
  | .notExecutable => some ("Exec format error", 8)
  | .badDescriptor => some ("Bad file descriptor", 9)
  | .permissionDenied => some ("Permission denied", 13)
  | .alreadyExists => some ("File exists", 17)
  | .notADirectory => some ("Not a directory", 20)
  | .isADirectory => some ("Is a directory", 21)
  | .invalidArgument => some ("Invalid argument", 22)
  | .noSpace => some ("No space left on device", 28)
  | .nameTooLong => some ("File name too long", 36)
  | .directoryNotEmpty => some ("Directory not empty", 39)
  | .tooManyLinks => some ("Too many levels of symbolic links", 40)
  | .notText | .nullInName | .nullInArgument => none

def message (e : FileError) : String :=
  match e.system? with
  | some (words, number) => s!"{words} (os error {number})"
  | none =>
    match e with
    | .notText => "stream did not contain valid UTF-8"
    | .nullInName => "file name contained an unexpected NUL byte"
    | _ => "nul byte found in provided data"

end FileError
end ScriptBundle
