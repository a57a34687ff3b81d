import ScriptBundle.Compiler.Process
import ScriptBundle.Manifest.Error
import ScriptBundle.Pattern.Basic

/-!
# Errors of a build

Stripping never fails. All that can fail around it is listed here with its cause, and the wording is
in `Error.message`.
-/

namespace ScriptBundle

inductive Error where
  | noSources
  | noOutput
  | sourceNotFound (path : Path)
  | unknownArgument (argument : String)
  | read (path : Path) (cause : FileError)
  | write (path : Path) (cause : FileError)
  | manifest (path : Path) (cause : Manifest.Error)
  | pattern (text : String) (cause : Pattern.Error)
  | launch (program : String) (cause : FileError)
  | compilerFailed (status : ExitStatus) (stderr : String)
  /-- A file that the compiler used could not be removed. -/
  | cleanup (cause : FileError)
  deriving DecidableEq, Repr

namespace Error

def message : Error → String
  | .noSources => "Input source are empty."
  | .noOutput => "Output file is empty."
  | .sourceNotFound path => s!"File not found: {path}"
  | .unknownArgument argument => s!"Unknown option: {argument}"
  | .read path cause => s!"Failed to read {path}: {cause.message}"
  | .write path cause => s!"Failed to write {path}: {cause.message}"
  | .manifest path cause => s!"Invalid package manifest {path}: {cause.message}"
  | .pattern text cause => "Invalid source pattern '" ++ text ++ "': " ++ cause.message
  | .launch program cause => s!"Could not launch {program}: {cause.message}"
  | .compilerFailed status stderr =>
    s!"Closure Compiler failed ({status.message}):\n{stderr}"
  | .cleanup cause => cause.message

end Error
end ScriptBundle
