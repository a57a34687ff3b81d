import ScriptBundle.LabelSet
import ScriptBundle.Path

/-!
# Build configurations

All that one build needs to know. It is put together once and then only read.
-/

namespace ScriptBundle

structure Config where
  sources : List Path := []
  output : Option Path := none
  /-- Texts before and after the sources. -/
  header : String := ""
  footer : String := ""
  labels : LabelSet := .defaults
  /-- Whether the compiled text is wrapped in a function. -/
  wrap : Bool := true
  compile : Bool := true
  es5In : Bool := false
  es6In : Bool := false
  es5Out : Bool := false
  es6Out : Bool := false
  strict : Bool := false
  pretty : Bool := false
  advanced : Bool := true
  /-- Whether the compiler's input stays after a good run. -/
  keep : Bool := false
  verbose : Bool := false
  /-- Further compiler options, each a name and its values. -/
  options : List String := []
  launcher : String := "java"
  compilerJar : Path := ⟨"vendor/compiler.jar"⟩
  deriving DecidableEq

namespace Config

/-- The directory of the compiler's files: the one that holds the output. -/
def workDir (c : Config) : Path :=
  match c.output.bind Path.parent? with
  | some parent => if parent.spelling = "" then ⟨"."⟩ else parent
  | none => ⟨"."⟩

end Config
end ScriptBundle
