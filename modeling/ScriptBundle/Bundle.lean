import ScriptBundle.Compiler.Run
import ScriptBundle.Manifest.Decode
import ScriptBundle.Sources
import ScriptBundle.Strip

/-!
# Building a bundle

A bundle is the header, the text of every source that can be read, and the footer, with the blocks
of all labels removed, and compiled unless that is switched off. `validate` checks what a build
needs before it starts, and `applyPackage` takes sources and output from a package manifest.
-/

namespace ScriptBundle

namespace Config

/-- Takes the sources and the output from the manifest at a path. Nothing changes if that fails. -/
def applyPackage (c : Config) (path : Path) : Action Config := do
  let text ← Action.readText path
  let webModule ← Action.ofExcept (.manifest path) (Manifest.decode text)
  Action.report .debug .config s!"Loaded webmodule section from {path}"
  let sources ← Action.ofExcept id (Sources.expand (← Action.files) webModule.source)
  return { c with
    sources
    output := if webModule.output = "" then none else some ⟨webModule.output⟩ }

/-- The first reason why a build cannot start. -/
def validate (c : Config) (t : FileTree) : Except Error Unit :=
  if c.sources = [] then .error .noSources
  else if c.output.all (·.spelling = "") then .error .noOutput
  else
    match c.sources.find? (!t.has ·) with
    | some missing => .error (.sourceNotFound missing)
    | none => .ok ()

end Config

namespace Bundle

/-- The text of a source. One that cannot be read is reported and adds nothing. -/
def sourceText (p : Path) : Action String := do
  match (← Action.files).readText p with
  | .ok text => return text
  | .error cause =>
    Action.report .warn .bundle s!"Skipping {p} due to error: {cause.message}"
    return ""

/-- Header, sources in order, footer. -/
def concat (sources : List Path) (header footer : String) : Action String := do
  let texts ← sources.mapM sourceText
  return header ++ String.join texts ++ footer

/-- The text to write to the output. -/
def build (launch : Launcher) (c : Config) : Action String := do
  let js ← concat c.sources c.header c.footer
  let js := strip c.labels.toList js
  let labels := String.intercalate ", " c.labels.toList
  Action.report .info .bundle s!"Stripped labels [{labels}] from {c.sources.length} source(s)"
  if c.compile then Compiler.minify launch c js else return js

end Bundle
end ScriptBundle
