import ScriptBundle.Bundle

/-!
# Drafts

A draft is a configuration that is changed in place, field by field, with the workspace beside it. An
edit may fail, and what it changed before it failed stays changed. `takeManifest` does to a draft what
`Config.applyPackage` does to a configuration that is only read.
-/

namespace ScriptBundle

structure Draft where
  config : Config
  workspace : Workspace

abbrev Edit := ExceptT Error (StateM Draft)

namespace Edit

/-- Runs an action beside the configuration. -/
def perform (x : Action α) : Edit α := fun d =>
  let (result, workspace) := x.run d.workspace
  (result, { d with workspace })

def setSources (sources : List Path) : Edit Unit :=
  modify fun d => { d with config.sources := sources }

def setOutput (output : Option Path) : Edit Unit :=
  modify fun d => { d with config.output := output }

/-- Takes the sources and then the output from the manifest at a path, given how manifests are
decoded. An empty output is none. -/
def takeManifest (decode : String → Except Manifest.Error WebModule) (path : Path) : Edit Unit := do
  let text ← perform (Action.readText path)
  let webModule ← perform (Action.ofExcept (.manifest path) (decode text))
  perform (Action.report .debug .config s!"Loaded webmodule section from {path}")
  let files ← perform Action.files
  setSources (← perform (Action.ofExcept id (Sources.expand files webModule.source)))
  setOutput (if webModule.output = "" then none else some ⟨webModule.output⟩)

end Edit
end ScriptBundle
