import ScriptBundle.Bundle
import ScriptBundle.CommandLine.Arguments
import ScriptBundle.CommandLine.Help
import ScriptBundle.Files.System

/-!
# Running a command line

An accepted command line becomes a configuration: labels in the order of the line after the default
ones, sources expanded, header and footer read, switches set, and the manifest last, so that it wins
over what the line says. The configuration is checked, the bundle is built and written to the
output. Nothing is written before all checks have passed.
-/

namespace ScriptBundle

namespace CommandLine

/-- The bare arguments that are no label. -/
def strayArgument? (labels : List LabelArgument) : Option String :=
  labels.findSome? fun
    | .bare text => if text.toList.head? = some '@' then none else some text
    | .option _ => none

/-- The value of an option, of its environment variable, or its default. -/
def valueOr (env : Environment) (given : Option String) (v : Valued) : String :=
  given.getD ((v.environmentName?.bind fun name => env.lookup name).getD (v.default?.getD ""))

/-- The text of a file, if one is given. -/
def textOf : Option String → Action String
  | some path => Action.readText ⟨path⟩
  | none => return ""

def packageFile : Path := ⟨"package.json"⟩

/-- The configuration that an accepted command line describes. -/
def config (env : Environment) (a : Arguments) : Action Config := do
  if let some text := strayArgument? a.labels then throw (.unknownArgument text)
  let sources ← Action.ofExcept id (Sources.expand (← Action.files) a.sources)
  let header ← textOf a.header
  let footer ← textOf a.footer
  let c : Config := {
    sources
    output := a.output.map Path.mk
    header
    footer
    labels := LabelSet.defaults.extend (a.labels.map (·.text))
    wrap := !a.has .noWrap
    compile := !a.has .noCompile
    es5In := a.has .es5In
    es6In := a.has .es6In
    es5Out := a.has .es5Out
    es6Out := a.has .es6Out
    strict := a.has .strict
    pretty := a.has .pretty
    advanced := !a.has .simple
    keep := a.has .keep
    verbose := a.has .verbose
    options := a.options
    launcher := valueOr env a.launcher .launcher
    compilerJar := ⟨valueOr env a.compilerJar .compilerJar⟩ }
  if a.has .package then c.applyPackage packageFile else return c

/-- Builds the bundle that an accepted command line describes, and writes it. -/
def run (launch : Launcher) (env : Environment) (a : Arguments) : Action Unit := do
  let c ← config env a
  Action.ofExcept id (c.validate (← Action.files))
  let js ← Bundle.build launch c
  match c.output with
  | none => throw .noOutput
  | some output =>
    Action.writeText output js
    Action.report .info .commandLine s!"Wrote {output}"

/-- What a run of the program leaves. -/
structure Outcome where
  code : Nat
  stdout : String
  stderr : String
  files : FileTree

def Usage.message : Usage → String
  | .unknownArgument text => "error: unexpected argument '" ++ text ++ "' found\n"
  | .missingValue v => "error: a value is required for '--" ++ (Switch.valued v).name ++ "'\n"
  | .repeated s => "error: the argument '--" ++ s.name ++ "' cannot be used multiple times\n"
  | .unexpectedValue s => "error: unexpected value for '--" ++ s.name ++ "' found\n"
  | .help | .version => ""

/-- The filter that the environment asks for; else warnings are shown, and progress if wanted. -/
def logFilter (env : Environment) (verbose : Bool) : Log.Filter × List String :=
  Log.Filter.read ((env.lookup "RUST_LOG").getD (if verbose then "info" else "warn"))

/-- The whole program: reads the command line, builds, and says what went wrong. The bundle is written
just before the last message of a good run. -/
def outcome (launch : Launcher) (env : Environment) (line : List String) (files : FileTree) :
    Outcome :=
  match Arguments.parse line with
  | .error .help => ⟨0, Help.text env, "", files⟩
  | .error .version => ⟨0, Help.versionText, "", files⟩
  | .error usage => ⟨2, "", usage.message, files⟩
  | .ok a =>
    let (filter, warnings) := logFilter env (a.has .verbose)
    let (result, w) := (run launch env a).run { files }
    let shown := Log.render filter (Terminal.Styling.forLog env)
    let taken (d : Device) := String.ofList (Utf8.decodeLossy (w.files.takenBy d))
    let warned := String.join (warnings.map Log.warning)
    match result with
    | .ok () =>
      let stderr := warned ++ shown w.log.dropLast ++ taken .errors ++ shown (w.log.drop (w.log.length - 1))
      ⟨0, taken .output, stderr, w.files⟩
    | .error e => ⟨1, taken .output, warned ++ shown w.log ++ s!"Error: {e.message}\n", w.files⟩

end CommandLine
end ScriptBundle
