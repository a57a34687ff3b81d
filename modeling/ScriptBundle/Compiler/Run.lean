import ScriptBundle.Compiler.Options
import ScriptBundle.Compiler.Process
import ScriptBundle.Workspace

/-!
# Running the compiler

The text goes to the compiler through a file in the work directory, and the result comes back
through another one beside it. Any text on the compiler's error stream counts as a failure, because
warnings go there too. After a failure the input stays and the result goes; after a good run the
result goes, and the input too unless it is to be kept.
-/

namespace ScriptBundle.Compiler

def inputName : String := ".Minify.tmp.js"

def outputName : String := ".Minify.output.js"

def inputFile (c : Config) : Path := c.workDir.join inputName

def outputFile (c : Config) : Path := c.workDir.join outputName

/-- The arguments of the whole run. -/
def arguments (c : Config) : List String :=
  ["-jar", c.compilerJar.spelling, "--js_output_file", (outputFile c).spelling,
    "--js", (inputFile c).spelling] ++ options c

/-- Whether a run counts as good. -/
def succeeded (f : Finished) : Bool := f.status.success && allBlank (Utf8.decodeLossy f.stderr)

/-- The options on one line. -/
def optionsLine (c : Config) : String :=
  String.ofList ((String.intercalate " " (options c)).toList.filter (· ≠ '\n'))

/-- Compiles the text and returns the result. -/
def minify (launch : Launcher) (c : Config) (js : String) : Action String := do
  Action.writeText (inputFile c) js
  Action.report .info .compiler s!"Compile options: {optionsLine c}"
  Action.report .debug .compiler s!"Running {c.launcher} -jar {c.compilerJar}"
  let finished ← Action.ofExcept (.launch c.launcher) (launch (← Action.files) c.launcher (arguments c))
  Action.setFiles finished.files
  if succeeded finished then
    let minified ← Action.readText (outputFile c)
    Action.remove (outputFile c)
    unless c.keep do Action.remove (inputFile c)
    return minified
  else
    Action.discard (outputFile c)
    Action.report .warn .compiler s!"Temporary input kept at {inputFile c}"
    throw (.compilerFailed finished.status (String.ofList (Utf8.decodeLossy finished.stderr)))

end ScriptBundle.Compiler
