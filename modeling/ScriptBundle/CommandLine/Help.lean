import ScriptBundle.CommandLine.Option
import ScriptBundle.Terminal.Style

/-!
# The help text

Usage, bare arguments and options, each option on a line with its description in one column. Where
an environment variable or a default stands in for an option, its description says so. Further lines
of a value begin in the same column. Headings and options are styled where styles are asked for.
-/

namespace ScriptBundle.CommandLine

namespace Help

def program : String := "closure-minify"

def version : String := "0.3.0"

def about : String :=
  "Concatenate JavaScript sources, strip labelled blocks and minify with Closure Compiler"

/-- How a switch is written: what is literal of it in parts, and its value. -/
def literals (s : Switch) : List String :=
  (s.short?.map fun c => String.ofList ['-', c]).toList ++ ["--" ++ s.name]

def value : Switch → String
  | .valued v => s!" <{v.placeholder}>"
  | _ => ""

/-- The switch with its literal parts in a style. Without a short one its place stays free. -/
def spelling (styling : Terminal.Styling) (s : Switch) : String :=
  let margin := if s.short?.isSome then "  " else "      "
  margin ++ String.intercalate ", " ((literals s).map (styling.apply [.bold])) ++ value s

def width (s : Switch) : Nat := (spelling ⟨false⟩ s).length

/-- What stands in for an option. -/
def standIn (env : Environment) : Switch → String
  | .valued v =>
    let fromVariable := match v.environmentName? with
      | some name =>
        let value := (env.lookup name).getD ""
        s!" [env: {name}={value}]"
      | none => ""
    let fallback := match v.default? with
      | some value => s!" [default: {value}]"
      | none => ""
    fromVariable ++ fallback
  | _ => ""

/-- The column in which descriptions begin. -/
def column : Nat := 2 + ((Switch.all.map width).max?.getD 0)

def spaces (n : Nat) : String := String.ofList (List.replicate n ' ')

def line (styling : Terminal.Styling) (env : Environment) (s : Switch) : String :=
  let description := s.description ++ standIn env s
  let lines := (description.toList.splitOn '\n').map String.ofList
  spelling styling s ++ spaces (column - width s) ++
    String.intercalate ("\n" ++ spaces column) lines ++ "\n"

def text (env : Environment) : String :=
  let styling := Terminal.Styling.ofEnvironment env
  let heading := styling.apply [.bold, .underline]
  styling.release
    (about ++ "\n\n" ++ heading "Usage:" ++ " " ++ styling.apply [.bold] program ++
      " [OPTIONS] [LABELS]...\n\n" ++ heading "Arguments:" ++
      "\n  [LABELS]...  Labels to strip, written as @label\n\n" ++ heading "Options:" ++ "\n" ++
      String.join (Switch.all.map (line styling env)))

def versionText : String := s!"{program} {version}\n"

end Help
end ScriptBundle.CommandLine
