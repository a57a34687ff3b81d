import ScriptBundle.Environment
import ScriptBundle.Terminal.Escape

/-!
# Styles

Output is styled only where the environment asks for it; none of the outputs is taken for a terminal.
Output without styles is also free of the escape sequences that the text brought along.
-/

namespace ScriptBundle.Terminal

inductive Style where
  | bold
  | underline
  | red
  | green
  | yellow
  | blue
  | cyan
  | grey
  deriving DecidableEq, Repr

def Style.code : Style → String
  | .bold => "1"
  | .underline => "4"
  | .red => "31"
  | .green => "32"
  | .yellow => "33"
  | .blue => "34"
  | .cyan => "36"
  | .grey => "90"

def Style.begins (s : Style) : String := "\x1b[" ++ s.code ++ "m"

/-- Whether output is styled. -/
structure Styling where
  enabled : Bool
  deriving DecidableEq, Repr

namespace Styling

/-- What the environment asks for all outputs. -/
def ofEnvironment (env : Environment) : Styling where
  enabled := !env.isSet "NO_COLOR" && env.isSet "CLICOLOR_FORCE"

/-- What the environment asks for the log. -/
def forLog (env : Environment) : Styling :=
  match env.lookup "RUST_LOG_STYLE" with
  | some "always" => ⟨true⟩
  | some "never" => ⟨false⟩
  | _ => ofEnvironment env

/-- A text in some styles. -/
def apply (s : Styling) (styles : List Style) (text : String) : String :=
  if s.enabled && !styles.isEmpty then String.join (styles.map Style.begins) ++ text ++ "\x1b[0m"
  else text

/-- What goes out of a text that may bring escape sequences along. -/
def release (s : Styling) (text : String) : String := if s.enabled then text else visible text

end Styling
end ScriptBundle.Terminal
