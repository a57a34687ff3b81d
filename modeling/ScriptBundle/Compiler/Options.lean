import ScriptBundle.Config
import ScriptBundle.Text.Blank

/-!
# Compiler options

The arguments that a configuration gives the compiler: first those that its switches stand for, then
each further option as its words. The first word of an option becomes a flag whatever dashes it has;
an option without words adds nothing.
-/

namespace ScriptBundle.Compiler

/-- Wraps the output in a function of the global object. -/
def outputWrapper : String := "(function(global)\x7b\n%output%\n\x7d)((this||0).self||global);"

/-- The arguments for one further option. -/
def extraOption (option : String) : List String :=
  match words option.toList with
  | [] => []
  | name :: values =>
    String.ofList ('-' :: '-' :: name.dropWhile (· == '-')) :: values.map String.ofList

def languageIn (c : Config) : String :=
  if c.es6In && !c.es5In then "ECMASCRIPT6" else "ECMASCRIPT5"

def languageOut? (c : Config) : Option String :=
  if c.es5Out then some "ECMASCRIPT5" else if c.es6Out then some "ECMASCRIPT6" else none

/-- The language mode that a language is used in. -/
def mode (c : Config) (language : String) : String :=
  if c.strict then language ++ "_STRICT" else language

/-- The arguments for the switches of a configuration. -/
def baseOptions (c : Config) : List String :=
  ["--compilation_level", if c.advanced then "ADVANCED_OPTIMIZATIONS" else "SIMPLE_OPTIMIZATIONS"]
    ++ (if c.wrap then ["--output_wrapper", outputWrapper] else [])
    ++ ["--language_in", mode c (languageIn c)]
    ++ (match languageOut? c with
      | some language => ["--language_out", mode c language]
      | none => [])
    ++ (if c.pretty then ["--formatting", "pretty_print"] else [])

def options (c : Config) : List String := baseOptions c ++ c.options.flatMap extraOption

end ScriptBundle.Compiler
