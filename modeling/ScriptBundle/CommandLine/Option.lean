/-!
# Options of the command line

Every option has a long name, and a few have a short one. An option takes a value or is a flag. Three
of the options with a value may be repeated, all others and the flags are given at most once.
-/

namespace ScriptBundle.CommandLine

/-- An option that takes a value. -/
inductive Valued where
  | label
  | source
  | output
  | header
  | footer
  | option
  | launcher
  | compilerJar
  deriving DecidableEq, Repr

inductive Flag where
  | noWrap
  | noCompile
  | es5In
  | es6In
  | es5Out
  | es6Out
  | strict
  | pretty
  | simple
  | keep
  | package
  | verbose
  deriving DecidableEq, Repr

/-- Whatever may follow a dash. -/
inductive Switch where
  | valued (v : Valued)
  | flag (f : Flag)
  | help
  | version
  deriving DecidableEq, Repr

namespace Valued

/-- Whether a value may begin with a dash. -/
def takesDashes (v : Valued) : Bool := v == .option

/-- The environment variable that stands in for the option. -/
def environmentName? : Valued → Option String
  | .launcher => some "CLOSURE_MINIFY_JAVA"
  | .compilerJar => some "CLOSURE_COMPILER_JAR"
  | _ => none

def default? : Valued → Option String
  | .launcher => some "java"
  | .compilerJar => some "vendor/compiler.jar"
  | _ => none

/-- The name of the value in the help text. -/
def placeholder : Valued → String
  | .label => "LABEL"
  | .source | .output | .header | .footer => "FILE"
  | .option => "OPTION"
  | .launcher => "BIN"
  | .compilerJar => "JAR"

end Valued

namespace Switch

/-- All switches, in the order of the help text. -/
def all : List Switch :=
  [.valued .label, .valued .source, .valued .output, .valued .header, .valued .footer,
    .flag .noWrap, .flag .noCompile, .flag .es5In, .flag .es6In, .flag .es5Out, .flag .es6Out,
    .flag .strict, .flag .pretty, .flag .simple, .flag .keep, .valued .option, .flag .package,
    .flag .verbose, .valued .launcher, .valued .compilerJar, .help, .version]

def name : Switch → String
  | .valued .label => "label"
  | .valued .source => "source"
  | .valued .output => "output"
  | .valued .header => "header"
  | .valued .footer => "footer"
  | .valued .option => "option"
  | .valued .launcher => "java"
  | .valued .compilerJar => "compiler-jar"
  | .flag .noWrap => "nowrap"
  | .flag .noCompile => "nocompile"
  | .flag .es5In => "es5in"
  | .flag .es6In => "es6in"
  | .flag .es5Out => "es5out"
  | .flag .es6Out => "es6out"
  | .flag .strict => "strict"
  | .flag .pretty => "pretty"
  | .flag .simple => "simple"
  | .flag .keep => "keep"
  | .flag .package => "package"
  | .flag .verbose => "verbose"
  | .help => "help"
  | .version => "version"

def short? : Switch → Option Char
  | .flag .verbose => some 'v'
  | .help => some 'h'
  | .version => some 'V'
  | _ => none

def description : Switch → String
  | .valued .label => "Label to strip, with or without a leading @"
  | .valued .source => "Source file or glob pattern, concatenated in order"
  | .valued .output => "Output file"
  | .valued .header => "Prepend the contents of FILE"
  | .valued .footer => "Append the contents of FILE"
  | .valued .option => "Extra compiler option, e.g. \"jscomp_off checkVars\""
  | .valued .launcher => "Java launcher used to run the compiler"
  | .valued .compilerJar => "Closure Compiler jar"
  | .flag .noWrap => "Do not wrap the output in the WebModule idiom"
  | .flag .noCompile => "Only concatenate and strip, skip Closure Compiler"
  | .flag .es5In => "Input is ES5 code"
  | .flag .es6In => "Input is ES6 code"
  | .flag .es5Out => "Output ES5 code"
  | .flag .es6Out => "Output ES6 code"
  | .flag .strict => "Use the strict language modes"
  | .flag .pretty => "Pretty print the compiled output"
  | .flag .simple => "SIMPLE_OPTIMIZATIONS instead of ADVANCED_OPTIMIZATIONS"
  | .flag .keep => "Keep the temporary stripped file"
  | .flag .package => "Read webmodule.source and webmodule.output from package.json"
  | .flag .verbose => "Log progress and the compile options"
  | .help => "Print help"
  | .version => "Print version"

def ofName? (name : String) : Option Switch := all.find? (·.name == name)

def ofShort? (c : Char) : Option Switch := all.find? (·.short? == some c)

theorem ofName?_name (s : Switch) : ofName? s.name = some s := by
  cases s with
  | valued v => cases v <;> decide
  | flag f => cases f <;> decide
  | help => decide
  | version => decide

end Switch
end ScriptBundle.CommandLine
