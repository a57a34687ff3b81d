/-!
# Commands of a shell script

The commands that a script is made of, and the words in them. A word is made of pieces, and each piece
remembers whether it stood in quotes: text in quotes is never a pattern, and what an expansion in
quotes gives is never split. An expansion may hold whole commands, so words and commands are defined
together.
-/

namespace ScriptBundle.Shell

/-- What a redirection does with its descriptor. -/
inductive RedirectKind where
  | read
  | write
  /-- Writes over a file even where that is switched off. -/
  | overwrite
  | append
  | readWrite
  /-- Takes the place of another descriptor, or closes. -/
  | copy
  /-- Reads a document that stands in the script. -/
  | document
  deriving DecidableEq, Repr

mutual

inductive Piece where
  | text (chars : List Char) (quoted : Bool)
  | parameter (name : String) (use : ParameterUse) (quoted : Bool)
  /-- The output of commands. -/
  | output (body : Command) (quoted : Bool)
  /-- The value of an expression. -/
  | arithmetic (expression : List Piece) (quoted : Bool)

/-- How a parameter is used. A word may stand in for it if it is unset, or also if it is empty. -/
inductive ParameterUse where
  | value
  | size
  | orElse (orEmpty : Bool) (word : List Piece)
  | orAssign (orEmpty : Bool) (word : List Piece)
  | orFail (orEmpty : Bool) (word : List Piece)
  | ifSet (orEmpty : Bool) (word : List Piece)
  /-- The value without a pattern at its start or its end. -/
  | trim (atStart longest : Bool) (pattern : List Piece)
  /-- A use that does not exist. -/
  | bad

/-- A redirection. A document is known by its number. -/
inductive Redirect where
  | mk (descriptor : Nat) (kind : RedirectKind) (target : List Piece) (document : Nat)

inductive Command where
  | empty
  | simple (line : Nat) (assignments : List (String × List Piece)) (words : List (List Piece))
    (redirects : List Redirect)
  | redirected (line : Nat) (body : Command) (redirects : List Redirect)
  | seq (first second : Command)
  /-- The second one runs if the first succeeds. -/
  | both (first second : Command)
  /-- The second one runs if the first fails. -/
  | either (first second : Command)
  | negate (body : Command)
  | pipe (stages : List Command)
  | background (line : Nat) (body : Command)
  | subshell (line : Nat) (body : Command) (redirects : List Redirect)
  | branch (test yes no : Command)
  /-- Goes on while the test succeeds, or until it does. -/
  | loop (whileTrue : Bool) (test body : Command)
  | each (line : Nat) (name : String) (words : List (List Piece)) (body : Command)
  | choose (line : Nat) (subject : List Piece) (clauses : List (List (List Piece) × Command))
  | define (name : String) (body : Command)

end

abbrev Word := List Piece

instance : Inhabited Command := ⟨.empty⟩

def Piece.isQuoted : Piece → Bool
  | .text _ quoted | .parameter _ _ quoted | .output _ quoted | .arithmetic _ quoted => quoted

namespace Redirect

def descriptor : Redirect → Nat
  | .mk descriptor .. => descriptor

def kind : Redirect → RedirectKind
  | .mk _ kind .. => kind

def target : Redirect → Word
  | .mk _ _ target _ => target

def document : Redirect → Nat
  | .mk _ _ _ document => document

end Redirect

def isNameStart (c : Char) : Bool := c.isAlpha || c == '_'

def isNameChar (c : Char) : Bool := c.isAlphanum || c == '_'

/-- Whether a text can name a variable or a function. -/
def isName (text : String) : Bool :=
  text.toList.head?.any isNameStart && text.toList.all isNameChar

end ScriptBundle.Shell
