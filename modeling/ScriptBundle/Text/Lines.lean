/-!
# Lines of a text

Texts are lists of characters here. A line ends at a line feed; `normalize` turns the two other
line endings, a carriage return with or without a line feed after it, into one.

`takeLine` and `dropLine` split a text at its first line feed, and nothing is lost:
`takeLine_append_dropLine`.
-/

namespace ScriptBundle.Lines

/-- Turns every line ending into a single line feed. -/
def normalize : List Char → List Char
  | [] => []
  | '\r' :: '\n' :: rest => '\n' :: normalize rest
  | c :: rest => (if c = '\r' then '\n' else c) :: normalize rest

@[simp] theorem normalize_nil : normalize [] = [] := rfl

@[simp] theorem normalize_crlf (rest : List Char) :
    normalize ('\r' :: '\n' :: rest) = '\n' :: normalize rest := by
  simp [normalize]

theorem normalize_cons {c : Char} (h : c ≠ '\r') (rest : List Char) :
    normalize (c :: rest) = c :: normalize rest := by
  rw [normalize]
  · simp [h]
  · intro _ hc
    exact absurd hc h

/-- What precedes the first line feed. -/
def takeLine (text : List Char) : List Char := text.takeWhile (· ≠ '\n')

/-- The first line feed and all that follows it. -/
def dropLine (text : List Char) : List Char := text.dropWhile (· ≠ '\n')

@[simp] theorem takeLine_append_dropLine (text : List Char) :
    takeLine text ++ dropLine text = text :=
  List.takeWhile_append_dropWhile

end ScriptBundle.Lines
