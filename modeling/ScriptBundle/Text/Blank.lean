/-!
# White space and words

`isBlank` is the Unicode property White_Space. A word is a longest run of characters without it.
The zero width space, the byte order mark and the information separators are not white space.
-/

namespace ScriptBundle

/-- The Unicode property White_Space. -/
def isBlank (c : Char) : Bool :=
  ('\t' ≤ c && c ≤ '\r') || c == ' ' || c == '\u0085' || c == '\u00a0' || c == '\u1680' ||
    ('\u2000' ≤ c && c ≤ '\u200a') || c == '\u2028' || c == '\u2029' || c == '\u202f' ||
    c == '\u205f' || c == '\u3000'

/-- Whether the text holds white space only. -/
def allBlank (text : List Char) : Bool := text.all isBlank

/-- The words of a text, in order. -/
def words (text : List Char) : List (List Char) := (text.splitOnP isBlank).filter (!·.isEmpty)

end ScriptBundle
