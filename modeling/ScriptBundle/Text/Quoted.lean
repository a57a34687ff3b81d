import ScriptBundle.Text.Printable

/-!
# Quoted text

A text between double quotes in which every character shows. The quote, the backslash, the tab, the
two line ending characters and the null have short escapes; other characters that do not show, and
those that would join the character before them, are written by their code point in braces.
-/

namespace ScriptBundle.Quoted

def hexDigits (n : Nat) : List Char := Nat.toDigits 16 n

def escape (c : Char) : List Char :=
  match c with
  | '\x00' => ['\\', '0']
  | '\t' => ['\\', 't']
  | '\r' => ['\\', 'r']
  | '\n' => ['\\', 'n']
  | '"' => ['\\', '"']
  | '\\' => ['\\', '\\']
  | c =>
    if Printable.isPrintable c && !Printable.isExtender c then [c]
    else ['\\', 'u', '{'] ++ hexDigits c.toNat ++ ['}']

def encode (text : String) : String :=
  String.ofList ('"' :: text.toList.flatMap escape ++ ['"'])

end ScriptBundle.Quoted
