import MethodCorpus.Text.Printable

/-!
# Texts quoted for a reader

A quoted text stands between double quotes. Quotes, backslashes and the common controls are written
with a backslash, characters that would not show as their number in base sixteen, and all others as
they are.
-/

namespace MethodCorpus.Text

/-- A character inside a quoted text. -/
def quotedChar (c : Char) : List Char :=
  match c with
  | '\x00' => ['\\', '0']
  | '\t' => ['\\', 't']
  | '\r' => ['\\', 'r']
  | '\n' => ['\\', 'n']
  | '\\' => ['\\', '\\']
  | '"' => ['\\', '"']
  | c =>
    if isPlain c then [c]
    else "\\u\x7b".toList ++ Nat.toDigits 16 c.toNat ++ ['\x7d']

/-- A text between double quotes. -/
def quoted (text : String) : String :=
  String.ofList ('"' :: (text.toList.flatMap quotedChar ++ ['"']))

end MethodCorpus.Text
