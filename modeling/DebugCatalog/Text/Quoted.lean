import DebugCatalog.Text.Visible
import DebugCatalog.Text.Digits

/-!
# Quoted text in messages

A text in a message stands between double quotes.  Quotes, backslashes and the
usual control characters have an escape of two characters, and every other
character that could not be seen on its own is shown by its number.
-/

namespace DebugCatalog.Text

def quotedChar (c : Char) : List Char :=
  match c with
  | '\x00' => ['\\', '0']
  | '\t' => ['\\', 't']
  | '\r' => ['\\', 'r']
  | '\n' => ['\\', 'n']
  | '\\' => ['\\', '\\']
  | '"' => ['\\', '"']
  | c =>
    if isExtending c || isHidden c then '\\' :: 'u' :: '\x7b' :: (hex c.toNat ++ ['\x7d'])
    else [c]

def quoted (s : String) : String :=
  String.ofList ('"' :: (s.toList.flatMap quotedChar ++ ['"']))

end DebugCatalog.Text
