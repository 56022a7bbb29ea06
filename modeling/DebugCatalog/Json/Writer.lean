import DebugCatalog.Json.Basic
import DebugCatalog.Text.Digits
import DebugCatalog.Decimal.Shortest

/-!
# Writing JSON

Two layouts of one value.  `Json.compact` has no blanks at all.
`Json.indented` puts every item and entry on a line of its own, two blanks
deeper than what encloses it, and leaves empty arrays and objects on one line.
-/

namespace DebugCatalog.Json

/-- A character inside a string.  Quotes, backslashes and control characters are
escaped, everything else stands for itself. -/
def escape (c : Char) : List Char :=
  match c with
  | '"' => ['\\', '"']
  | '\\' => ['\\', '\\']
  | '\x08' => ['\\', 'b']
  | '\x0c' => ['\\', 'f']
  | '\n' => ['\\', 'n']
  | '\r' => ['\\', 'r']
  | '\t' => ['\\', 't']
  | c => if c.toNat < 0x20 then '\\' :: 'u' :: Text.hexPadded 4 c.toNat else [c]

def quoted (s : String) : List Char :=
  '"' :: (s.toList.flatMap escape ++ ['"'])

def Number.text : Number → List Char
  | .natural n => Text.decimal n.toNat
  | .negative n => Text.decimalInt n
  | .floating x => (Decimal.ofFloat x).toList

def booleanText (b : Bool) : List Char :=
  if b then ['t', 'r', 'u', 'e'] else ['f', 'a', 'l', 's', 'e']

mutual

def render : Json → List Char
  | .null => ['n', 'u', 'l', 'l']
  | .boolean b => booleanText b
  | .number n => n.text
  | .string s => quoted s
  | .array items => '[' :: (renderItems items ++ [']'])
  | .object entries => '{' :: (renderEntries entries ++ ['}'])

def renderItems : List Json → List Char
  | [] => []
  | [item] => render item
  | item :: rest => render item ++ ',' :: renderItems rest

def renderEntries : List (String × Json) → List Char
  | [] => []
  | [(key, value)] => quoted key ++ ':' :: render value
  | (key, value) :: rest => quoted key ++ ':' :: (render value ++ ',' :: renderEntries rest)

end

/-- A new line at the given level. -/
def newline (level : Nat) : List Char :=
  '\n' :: List.replicate (2 * level) ' '

mutual

def layout (level : Nat) : Json → List Char
  | .array [] => ['[', ']']
  | .array items => '[' :: (layoutItems (level + 1) items ++ newline level ++ [']'])
  | .object [] => ['{', '}']
  | .object entries => '{' :: (layoutEntries (level + 1) entries ++ newline level ++ ['}'])
  | .null => ['n', 'u', 'l', 'l']
  | .boolean b => booleanText b
  | .number n => n.text
  | .string s => quoted s

def layoutItems (level : Nat) : List Json → List Char
  | [] => []
  | [item] => newline level ++ layout level item
  | item :: rest => newline level ++ (layout level item ++ ',' :: layoutItems level rest)

def layoutEntries (level : Nat) : List (String × Json) → List Char
  | [] => []
  | [(key, value)] => newline level ++ (quoted key ++ ':' :: ' ' :: layout level value)
  | (key, value) :: rest =>
    newline level ++ (quoted key ++ ':' :: ' ' :: (layout level value ++ ',' :: layoutEntries level rest))

end

def compact (v : Json) : String :=
  String.ofList v.render

def indented (v : Json) : String :=
  String.ofList (v.layout 0)

end DebugCatalog.Json
