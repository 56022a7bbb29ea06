import DebugCatalog.Json.Writer
import DebugCatalog.Yaml.Scalar

/-!
# Writing YAML

Values in block style.  The entries of a mapping are two columns deeper than
what encloses them.  The dashes of a sequence stand in the column of the mapping
it belongs to, and what follows a dash starts two columns behind it, on the same
line.  Empty sequences and mappings are written in brackets.

Keys are the names of fields and are written as they are.
-/

namespace DebugCatalog.Yaml

/-- The indentation of a line, unless it has begun already. -/
def lead (begun : Bool) (column : Nat) : List Char :=
  if begun then [] else spaces column

mutual

/-- What follows a key in the given column. -/
def afterKey (column : Nat) : Json → List Char
  | .array [] => [' ', '[', ']', '\n']
  | .array items => '\n' :: itemLines column false items
  | .object [] => [' ', '\x7b', '\x7d', '\n']
  | .object entries => '\n' :: entryLines (column + 2) false entries
  | .string s => ' ' :: scalarLine (column + 2) s
  | .null => [' ', 'n', 'u', 'l', 'l', '\n']
  | .boolean b => ' ' :: Json.booleanText b ++ ['\n']
  | .number n => ' ' :: n.text ++ ['\n']

/-- What follows a dash in the given column. -/
def afterDash (column : Nat) : Json → List Char
  | .array [] => [' ', '[', ']', '\n']
  | .array items => ' ' :: itemLines (column + 2) true items
  | .object [] => [' ', '\x7b', '\x7d', '\n']
  | .object entries => ' ' :: entryLines (column + 2) true entries
  | .string s => ' ' :: scalarLine (column + 2) s
  | .null => [' ', 'n', 'u', 'l', 'l', '\n']
  | .boolean b => ' ' :: Json.booleanText b ++ ['\n']
  | .number n => ' ' :: n.text ++ ['\n']

def itemLines (column : Nat) (begun : Bool) : List Json → List Char
  | [] => []
  | item :: rest => lead begun column ++ '-' :: (afterDash column item ++ itemLines column false rest)

def entryLines (column : Nat) (begun : Bool) : List (String × Json) → List Char
  | [] => []
  | (key, value) :: rest =>
    lead begun column ++ key.toList ++ ':' :: (afterKey column value ++ entryLines column false rest)

end

/-- A document.  Only values with entries are written as such. -/
def document : Json → List Char
  | .array [] => ['[', ']', '\n']
  | .array items => itemLines 0 false items
  | .object [] => ['\x7b', '\x7d', '\n']
  | .object entries => entryLines 0 false entries
  | .string s => scalarLine 2 s
  | .null => ['n', 'u', 'l', 'l', '\n']
  | .boolean b => Json.booleanText b ++ ['\n']
  | .number n => n.text ++ ['\n']

end DebugCatalog.Yaml

namespace DebugCatalog.Json

def toYaml (v : Json) : String :=
  String.ofList (Yaml.document v)

end DebugCatalog.Json
