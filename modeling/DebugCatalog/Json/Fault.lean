import DebugCatalog.Decimal.Shortest
import DebugCatalog.Text.Quoted

/-!
# What can be wrong with a JSON text

`Fault` separates texts that end too early, texts that are no JSON, and texts
that are JSON but do not describe the value that was asked for.  The last kind
carries a `Mismatch`, whose wording is `Mismatch.message`.
-/

namespace DebugCatalog.Json

/-- What stood in the text, as messages name it. -/
inductive Found where
  | null
  | boolean (value : Bool)
  | integer (value : Int)
  | floating (value : Float)
  | string (value : String)
  | sequence
  | map

/-- Why a value does not describe what was asked for. -/
inductive Mismatch where
  | missingField (name : String)
  | duplicateField (name : String)
  | unknownVariant (found : String) (known : List String)
  | invalidType (found : Found) (expected : String)
  | invalidValue (found : Found) (expected : String)
  | invalidLength (length : Nat) (expected : String)

inductive Fault where
  /-- The text ends too early. -/
  | truncated
  /-- The text is no JSON. -/
  | malformed
  | mismatch (cause : Mismatch)

def Found.describe : Found → String
  | .null => "null"
  | .boolean b => "boolean `" ++ (if b then "true" else "false") ++ "`"
  | .integer n => "integer `" ++ toString n ++ "`"
  | .floating x => "floating point `" ++ Decimal.ofFloat x ++ "`"
  | .string s => "string " ++ Text.quoted s
  | .sequence => "sequence"
  | .map => "map"

/-- The names a message lists: two are joined by a word, more come after one. -/
def alternatives (names : List String) : String :=
  match names.map fun name => "`" ++ name ++ "`" with
  | [] => "there are no variants"
  | [a] => "expected " ++ a
  | [a, b] => "expected " ++ a ++ " or " ++ b
  | many => "expected one of " ++ ", ".intercalate many

def Mismatch.message : Mismatch → String
  | .missingField name => "missing field `" ++ name ++ "`"
  | .duplicateField name => "duplicate field `" ++ name ++ "`"
  | .unknownVariant found known => "unknown variant `" ++ found ++ "`, " ++ alternatives known
  | .invalidType found expected => "invalid type: " ++ found.describe ++ ", expected " ++ expected
  | .invalidValue found expected => "invalid value: " ++ found.describe ++ ", expected " ++ expected
  | .invalidLength length expected =>
    "invalid length " ++ toString length ++ ", expected " ++ expected

def Fault.message : Fault → String
  | .truncated => "the text ends too early"
  | .malformed => "the text is malformed"
  | .mismatch m => m.message

/-- "1 element", "2 elements". -/
def elements (n : Nat) : String :=
  if n = 1 then "1 element" else toString n ++ " elements"

end DebugCatalog.Json
