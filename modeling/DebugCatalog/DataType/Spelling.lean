import DebugCatalog.DataType.Basic
import DebugCatalog.Text.Digits

/-!
# How types are spelled

`DataType.spelling` writes a type the way C declares it, as far as C has a way.
Integers and floats are named by their bits, or by their bytes once the number
of bits is no 64-bit word.
-/

namespace DebugCatalog.DataType

/-- Width in bits, if that is a 64-bit word. -/
def bits? (width : UInt64) : Option Nat :=
  if width.toNat * 8 < Word.size then some (width.toNat * 8) else none

def intSpelling (width : UInt64) (signed : Bool) : List Char :=
  if width = 1 ∧ signed = true then "char".toList
  else
    let sign := if signed then [] else ['u']
    match bits? width with
    | some bits => sign ++ ("int".toList ++ (Text.decimal bits ++ "_t".toList))
    | none => sign ++ ("int<".toList ++ (Text.decimal width.toNat ++ " bytes>".toList))

def floatSpelling (width : UInt64) : List Char :=
  if width = 4 then "float".toList
  else if width = 8 then "double".toList
  else if width = 10 then "long double".toList
  else
    match bits? width with
    | some bits => "float".toList ++ Text.decimal bits
    | none => "float<".toList ++ (Text.decimal width.toNat ++ " bytes>".toList)

def tagSpelling (tag : String) (name : Option String) : List Char :=
  tag.toList ++ ' ' :: (name.getD "<anonymous>").toList

/-- The mark of a function that takes further arguments. -/
def variadicMark (variadic : Bool) (alone : Bool) : List Char :=
  if variadic then if alone then "...".toList else ", ...".toList else []

mutual

def spelling : DataType → List Char
  | .void => "void".toList
  | .bool => "bool".toList
  | .int width signed => intSpelling width signed
  | .float width => floatSpelling width
  | .pointer (.function result parameters variadic) _ =>
    spelling result ++ (" (*)(".toList ++ (spellings parameters ++
      (variadicMark variadic parameters.isEmpty ++ [')'])))
  | .pointer target _ => spelling target ++ ['*']
  | .array element count => spelling element ++ '[' :: (Text.decimal count.toNat ++ [']'])
  | .function result parameters variadic =>
    spelling result ++ (" (".toList ++ (spellings parameters ++
      (variadicMark variadic parameters.isEmpty ++ [')'])))
  | .composite name _ _ => tagSpelling "struct" name
  | .enumeration name _ _ => tagSpelling "enum" name
  | .named name => name.toList

/-- Types separated by commas. -/
def spellings : List DataType → List Char
  | [] => []
  | [t] => spelling t
  | t :: ts => spelling t ++ ',' :: ' ' :: spellings ts

end

def display (t : DataType) : String :=
  String.ofList t.spelling

end DebugCatalog.DataType
