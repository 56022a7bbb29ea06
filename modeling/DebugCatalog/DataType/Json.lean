import DebugCatalog.DataType.Basic
import DebugCatalog.Json.Writer

/-!
# Types as JSON

A type is an object whose entry `kind` comes first, followed by the fields of
that kind.  Enumerators are pairs, members are objects, and a missing name is
`null`.
-/

namespace DebugCatalog.DataType

/-- The constructors of `DataType`, in the order in which messages list them. -/
inductive Kind where
  | void
  | bool
  | int
  | float
  | pointer
  | array
  | function
  | composite
  | enumeration
  | named
  deriving DecidableEq, Repr

namespace Kind

def all : List Kind :=
  [.void, .bool, .int, .float, .pointer, .array, .function, .composite, .enumeration, .named]

def name : Kind → String
  | .void => "void"
  | .bool => "bool"
  | .int => "int"
  | .float => "float"
  | .pointer => "pointer"
  | .array => "array"
  | .function => "function"
  | .composite => "structure"
  | .enumeration => "enumeration"
  | .named => "named"

def ofName? (s : String) : Option Kind :=
  all.find? fun k => k.name == s

end Kind

def constantJson (constant : String × UInt64) : Json :=
  .array [.string constant.1, .natural constant.2]

/-- The object of a kind and its fields. -/
def tagged (kind : Kind) (fields : List (String × Json)) : Json :=
  .object (("kind", .string kind.name) :: fields)

mutual

def toJson : DataType → Json
  | .void => tagged .void []
  | .bool => tagged .bool []
  | .int width signed => tagged .int [("width", .natural width), ("signed", .boolean signed)]
  | .float width => tagged .float [("width", .natural width)]
  | .pointer target width =>
    tagged .pointer [("target", toJson target), ("width", .natural width)]
  | .array element count =>
    tagged .array [("element", toJson element), ("count", .natural count)]
  | .function result parameters variadic =>
    tagged .function [("return_type", toJson result), ("parameters", .array (listJson parameters)),
      ("variadic", .boolean variadic)]
  | .composite name width members =>
    tagged .composite [("name", .optional name), ("width", .natural width),
      ("members", .array (membersJson members))]
  | .enumeration name width constants =>
    tagged .enumeration [("name", .optional name), ("width", .natural width),
      ("members", .array (constants.map constantJson))]
  | .named name => tagged .named [("name", .string name)]

def listJson : List DataType → List Json
  | [] => []
  | t :: ts => toJson t :: listJson ts

def membersJson : List (Member DataType) → List Json
  | [] => []
  | ⟨name, type, offset⟩ :: ms =>
    .object [("name", .string name), ("ty", toJson type), ("offset", .natural offset)] ::
      membersJson ms

end

/-- The text under which a type is stored. -/
def encode (t : DataType) : String :=
  t.toJson.compact

end DebugCatalog.DataType
