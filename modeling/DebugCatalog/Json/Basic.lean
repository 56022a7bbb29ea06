/-!
# JSON values

`Json` is the value a text denotes, with the entries of an object in the order
in which they were written and repeated keys kept.  `Json.depth` counts nested
arrays and objects; a reader accepts texts up to `depthLimit` of them.
-/

namespace DebugCatalog

/-- A number as the reader tells it apart: whole and unsigned, whole and
negative, or anything else. -/
inductive Json.Number where
  | natural (value : UInt64)
  | negative (value : Int)
  | floating (value : Float)

inductive Json where
  | null
  | boolean (value : Bool)
  | number (value : Json.Number)
  | string (value : String)
  | array (items : List Json)
  | object (entries : List (String × Json))

namespace Json

/-- Arrays and objects may be nested this deep. -/
def depthLimit : Nat := 127

mutual

def depth : Json → Nat
  | .array items => itemsDepth items + 1
  | .object entries => entriesDepth entries + 1
  | _ => 0

def itemsDepth : List Json → Nat
  | [] => 0
  | item :: rest => max item.depth (itemsDepth rest)

def entriesDepth : List (String × Json) → Nat
  | [] => 0
  | (_, value) :: rest => max value.depth (entriesDepth rest)

end

def natural (n : UInt64) : Json := .number (.natural n)

/-- A count of things held in memory. -/
def count (n : Nat) : Json := natural (UInt64.ofNat n)

/-- A signed whole number. -/
def integer (n : Int) : Json :=
  if n < 0 then .number (.negative n) else natural (UInt64.ofNat n.toNat)

/-- A string, or `null` when there is none. -/
def optional : Option String → Json
  | some s => .string s
  | none => .null

/-- An entry that is left out when there is nothing to write. -/
def optionalEntry (key : String) : Option String → List (String × Json)
  | some s => [(key, .string s)]
  | none => []

end Json

end DebugCatalog
