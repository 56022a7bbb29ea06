import DebugCatalog.Parser.Basic
import DebugCatalog.Text.Blank

/-!
# Registries

A registry holds parsers in the order of their registration and finds them by
name.  Names are unique, not empty, and neither begin nor end with a blank.
-/

namespace DebugCatalog

structure Registry where
  parsers : KeyedList Parser.name := .empty

namespace Registry

def empty : Registry := {}

instance : Inhabited Registry := ⟨empty⟩

def isValidName (name : String) : Bool :=
  name != "" && Text.trim name.toList == name.toList

/-- Registers a parser under a number that no other registration has. -/
def register (r : Registry) (registration : Nat) (name : String) (behavior : Parser.Behavior) :
    Except Parser.Error (Registry × Parser) :=
  if !isValidName name then .error (.invalidName name)
  else if r.parsers.contains name then .error (.duplicate name)
  else
    let p : Parser := { registration, name, behavior }
    .ok ({ r with parsers := r.parsers.push p }, p)

def list (r : Registry) : List Parser :=
  r.parsers.toList

def find? (r : Registry) (name : String) : Option Parser :=
  r.parsers.find? name

def parser (r : Registry) (name : String) : Except Parser.Error Parser :=
  match r.find? name with
  | some p => .ok p
  | none => .error (.unknown name)

def contains (r : Registry) (name : String) : Bool :=
  r.parsers.contains name

def names (r : Registry) : List String :=
  r.list.map Parser.name

def size (r : Registry) : Nat :=
  r.parsers.size

def isEmpty (r : Registry) : Bool :=
  r.parsers.isEmpty

def parsersFor (r : Registry) (v : Image) : List Parser :=
  r.list.filter fun p => p.accepts v

end Registry

end DebugCatalog
