import DebugCatalog.Image.Load
import DebugCatalog.Parser.Run
import DebugCatalog.Parser.Symbols

/-!
# Sessions

A session is what one process knows: registries, images and parsers under names
of its own choosing, and the one registry that everybody shares.  It hands out
the numbers that tell registrations apart, and likewise those of images: a copy
of either keeps its number.
-/

namespace DebugCatalog

/-- An image as it was made once.  Copies share the number. -/
structure ImageHandle where
  number : Nat
  image : Image

instance : BEq ImageHandle where
  beq a b := a.number == b.number

structure Session where
  /-- Every number handed out so far is smaller. -/
  next : Nat
  shared : Registry
  registries : List (String × Registry)
  images : List (String × ImageHandle)
  parsers : List (String × Parser)

namespace Session

/-- A session at its start.  The shared registry has the symbols parser. -/
def initial : Session where
  next := 1
  shared := .standard 0
  registries := []
  images := []
  parsers := []

/-! ## Registries -/

/-- The registry of a name, which is empty before its first use. -/
def registry (s : Session) (name : String) : Registry :=
  (s.registries.lookup name).getD .empty

def setRegistry (s : Session) (name : String) (r : Registry) : Session :=
  { s with registries := (name, r) :: s.registries }

/-- Registers a parser under a number that was never used before. -/
def register (s : Session) (registry name : String) (behavior : Parser.Behavior) :
    Except Parser.Error (Session × Parser) := do
  let (r, p) ← (s.registry registry).register s.next name behavior
  .ok ({ s with next := s.next + 1 }.setRegistry registry r, p)

def copyRegistry (s : Session) (source target : String) : Session :=
  s.setRegistry target (s.registry source)

/-- Fills a registry with the standard parsers, newly registered. -/
def fillRegistry (s : Session) (name : String) : Session :=
  { s with next := s.next + 1 }.setRegistry name (.standard s.next)

/-- Copies the shared registry. -/
def copyShared (s : Session) (target : String) : Session :=
  s.setRegistry target s.shared

/-- Registers a parser in the shared registry. -/
def registerShared (s : Session) (name : String) (behavior : Parser.Behavior) :
    Except Parser.Error (Session × Parser) := do
  let (r, p) ← s.shared.register s.next name behavior
  .ok ({ s with next := s.next + 1, shared := r }, p)

/-! ## Images -/

def openImage (s : Session) (name : String) (b : ByteArray) : Session :=
  { s with
    next := s.next + 1
    images := (name, ⟨s.next, .ofBytes name b⟩) :: s.images }

def copyImage (s : Session) (source target : String) : Session :=
  match s.images.lookup source with
  | some h => { s with images := (target, h) :: s.images }
  | none => s

def image? (s : Session) (name : String) : Option ImageHandle :=
  s.images.lookup name

/-! ## Parsers kept under names -/

def keep (s : Session) (name : Option String) (p : Parser) : Session :=
  match name with
  | some name => { s with parsers := (name, p) :: s.parsers }
  | none => s

def parser? (s : Session) (name : String) : Option Parser :=
  s.parsers.lookup name

/-- How many different parsers a list has. -/
def distinct (parsers : List Parser) : Nat :=
  parsers.eraseDups.length

end Session

end DebugCatalog
