/-!
# Paths

A path is a text whose components are separated by slashes.  `Path.components`
is what it means: slashes in a row count once, and a dot counts only as the
first component of a relative path.  Joining and stripping keep the text of what
they do not touch.
-/

namespace DebugCatalog

inductive Path.Component where
  | root
  | current
  | parent
  | normal (name : List Char)
  deriving DecidableEq

namespace Path

/-- The pieces between slashes, empty ones included. -/
def pieces : List Char → List (List Char)
  | [] => [[]]
  | c :: cs =>
    if c = '/' then [] :: pieces cs
    else
      match pieces cs with
      | piece :: rest => (c :: piece) :: rest
      | [] => [[c]]

/-- Pieces with slashes between them. -/
def ofPieces : List (List Char) → List Char
  | [] => []
  | [piece] => piece
  | piece :: rest => piece ++ '/' :: ofPieces rest

def isDot (piece : List Char) : Bool :=
  piece == ['.']

/-- A piece that is no component where it stands. -/
def isIdle (piece : List Char) : Bool :=
  piece.isEmpty || isDot piece

/-- How a path begins, if that is a component of its own, and the pieces that
follow. -/
def start (cs : List Char) : List Component × List (List Char) :=
  match pieces cs with
  | [] => ([], [])
  | piece :: rest =>
    if piece.isEmpty && !rest.isEmpty then ([.root], rest)
    else if isDot piece then ([.current], rest)
    else ([], piece :: rest)

def component? (piece : List Char) : Option Component :=
  if isIdle piece then none
  else if piece = ['.', '.'] then some .parent
  else some (.normal piece)

def components (path : String) : List Component :=
  let (first, rest) := start path.toList
  first ++ rest.filterMap component?

def isAbsolute (path : String) : Bool :=
  match path.toList with
  | '/' :: _ => true
  | _ => false

/-- A path taken relative to another.  An absolute one stands for itself. -/
def join (base path : String) : String :=
  if isAbsolute path then path
  else
    let cs := base.toList
    if cs.isEmpty || cs.getLast? == some '/' then base ++ path
    else base ++ "/" ++ path

/-- The last component, if it is a name. -/
def fileName (path : String) : Option String :=
  match (components path).getLast? with
  | some (.normal name) => some (String.ofList name)
  | _ => none

/-- The pieces after the first `n` components. -/
def dropComponents : Nat → List (List Char) → List (List Char)
  | 0, ps => ps
  | _ + 1, [] => []
  | n + 1, p :: ps => dropComponents (if isIdle p then n + 1 else n) ps

/-- Pieces without idle ones at the end. -/
def trimEnd (ps : List (List Char)) : List (List Char) :=
  (ps.reverse.dropWhile isIdle).reverse

/-- The text of a path that begins so and goes on with the given pieces. -/
def ofStart (first : List Component) (rest : List (List Char)) : String :=
  String.ofList <| match first with
    | [] => ofPieces (trimEnd rest)
    | .root :: _ => '/' :: ofPieces (trimEnd rest)
    | _ => ofPieces (['.'] :: trimEnd rest)

/-- What is left of a path without its last component. -/
def parent? (path : String) : Option String :=
  let (first, rest) := start path.toList
  match trimEnd rest with
  | [] => if first = [.current] then some "" else none
  | named => some (ofStart first named.dropLast)

/-- What is left of a path behind the components of `base`, if it begins with
them. -/
def strip (path base : String) : Option String :=
  let skip := (components base).length
  if (components base).isPrefixOf (components path) then
    let (first, rest) := start path.toList
    if skip = 0 then some (ofStart first rest)
    else
      let rest := dropComponents (skip - first.length) rest
      some (String.ofList (ofPieces (trimEnd (rest.dropWhile isIdle))))
  else none

example : components "/a//./b/.." = [.root, .normal ['a'], .normal ['b'], .parent] := by decide

example : parent? "a/./b/" = some "a" ∧ parent? "/a" = some "/" ∧ parent? "a" = some "" ∧
    parent? "./a" = some "." ∧ parent? "/" = none := by decide

example : join "a" "b" = "a/b" ∧ join "a/" "b" = "a/b" ∧ join "a" "/b" = "/b" := by decide

end Path

end DebugCatalog
