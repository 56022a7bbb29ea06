import DebugCatalog.Mangling.Legacy
import DebugCatalog.Mangling.Printer

/-!
# Names of symbols

`demangle` turns the name of a symbol into the path it stands for, if it is
mangled in one of the two schemes.  `lastSegment` cuts the last component off a
path: what follows the last `::` outside all brackets.
-/

namespace DebugCatalog.Mangling

/-- What separates a name from the identifier of a compilation unit. -/
def unitMark : List Char := ['.', 'l', 'l', 'v', 'm', '.']

/-- What follows the first occurrence of a mark, and what precedes it. -/
def splitAtMark (mark : List Char) (before : List Char) : List Char → Option (List Char × List Char)
  | [] => none
  | c :: cs =>
    if mark.isPrefixOf (c :: cs) then some (before.reverse, (c :: cs).drop mark.length)
    else splitAtMark mark (c :: before) cs

/-- A name without the identifier of a compilation unit at its end. -/
def withoutUnit (s : List Char) : List Char :=
  match splitAtMark unitMark [] s with
  | some (name, unit) =>
    if unit.all fun c => ('A' ≤ c && c ≤ 'F') || ('0' ≤ c && c ≤ '9') || c == '@' then name else s
  | none => s

/-- What may follow a mangled name: nothing, or a dot and visible ASCII. -/
def isSuffix (s : List Char) : Bool :=
  match s with
  | [] => true
  | '.' :: _ => s.all fun c => 0x21 ≤ c.toNat && c.toNat ≤ 0x7e
  | _ => false

/-- The path a mangled name stands for, with whatever suffix it has. -/
def demangle? (name : String) : Option String := do
  let s := withoutUnit name.toList
  let (path, rest) ←
    match Legacy.demangle s with
    | some (path, rest) => some (String.ofList path, rest)
    | none => demanglePath s
  if isSuffix rest then some (path ++ String.ofList rest) else none

/-- A demangled name, or the name itself when it is not mangled. -/
def demangle (name : String) : String :=
  (demangle? name).getD name

/-- The last segment, given how many brackets are open and where the segment
that is being read starts. -/
def segmentFrom (depth : Nat) (start : List Char) : List Char → List Char
  | [] => start
  | ':' :: ':' :: rest =>
    if depth = 0 then segmentFrom 0 rest rest else segmentFrom depth start rest
  | c :: rest =>
    if c = '<' ∨ c = '(' ∨ c = '[' then segmentFrom (depth + 1) start rest
    else if c = '>' ∨ c = ')' ∨ c = ']' then segmentFrom (depth - 1) start rest
    else segmentFrom depth start rest

/-- What follows the last `::` outside all brackets.  A closing bracket without
an opening one counts for nothing. -/
def lastSegment (name : String) : String :=
  String.ofList (segmentFrom 0 name.toList name.toList)

end DebugCatalog.Mangling
