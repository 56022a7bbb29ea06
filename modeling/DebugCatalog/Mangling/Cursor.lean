import DebugCatalog.Mangling.Punycode
import DebugCatalog.Text.Digits

/-!
# Reading a mangled path, second scheme

A cursor stands at a position of the symbol and knows how deeply constructs are
nested there.  The functions of this module read the small parts a path is made
of: tags, numbers in base 62, identifiers, hexadecimal constants, and references
back to an earlier position.
-/

namespace DebugCatalog.Mangling

/-- Why a symbol cannot be read on. -/
inductive Trouble where
  | invalid
  | tooDeep
  deriving DecidableEq

def Trouble.message : Trouble → String
  | .invalid => "\x7binvalid syntax\x7d"
  | .tooDeep => "\x7brecursion limit reached\x7d"

structure Cursor where
  position : Nat
  depth : Nat

/-- An identifier: its ASCII characters, and the deltas of all others. -/
structure Ident where
  ascii : List Char
  deltas : List Char

namespace Ident

def isEmpty (i : Ident) : Bool :=
  i.ascii.isEmpty && i.deltas.isEmpty

/-- The decoded identifier, or its written form where it cannot be decoded. -/
def display (i : Ident) : String :=
  match Punycode.decode i.ascii i.deltas with
  | some cs => String.ofList cs
  | none =>
    if i.deltas.isEmpty then String.ofList i.ascii
    else
      let dash := if i.ascii.isEmpty then [] else i.ascii ++ ['-']
      "punycode\x7b" ++ String.ofList (dash ++ i.deltas) ++ "\x7d"

end Ident

namespace Cursor

/-- Constructs are nested at most this deep. -/
def maxDepth : Nat := 500

abbrev Step (α : Type) := Array Char → Cursor → Except Trouble (α × Cursor)

def peek (symbol : Array Char) (c : Cursor) : Option Char :=
  symbol[c.position]?

def advance (c : Cursor) : Cursor :=
  { c with position := c.position + 1 }

/-- Goes past a character if it is the next one. -/
def eat (ch : Char) (symbol : Array Char) (c : Cursor) : Bool × Cursor :=
  if c.peek symbol == some ch then (true, c.advance) else (false, c)

def next : Step Char := fun symbol c =>
  match c.peek symbol with
  | some ch => .ok (ch, c.advance)
  | none => .error .invalid

def push : Step Unit := fun _ c =>
  if c.depth + 1 ≤ maxDepth then .ok ((), { c with depth := c.depth + 1 })
  else .error .tooDeep

def pop (c : Cursor) : Cursor :=
  { c with depth := c.depth - 1 }

/-- The hexadecimal digits up to an underscore. -/
def hexNibbles : Step (List Char) := fun symbol c =>
  let rest := (symbol.extract c.position symbol.size).toList
  let nibbles := rest.takeWhile fun ch => (Text.hexDigit? ch).isSome && !ch.isUpper
  if rest[nibbles.length]? == some '_' then
    .ok (nibbles, { c with position := c.position + nibbles.length + 1 })
  else .error .invalid

def digit62? (ch : Char) : Option Nat :=
  if '0' ≤ ch ∧ ch ≤ '9' then some (ch.toNat - '0'.toNat)
  else if 'a' ≤ ch ∧ ch ≤ 'z' then some (10 + (ch.toNat - 'a'.toNat))
  else if 'A' ≤ ch ∧ ch ≤ 'Z' then some (36 + (ch.toNat - 'A'.toNat))
  else none

/-- A number in base 62 that ends with an underscore; the underscore alone is
zero, and every other number is written as one less. -/
def integer62 : Step Nat := fun symbol c =>
  let rest := (symbol.extract c.position symbol.size).toList
  let digits := rest.takeWhile (· != '_')
  if digits.length == rest.length then .error .invalid
  else
    let grow (acc : Option Nat) (ch : Char) : Option Nat := do
      let n ← acc
      let d ← digit62? ch
      if n * 62 + d < Word.size then some (n * 62 + d) else none
    let value := digits.foldl grow (some 0)
    match value with
    | none => .error .invalid
    | some n =>
      let n := if digits.isEmpty then 0 else n + 1
      if n < Word.size then .ok (n, { c with position := c.position + digits.length + 1 })
      else .error .invalid

/-- Zero, or one more than the number behind the tag. -/
def optInteger62 (tag : Char) : Step Nat := fun symbol c => do
  let (found, c) := c.eat tag symbol
  if found then
    let (n, c) ← integer62 symbol c
    if n + 1 < Word.size then .ok (n + 1, c) else .error .invalid
  else .ok (0, c)

def disambiguator : Step Nat :=
  optInteger62 's'

/-- An upper-case letter names a kind of item, a lower-case one does not. -/
def nameSpace : Step (Option Char) := fun symbol c => do
  let (ch, c) ← next symbol c
  if ch.isUpper then .ok (some ch, c)
  else if ch.isLower then .ok (none, c)
  else .error .invalid

/-- The cursor at an earlier position, one level deeper. -/
def backReference : Step Cursor := fun symbol c => do
  let start := c.position - 1
  let (i, after) ← integer62 symbol c
  if i < start then
    let ((), target) ← push symbol { position := i, depth := c.depth }
    .ok (target, after)
  else .error .invalid

def ident : Step Ident := fun symbol c => do
  let (encoded, c) := c.eat 'u' symbol
  let rest := (symbol.extract c.position symbol.size).toList
  let digits := rest.takeWhile fun ch => (Text.digit? ch).isSome
  let digits := if rest.head? == some '0' then ['0'] else digits
  if digits.isEmpty then .error .invalid
  else
    let length := digits.foldl (fun n ch => n * 10 + (Text.digit? ch).getD 0) 0
    let (_, c) := Cursor.eat '_' symbol { c with position := c.position + digits.length }
    if symbol.size < c.position + length then .error .invalid
    else
      let text := (symbol.extract c.position (c.position + length)).toList
      let c := { c with position := c.position + length }
      if encoded then
        let deltas := (text.reverse.takeWhile (· != '_')).reverse
        let ascii := text.take (text.length - deltas.length - 1)
        if deltas.isEmpty then .error .invalid else .ok (⟨ascii, deltas⟩, c)
      else .ok (⟨text, []⟩, c)

end Cursor

/-- A constant that fits a 64-bit word. -/
def uintOf? (nibbles : List Char) : Option Nat :=
  let digits := nibbles.dropWhile (· == '0')
  if digits.length ≤ 16 then
    some (digits.foldl (fun n ch => n * 16 + (Text.hexDigit? ch).getD 0) 0)
  else none

/-- The text whose UTF-8 bytes the constant gives, two digits each. -/
def textOf? (nibbles : List Char) : Option String :=
  let rec bytes : List Char → Option (List UInt8)
    | [] => some []
    | [_] => none
    | a :: b :: rest => do
      let high ← Text.hexDigit? a
      let low ← Text.hexDigit? b
      let more ← bytes rest
      some (UInt8.ofNat (high * 16 + low) :: more)
  do
    let bs ← bytes nibbles
    String.fromUTF8? ⟨bs.toArray⟩

end DebugCatalog.Mangling
