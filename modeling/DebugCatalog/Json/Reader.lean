import DebugCatalog.Json.Scanner

/-!
# Reading JSON

A `Scan α` takes the number of steps it may use, the number of arrays and
objects it may still open, and the characters that are left; it returns what it
read and the rest.  `readValue` reads any value, `skipValue` passes over one.

The turn functions decide what a reader finds inside an array or object: the
end, or another item.  They are shared by everything that walks through one, so
that a comma before the end or a missing comma is refused in the same way
everywhere.
-/

namespace DebugCatalog.Json

abbrev Scan (α : Type) := Nat → Nat → List Char → Except Fault (α × List Char)

/-- What comes next inside an array or an object. -/
inductive Turn where
  | close (rest : List Char)
  | item (rest : List Char)

/-- The next item of an array, or its end. -/
def arrayTurn (first : Bool) (cs : List Char) : Except Fault Turn :=
  match skipSpace cs with
  | [] => .error .truncated
  | ']' :: rest => .ok (.close rest)
  | ',' :: rest =>
    if first then .ok (.item (',' :: rest))
    else
      match skipSpace rest with
      | [] => .error .truncated
      | ']' :: _ => .error .malformed
      | cs => .ok (.item cs)
  | cs => if first then .ok (.item cs) else .error .malformed

/-- The opening quote of a key. -/
def keyStart (cs : List Char) : Except Fault Turn :=
  match cs with
  | [] => .error .truncated
  | '"' :: rest => .ok (.item rest)
  | _ => .error .malformed

/-- The next key of an object, from behind its opening quote, or the end. -/
def objectTurn (first : Bool) (cs : List Char) : Except Fault Turn :=
  match skipSpace cs with
  | [] => .error .truncated
  | '\x7d' :: rest => .ok (.close rest)
  | ',' :: rest => if first then .error .malformed else keyStart (skipSpace rest)
  | cs => if first then keyStart cs else .error .malformed

/-- The colon after a key. -/
def expectColon (cs : List Char) : Except Fault (List Char) :=
  match skipSpace cs with
  | [] => .error .truncated
  | ':' :: rest => .ok rest
  | _ => .error .malformed

/-- A value that is no array and no object. -/
def readScalar (fuel : Nat) (cs : List Char) : Except Fault (Json × List Char) := do
  match cs with
  | [] => .error .truncated
  | 'n' :: rest => .ok (.null, ← expectWord ['u', 'l', 'l'] rest)
  | 't' :: rest => .ok (.boolean true, ← expectWord ['r', 'u', 'e'] rest)
  | 'f' :: rest => .ok (.boolean false, ← expectWord ['a', 'l', 's', 'e'] rest)
  | '"' :: rest =>
    let (s, rest) ← scanString fuel rest
    .ok (.string (String.ofList s), rest)
  | '-' :: rest =>
    let (n, rest) ← scanNumber true rest
    .ok (.number n, rest)
  | c :: rest =>
    if isDigit c then
      let (n, rest) ← scanNumber false (c :: rest)
      .ok (.number n, rest)
    else .error .malformed

mutual

def readValue : Scan Json
  | 0, _, _ => .error .truncated
  | fuel + 1, room, cs =>
    match skipSpace cs with
    | '[' :: rest =>
      match room with
      | 0 => .error .malformed
      | room + 1 => do
        let (items, rest) ← readItems true fuel room rest
        .ok (.array items, rest)
    | '\x7b' :: rest =>
      match room with
      | 0 => .error .malformed
      | room + 1 => do
        let (entries, rest) ← readEntries true fuel room rest
        .ok (.object entries, rest)
    | cs => readScalar fuel cs

/-- The items of an array and its closing bracket. -/
def readItems (first : Bool) : Scan (List Json)
  | 0, _, _ => .error .truncated
  | fuel + 1, room, cs => do
    match ← arrayTurn first cs with
    | .close rest => .ok ([], rest)
    | .item rest =>
      let (item, rest) ← readValue fuel room rest
      let (items, rest) ← readItems false fuel room rest
      .ok (item :: items, rest)

/-- The entries of an object and its closing brace. -/
def readEntries (first : Bool) : Scan (List (String × Json))
  | 0, _, _ => .error .truncated
  | fuel + 1, room, cs => do
    match ← objectTurn first cs with
    | .close rest => .ok ([], rest)
    | .item rest =>
      let (key, rest) ← scanString fuel rest
      let rest ← expectColon rest
      let (value, rest) ← readValue fuel room rest
      let (entries, rest) ← readEntries false fuel room rest
      .ok ((String.ofList key, value) :: entries, rest)

end

mutual

/-- Passes over a value, however deep. -/
def skipValue : Nat → List Char → Except Fault (List Char)
  | 0, _ => .error .truncated
  | fuel + 1, cs =>
    match skipSpace cs with
    | [] => .error .truncated
    | 'n' :: rest => expectWord ['u', 'l', 'l'] rest
    | 't' :: rest => expectWord ['r', 'u', 'e'] rest
    | 'f' :: rest => expectWord ['a', 'l', 's', 'e'] rest
    | '"' :: rest => skipString fuel rest
    | '-' :: rest => skipNumber rest
    | '[' :: rest => skipItems true fuel rest
    | '\x7b' :: rest => skipEntries true fuel rest
    | c :: rest => if isDigit c then skipNumber (c :: rest) else .error .malformed

def skipItems (first : Bool) : Nat → List Char → Except Fault (List Char)
  | 0, _ => .error .truncated
  | fuel + 1, cs => do
    match ← arrayTurn first cs with
    | .close rest => .ok rest
    | .item rest =>
      let rest ← skipValue fuel rest
      skipItems false fuel rest

def skipEntries (first : Bool) : Nat → List Char → Except Fault (List Char)
  | 0, _ => .error .truncated
  | fuel + 1, cs => do
    match ← objectTurn first cs with
    | .close rest => .ok rest
    | .item rest =>
      let rest ← skipString fuel rest
      let rest ← expectColon rest
      let rest ← skipValue fuel rest
      skipEntries false fuel rest

end

/-- A whole text: what `scan` reads, and nothing but blanks behind it. -/
def readAll {α : Type} (scan : Scan α) (text : String) : Except Fault α := do
  let cs := text.toList
  let (value, rest) ← scan (2 * cs.length + 2) depthLimit cs
  if (skipSpace rest).isEmpty then .ok value else .error .malformed

/-- The value of a text. -/
def parse (text : String) : Except Fault Json :=
  readAll readValue text

/-! ## Values of a given kind -/

def Found.ofNumber : Number → Found
  | .natural n => .integer n.toNat
  | .negative n => .integer n
  | .floating x => .floating x

/-- What a value is called in a message. -/
def found : Json → Found
  | .null => .null
  | .boolean b => .boolean b
  | .number n => .ofNumber n
  | .string s => .string s
  | .array _ => .sequence
  | .object _ => .map

/-- Names what stands in the text.  Of an array or object only the bracket is
looked at. -/
def readFound (fuel : Nat) (cs : List Char) : Except Fault Found := do
  match skipSpace cs with
  | '[' :: _ => .ok .sequence
  | '\x7b' :: _ => .ok .map
  | cs =>
    let (value, _) ← readScalar fuel cs
    .ok value.found

/-- Refuses whatever stands in the text. -/
def refuse {α : Type} (expected : String) (fuel : Nat) (cs : List Char) : Except Fault α := do
  .error (.mismatch (.invalidType (← readFound fuel cs) expected))

def readText (expected : String) : Scan String := fun fuel _ cs =>
  match skipSpace cs with
  | '"' :: rest => do
    let (s, rest) ← scanString fuel rest
    .ok (String.ofList s, rest)
  | cs => refuse expected fuel cs

def readString : Scan String :=
  readText "a string"

/-- A 64-bit number out of one that was read. -/
def Number.word? : Number → Except Mismatch UInt64
  | .natural n => .ok n
  | .negative n => .error (.invalidValue (.integer n) "u64")
  | .floating x => .error (.invalidType (.floating x) "u64")

def readWord : Scan UInt64 := fun fuel _ cs => do
  let number (negative : Bool) (cs : List Char) : Except Fault (UInt64 × List Char) := do
    let (n, rest) ← scanNumber negative cs
    match n.word? with
    | .ok w => .ok (w, rest)
    | .error m => .error (.mismatch m)
  match skipSpace cs with
  | '-' :: rest => number true rest
  | c :: rest => if isDigit c then number false (c :: rest) else refuse "u64" fuel (c :: rest)
  | [] => .error .truncated

/-- `null`, or what `scan` reads. -/
def readOptional {α : Type} (scan : Scan α) : Scan (Option α) := fun fuel room cs =>
  match skipSpace cs with
  | 'n' :: rest => do .ok (none, ← expectWord ['u', 'l', 'l'] rest)
  | cs => do
    let (value, rest) ← scan fuel room cs
    .ok (some value, rest)

/-- The closing bracket of an array of fixed length. -/
def closeArray (cs : List Char) : Except Fault (List Char) :=
  match skipSpace cs with
  | [] => .error .truncated
  | ']' :: rest => .ok rest
  | _ => .error .malformed

/-- The items of an array, each read by `scan`, and its closing bracket. -/
def readListItems {α : Type} (scan : Scan α) (first : Bool) : Scan (List α)
  | 0, _, _ => .error .truncated
  | fuel + 1, room, cs => do
    match ← arrayTurn first cs with
    | .close rest => .ok ([], rest)
    | .item rest =>
      let (item, rest) ← scan fuel room rest
      let (items, rest) ← readListItems scan false fuel room rest
      .ok (item :: items, rest)

def readList {α : Type} (scan : Scan α) : Scan (List α) := fun fuel room cs =>
  match skipSpace cs with
  | '[' :: rest =>
    match room with
    | 0 => .error .malformed
    | room + 1 => readListItems scan true fuel room rest
  | cs => refuse "a sequence" fuel cs

/-- An array of two. -/
def readPair {α β : Type} (left : Scan α) (right : Scan β) : Scan (α × β) := fun fuel room cs =>
  let short (n : Nat) : Except Fault ((α × β) × List Char) :=
    .error (.mismatch (.invalidLength n "a tuple of size 2"))
  match skipSpace cs with
  | '[' :: rest =>
    match room with
    | 0 => .error .malformed
    | room + 1 => do
      match ← arrayTurn true rest with
      | .close _ => short 0
      | .item rest =>
        let (a, rest) ← left fuel room rest
        match ← arrayTurn false rest with
        | .close _ => short 1
        | .item rest =>
          let (b, rest) ← right fuel room rest
          .ok ((a, b), ← closeArray rest)
  | cs => refuse "a tuple of size 2" fuel cs

end DebugCatalog.Json
