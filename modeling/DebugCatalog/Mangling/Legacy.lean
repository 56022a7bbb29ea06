import DebugCatalog.Text.Digits

/-!
# Mangled paths, first scheme

A path is written as `_ZN`, its elements with their lengths in front, and `E`.
Inside an element `..` stands for `::`, and characters that a linker would not
take are escaped between dollar signs.  The last element is left out when it is
a hash.
-/

namespace DebugCatalog.Mangling.Legacy

/-- A decimal length and what follows it. -/
def takeLength : Nat → List Char → Nat × List Char
  | acc, [] => (acc, [])
  | acc, c :: cs =>
    match Text.digit? c with
    | some d => takeLength (acc * 10 + d) cs
    | none => (acc, c :: cs)

/-- The elements up to the closing `E`, and what follows it. -/
def elements : Nat → List Char → Option (List (List Char) × List Char)
  | 0, _ => none
  | fuel + 1, cs =>
    match cs with
    | [] => none
    | 'E' :: rest => some ([], rest)
    | c :: _ =>
      match Text.digit? c with
      | none => none
      | some _ => do
        let (length, rest) := takeLength 0 cs
        if length < rest.length then
          let (more, after) ← elements fuel (rest.drop length)
          some (rest.take length :: more, after)
        else none

/-- An `h` and hexadecimal digits. -/
def isHash (element : List Char) : Bool :=
  match element with
  | 'h' :: digits => digits.all fun c => (Text.hexDigit? c).isSome
  | _ => false

def isControl (n : Nat) : Bool :=
  n < 0x20 || (0x7f ≤ n && n < 0xa0)

/-- The character written as `u` and its number, in lower-case hexadecimal. -/
def numbered? (digits : List Char) : Option Char :=
  let valid := !digits.isEmpty && digits.all fun c => (Text.hexDigit? c).isSome && !c.isUpper
  let n := digits.foldl (fun n c => n * 16 + (Text.hexDigit? c).getD 0) 0
  if valid && (n < 0xD800 || (0xE000 ≤ n && n < 0x110000)) && !isControl n then
    some (Char.ofNat n)
  else none

/-- What stands between two dollar signs. -/
def escaped? (name : List Char) : Option (List Char) :=
  match name with
  | ['S', 'P'] => some ['@']
  | ['B', 'P'] => some ['*']
  | ['R', 'F'] => some ['&']
  | ['L', 'T'] => some ['<']
  | ['G', 'T'] => some ['>']
  | ['L', 'P'] => some ['(']
  | ['R', 'P'] => some [')']
  | ['C'] => some [',']
  | 'u' :: digits => (numbered? digits).map fun c => [c]
  | _ => none

/-- An element without its escapes.  From an unknown escape on it is left as it
is. -/
def unescape : Nat → List Char → List Char
  | 0, cs => cs
  | fuel + 1, cs =>
    match cs with
    | '.' :: '.' :: rest => ':' :: ':' :: unescape fuel rest
    | '.' :: rest => '.' :: unescape fuel rest
    | '$' :: rest =>
      let name := rest.takeWhile (· != '$')
      match rest.drop name.length, escaped? name with
      | '$' :: after, some text => text ++ unescape fuel after
      | _, _ => cs
    | cs =>
      let plain := cs.takeWhile fun c => c != '$' && c != '.'
      if plain.length < cs.length then plain ++ unescape fuel (cs.drop plain.length) else cs

def element (cs : List Char) : List Char :=
  match cs with
  | '_' :: '$' :: rest => unescape cs.length ('$' :: rest)
  | cs => unescape cs.length cs

/-- The path of the elements, without a hash at its end. -/
def display (es : List (List Char)) : List Char :=
  let shown := if (es.getLast?.map isHash).getD false then es.dropLast else es
  [':', ':'].intercalate (shown.map element)

/-- What follows the mark of the scheme. -/
def body? (s : List Char) : Option (List Char) :=
  match s with
  | '_' :: 'Z' :: 'N' :: rest => some rest
  | 'Z' :: 'N' :: rest => some rest
  | '_' :: '_' :: 'Z' :: 'N' :: rest => some rest
  | _ => none

/-- The path of a mangled name, and what follows it. -/
def demangle (s : List Char) : Option (List Char × List Char) := do
  let body ← body? s
  if body.all fun c => c.toNat < 0x80 then
    let (es, rest) ← elements (body.length + 1) body
    some (display es, rest)
  else none

end DebugCatalog.Mangling.Legacy
