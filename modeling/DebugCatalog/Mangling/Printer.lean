import DebugCatalog.Mangling.Cursor
import DebugCatalog.Text.Quoted

/-!
# Printing a mangled path, second scheme

Reading and printing go together, because a reference jumps back to something
that may have to be printed differently the second time.  A printer keeps a
cursor, or the trouble that ended the reading; from then on it prints a question
mark wherever something would have to be read.  It can also run silently, which
is how a symbol is checked before it is shown.

A symbol can describe text of exponential size, so output stops at a fixed
size.  `fuel` bounds the nesting of calls.
-/

namespace DebugCatalog.Mangling

structure Printer.State where
  cursor : Except Trouble Cursor
  /-- Nothing is printed while this is set. -/
  silent : Bool
  out : String
  /-- How many bytes may still be printed. -/
  room : Nat
  /-- How many lifetimes the binders around this place introduce. -/
  lifetimes : Nat

/-- Fails with what has been printed so far once there is no room left. -/
abbrev Printer (α : Type) := ReaderT (Array Char) (StateT Printer.State (Except String)) α

namespace Printer

/-- Printing stops after this many bytes. -/
def maxSize : Nat := 1000000

def print (s : String) : Printer Unit := do
  let st ← get
  if st.silent then pure ()
  else if s.utf8ByteSize ≤ st.room then
    modify fun st => { st with out := st.out ++ s, room := st.room - s.utf8ByteSize }
  else throw st.out

/-- Reads something, or prints what is wrong and stops reading. -/
def parse {α : Type} (step : Cursor.Step α) : Printer (Option α) := do
  let symbol ← read
  match (← get).cursor with
  | .error _ =>
    print "?"
    pure none
  | .ok c =>
    match step symbol c with
    | .ok (a, c) =>
      modify fun st => { st with cursor := .ok c }
      pure (some a)
    | .error e =>
      print e.message
      modify fun st => { st with cursor := .error e }
      pure none

/-- Prints that the symbol is invalid and stops reading. -/
def invalid : Printer Unit := do
  print Trouble.invalid.message
  modify fun st => { st with cursor := .error .invalid }

def eat (ch : Char) : Printer Bool := do
  let symbol ← read
  match (← get).cursor with
  | .error _ => pure false
  | .ok c =>
    let (found, c) := c.eat ch symbol
    modify fun st => { st with cursor := .ok c }
    pure found

def hasFailed : Printer Bool := do
  match (← get).cursor with
  | .error _ => pure true
  | .ok _ => pure false

/-- Applies a change to the cursor, if there is one. -/
def moveCursor (f : Cursor → Cursor) : Printer Unit :=
  modify fun st => { st with cursor := st.cursor.map f }

def silently (p : Printer Unit) : Printer Unit := do
  let silent := (← get).silent
  modify fun st => { st with silent := true }
  p
  modify fun st => { st with silent }

/-- Runs a printer at the place a reference names and comes back.  A silent
printer does not go there. -/
def backReference (p : Printer Unit) : Printer Unit := do
  let some target ← parse Cursor.backReference | return
  if (← get).silent then return
  let cursor := (← get).cursor
  modify fun st => { st with cursor := .ok target }
  p
  modify fun st => { st with cursor }

/-- Lifetimes are counted from the innermost binder outwards. -/
def lifetime (index : Nat) : Printer Unit := do
  let st ← get
  if st.silent then return
  print "'"
  if index = 0 then print "_"
  else if index ≤ st.lifetimes then
    let depth := st.lifetimes - index
    if depth < 26 then print (String.singleton (Char.ofNat ('a'.toNat + depth)))
    else
      print "_"
      print (toString depth)
  else invalid

/-- Introduces lifetimes, `left` of them still to come. -/
def introduce : Nat → Nat → Printer Unit
  | 0, _ => pure ()
  | _, 0 => pure ()
  | fuel + 1, left + 1 => do
    modify fun st => { st with lifetimes := st.lifetimes + 1 }
    lifetime 1
    if left != 0 then print ", "
    introduce fuel left

/-- Runs a printer inside a binder, which is printed first if it binds anything. -/
def inBinder (p : Printer Unit) : Printer Unit := do
  let some bound ← parse (Cursor.optInteger62 'G') | return
  let st ← get
  if st.silent then p
  else
    if 0 < bound then
      print "for<"
      introduce (maxSize + 1) bound
      print "> "
    p
    modify fun now => { now with lifetimes := st.lifetimes }

/-- Prints items up to the closing `E`, and says how many there were. -/
def listOf (separator : String) (p : Printer Unit) : Nat → Nat → Printer Nat
  | 0, count => pure count
  | fuel + 1, count => do
    if ← hasFailed then return count
    if ← eat 'E' then return count
    if count != 0 then print separator
    p
    listOf separator p fuel (count + 1)

/-- A character inside quotes; the other kind of quote needs no escape. -/
def quotedChar (quote c : Char) : List Char :=
  if (quote == '\'' && c == '"') || (quote == '"' && c == '\'') then [c]
  else if c == '\'' then ['\\', '\'']
  else Text.quotedChar c

def quoted (quote : Char) (cs : List Char) : Printer Unit :=
  print (String.ofList (quote :: (cs.flatMap (quotedChar quote) ++ [quote])))

def basicType? (tag : Char) : Option String :=
  match tag with
  | 'b' => some "bool"
  | 'c' => some "char"
  | 'e' => some "str"
  | 'u' => some "()"
  | 'a' => some "i8"
  | 's' => some "i16"
  | 'l' => some "i32"
  | 'x' => some "i64"
  | 'n' => some "i128"
  | 'i' => some "isize"
  | 'h' => some "u8"
  | 't' => some "u16"
  | 'm' => some "u32"
  | 'y' => some "u64"
  | 'o' => some "u128"
  | 'j' => some "usize"
  | 'f' => some "f32"
  | 'd' => some "f64"
  | 'z' => some "!"
  | 'p' => some "_"
  | 'v' => some "..."
  | _ => none

/-- A whole number; one beyond 64 bits is shown as it is written. -/
def constInteger : Printer Unit := do
  let some nibbles ← parse Cursor.hexNibbles | return
  match uintOf? nibbles with
  | some n => print (toString n)
  | none =>
    print "0x"
    print (String.ofList nibbles)

def constText : Printer Unit := do
  let some nibbles ← parse Cursor.hexNibbles | return
  match textOf? nibbles with
  | some s => quoted '"' s.toList
  | none => invalid

def constChar : Printer Unit := do
  let some nibbles ← parse Cursor.hexNibbles | return
  match uintOf? nibbles with
  | some n => if Punycode.isScalar n then quoted '\'' [Char.ofNat n] else invalid
  | none => invalid

def constBool : Printer Unit := do
  let some nibbles ← parse Cursor.hexNibbles | return
  match uintOf? nibbles with
  | some 0 => print "false"
  | some 1 => print "true"
  | _ => invalid

/-- The name of a calling convention, whose dashes are written as underscores. -/
def convention (name : List Char) : String :=
  String.ofList (name.map fun c => if c == '_' then '-' else c)

mutual

/-- A path.  In a value position generic arguments need a `::` in front. -/
def path : Nat → Bool → Printer Unit
  | 0, _ => pure ()
  | fuel + 1, inValue => do
    let some () ← parse Cursor.push | return
    let some tag ← parse Cursor.next | return
    match tag with
    | 'C' =>
      let some _ ← parse Cursor.disambiguator | return
      let some name ← parse Cursor.ident | return
      print name.display
    | 'N' =>
      let some kind ← parse Cursor.nameSpace | return
      path fuel inValue
      if ← hasFailed then print "::"
      let some index ← parse Cursor.disambiguator | return
      let some name ← parse Cursor.ident | return
      match kind with
      | some kind =>
        print "::\x7b"
        print (match kind with
          | 'C' => "closure"
          | 'S' => "shim"
          | other => String.singleton other)
        if !name.isEmpty then
          print ":"
          print name.display
        print "#"
        print (toString index)
        print "\x7d"
      | none =>
        if !name.isEmpty then
          print "::"
          print name.display
    | 'M' => do
      let some _ ← parse Cursor.disambiguator | return
      silently (path fuel false)
      implementation fuel false
    | 'X' => do
      let some _ ← parse Cursor.disambiguator | return
      silently (path fuel false)
      implementation fuel true
    | 'Y' => implementation fuel true
    | 'I' =>
      path fuel inValue
      if inValue then print "::"
      print "<"
      let _ ← listOf ", " (genericArgument fuel) fuel 0
      print ">"
    | 'B' => backReference (path fuel inValue)
    | _ =>
      invalid
      return
    moveCursor Cursor.pop

/-- The type an implementation is for, and its trait if there is one. -/
def implementation : Nat → Bool → Printer Unit
  | 0, _ => pure ()
  | fuel + 1, ofTrait => do
    print "<"
    type fuel
    if ofTrait then
      print " as "
      path fuel false
    print ">"

def genericArgument : Nat → Printer Unit
  | 0 => pure ()
  | fuel + 1 => do
    if ← eat 'L' then
      let some index ← parse Cursor.integer62 | return
      lifetime index
    else if ← eat 'K' then constant fuel false
    else type fuel

/-- A type; a parameter that stands for several carries a mark. -/
def type : Nat → Printer Unit
  | 0 => pure ()
  | fuel + 1 => do
    if ← eat 'w' then print "#[splat] "
    let some tag ← parse Cursor.next | return
    match basicType? tag with
    | some name => print name
    | none => compoundType fuel tag

def reference : Nat → Bool → Printer Unit
  | 0, _ => pure ()
  | fuel + 1, mutable => do
    print "&"
    if ← eat 'L' then
      let some index ← parse Cursor.integer62 | return
      if index != 0 then
        lifetime index
        print " "
    if mutable then print "mut "
    type fuel

def functionType : Nat → Printer Unit
  | 0 => pure ()
  | fuel + 1 => do
    let isUnsafe ← eat 'U'
    let mut abi : Option String := none
    if ← eat 'K' then
      if ← eat 'C' then abi := some "C"
      else
        let some name ← parse Cursor.ident | return
        if name.ascii.isEmpty || !name.deltas.isEmpty then
          invalid
          return
        abi := some (convention name.ascii)
    if isUnsafe then print "unsafe "
    match abi with
    | some name => print ("extern \"" ++ name ++ "\" ")
    | none => pure ()
    print "fn("
    let _ ← listOf ", " (type fuel) fuel 0
    print ")"
    if ← eat 'u' then pure ()
    else
      print " -> "
      type fuel

/-- A type that contains others, behind its tag. -/
def compoundType : Nat → Char → Printer Unit
  | 0, _ => pure ()
  | fuel + 1, tag => do
    let some () ← parse Cursor.push | return
    match tag with
    | 'R' => reference fuel false
    | 'Q' => reference fuel true
    | 'P' =>
      print "*"
      print "const "
      type fuel
    | 'O' =>
      print "*"
      print "mut "
      type fuel
    | 'A' =>
      print "["
      type fuel
      print "; "
      constant fuel true
      print "]"
    | 'S' =>
      print "["
      type fuel
      print "]"
    | 'T' =>
      print "("
      let count ← listOf ", " (type fuel) fuel 0
      if count == 1 then print ","
      print ")"
    | 'F' => inBinder (functionType fuel)
    | 'D' =>
      print "dyn "
      inBinder do
        let _ ← listOf " + " (dynTrait fuel) fuel 0
      if !(← eat 'L') then
        invalid
        return
      let some index ← parse Cursor.integer62 | return
      if index != 0 then
        print " + "
        lifetime index
    | 'B' => backReference (type fuel)
    | 'W' =>
      type fuel
      print " is "
      pattern fuel
    | _ =>
      moveCursor fun c => { c with position := c.position - 1 }
      path fuel false
    moveCursor Cursor.pop

/-- A path whose generic arguments are left open, so that more can follow.  The
second component of the state says whether they are. -/
def openPath : Nat → Printer Bool
  | 0 => pure false
  | fuel + 1 => do
    if ← eat 'B' then
      let some target ← parse Cursor.backReference | return false
      if (← get).silent then return false
      let cursor := (← get).cursor
      modify fun st => { st with cursor := .ok target }
      let isOpen ← openPath fuel
      modify fun st => { st with cursor }
      return isOpen
    else if ← eat 'I' then
      path fuel false
      print "<"
      let _ ← listOf ", " (genericArgument fuel) fuel 0
      return true
    else
      path fuel false
      return false

/-- The associated types and constants behind a trait. -/
def associated : Nat → Bool → Printer Unit
  | 0, _ => pure ()
  | fuel + 1, isOpen => do
    if ← eat 'p' then
      print (if isOpen then ", " else "<")
      let some name ← parse Cursor.ident | return
      print name.display
      print " = "
      if ← eat 'K' then constant fuel false else type fuel
      associated fuel true
    else if isOpen then print ">"

def dynTrait : Nat → Printer Unit
  | 0 => pure ()
  | fuel + 1 => do
    let isOpen ← openPath fuel
    associated fuel isOpen

def pattern : Nat → Printer Unit
  | 0 => pure ()
  | fuel + 1 => do
    let some tag ← parse Cursor.next | return
    match tag with
    | 'R' =>
      constant fuel false
      print "..="
      constant fuel false
    | 'O' => do
      let some () ← parse Cursor.push | return
      pattern fuel
      let _ ← listOf " | " (pattern fuel) fuel 1
      if ← hasFailed then
        invalid
        return
      moveCursor Cursor.pop
    | 'N' => print "!null"
    | _ => invalid

/-- A field of a constant structure. -/
def constField : Nat → Printer Unit
  | 0 => pure ()
  | fuel + 1 => do
    let some _ ← parse Cursor.disambiguator | return
    let some name ← parse Cursor.ident | return
    print name.display
    print ": "
    constant fuel true

/-- A constant.  Outside a value, whatever is no plain literal needs braces. -/
def constant : Nat → Bool → Printer Unit
  | 0, _ => pure ()
  | fuel + 1, inValue => do
    let some tag ← parse Cursor.next | return
    let some () ← parse Cursor.push | return
    let openBrace : Printer Unit := if inValue then pure () else print "\x7b"
    let closeBrace : Printer Unit := if inValue then pure () else print "\x7d"
    match tag with
    | 'p' => print "_"
    | 'b' => constBool
    | 'c' => constChar
    | 'e' =>
      openBrace
      print "*"
      constText
      closeBrace
    | 'R' =>
      if ← eat 'e' then constText
      else
        openBrace
        print "&"
        constant fuel true
        closeBrace
    | 'Q' =>
      openBrace
      print "&"
      print "mut "
      constant fuel true
      closeBrace
    | 'A' =>
      openBrace
      print "["
      let _ ← listOf ", " (constant fuel true) fuel 0
      print "]"
      closeBrace
    | 'T' =>
      openBrace
      print "("
      let count ← listOf ", " (constant fuel true) fuel 0
      if count == 1 then print ","
      print ")"
      closeBrace
    | 'V' =>
      openBrace
      path fuel true
      let some shape ← parse Cursor.next | return
      match shape with
      | 'U' => pure ()
      | 'T' =>
        print "("
        let _ ← listOf ", " (constant fuel true) fuel 0
        print ")"
      | 'S' =>
        print " \x7b "
        let _ ← listOf ", " (constField fuel) fuel 0
        print " \x7d"
      | _ =>
        invalid
        return
      closeBrace
    | 'B' => backReference (constant fuel inValue)
    | tag =>
      if tag ∈ ['h', 't', 'm', 'y', 'o', 'j'] then constInteger
      else if tag ∈ ['a', 's', 'l', 'x', 'n', 'i'] then
        if ← eat 'n' then print "-"
        constInteger
      else
        invalid
        return
    moveCursor Cursor.pop

end

def start (cursor : Cursor) (silent : Bool) : Printer.State where
  cursor := .ok cursor
  silent
  out := ""
  room := maxSize
  lifetimes := 0

/-- More than any symbol can use: every construct reads at least one character,
and a reference may start over as often as nesting allows. -/
def fuelFor (symbol : Array Char) : Nat :=
  (Cursor.maxDepth + 2) * (symbol.size + 8)

/-- The place behind a path, if the path can be read. -/
def check (symbol : Array Char) (cursor : Cursor) : Option Cursor :=
  match ((path (fuelFor symbol) false).run symbol).run (start cursor true) with
  | .ok ((), st) => st.cursor.toOption
  | .error _ => none

/-- The path a symbol starts with, cut off where there is no more room. -/
def display (symbol : Array Char) : String :=
  match ((path (fuelFor symbol) true).run symbol).run (start ⟨0, 0⟩ false) with
  | .ok ((), st) => st.out
  | .error out => out ++ "\x7bsize limit reached\x7d"

end Printer

/-- What follows the mark of the scheme. -/
def pathBody? (s : List Char) : Option (List Char) :=
  match s with
  | '_' :: 'R' :: c :: rest => some (c :: rest)
  | 'R' :: c :: rest => some (c :: rest)
  | '_' :: '_' :: 'R' :: c :: rest => some (c :: rest)
  | _ => none

/-- The path of a mangled name, and what follows it.  A second path may name the
crate that instantiates the first. -/
def demanglePath (s : List Char) : Option (String × List Char) := do
  let body ← pathBody? s
  if (body.head?.any Char.isUpper) && body.all fun c => c.toNat < 0x80 then
    let symbol := body.toArray
    let behind ← Printer.check symbol ⟨0, 0⟩
    let behind ← if (behind.peek symbol).any Char.isUpper then Printer.check symbol behind
      else some behind
    some (Printer.display symbol, body.drop behind.position)
  else none

end DebugCatalog.Mangling
