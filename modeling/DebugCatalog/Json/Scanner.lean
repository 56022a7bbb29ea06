import DebugCatalog.Json.Basic
import DebugCatalog.Json.Fault
import DebugCatalog.Word

/-!
# Blanks, words, strings and numbers of a JSON text

Every function takes the characters that are left and returns what they start
with together with the rest.  `fuel` bounds the steps inside a string; as many
as there are characters left are enough.

Values that nobody asked for are passed over by the `skip` functions, which
check the shape of a text and nothing else: a lone surrogate is fine there, and
so is a number of any size.
-/

namespace DebugCatalog.Json

def isSpace (c : Char) : Bool :=
  c == ' ' || c == '\n' || c == '\t' || c == '\r'

def skipSpace (cs : List Char) : List Char :=
  cs.dropWhile isSpace

/-- Passes over the given characters. -/
def expectWord : List Char → List Char → Except Fault (List Char)
  | [], cs => .ok cs
  | _ :: _, [] => .error .truncated
  | w :: ws, c :: cs => if c = w then expectWord ws cs else .error .malformed

/-- Four hexadecimal digits.  With fewer than four bytes left the text is cut
off; a longer rest of something else is malformed. -/
def hexEscape (cs : List Char) : Except Fault (Nat × List Char) :=
  match cs with
  | a :: b :: c :: d :: rest =>
    match Text.hexDigit? a, Text.hexDigit? b, Text.hexDigit? c, Text.hexDigit? d with
    | some a, some b, some c, some d => .ok (((a * 16 + b) * 16 + c) * 16 + d, rest)
    | _, _, _, _ => .error .malformed
  | short =>
    if (String.ofList short).utf8ByteSize < 4 then .error .truncated else .error .malformed

/-- The second half of a character written as two surrogates. -/
def lowSurrogate (high : Nat) (cs : List Char) : Except Fault (Char × List Char) :=
  match cs with
  | [] => .error .truncated
  | '\\' :: [] => .error .truncated
  | '\\' :: 'u' :: cs => do
    let (low, rest) ← hexEscape cs
    if 0xDC00 ≤ low ∧ low ≤ 0xDFFF then
      .ok (Char.ofNat (0x10000 + (high - 0xD800) * 0x400 + (low - 0xDC00)), rest)
    else .error .malformed
  | _ => .error .malformed

/-- The character after a backslash. -/
def unescape (cs : List Char) : Except Fault (Char × List Char) :=
  match cs with
  | [] => .error .truncated
  | '"' :: rest => .ok ('"', rest)
  | '\\' :: rest => .ok ('\\', rest)
  | '/' :: rest => .ok ('/', rest)
  | 'b' :: rest => .ok ('\x08', rest)
  | 'f' :: rest => .ok ('\x0c', rest)
  | 'n' :: rest => .ok ('\n', rest)
  | 'r' :: rest => .ok ('\r', rest)
  | 't' :: rest => .ok ('\t', rest)
  | 'u' :: rest => do
    let (n, rest) ← hexEscape rest
    if 0xD800 ≤ n ∧ n ≤ 0xDBFF then lowSurrogate n rest
    else if 0xDC00 ≤ n ∧ n ≤ 0xDFFF then .error .malformed
    else .ok (Char.ofNat n, rest)
  | _ => .error .malformed

/-- The characters of a string up to its closing quote. -/
def scanString : Nat → List Char → Except Fault (List Char × List Char)
  | 0, _ => .error .truncated
  | fuel + 1, cs =>
    match cs with
    | [] => .error .truncated
    | '"' :: rest => .ok ([], rest)
    | '\\' :: rest => do
      let (c, rest) ← unescape rest
      let (s, rest) ← scanString fuel rest
      .ok (c :: s, rest)
    | c :: rest =>
      if c.toNat < 0x20 then .error .malformed
      else do
        let (s, rest) ← scanString fuel rest
        .ok (c :: s, rest)

/-- Passes over a string up to its closing quote. -/
def skipString : Nat → List Char → Except Fault (List Char)
  | 0, _ => .error .truncated
  | fuel + 1, cs =>
    match cs with
    | [] => .error .truncated
    | '"' :: rest => .ok rest
    | '\\' :: [] => .error .truncated
    | '\\' :: 'u' :: rest => do
      let (_, rest) ← hexEscape rest
      skipString fuel rest
    | '\\' :: c :: rest =>
      if c ∈ ['"', '\\', '/', 'b', 'f', 'n', 'r', 't'] then skipString fuel rest
      else .error .malformed
    | c :: rest => if c.toNat < 0x20 then .error .malformed else skipString fuel rest

/-! ## Numbers -/

def isDigit (c : Char) : Bool :=
  '0' ≤ c && c ≤ '9'

/-- The largest significand that is kept exactly. -/
def maxSignificand : Nat := Word.top

/-- Adds digits to a significand as long as it stays within bounds.  Returns the
significand, how many digits it took in, and the characters from there on. -/
def takeDigits : Nat → Nat → List Char → Nat × Nat × List Char
  | acc, taken, [] => (acc, taken, [])
  | acc, taken, c :: cs =>
    match Text.digit? c with
    | some d =>
      if acc * 10 + d ≤ maxSignificand then takeDigits (acc * 10 + d) (taken + 1) cs
      else (acc, taken, c :: cs)
    | none => (acc, taken, c :: cs)

/-- `significand · 10 ^ exponent` as a double, one division or multiplication by
a power of ten at a time; out of range if that overflows. -/
def scaleFloat : Nat → Float → Int → Except Fault Float
  | 0, x, _ => .ok x
  | fuel + 1, x, exponent =>
    if exponent.natAbs ≤ 308 then
      let power := Float.ofScientific 1 false exponent.natAbs
      if 0 ≤ exponent then
        if (x * power).isInf then .error .malformed else .ok (x * power)
      else .ok (x / power)
    else if x == 0 then .ok x
    else if 0 ≤ exponent then .error .malformed
    else scaleFloat fuel (x / Float.ofScientific 1 false 308) (exponent + 308)

def floatOf (negative : Bool) (significand : Nat) (exponent : Int) : Except Fault Float := do
  let x ← scaleFloat 4 (UInt64.ofNat significand).toFloat exponent
  .ok (if negative then -x else x)

/-- An exponent grows up to this bound: `2 ^ 31 - 1`. -/
def maxExponent : Nat := 0x7fffffff

/-- The digits of an exponent; `none` once they pass the bound. -/
def exponentDigits : Nat → List Char → Option Nat × List Char
  | acc, [] => (some acc, [])
  | acc, c :: cs =>
    match Text.digit? c with
    | some d =>
      if acc * 10 + d ≤ maxExponent then exponentDigits (acc * 10 + d) cs
      else (none, cs.dropWhile isDigit)
    | none => (some acc, c :: cs)

/-- What follows the letter of an exponent. -/
def scanExponent (negative : Bool) (significand : Nat) (start : Int) (cs : List Char) :
    Except Fault (Float × List Char) := do
  let (down, cs) := match cs with
    | '+' :: cs => (false, cs)
    | '-' :: cs => (true, cs)
    | cs => (false, cs)
  match cs with
  | [] => .error .truncated
  | c :: cs =>
    match Text.digit? c with
    | none => .error .malformed
    | some d =>
      match exponentDigits d cs with
      | (some e, rest) =>
        let total := if down then start - (e : Int) else start + (e : Int)
        let x ← floatOf negative significand (max (-(maxExponent : Int) - 1) (min maxExponent total))
        .ok (x, rest)
      | (none, rest) =>
        if significand != 0 && !down then .error .malformed
        else .ok (if negative then -0.0 else 0.0, rest)

/-- The end of a number that is not whole: an exponent or nothing. -/
def scanTail (negative : Bool) (significand : Nat) (exponent : Int) (cs : List Char) :
    Except Fault (Float × List Char) := do
  match cs with
  | 'e' :: cs => scanExponent negative significand exponent cs
  | 'E' :: cs => scanExponent negative significand exponent cs
  | cs => .ok (← floatOf negative significand exponent, cs)

/-- What follows a decimal point. -/
def scanFraction (negative : Bool) (significand : Nat) (exponent : Int) (cs : List Char) :
    Except Fault (Float × List Char) :=
  let (acc, taken, rest) := takeDigits significand 0 cs
  let exponent := exponent - (taken : Int)
  if (rest.head?.any isDigit) then scanTail negative acc exponent (rest.dropWhile isDigit)
  else if taken == 0 then
    if rest.isEmpty then .error .truncated else .error .malformed
  else scanTail negative acc exponent rest

/-- A number without a point or an exponent, within 64 bits.  Minus zero and
anything below the signed range count as inexact. -/
def wholeNumber (negative : Bool) (n : Nat) : Number :=
  if negative then
    if 0 < n ∧ n ≤ Word.half then .negative (-(n : Int))
    else .floating (-(UInt64.ofNat n).toFloat)
  else .natural (UInt64.ofNat n)

/-- What follows the first part of a number. -/
def scanAfterWhole (negative : Bool) (significand : Nat) (cs : List Char) :
    Except Fault (Number × List Char) := do
  match cs with
  | '.' :: cs =>
    let (x, rest) ← scanFraction negative significand 0 cs
    .ok (.floating x, rest)
  | 'e' :: cs =>
    let (x, rest) ← scanExponent negative significand 0 cs
    .ok (.floating x, rest)
  | 'E' :: cs =>
    let (x, rest) ← scanExponent negative significand 0 cs
    .ok (.floating x, rest)
  | cs => .ok (wholeNumber negative significand, cs)

/-- A number whose sign has been read. -/
def scanNumber (negative : Bool) (cs : List Char) : Except Fault (Number × List Char) := do
  match cs with
  | [] => .error .truncated
  | '0' :: rest =>
    if rest.head?.any isDigit then .error .malformed else scanAfterWhole negative 0 rest
  | c :: rest =>
    match Text.digit? c with
    | none => .error .malformed
    | some d =>
      let (acc, _, rest) := takeDigits d 0 rest
      if rest.head?.any isDigit then
        let dropped := (rest.takeWhile isDigit).length
        let rest := rest.dropWhile isDigit
        match rest with
        | '.' :: cs =>
          let (x, rest) ← scanFraction negative acc dropped cs
          .ok (.floating x, rest)
        | cs =>
          let (x, rest) ← scanTail negative acc dropped cs
          .ok (.floating x, rest)
      else scanAfterWhole negative acc rest

def skipExponent (cs : List Char) : Except Fault (List Char) :=
  let cs := match cs with
    | '+' :: cs => cs
    | '-' :: cs => cs
    | cs => cs
  match cs with
  | c :: cs => if isDigit c then .ok (cs.dropWhile isDigit) else .error .malformed
  | [] => .error .malformed

def skipTail (cs : List Char) : Except Fault (List Char) :=
  match cs with
  | 'e' :: cs => skipExponent cs
  | 'E' :: cs => skipExponent cs
  | cs => .ok cs

def skipNumber (cs : List Char) : Except Fault (List Char) :=
  let afterWhole (cs : List Char) : Except Fault (List Char) :=
    match cs with
    | '.' :: cs =>
      if cs.head?.any isDigit then skipTail (cs.dropWhile isDigit) else .error .malformed
    | cs => skipTail cs
  match cs with
  | [] => .error .malformed
  | '0' :: rest => if rest.head?.any isDigit then .error .malformed else afterWhole rest
  | c :: rest => if isDigit c then afterWhole (rest.dropWhile isDigit) else .error .malformed

end DebugCatalog.Json
