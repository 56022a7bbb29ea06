import DebugCatalog.Yaml.Reading

/-!
# Scalars

A string is written in the plainest of four styles that reads back as the same
string.  A string with a line feed is a literal block, which shows its lines as
they are; any other is plain, or in single quotes if it is ambiguous or has a
mark where one would be read.  Double quotes, with escapes, are for what none of
these can hold.
-/

namespace DebugCatalog.Yaml

/-- Characters that end a line. -/
def isBreak (c : Char) : Bool :=
  c == '\n' || c == '\r' || c == '\u0085' || c == '\u2028' || c == '\u2029'

/-- Characters that may stand unescaped. -/
def isPrintable (c : Char) : Bool :=
  let n := c.toNat
  c == '\n' || (0x20 ≤ n && n ≤ 0x7e) || (0xa0 ≤ n && n ≤ 0xfffd && n != 0xfeff) || 0x10000 ≤ n

/-- Blanks, ends of lines, and the character that ends a text. -/
def isGap (c : Char) : Bool :=
  c == ' ' || c == '\t' || c == '\x00' || isBreak c

/-- A gap or nothing at all. -/
def startsWithGap : List Char → Bool
  | [] => true
  | c :: _ => isGap c

/-- Whether a character of the first kind is followed by one of the second. -/
def hasPair (p q : Char → Bool) : List Char → Bool
  | a :: b :: cs => (p a && q b) || hasPair p q (b :: cs)
  | _ => false

def isSpace (c : Char) : Bool :=
  c == ' '

def endsWithSpace (cs : List Char) : Bool :=
  cs.getLast?.any isSpace

/-! ## Styles -/

/-- Marks that mean something at the start of a plain text. -/
def openingMarks : List Char :=
  ['#', ',', '[', ']', '\x7b', '\x7d', '&', '*', '!', '|', '>', '\x27', '"', '%', '@', '\x60']

/-- A mark at the start, or the border between two documents. -/
def opensWithMark : List Char → Bool
  | '-' :: '-' :: '-' :: _ => true
  | '.' :: '.' :: '.' :: _ => true
  | c :: cs => openingMarks.contains c || ((c == '?' || c == '-') && startsWithGap cs)
  | [] => false

/-- A colon in front of a gap or a comment sign behind one. -/
def hasInnerMark (behindGap : Bool) : List Char → Bool
  | [] => false
  | c :: cs =>
    (c == ':' && startsWithGap cs) || (c == '#' && behindGap) || hasInnerMark (isGap c) cs

def fitsPlain (cs : List Char) : Bool :=
  cs.all (fun c => isPrintable c && !isBreak c) && !cs.head?.any isSpace && !endsWithSpace cs &&
    !opensWithMark cs && !hasInnerMark true cs

def fitsSingleQuotes (cs : List Char) : Bool :=
  cs.all isPrintable && !hasPair isSpace isBreak cs && !hasPair isBreak isSpace cs

def fitsLiteral (cs : List Char) : Bool :=
  cs.all isPrintable && !hasPair isSpace isBreak cs && !endsWithSpace cs

inductive Style where
  | plain
  | singleQuoted
  | doubleQuoted
  | literal
  deriving DecidableEq, Repr

def style (cs : List Char) : Style :=
  if cs.contains '\n' then
    if fitsLiteral cs then .literal else .doubleQuoted
  else if !isAmbiguous cs && fitsPlain cs then .plain
  else if fitsSingleQuotes cs then .singleQuoted
  else .doubleQuoted

/-! ## Text in each style -/

def spaces (n : Nat) : List Char :=
  List.replicate n ' '

/-- The inside of single quotes.  A quote is written twice, and what follows the
end of a line is indented. -/
def singleQuotedText (indent : Nat) (afterBreak : Bool) : List Char → List Char
  | [] => if afterBreak then spaces indent else []
  | c :: cs =>
    if isBreak c then c :: singleQuotedText indent true cs
    else
      (if afterBreak then spaces indent else []) ++
        (if c == '\x27' then ['\x27', '\x27'] else [c]) ++ singleQuotedText indent false cs

def upperHex (width n : Nat) : List Char :=
  (Text.hexPadded width n).map Char.toUpper

def escape (c : Char) : List Char :=
  match c with
  | '\x00' => ['\\', '0']
  | '\x07' => ['\\', 'a']
  | '\x08' => ['\\', 'b']
  | '\t' => ['\\', 't']
  | '\n' => ['\\', 'n']
  | '\x0b' => ['\\', 'v']
  | '\x0c' => ['\\', 'f']
  | '\r' => ['\\', 'r']
  | '\x1b' => ['\\', 'e']
  | '"' => ['\\', '"']
  | '\\' => ['\\', '\\']
  | '\u0085' => ['\\', 'N']
  | '\u2028' => ['\\', 'L']
  | '\u2029' => ['\\', 'P']
  | c =>
    if isPrintable c then [c]
    else if c.toNat ≤ 0xff then '\\' :: 'x' :: upperHex 2 c.toNat
    else if c.toNat ≤ 0xffff then '\\' :: 'u' :: upperHex 4 c.toNat
    else '\\' :: 'U' :: upperHex 8 c.toNat

/-- What follows the bar of a literal block: the indentation if the first line
does not show it, and what becomes of the line ends at its end. -/
def literalHints (cs : List Char) : List Char :=
  let width := if cs.head?.any fun c => isSpace c || isBreak c then ['2'] else []
  let ending := match cs.reverse with
    | [] => ['-']
    | last :: before =>
      if !isBreak last then ['-']
      else if before.head?.all isBreak then ['+']
      else []
  width ++ ending

/-- The lines of a literal block, each indented unless it is empty. -/
def literalLines (indent : Nat) (afterBreak : Bool) : List Char → List Char
  | [] => if afterBreak then [] else ['\n']
  | c :: cs =>
    if isBreak c then c :: literalLines indent true cs
    else (if afterBreak then spaces indent else []) ++ c :: literalLines indent false cs

/-- A string and the end of its line.  Lines of its own are indented. -/
def scalarLine (indent : Nat) (s : String) : List Char :=
  let cs := s.toList
  match style cs with
  | .plain => cs ++ ['\n']
  | .singleQuoted => '\x27' :: singleQuotedText indent false cs ++ ['\x27', '\n']
  | .doubleQuoted => '"' :: cs.flatMap escape ++ ['"', '\n']
  | .literal => '|' :: literalHints cs ++ '\n' :: literalLines indent true cs

end DebugCatalog.Yaml
