import DebugCatalog.Collector.Basic
import DebugCatalog.Image.Basic
import DebugCatalog.Text.Quoted

/-!
# Parsers

A parser finds debug data in images.  It says whether it accepts an image, and
what it does to the collector it is given before it finishes, fails or breaks
down.  It may add entries of its own, merge what others have found, and begin
anew with an empty collector.  What it does may depend on the image and on what
the collector holds already.

Parsers are told apart by the registration that made them and not by their
names: two registrations under one name are two parsers.

`Parser.parseInto` credits the entries that a parser adds to the parser, and gives
the collector back with the credit it had before.
-/

namespace DebugCatalog

/-- One addition to a collector. -/
inductive Addition where
  | type (name : String) (type : DataType)
  | function (f : FunctionRecord)
  /-- Everything in another collector, with the credit it has there.  A parser that lets another
  one run over its collector adds what that one would have collected. -/
  | merge (other : Collector)

def Collector.add (c : Collector) : Addition → Collector
  | .type name t => c.addType name t
  | .function f => c.addFunction f
  | .merge other => (c.merge other).1

def Collector.addAll (c : Collector) (additions : List Addition) : Collector :=
  additions.foldl Collector.add c

namespace Parser

/-- How a pass over an image ends.  A breakdown may come without a message. -/
inductive Ending where
  | finished
  | failed (message : String)
  | brokeDown (message : Option String)

/-- What a parser adds in one pass, in order, and how it ends. -/
structure Pass where
  additions : List Addition
  ending : Ending

/-- An answer to the question whether a parser accepts an image. -/
inductive Verdict where
  | accepts
  | rejects
  | brokeDown

def Verdict.ofBool (b : Bool) : Verdict :=
  if b then .accepts else .rejects

/-- What whoever registers a parser supplies. -/
structure Behavior where
  judge : Image → Verdict
  pass : Image → Collector → Pass
  /-- Whether a new collector is put in the place of the one that was given, and all that follows
  is added to the new one.  Any other collector is a new one into which it was merged. -/
  startsOver : Image → Collector → Bool := fun _ _ => false

inductive Error where
  | unknown (name : String)
  | duplicate (name : String)
  | invalidName (name : String)
  | notValid (parser image : String)
  | failed (parser message : String)
  | brokeDown (parser message : String)
  deriving DecidableEq

def Error.message : Error → String
  | .unknown name => "'" ++ name ++ "' is not a valid debug-info parser"
  | .duplicate name => "A debug-info parser named '" ++ name ++ "' is already registered"
  | .invalidName name => "Invalid debug-info parser name: " ++ Text.quoted name
  | .notValid parser image =>
    "Debug-info parser '" ++ parser ++ "' is not valid for view '" ++ image ++ "'"
  | .failed parser message => "Debug-info parser '" ++ parser ++ "' failed: " ++ message
  | .brokeDown parser message => "Debug-info parser '" ++ parser ++ "' panicked: " ++ message

end Parser

/-- A registered parser.  Every registration has a number of its own. -/
structure Parser where
  registration : Nat
  name : String
  behavior : Parser.Behavior

namespace Parser

instance : BEq Parser where
  beq p q := p.registration == q.registration

instance : Hashable Parser where
  hash p := hash p.registration

def display (p : Parser) : String :=
  "<debug-info parser: '" ++ p.name ++ "'>"

/-- How a parser shows up in the display of a larger value. -/
def debug (p : Parser) : String :=
  "DebugInfoParser \x7b name: " ++ Text.quoted p.name ++ " \x7d"

/-- A parser that breaks down over the question does not accept the image. -/
def accepts (p : Parser) (v : Image) : Bool :=
  match p.behavior.judge v with
  | .accepts => true
  | .rejects | .brokeDown => false

/-- What stands for the message of a breakdown without one. -/
def noMessage : String := "non-string panic payload"

/-- The error of a pass, if it has one. -/
def error? (p : Parser) : Ending → Option Error
  | .finished => none
  | .failed message => some (.failed p.name message)
  | .brokeDown message => some (.brokeDown p.name (message.getD noMessage))

/-- A pass over an image.  What was added before an error stays. -/
def parseInto (p : Parser) (c : Collector) (v : Image) : Collector × Option Error :=
  let given := c.crediting (some p.name)
  let start := if p.behavior.startsOver v given then .empty else given
  let pass := p.behavior.pass v given
  ((start.addAll pass.additions).crediting c.source, p.error? pass.ending)

/-- What a parser finds on its own. -/
def parse (p : Parser) (v : Image) : Except Error Collector :=
  match p.parseInto .empty v with
  | (c, none) => .ok c
  | (_, some e) => .error e

end Parser

end DebugCatalog
