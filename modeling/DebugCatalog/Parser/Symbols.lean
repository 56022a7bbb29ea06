import DebugCatalog.Mangling.Name
import DebugCatalog.Parser.Registry

/-!
# The symbols parser

The one parser that every registry can start with: it makes a function record
of each function symbol.  Symbol tables have names and addresses but no types,
so it knows neither return types nor parameters.

Which path the name of a symbol stands for is for `Mangling.demangle` to say.
Apart from that the parser works for any such reading of names.
-/

namespace DebugCatalog

/-- The record of a function symbol, where `path` reads names. -/
def Symbol.functionRecord (path : String → String) (s : Symbol) : FunctionRecord :=
  let fullName := path s.name
  .new (Mangling.lastSegment fullName) fullName s.name s.address none []

namespace Parser

def symbolsName : String := "symbols"

def symbolsBy (path : String → String) : Behavior where
  judge := fun v => .ofBool !v.functionSymbols.isEmpty
  pass := fun v _ =>
    { additions := v.functionSymbols.map fun s => .function (s.functionRecord path)
      ending := .finished }

def symbols : Behavior :=
  symbolsBy Mangling.demangle

end Parser

/-- A registry with the symbols parser and no other. -/
def Registry.standard (registration : Nat) : Registry :=
  match empty.register registration Parser.symbolsName Parser.symbols with
  | .ok (r, _) => r
  | .error _ => empty

end DebugCatalog
