import DebugCatalog.Parser.Registry

/-!
# Running parsers

Parsers run over an image one after the other, each into a collector of its own,
and the collectors are merged in that order.  A parser that fails does not stop
the others, and what it added before is merged like the rest.

`runParsersWith` shows each result to a hook before it is merged.  The hook works
in any monad, and where it fails, the run stops.
-/

namespace DebugCatalog

/-- What one parser found on its own. -/
structure Finding where
  parser : Parser
  collector : Collector
  error : Option Parser.Error

/-- What became of a finding. -/
structure Outcome where
  parser : String
  typesFound : Nat
  functionsFound : Nat
  typesAdded : Nat
  functionsAdded : Nat
  error : Option String
  deriving DecidableEq

namespace Outcome

def succeeded (o : Outcome) : Bool :=
  o.error.isNone

def toJson (o : Outcome) : Json :=
  .object ([("parser", .string o.parser), ("types_found", .count o.typesFound),
    ("functions_found", .count o.functionsFound), ("types_added", .count o.typesAdded),
    ("functions_added", .count o.functionsAdded)] ++ Json.optionalEntry "error" o.error)

end Outcome

namespace Finding

def errorMessage (f : Finding) : Option String :=
  f.error.map Parser.Error.message

def outcome (f : Finding) (n : MergeCount) : Outcome where
  parser := f.parser.name
  typesFound := f.collector.typeCount
  functionsFound := f.collector.functionCount
  typesAdded := n.typesAdded
  functionsAdded := n.functionsAdded
  error := f.errorMessage

end Finding

def Parser.finding (p : Parser) (v : Image) : Finding :=
  let (collector, error) := p.parseInto .empty v
  { parser := p, collector, error }

/-- Runs the parsers over an image on top of what has been merged so far. -/
def runParsersOnto {m : Type → Type} [Monad m] (hook : Finding → m Unit) (v : Image) :
    Collector → List Parser → m (Collector × List Outcome)
  | merged, [] => pure (merged, [])
  | merged, p :: rest => do
    let finding := p.finding v
    hook finding
    let (merged, n) := merged.merge finding.collector
    let (final, outcomes) ← runParsersOnto hook v merged rest
    pure (final, finding.outcome n :: outcomes)

def runParsersWith {m : Type → Type} [Monad m] (hook : Finding → m Unit) (parsers : List Parser)
    (v : Image) : m (Collector × List Outcome) :=
  runParsersOnto hook v .empty parsers

def runParsers (parsers : List Parser) (v : Image) : Collector × List Outcome :=
  Id.run (runParsersWith (fun _ => pure ()) parsers v)

/-- Runs every registered parser that accepts the image. -/
def Registry.parse (r : Registry) (v : Image) : Collector × List Outcome :=
  runParsers (r.parsersFor v) v

end DebugCatalog
