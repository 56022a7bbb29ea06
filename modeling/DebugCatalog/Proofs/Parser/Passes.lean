import DebugCatalog.Proofs.Collector.Intake
import DebugCatalog.Proofs.Parser.Together

/-!
# What a pass leaves behind

A parser is given a collector that others have filled, adds to it, and stops: because it is
done, because it fails or because it breaks down.  `takesIn_parseInto` says that the three
differ in the result only.  What was there stays as it was and where it was, behind it stand
the first entries of free keys among what the parser added until it stopped, credited to it, and
the credit that the collector had is back in place, so that nothing added later goes to the
parser.

The collector may be any that somebody can hold, with whatever credit, and what the parser adds
may depend on it.  What it merges keeps the credit it has.  A parser that starts over drops what
was there and leaves its new collector, but that too comes back under the credit of before.
-/

namespace DebugCatalog

namespace Parser

/-- **A pass adds at the end under its own credit, and gives back the credit of before**,
however it ends. -/
theorem takesIn_parseInto (p : Parser) {c : Collector} (hc : c.Held) (v : Image) :
    (p.startsOver c v = false →
      c.TakesIn (some p.name) (p.passOver c v).additions (p.parseInto c v).1) ∧
    (∀ later, (p.parseInto c v).1.TakesIn c.source later ((p.parseInto c v).1.addAll later)) ∧
    ((p.passOver c v).ending = .finished → (p.parseInto c v).2 = none) ∧
    (∀ message, (p.passOver c v).ending = .failed message →
      (p.parseInto c v).2 = some (.failed p.name message)) ∧
    (∀ message, (p.passOver c v).ending = .brokeDown (some message) →
      (p.parseInto c v).2 = some (.brokeDown p.name message)) ∧
    ((p.passOver c v).ending = .brokeDown none →
      (p.parseInto c v).2 = some (.brokeDown p.name "non-string panic payload")) := by
  have hresult : (p.parseInto c v).2 = p.error? (p.passOver c v).ending := rfl
  refine ⟨?_, (hc.sound.parseInto p v).takesIn_addAll, ?_⟩
  · intro hkeeps
    rw [parseInto_of_keeps hkeeps]
    exact hc.sound.takesIn_crediting _ _
  rw [hresult]
  refine ⟨?_, ?_, ?_, ?_⟩
  · intro hending
    rw [hending, error?]
  · intro message hending
    rw [hending, error?]
  · intro message hending
    rw [hending, error?, Option.getD_some]
  · intro hending
    rw [hending, error?, Option.getD_none, noMessage]

/-- A parser that adds what is there already, what it has added itself and what has no name
besides two new entries, and then fails. -/
def truncated : Parser where
  registration := 0
  name := "dwarf"
  behavior :=
    { judge := fun _ => .accepts
      pass := fun _ _ =>
        { additions := [.type "flag" .void, .type "size_t" (.int 8 false), .type "" .void,
            .function (FunctionRecord.new "" "" "" 48 none []),
            .type "size_t" (.int 4 false), .function Collector.tableFunction,
            .function { Collector.initFunction with shortName := "_init" }]
          ending := .failed "no line table" } }

theorem takesIn_parseInto_truncated :
    Collector.symbolsHeld.Held ∧
    (truncated.parseInto Collector.symbolsHeld blankImage).1.types.toList =
      [{ name := "flag", type := .bool, source := some "symbols" },
        { name := "size_t", type := .int 8 false, source := some "dwarf" }] ∧
    (truncated.parseInto Collector.symbolsHeld blankImage).1.functions.toList =
      [{ function := Collector.initFunction, source := some "symbols" },
        { function := Collector.tableFunction, source := some "dwarf" }] ∧
    (truncated.parseInto Collector.symbolsHeld blankImage).1.source = some "btf" ∧
    (truncated.parseInto Collector.symbolsHeld blankImage).2 =
      some (.failed "dwarf" "no line table") := by
  obtain ⟨hkeeps, -, -, hfailed, -⟩ :=
    takesIn_parseInto truncated Collector.held_symbolsHeld blankImage
  have hpass := hkeeps rfl
  refine ⟨Collector.held_symbolsHeld, ?_, ?_, hpass.source, hfailed _ rfl⟩
  · rw [hpass.types, KeyedList.firstNew, KeyedList.keys, Collector.toList_types_symbolsHeld]
    rfl
  · rw [hpass.functions, KeyedList.firstNew, KeyedList.keys,
      Collector.toList_functions_symbolsHeld]
    rfl

end Parser

end DebugCatalog
