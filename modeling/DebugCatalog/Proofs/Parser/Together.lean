import DebugCatalog.Proofs.Parser.Accounts

/-!
# Collecting together

Running parsers gives each a collector of its own, and merges these.  One could as well call
the parsers one after the other on one collector (`parseTogether`).  For parsers that add to the
collector they are given and do not look at what is there already (`Parser.IsOblivious`), both
ways give the same collector, entry by entry and with the same credit, and the same errors:
`runParsers_eq_parseTogether`.

A key that a parser adds twice is turned away by its own collector on the first way and by the
shared one on the second.  Either way the list is one and the same series of offers
(`Collector.merge_collected`, `merge_finding`).
-/

namespace DebugCatalog

variable {p : Parser} {v : Image}

/-- What the parser adds to the collector that it is given for an image, and how it ends, does not
depend on what has been collected. -/
structure Parser.IsOblivious (p : Parser) (v : Image) : Prop where
  pass_eq : ∀ c d : Collector, p.behavior.pass v c = p.behavior.pass v d
  keeps : ∀ c : Collector, p.behavior.startsOver v c = false

/-- Calls the parsers one after the other on one collector, and gives their errors. -/
def parseTogether (v : Image) : Collector → List Parser → Collector × List (Option Parser.Error)
  | c, [] => (c, [])
  | c, p :: ps =>
    let (c, error) := p.parseInto c v
    let (final, errors) := parseTogether v c ps
    (final, error :: errors)

/-! ### One parser -/

theorem Parser.IsOblivious.passOver_eq (h : p.IsOblivious v) (c : Collector) :
    p.passOver c v = p.ownPass v :=
  h.pass_eq _ _

/-- To merge what a parser found on its own is to have it add to the collector. -/
theorem merge_finding (h : p.IsOblivious v) (c : Collector) :
    (c.merge (p.finding v).collector).1 = (p.parseInto c v).1 := by
  have hfound : (p.finding v).collector =
      (Collector.collected p.name (p.ownPass v).additions).crediting none :=
    Parser.parseInto_of_keeps (h.keeps _)
  have hmerged := Collector.merge_collected c p.name (p.ownPass v).additions
  rw [Parser.parseInto_of_keeps (h.keeps _), h.passOver_eq, hfound]
  exact hmerged

theorem error_finding (h : p.IsOblivious v) (c : Collector) :
    (p.finding v).error = (p.parseInto c v).2 :=
  congrArg (fun pass : Parser.Pass => p.error? pass.ending) (h.passOver_eq c).symm

/-! ### One parser after the other -/

theorem runParsersOnto_eq_parseTogether (hook : Finding → Id Unit) (merged : Collector)
    {ps : List Parser} (h : ∀ p ∈ ps, p.IsOblivious v) :
    (runParsersOnto hook v merged ps).1 = (parseTogether v merged ps).1 ∧
      (runParsersOnto hook v merged ps).2.map Outcome.error =
        (parseTogether v merged ps).2.map (Option.map Parser.Error.message) := by
  induction ps generalizing merged with
  | nil => exact ⟨rfl, rfl⟩
  | cons p ps ih =>
    obtain ⟨hp, hps⟩ := List.forall_mem_cons.1 h
    obtain ⟨hfinal, herrors⟩ := ih (p.parseInto merged v).1 hps
    have herror : (p.finding v).errorMessage =
        (p.parseInto merged v).2.map Parser.Error.message :=
      congrArg (Option.map Parser.Error.message) (error_finding hp merged)
    rw [runParsersOnto_cons, merge_finding hp]
    exact ⟨hfinal, congrArg₂ List.cons herror herrors⟩

/-- **Collecting separately and merging is collecting together.** -/
theorem runParsers_eq_parseTogether {ps : List Parser} (h : ∀ p ∈ ps, p.IsOblivious v) :
    (runParsers ps v).1 = (parseTogether v .empty ps).1 ∧
      (runParsers ps v).2.map Outcome.error =
        (parseTogether v .empty ps).2.map (Option.map Parser.Error.message) :=
  runParsersOnto_eq_parseTogether _ .empty h

/-- Two parsers that add the same type, the first of them twice, and that do not finish. -/
def overlapping : List Parser :=
  [{ registration := 0
     name := "dwarf"
     behavior :=
      { judge := fun _ => .accepts
        pass := fun _ _ =>
          { additions := [.type "size_t" (.int 8 false), .type "size_t" (.int 4 false)]
            ending := .failed "no line table" } } },
   { registration := 1
     name := "btf"
     behavior :=
      { judge := fun _ => .accepts
        pass := fun _ _ =>
          { additions := [.type "flag" .bool, .type "size_t" .void, .type "" .void]
            ending := .brokeDown none } } }]

theorem runParsers_eq_parseTogether_overlapping :
    (∀ p ∈ overlapping, p.IsOblivious blankImage) ∧
      (runParsers overlapping blankImage).1 = (parseTogether blankImage .empty overlapping).1 ∧
      (runParsers overlapping blankImage).2.map Outcome.error =
        [some "Debug-info parser 'dwarf' failed: no line table",
          some "Debug-info parser 'btf' panicked: non-string panic payload"] := by
  have h : ∀ p ∈ overlapping, p.IsOblivious blankImage :=
    List.forall_mem_cons.2 ⟨⟨fun _ _ => rfl, fun _ => rfl⟩,
      List.forall_mem_singleton.2 ⟨fun _ _ => rfl, fun _ => rfl⟩⟩
  obtain ⟨hmerged, herrors⟩ := runParsers_eq_parseTogether h
  exact ⟨h, hmerged, herrors.trans (by rfl)⟩

end DebugCatalog
