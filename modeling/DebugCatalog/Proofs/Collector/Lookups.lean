import DebugCatalog.Proofs.Collector.FirstWins

/-!
# Looking up is searching

A collector looks keys up in an index, and nobody who uses it can see that.  Whatever was done
to it, the index is the exact inverse of the entries, and each of the four ways to look up a
key does what a search through the entries does (`Faithful`).

While a parser runs it holds the collector it was given, and may merge into it, let another parser
run over it, keep copies or put another collector in its place.  It may stop at any point.  `Held`
are the collectors that come about in this way, those that parsers hold in between included; the
collectors that are `Reachable` by whole passes are among them (`Reachable.held`).  Whatever
somebody holds, there is a parser that leaves the same (`Held.exists_behavior`).
-/

namespace DebugCatalog

namespace Collector

/-- A collector that somebody comes to hold, beginning with the empty one.  `Parser.parseInto` is
the last two: nothing is assumed of what the parser does in between. -/
inductive Held : Collector → Prop
  | empty : Held .empty
  | addType {c : Collector} (h : Held c) (name : String) (type : DataType) :
      Held (c.addType name type)
  | addFunction {c : Collector} (h : Held c) (f : FunctionRecord) : Held (c.addFunction f)
  | merge {c other : Collector} (h : Held c) (hother : Held other) : Held (c.merge other).1
  /-- A parser is given the collector under its own credit. -/
  | given {c : Collector} (h : Held c) (parser : String) : Held (c.crediting (some parser))
  /-- What it leaves, wherever it stops, is given back under the credit of before. -/
  | givenBack {c left : Collector} (h : Held c) (hleft : Held left) :
      Held (left.crediting c.source)

/-- A collector that says the same however it is asked. -/
structure Faithful (c : Collector) : Prop where
  typeNamed : ∀ e ∈ c.types.toList, e.name ≠ ""
  functionNamed : ∀ e ∈ c.functions.toList,
    ¬ (e.function.shortName = "" ∧ e.function.fullName = "" ∧ e.function.rawName = "")
  typesDistinct : (c.types.toList.map TypeEntry.name).Nodup
  functionsDistinct : (c.functions.toList.map FunctionEntry.address).Nodup
  typeIndex : ∀ (name : String) (i : Nat), c.types.index[name]? = some i ↔
    ∃ e, c.types.toList[i]? = some e ∧ e.name = name
  functionIndex : ∀ (address : UInt64) (i : Nat), c.functions.index[address]? = some i ↔
    ∃ e, c.functions.toList[i]? = some e ∧ e.address = address
  type? : ∀ name, c.type? name =
    (c.types.toList.find? fun e => e.name == name).map TypeEntry.type
  typeSource : ∀ name, c.typeSource name =
    (c.types.toList.find? fun e => e.name == name).bind TypeEntry.source
  functionAt : ∀ address, c.functionAt address =
    (c.functions.toList.find? fun e => e.address == address).map FunctionEntry.function
  functionSource : ∀ address, c.functionSource address =
    (c.functions.toList.find? fun e => e.address == address).bind FunctionEntry.source

/-! ### Sound collectors -/

namespace Sound

variable {c : Collector}

theorem typeSource_eq (h : c.Sound) (name : String) : c.typeSource name =
    (c.types.toList.find? fun e => e.name == name).bind TypeEntry.source := by
  rw [typeSource, h.types.find?_eq]

theorem functionSource_eq (h : c.Sound) (address : UInt64) : c.functionSource address =
    (c.functions.toList.find? fun e => e.address == address).bind FunctionEntry.source := by
  rw [functionSource, h.functions.find?_eq]

theorem faithful (h : c.Sound) : c.Faithful where
  typeNamed := h.typeNamed
  functionNamed e he := by
    rintro ⟨hshort, hfull, hraw⟩
    have hnamed := h.functionNamed e he
    rw [FunctionRecord.isAnonymous, hshort, hfull, hraw] at hnamed
    exact absurd hnamed (by decide)
  typesDistinct := h.types.nodup
  functionsDistinct := h.functions.nodup
  typeIndex := h.types
  functionIndex := h.functions
  type? := h.type?_eq
  typeSource := h.typeSource_eq
  functionAt := h.functionAt_eq
  functionSource := h.functionSource_eq

end Sound

/-! ### Held collectors -/

namespace Held

variable {c : Collector}

theorem sound (h : c.Held) : c.Sound := by
  induction h with
  | empty => exact sound_empty
  | addType _ name type ih => exact ih.addType name type
  | addFunction _ f ih => exact ih.addFunction f
  | merge _ _ ih _ => exact ih.merge _
  | given _ parser ih => exact ih.crediting (some parser)
  | givenBack _ _ _ ih => exact ih.crediting _

/-- Nobody is credited by the empty collector, and a parser by one that was given to it. -/
theorem crediting (h : c.Held) (source : Option String) : (c.crediting source).Held :=
  match source with
  | none => Held.empty.givenBack h
  | some parser => h.given parser

theorem isKept : IsKept Held where
  crediting source h := h.crediting source
  addType name type h := h.addType name type
  addFunction f h := h.addFunction f

theorem addAll (h : c.Held) (additions : List Addition) : (c.addAll additions).Held :=
  isKept.addAll h additions

/-- What a pass leaves, however it ends. -/
theorem parseInto (h : c.Held) (p : Parser) (v : Image) : (p.parseInto c v).1.Held :=
  isKept.parseInto .empty h p v

/-- A parser may leave the entries of any collector, whatever it is given. -/
theorem exists_behavior (h : c.Held) : ∃ b : Parser.Behavior,
    ∀ p : Parser, p.behavior = b → ∀ given v, (p.parseInto given v).1.SameEntries c := by
  refine ⟨{ judge := fun _ => .accepts
            pass := fun _ _ => { additions := [.merge c], ending := .finished }
            startsOver := fun _ _ => true }, ?_⟩
  rintro ⟨registration, name, behavior⟩ rfl given v
  have hmerged : (Collector.empty.merge c).1.SameEntries c := sound_empty.sameEntries_merge rfl h.sound
  exact ⟨hmerged.types, hmerged.functions⟩

end Held

theorem Reachable.held {c : Collector} (h : c.Reachable) : c.Held := by
  induction h with
  | empty => exact .empty
  | addType _ name type ih => exact ih.addType name type
  | addFunction _ f ih => exact ih.addFunction f
  | merge _ _ ih ihother => exact ih.merge ihother
  | parseInto _ p v ih => exact ih.parseInto p v

/-- **Whoever holds a collector can rely on it**: entries are named and distinct, the index is
their inverse, and looking a key up is searching for it, whether it is there or not. -/
theorem faithful_of_held {c : Collector} (h : c.Held) : c.Faithful :=
  h.sound.faithful

/-- What is left of a parser that broke down after it had merged what another one found. -/
def brokenOff : Collector :=
  ((empty.crediting (some "symbols")).merge
    ((empty.crediting (some "dwarf")).addType "size_t" (.int 8 false))).1.crediting none

theorem held_brokenOff : brokenOff.Held :=
  Held.empty.givenBack ((Held.empty.given "symbols").merge
    ((Held.empty.given "dwarf").addType "size_t" (.int 8 false)))

theorem toList_types_brokenOff : brokenOff.types.toList =
    [{ name := "size_t", type := .int 8 false, source := some "dwarf" }] := by
  have hgiven : (empty.crediting (some "dwarf")).Sound := sound_empty.crediting _
  have htakes : (empty.crediting (some "dwarf")).takesType "size_t" = true :=
    (hgiven.takesType_iff _).2 ⟨by decide, fun _ he => absurd he List.not_mem_nil⟩
  have hfound := addType_of_takes htakes (.int 8 false)
  have hmerged := types_merge (empty.crediting (some "symbols"))
    (hgiven.addType "size_t" (.int 8 false))
  rw [hfound, KeyedList.toList_push] at hmerged
  rw [brokenOff, hfound]
  refine (congrArg KeyedList.toList hmerged).trans ?_
  change ([TypeEntry.mk "size_t" (.int 8 false) (some "dwarf")].foldl KeyedList.offer
    KeyedList.empty).toList = _
  rw [List.foldl_cons, List.foldl_nil, KeyedList.offer, KeyedList.contains_empty,
    if_neg Bool.false_ne_true, KeyedList.toList_push]
  rfl

/-- Its type is still credited to the other parser, and no other name leads to it. -/
theorem faithful_brokenOff : brokenOff.Held ∧ brokenOff.typeSource "size_t" = some "dwarf" ∧
    brokenOff.type? "ssize_t" = none := by
  have hfaithful := faithful_of_held held_brokenOff
  refine ⟨held_brokenOff, ?_, ?_⟩
  · rw [hfaithful.typeSource, toList_types_brokenOff]
    rfl
  · rw [hfaithful.type?, toList_types_brokenOff]
    rfl

end Collector

end DebugCatalog
