import DebugCatalog.Parser.Run
import DebugCatalog.Proofs.Collector.Reachable

/-!
# Who is credited

What a parser finds on its own is what it adds to an empty collector (`collector_finding`).  If
it only adds entries of its own, and neither merges those of others nor starts over, all of it is
from that parser (`isFrom_finding`).

A collector that is loaded is credited as a whole, to the parser of its run (`creditedTo`).  So
for what is from the parser, being loaded changes nothing: `CreditedTo.sameEntries`.

Merging looks at the entries of a collector only, so collectors with the same entries
merge alike: `foldl_merge_congr`.
-/

namespace DebugCatalog

def TypeEntry.creditedTo (parser : String) (e : TypeEntry) : TypeEntry :=
  { e with source := some parser }

def FunctionEntry.creditedTo (parser : String) (e : FunctionEntry) : FunctionEntry :=
  { e with source := some parser }

namespace Collector

/-- Two collectors have the same entries in the same order. -/
structure SameEntries (a b : Collector) : Prop where
  types : a.types.toList = b.types.toList
  functions : a.functions.toList = b.functions.toList

/-- The collector has the entries of another, all credited to one parser. -/
structure CreditedTo (parser : String) (loaded c : Collector) : Prop where
  types : loaded.types.toList = c.types.toList.map (TypeEntry.creditedTo parser)
  functions : loaded.functions.toList = c.functions.toList.map (FunctionEntry.creditedTo parser)

/-- The collector with all entries credited to one parser. -/
def creditedTo (parser : String) (c : Collector) : Collector where
  types := { entries := c.types.entries.map (TypeEntry.creditedTo parser), index := c.types.index }
  functions :=
    { entries := c.functions.entries.map (FunctionEntry.creditedTo parser),
      index := c.functions.index }

theorem toList_types_creditedTo (parser : String) (c : Collector) :
    (c.creditedTo parser).types.toList = c.types.toList.map (TypeEntry.creditedTo parser) :=
  Array.toList_map

theorem toList_functions_creditedTo (parser : String) (c : Collector) :
    (c.creditedTo parser).functions.toList =
      c.functions.toList.map (FunctionEntry.creditedTo parser) :=
  Array.toList_map

/-- Who is credited is no part of a key. -/
theorem Sound.creditedTo {c : Collector} (h : c.Sound) (parser : String) :
    (c.creditedTo parser).Sound := by
  refine ⟨?_, ?_, ?_, ?_⟩
  · intro name i
    rw [toList_types_creditedTo, List.getElem?_map]
    refine (h.types name i).trans ?_
    cases c.types.toList[i]? with
    | none => simp
    | some e => simp [TypeEntry.creditedTo]
  · intro address i
    rw [toList_functions_creditedTo, List.getElem?_map]
    refine (h.functions address i).trans ?_
    cases c.functions.toList[i]? with
    | none => simp
    | some e => simp [FunctionEntry.creditedTo, FunctionEntry.address]
  · rw [toList_types_creditedTo]
    exact List.forall_mem_map.2 h.typeNamed
  · rw [toList_functions_creditedTo]
    exact List.forall_mem_map.2 h.functionNamed

theorem Sound.find?_types_creditedTo {c : Collector} (h : c.Sound) (parser name : String) :
    (c.creditedTo parser).types.find? name =
      (c.types.find? name).map (TypeEntry.creditedTo parser) := by
  rw [(h.creditedTo parser).types.find?_eq, h.types.find?_eq, toList_types_creditedTo,
    List.find?_map]
  rfl

theorem Sound.find?_functions_creditedTo {c : Collector} (h : c.Sound) (parser : String)
    (address : UInt64) : (c.creditedTo parser).functions.find? address =
      (c.functions.find? address).map (FunctionEntry.creditedTo parser) := by
  rw [(h.creditedTo parser).functions.find?_eq, h.functions.find?_eq, toList_functions_creditedTo,
    List.find?_map]
  rfl

/-- All entries are credited to one parser. -/
structure IsFrom (parser : String) (c : Collector) : Prop where
  types : ∀ e ∈ c.types.toList, e.source = some parser
  functions : ∀ e ∈ c.functions.toList, e.source = some parser

namespace CreditedTo

variable {parser : String} {loaded c : Collector}

theorem typeCount_eq (h : loaded.CreditedTo parser c) : loaded.typeCount = c.typeCount := by
  rw [typeCount, typeCount, KeyedList.size_eq_length, KeyedList.size_eq_length, h.types,
    List.length_map]

theorem functionCount_eq (h : loaded.CreditedTo parser c) :
    loaded.functionCount = c.functionCount := by
  rw [functionCount, functionCount, KeyedList.size_eq_length, KeyedList.size_eq_length,
    h.functions, List.length_map]

theorem isFrom (h : loaded.CreditedTo parser c) : loaded.IsFrom parser := by
  constructor
  · rw [h.types]
    exact List.forall_mem_map.2 fun _ _ => rfl
  · rw [h.functions]
    exact List.forall_mem_map.2 fun _ _ => rfl

end CreditedTo

theorem CreditedTo.sameEntries_creditedTo {parser : String} {loaded c : Collector}
    (h : CreditedTo parser loaded c) : loaded.SameEntries (c.creditedTo parser) where
  types := h.types.trans (toList_types_creditedTo parser c).symm
  functions := h.functions.trans (toList_functions_creditedTo parser c).symm

theorem isFrom_creditedTo (parser : String) (c : Collector) : (c.creditedTo parser).IsFrom parser :=
  CreditedTo.isFrom ⟨toList_types_creditedTo parser c, toList_functions_creditedTo parser c⟩

theorem CreditedTo.sameEntries {parser : String} {loaded c : Collector}
    (h : CreditedTo parser loaded c) (hc : c.IsFrom parser) : loaded.SameEntries c := by
  constructor
  · rw [h.types]
    conv_rhs => rw [← List.map_id c.types.toList]
    apply List.map_congr_left
    intro e he
    rw [TypeEntry.creditedTo, ← hc.types e he]
    rfl
  · rw [h.functions]
    conv_rhs => rw [← List.map_id c.functions.toList]
    apply List.map_congr_left
    intro e he
    rw [FunctionEntry.creditedTo, ← hc.functions e he]
    rfl

/-! ### Merging -/

theorem SameEntries.merge {a b : Collector} (h : a.SameEntries b) (c : Collector) :
    c.merge a = c.merge b := by
  unfold Collector.merge
  rw [h.types, h.functions]

/-- Collectors with the same entries are merged to the same. -/
theorem foldl_merge_congr {as bs : List Collector} (h : List.Forall₂ SameEntries as bs)
    (merged : Collector) :
    as.foldl (fun merged c => (merged.merge c).1) merged =
      bs.foldl (fun merged c => (merged.merge c).1) merged := by
  induction h generalizing merged with
  | nil => rfl
  | cons h _ ih => rw [List.foldl_cons, List.foldl_cons, h.merge, ih]

end Collector

/-! ### Parsing -/

/-- The addition is no merge. -/
def Addition.IsOwn : Addition → Prop
  | .type .. | .function .. => True
  | .merge _ => False

namespace Parser

/-- What a parser does to an image when it is handed the collector. -/
def passOver (p : Parser) (c : Collector) (v : Image) : Pass :=
  p.behavior.pass v (c.crediting (some p.name))

/-- Whether a parser starts over when it is handed the collector. -/
def startsOver (p : Parser) (c : Collector) (v : Image) : Bool :=
  p.behavior.startsOver v (c.crediting (some p.name))

/-- Who is credited with the entries that a parser adds when it is handed the collector.  If it
starts over, its new collector does not know it. -/
def credit (p : Parser) (c : Collector) (v : Image) : Option String :=
  if p.startsOver c v then none else some p.name

/-- What a parser does on an empty collector. -/
def ownPass (p : Parser) (v : Image) : Pass :=
  p.passOver .empty v

/-- On an empty collector, a parser adds entries of its own only. -/
structure AddsOwn (p : Parser) (v : Image) : Prop where
  keeps : p.startsOver .empty v = false
  own : ∀ a ∈ (p.ownPass v).additions, a.IsOwn

/-- What a parser leaves is what it adds, to what it was handed or to nothing. -/
theorem parseInto_eq (p : Parser) (c : Collector) (v : Image) : (p.parseInto c v).1 =
    (((if p.startsOver c v then .empty else c).crediting (p.credit c v)).addAll
      (p.passOver c v).additions).crediting c.source := by
  change ((if p.startsOver c v then Collector.empty else c.crediting (some p.name)).addAll
    (p.passOver c v).additions).crediting c.source = _
  rw [credit]
  split <;> rfl

section Keeps

variable {p : Parser} {c : Collector} {v : Image} (h : p.startsOver c v = false)
include h

theorem credit_of_keeps : p.credit c v = some p.name := by
  rw [credit, h, if_neg Bool.false_ne_true]

theorem parseInto_of_keeps : (p.parseInto c v).1 =
    ((c.crediting (some p.name)).addAll (p.passOver c v).additions).crediting c.source := by
  rw [parseInto_eq, credit_of_keeps h, h, if_neg Bool.false_ne_true]

end Keeps

end Parser

namespace Collector

theorem isFrom_addAll {parser : String} {additions : List Addition} {c : Collector}
    (hown : ∀ a ∈ additions, a.IsOwn) (hsource : c.source = some parser) (h : c.IsFrom parser) :
    (c.addAll additions).IsFrom parser := by
  induction additions generalizing c with
  | nil => exact h
  | cons a additions ih =>
    obtain ⟨ha, hrest⟩ := List.forall_mem_cons.1 hown
    cases a with
    | type name type =>
      change ((c.addType name type).addAll additions).IsFrom parser
      unfold addType
      split
      · refine ih hrest hsource ⟨?_, h.functions⟩
        rw [KeyedList.toList_push]
        exact List.forall_mem_append.2 ⟨h.types, List.forall_mem_singleton.2 hsource⟩
      · exact ih hrest hsource h
    | function f =>
      change ((c.addFunction f).addAll additions).IsFrom parser
      unfold addFunction
      split
      · refine ih hrest hsource ⟨h.types, ?_⟩
        rw [KeyedList.toList_push]
        exact List.forall_mem_append.2 ⟨h.functions, List.forall_mem_singleton.2 hsource⟩
      · exact ih hrest hsource h
    | merge other => exact ha.elim

/-- What a parser finds is what it adds to an empty collector. -/
theorem collector_finding (p : Parser) (v : Image) : (p.finding v).collector =
    ((empty.crediting (p.credit empty v)).addAll (p.ownPass v).additions).crediting none := by
  have hfound := p.parseInto_eq empty v
  rw [ite_self] at hfound
  exact hfound

/-- **What a parser finds is from it** if it adds entries of its own only, also if it fails. -/
theorem isFrom_finding {p : Parser} {v : Image} (hp : p.AddsOwn v) :
    (p.finding v).collector.IsFrom p.name := by
  have hempty : (empty.crediting (some p.name)).IsFrom p.name :=
    ⟨fun _ he => absurd he List.not_mem_nil, fun _ he => absurd he List.not_mem_nil⟩
  have h := isFrom_addAll hp.own rfl hempty
  rw [collector_finding, Parser.credit_of_keeps hp.keeps]
  exact ⟨h.types, h.functions⟩

theorem sound_finding (p : Parser) (v : Image) : (p.finding v).collector.Sound :=
  sound_empty.parseInto p v

end Collector

end DebugCatalog
