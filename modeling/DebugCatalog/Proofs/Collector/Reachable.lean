import DebugCatalog.Parser.Basic
import DebugCatalog.Proofs.KeyedList

/-!
# Collectors that parsers can make

`Reachable` are the collectors that come about by adding, merging and parsing,
beginning with the empty one.  All of them are `Sound`: both keyed lists are
sound, and nothing nameless is in them.

Merging and parsing come down to adding one entry and saying who is credited with
the next.  So they keep whatever these two keep (`IsKept`).

`foldl_addType` and `foldl_addFunction` say what becomes of a list of additions
that a sound collector takes as a whole: nothing is left out, the order stays, and
all are credited alike.
-/

namespace DebugCatalog

namespace Collector

/-- What adding keeps: right indices, and no entry without a name. -/
structure Sound (c : Collector) : Prop where
  types : c.types.Sound
  functions : c.functions.Sound
  typeNamed : ∀ e ∈ c.types.toList, e.name ≠ ""
  functionNamed : ∀ e ∈ c.functions.toList, e.function.isAnonymous = false

/-- A collector that is made from the empty one by what whoever has a collector
can do with it. -/
inductive Reachable : Collector → Prop
  | empty : Reachable .empty
  | addType {c : Collector} (h : Reachable c) (name : String) (type : DataType) :
      Reachable (c.addType name type)
  | addFunction {c : Collector} (h : Reachable c) (f : FunctionRecord) :
      Reachable (c.addFunction f)
  | merge {c other : Collector} (h : Reachable c) (hother : Reachable other) :
      Reachable (c.merge other).1
  | parseInto {c : Collector} (h : Reachable c) (p : Parser) (v : Image) :
      Reachable (p.parseInto c v).1

/-! ### What everything keeps -/

/-- A property that is kept when one entry is added and when the credit changes. -/
structure IsKept (P : Collector → Prop) : Prop where
  crediting : ∀ {c : Collector} (source : Option String), P c → P (c.crediting source)
  addType : ∀ {c : Collector} (name : String) (type : DataType), P c → P (c.addType name type)
  addFunction : ∀ {c : Collector} (f : FunctionRecord), P c → P (c.addFunction f)

namespace IsKept

variable {P : Collector → Prop} {c : Collector}

theorem foldl_absorbType (h : IsKept P) (es : List TypeEntry) {state : Collector × MergeCount}
    (hstate : P state.1) : P (es.foldl absorbType state).1 := by
  induction es generalizing state with
  | nil => exact hstate
  | cons e es ih => exact ih (h.addType e.name e.type (h.crediting e.source hstate))

theorem foldl_absorbFunction (h : IsKept P) (es : List FunctionEntry)
    {state : Collector × MergeCount} (hstate : P state.1) :
    P (es.foldl absorbFunction state).1 := by
  induction es generalizing state with
  | nil => exact hstate
  | cons e es ih => exact ih (h.addFunction e.function (h.crediting e.source hstate))

theorem merge (h : IsKept P) (hc : P c) (other : Collector) : P (c.merge other).1 :=
  h.crediting c.source (h.foldl_absorbFunction _ (h.foldl_absorbType _ hc))

theorem addAll (h : IsKept P) (hc : P c) (additions : List Addition) : P (c.addAll additions) := by
  induction additions generalizing c with
  | nil => exact hc
  | cons a additions ih =>
    cases a with
    | type name type => exact ih (h.addType name type hc)
    | function f => exact ih (h.addFunction f hc)
    | merge other => exact ih (h.merge hc other)

/-- A pass keeps it too, also if it starts over. -/
theorem parseInto (h : IsKept P) (hempty : P .empty) (hc : P c) (p : Parser) (v : Image) :
    P (p.parseInto c v).1 := by
  refine h.crediting c.source (h.addAll ?_ _)
  split
  · exact hempty
  · exact h.crediting (some p.name) hc

end IsKept

theorem sound_empty : empty.Sound where
  types := KeyedList.sound_empty
  functions := KeyedList.sound_empty
  typeNamed := fun _ he => absurd he List.not_mem_nil
  functionNamed := fun _ he => absurd he List.not_mem_nil

namespace Sound

variable {c : Collector}

/-! ### Adding -/

theorem takesType_iff (h : c.Sound) (name : String) :
    c.takesType name = true ↔ name ≠ "" ∧ ∀ e ∈ c.types.toList, e.name ≠ name := by
  rw [takesType, Bool.and_eq_true, bne_iff_ne, Bool.not_eq_true', h.types.contains_eq_false_iff]

theorem takesFunction_iff (h : c.Sound) (f : FunctionRecord) :
    c.takesFunction f = true ↔
      f.isAnonymous = false ∧ ∀ e ∈ c.functions.toList, e.address ≠ f.address := by
  rw [takesFunction, Bool.and_eq_true, Bool.not_eq_true', Bool.not_eq_true',
    h.functions.contains_eq_false_iff]

theorem type?_eq (h : c.Sound) (name : String) :
    c.type? name = (c.types.toList.find? fun e => e.name == name).map TypeEntry.type := by
  rw [type?, h.types.find?_eq]

theorem functionAt_eq (h : c.Sound) (address : UInt64) :
    c.functionAt address =
      (c.functions.toList.find? fun e => e.address == address).map FunctionEntry.function := by
  rw [functionAt, h.functions.find?_eq]

theorem functionAt_eq_some_iff (h : c.Sound) {address : UInt64} {f : FunctionRecord} :
    c.functionAt address = some f ↔
      ∃ e ∈ c.functions.toList, e.function = f ∧ e.address = address := by
  rw [functionAt, Option.map_eq_some_iff]
  constructor
  · rintro ⟨e, he, rfl⟩
    obtain ⟨he, haddress⟩ := (h.functions.find?_eq_some_iff _ _).1 he
    exact ⟨e, he, rfl, haddress⟩
  · rintro ⟨e, he, rfl, haddress⟩
    exact ⟨e, (h.functions.find?_eq_some_iff _ _).2 ⟨he, haddress⟩, rfl⟩

theorem address_of_functionAt (h : c.Sound) {address : UInt64} {f : FunctionRecord}
    (hf : c.functionAt address = some f) : f.address = address := by
  obtain ⟨e, -, rfl, haddress⟩ := h.functionAt_eq_some_iff.1 hf
  exact haddress

theorem crediting (h : c.Sound) (source : Option String) : (c.crediting source).Sound :=
  ⟨h.types, h.functions, h.typeNamed, h.functionNamed⟩

theorem addType (h : c.Sound) (name : String) (type : DataType) : (c.addType name type).Sound := by
  unfold Collector.addType
  split
  · next htakes =>
    obtain ⟨hname, hfree⟩ := (h.takesType_iff name).1 htakes
    refine ⟨h.types.push ((h.types.contains_eq_false_iff _).2 hfree), h.functions, ?_,
      h.functionNamed⟩
    intro e he
    rw [KeyedList.toList_push, List.mem_append, List.mem_singleton] at he
    rcases he with he | rfl
    · exact h.typeNamed e he
    · exact hname
  · exact h

theorem addFunction (h : c.Sound) (f : FunctionRecord) : (c.addFunction f).Sound := by
  unfold Collector.addFunction
  split
  · next htakes =>
    obtain ⟨hname, hfree⟩ := (h.takesFunction_iff f).1 htakes
    refine ⟨h.types, h.functions.push ((h.functions.contains_eq_false_iff _).2 hfree),
      h.typeNamed, ?_⟩
    intro e he
    rw [KeyedList.toList_push, List.mem_append, List.mem_singleton] at he
    rcases he with he | rfl
    · exact h.functionNamed e he
    · exact hname
  · exact h

/-! ### Merging and parsing -/

theorem isKept : IsKept Sound where
  crediting source h := h.crediting source
  addType name type h := h.addType name type
  addFunction f h := h.addFunction f

theorem merge (h : c.Sound) (other : Collector) : (c.merge other).1.Sound :=
  isKept.merge h other

theorem parseInto (h : c.Sound) (p : Parser) (v : Image) : (p.parseInto c v).1.Sound :=
  isKept.parseInto sound_empty h p v

end Sound

theorem Reachable.sound {c : Collector} (h : c.Reachable) : c.Sound := by
  induction h with
  | empty => exact sound_empty
  | addType _ name type ih => exact ih.addType name type
  | addFunction _ f ih => exact ih.addFunction f
  | merge _ _ ih _ => exact ih.merge _
  | parseInto _ p v ih => exact ih.parseInto p v

/-! ### Additions that are all taken -/

theorem addType_of_takes {c : Collector} {name : String} (h : c.takesType name = true)
    (type : DataType) :
    c.addType name type =
      { c with types := c.types.push { name, type, source := c.source } } := if_pos h

theorem addFunction_of_takes {c : Collector} {f : FunctionRecord} (h : c.takesFunction f = true) :
    c.addFunction f =
      { c with functions := c.functions.push { function := f, source := c.source } } := if_pos h

/-- The first function is taken if it has a name. -/
theorem addFunction_empty {f : FunctionRecord} (h : f.isAnonymous = false) :
    empty.addFunction f =
      { empty with functions := KeyedList.empty.push { function := f, source := none } } :=
  addFunction_of_takes ((sound_empty.takesFunction_iff f).2
    ⟨h, fun _ he => absurd he List.not_mem_nil⟩)

/-- Types with new names are taken one after the other. -/
theorem foldl_addType {c : Collector} (hc : c.Sound) (ts : List (String × DataType))
    (hnamed : ∀ t ∈ ts, t.1 ≠ "") (hdistinct : (ts.map Prod.fst).Nodup)
    (hnew : ∀ t ∈ ts, ∀ e ∈ c.types.toList, e.name ≠ t.1) :
    let r := ts.foldl (fun c t => c.addType t.1 t.2) c
    r.Sound ∧
      r.types.toList =
        c.types.toList ++ ts.map (fun t => { name := t.1, type := t.2, source := c.source }) ∧
      r.functions = c.functions ∧ r.source = c.source := by
  induction ts generalizing c with
  | nil => exact ⟨hc, by simp, rfl, rfl⟩
  | cons t ts ih =>
    obtain ⟨hfresh, hdistinct⟩ := List.nodup_cons.1 hdistinct
    have htakes : c.takesType t.1 = true := (hc.takesType_iff _).2
      ⟨hnamed t (List.mem_cons_self ..), hnew t (List.mem_cons_self ..)⟩
    have hadd := addType_of_takes htakes t.2
    have hnext : ∀ u ∈ ts, ∀ e ∈ (c.addType t.1 t.2).types.toList, e.name ≠ u.1 := by
      intro u hu e he
      rw [hadd, KeyedList.toList_push, List.mem_append, List.mem_singleton] at he
      rcases he with he | rfl
      · exact hnew u (List.mem_cons_of_mem _ hu) e he
      · intro heq
        exact hfresh (List.mem_map.2 ⟨u, hu, heq.symm⟩)
    obtain ⟨hsound, htypes, hfunctions, hsource⟩ := ih (hc.addType t.1 t.2)
      (fun u hu => hnamed u (List.mem_cons_of_mem _ hu)) hdistinct hnext
    refine ⟨hsound, ?_, ?_, ?_⟩
    · rw [List.foldl_cons, htypes, hadd, KeyedList.toList_push]
      simp
    · rw [List.foldl_cons, hfunctions, hadd]
    · rw [List.foldl_cons, hsource, hadd]

/-- Functions at new addresses are taken one after the other. -/
theorem foldl_addFunction {c : Collector} (hc : c.Sound) (fs : List FunctionRecord)
    (hnamed : ∀ f ∈ fs, f.isAnonymous = false) (hdistinct : (fs.map FunctionRecord.address).Nodup)
    (hnew : ∀ f ∈ fs, ∀ e ∈ c.functions.toList, e.address ≠ f.address) :
    let r := fs.foldl Collector.addFunction c
    r.Sound ∧
      r.functions.toList =
        c.functions.toList ++ fs.map (fun f => { function := f, source := c.source }) ∧
      r.types = c.types ∧ r.source = c.source := by
  induction fs generalizing c with
  | nil => exact ⟨hc, by simp, rfl, rfl⟩
  | cons f fs ih =>
    obtain ⟨hfresh, hdistinct⟩ := List.nodup_cons.1 hdistinct
    have htakes : c.takesFunction f = true := (hc.takesFunction_iff _).2
      ⟨hnamed f (List.mem_cons_self ..), hnew f (List.mem_cons_self ..)⟩
    have hadd := addFunction_of_takes htakes
    have hnext : ∀ g ∈ fs, ∀ e ∈ (c.addFunction f).functions.toList, e.address ≠ g.address := by
      intro g hg e he
      rw [hadd, KeyedList.toList_push, List.mem_append, List.mem_singleton] at he
      rcases he with he | rfl
      · exact hnew g (List.mem_cons_of_mem _ hg) e he
      · intro heq
        exact hfresh (List.mem_map.2 ⟨g, hg, heq.symm⟩)
    obtain ⟨hsound, hfunctions, htypes, hsource⟩ := ih (hc.addFunction f)
      (fun g hg => hnamed g (List.mem_cons_of_mem _ hg)) hdistinct hnext
    refine ⟨hsound, ?_, ?_, ?_⟩
    · rw [List.foldl_cons, hfunctions, hadd, KeyedList.toList_push]
      simp
    · rw [List.foldl_cons, htypes, hadd]
    · rw [List.foldl_cons, hsource, hadd]

end Collector

end DebugCatalog
