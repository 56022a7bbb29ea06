import DebugCatalog.Proofs.Collector.Adding
import DebugCatalog.Proofs.Image.Tables
import DebugCatalog.Proofs.Mangling.Segments
import DebugCatalog.Proofs.Parser.Registry
import Mathlib.Data.List.Forall2

/-!
# What the symbols parser finds

The symbols parser makes a record of each function symbol.  A collector would turn away a record
without any name, but the raw name of these is the name of a symbol, and symbols have names
(`functionEntries_of_symbols`).  It also turns away all but the first at an address, and nothing
else gets lost (`toList_functions_addAll_symbols`).

How names are read does not matter here: `path` may give any text, and also none.  The short name
is what the full name ends with.

* `symbols_of_tables`: what is found in an image, whatever the tables of its file hold.
-/

namespace DebugCatalog

/-- Removing what is not the first of its kind, before or after a change of all entries. -/
theorem eraseDupsBy_map {α β : Type} (f : α → β) (r : β → β → Bool) (as : List α) :
    (as.map f).eraseDupsBy r = (as.eraseDupsBy fun a b => r (f a) (f b)).map f := by
  induction h : as.length using Nat.strong_induction_on generalizing as with
  | _ n ih =>
    subst h
    cases as with
    | nil => rw [List.map_nil, List.eraseDupsBy_nil, List.eraseDupsBy_nil, List.map_nil]
    | cons a as =>
      have hlength := List.length_filter_le (fun b => decide (r (f b) (f a) = false)) as
      rw [List.map_cons, List.eraseDupsBy_cons, List.filter_map, List.eraseDupsBy_cons,
        List.map_cons, ← ih _ (Nat.lt_succ_of_le hlength) _ rfl]
      rfl

/-! ### Records of symbols -/

variable {path : String → String} {v : Image} {ss : List Symbol}

/-- What an entry says that was made of a symbol. -/
structure Symbol.IsFoundAs (path : String → String) (s : Symbol) (e : FunctionEntry) : Prop where
  rawName : e.function.rawName = s.name
  fullName : e.function.fullName = path s.name
  shortName : e.function.shortName.toList <:+ e.function.fullName.toList
  address : e.function.address = s.address
  returnType : e.function.returnType = .void
  parameters : e.function.parameters = []
  source : e.source = some Parser.symbolsName

/-- The entry that is made of a symbol. -/
def Symbol.entry (path : String → String) (s : Symbol) : FunctionEntry :=
  { function := s.functionRecord path, source := some Parser.symbolsName }

theorem Symbol.isFoundAs_entry (path : String → String) (s : Symbol) :
    s.IsFoundAs path (s.entry path) where
  rawName := rfl
  fullName := rfl
  shortName := Mangling.lastSegment_suffix (path s.name)
  address := rfl
  returnType := rfl
  parameters := rfl
  source := rfl

/-- A record has at least its raw name. -/
theorem Symbol.isAnonymous_functionRecord {s : Symbol} (h : s.name ≠ "") :
    (s.functionRecord path).isAnonymous = false :=
  Bool.and_eq_false_iff.2 (.inr (beq_eq_false_iff_ne.2 h))

theorem functionEntries_of_symbols (hss : ∀ s ∈ ss, s.name ≠ "") :
    (ss.map fun s => Addition.function (s.functionRecord path)).flatMap
      (Addition.functionEntries (some Parser.symbolsName)) = ss.map (Symbol.entry path) := by
  induction ss with
  | nil => rfl
  | cons s ss ih =>
    obtain ⟨hs, hss⟩ := List.forall_mem_cons.1 hss
    have hentry : Addition.functionEntries (some Parser.symbolsName)
        (.function (s.functionRecord path)) = [s.entry path] := by
      rw [Addition.functionEntries, Symbol.isAnonymous_functionRecord hs]
      rfl
    rw [List.map_cons, List.flatMap_cons, hentry, ih hss, List.map_cons, List.singleton_append]

theorem typeEntries_of_symbols (source : Option String) (ss : List Symbol) :
    (ss.map fun s => Addition.function (s.functionRecord path)).flatMap
      (Addition.typeEntries source) = [] := by
  induction ss with
  | nil => rfl
  | cons s ss ih => exact ih

namespace Parser

/-- What the symbols parser collects. -/
def symbolsFound (path : String → String) (v : Image) : Collector :=
  ((Collector.empty.crediting (some symbolsName)).addAll
    ((symbolsBy path).pass v .empty).additions).crediting none

theorem parse_symbolTable (path : String → String) (registration : Nat) (v : Image) :
    (symbolTable path registration).parse v = .ok (symbolsFound path v) := rfl

theorem accepts_symbolTable_iff (path : String → String) (registration : Nat) (v : Image) :
    (symbolTable path registration).accepts v = true ↔ v.functionSymbols ≠ [] := by
  have hjudge : (symbolTable path registration).behavior.judge v =
      .ofBool !v.functionSymbols.isEmpty := rfl
  rw [accepts, hjudge]
  cases v.functionSymbols with
  | nil => exact ⟨nofun, fun h => absurd rfl h⟩
  | cons s ss => exact ⟨fun _ => nofun, fun _ => rfl⟩

theorem types_symbolsFound (path : String → String) (v : Image) :
    (symbolsFound path v).types = .empty := by
  change ((Collector.empty.crediting (some symbolsName)).addAll _).types = _
  rw [Collector.types_addAll]
  exact congrArg (List.foldl KeyedList.offer _) (typeEntries_of_symbols _ v.functionSymbols)

theorem functions_symbolsFound (hv : ∀ s ∈ v.symbols, s.name ≠ "") :
    (symbolsFound path v).functions =
      (v.functionSymbols.map (Symbol.entry path)).foldl KeyedList.offer .empty := by
  have hnamed : ∀ s ∈ v.functionSymbols, s.name ≠ "" :=
    fun s hs => hv s (List.mem_filter.1 hs).1
  change ((Collector.empty.crediting (some symbolsName)).addAll _).functions = _
  rw [Collector.functions_addAll]
  exact congrArg (List.foldl KeyedList.offer _) (functionEntries_of_symbols hnamed)

/-- The functions are those of the symbols, less those that are not the first at their address. -/
theorem toList_functions_symbolsFound (hv : ∀ s ∈ v.symbols, s.name ≠ "") :
    (symbolsFound path v).functions.toList =
      (v.functionSymbols.eraseDupsBy fun s t => s.address == t.address).map
        (Symbol.entry path) := by
  have hfree : ∀ e ∈ v.functionSymbols.map (Symbol.entry path),
      (!(KeyedList.empty : KeyedList FunctionEntry.address).contains e.address) = true :=
    fun e _ => congrArg not (KeyedList.contains_empty _)
  rw [functions_symbolsFound hv, KeyedList.toList_foldl_offer_eq, List.filter_eq_self.2 hfree,
    KeyedList.toList_empty, List.nil_append, eraseDupsBy_map]
  rfl

/-- At an address, the first function symbol is found. -/
theorem functionAt_symbolsFound (hv : ∀ s ∈ v.symbols, s.name ≠ "") (address : UInt64) :
    (symbolsFound path v).functionAt address =
      (v.functionSymbols.find? fun s => s.address == address).map (Symbol.functionRecord path) := by
  rw [Collector.functionAt, functions_symbolsFound hv, KeyedList.sound_empty.find?_foldl_offer,
    KeyedList.find?_empty, Option.none_or, List.find?_map, Option.map_map]
  rfl

theorem isEmpty_symbolsFound (hv : ∀ s ∈ v.symbols, s.name ≠ "") (h : v.functionSymbols ≠ []) :
    (symbolsFound path v).isEmpty = false := by
  obtain ⟨s, ss, hss⟩ := List.exists_cons_of_ne_nil h
  have hfunctions : (symbolsFound path v).functions.toList ≠ [] := by
    rw [toList_functions_symbolsFound hv, hss, List.eraseDupsBy_cons]
    nofun
  refine Bool.and_eq_false_iff.2 (.inr (Bool.eq_false_iff.2 fun hempty => hfunctions ?_))
  exact Array.toList_eq_nil_iff.2 (Array.isEmpty_iff.1 hempty)

/-- **No address of a function symbol gets lost.**  Every image of bytes has headers that a
loader makes of tables.  Whatever such tables hold, and however names are read, symbols have
names, the symbols parser accepts an image exactly if there is a function symbol, and it never
fails.  It finds no types, and of the function symbols those that are the first at their
address, in their order.  So there is a function at each of their addresses, and something is
found in every image that is accepted. -/
theorem symbols_of_tables (path : String → String) (registration : Nat) :
    (∀ name b, (Image.ofBytes name b).toHeaders.FromTables) ∧
    ∀ v : Image, v.toHeaders.FromTables →
      (∀ s ∈ v.symbols, s.name ≠ "") ∧
      ((symbolTable path registration).accepts v = true ↔ v.functionSymbols ≠ []) ∧
      ∃ c, (symbolTable path registration).parse v = .ok c ∧ c.types.toList = [] ∧
        List.Forall₂ (Symbol.IsFoundAs path)
          (v.functionSymbols.eraseDupsBy fun s t => s.address == t.address) c.functions.toList ∧
        (∀ s ∈ v.functionSymbols, ∃ f, c.functionAt s.address = some f) ∧
        ((symbolTable path registration).accepts v = true → c.isEmpty = false) := by
  refine ⟨fun name b => Image.fromTables_load name none b, fun v hv => ?_⟩
  have hnames : ∀ s ∈ v.symbols, s.name ≠ "" := hv.name_ne
  have haccepts := accepts_symbolTable_iff path registration v
  refine ⟨hnames, haccepts, symbolsFound path v, parse_symbolTable path registration v, ?_, ?_, ?_,
    fun h => isEmpty_symbolsFound hnames (haccepts.1 h)⟩
  · rw [types_symbolsFound, KeyedList.toList_empty]
  · rw [toList_functions_symbolsFound hnames, List.forall₂_map_right_iff, List.forall₂_same]
    exact fun s _ => s.isFoundAs_entry path
  · intro s hs
    have hsome : (v.functionSymbols.find? fun t => t.address == s.address).isSome = true :=
      List.find?_isSome.2 ⟨s, hs, beq_self_eq_true s.address⟩
    obtain ⟨t, ht⟩ := Option.isSome_iff_exists.1 hsome
    exact ⟨t.functionRecord path, by rw [functionAt_symbolsFound hnames, ht, Option.map_some]⟩

/-- Tables with two functions at one address, and with one that has no name. -/
def twinTables : Image.Elf.File where
  machine := 62
  is64Bit := true
  entry := 0
  sections := []
  staticSymbols := [⟨"main", 2, 1, 0x1000, 0⟩, ⟨"start", 2, 1, 0x1000, 0⟩, ⟨"", 2, 1, 0x2000, 0⟩]
  dynamicSymbols := [⟨"main", 2, 1, 0x1000, 0⟩]

def twinImage : Image :=
  { twinTables.headers with name := "twins", path := none, bytes := ByteArray.empty }

/-- Even if names are read as no text at all, the first function is found. -/
theorem symbols_of_tables_twins : ∃ c e, (symbolTable (fun _ => "") 0).parse twinImage = .ok c ∧
    c.functions.toList = [e] ∧ e.function.rawName = "main" ∧ e.function.address = 0x1000 ∧
    c.isEmpty = false := by
  obtain ⟨-, haccepts, c, hparse, -, hfunctions, -, hfound⟩ :=
    (symbols_of_tables (fun _ => "") 0).2 twinImage (.elf twinTables)
  have hfirst : (twinImage.functionSymbols.eraseDupsBy fun s t => s.address == t.address) =
      [{ name := "main", address := 0x1000, size := none, kind := .function }] := by decide
  rw [hfirst] at hfunctions
  generalize hlist : c.functions.toList = found at hfunctions
  obtain ⟨⟩ | ⟨he, ⟨⟩⟩ := hfunctions
  exact ⟨c, _, hparse, hlist, he.rawName, he.address, hfound (haccepts.2 (by decide))⟩

end Parser

end DebugCatalog
