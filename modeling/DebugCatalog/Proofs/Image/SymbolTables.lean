import DebugCatalog.Image.Load
import Mathlib.Data.List.Forall2
import Mathlib.Data.List.Nodup
import Mathlib.Data.Nat.Find

/-!
# Symbols of ELF files

The symbols of an ELF file come from two tables, which mostly repeat one another.
`distinctSymbols` runs over both with the names and addresses that it had before.  This file says
what comes out of it by places in the tables alone.

* `IsFirst es i`: the entry at place `i` makes a symbol, and no entry before it that makes one has
  the same name and address.
* `exists_places`: one by one and in order, the symbols describe the entries at these places.  The
  induction is along the entries, whatever came before them.
* `symbols_of_entries`: so there is a symbol for all that have one, and only one.
-/

namespace DebugCatalog

/-- What tells symbols apart. -/
def Symbol.key (s : Symbol) : String × UInt64 :=
  (s.name, s.address)

namespace Image.Elf

variable {e : Entry} {es : List Entry} {s : Symbol} {seen : List (String × UInt64)} {i j : Nat}

namespace Entry

def key (e : Entry) : String × UInt64 :=
  (e.name, e.value)

def IsFunction (e : Entry) : Prop :=
  e.info % 16 = 2

def IsObject (e : Entry) : Prop :=
  e.info % 16 = 1

/-- Entries that make a symbol: functions and objects with a section and a name. -/
structure Eligible (e : Entry) : Prop where
  defined : e.sectionIndex ≠ undefinedIndex
  kind : e.IsFunction ∨ e.IsObject
  name : e.name ≠ ""

/-- The symbol has the name, address, size and kind of the entry. -/
structure Describes (e : Entry) (s : Symbol) : Prop where
  key : s.key = e.key
  size : s.size = if e.size = 0 then none else some e.size
  kind : (s.kind = .function ∧ e.IsFunction) ∨ (s.kind = .data ∧ e.IsObject)

theorem kind?_eq_none_iff : e.kind? = none ↔ ¬(e.IsFunction ∨ e.IsObject) := by
  unfold kind? IsFunction IsObject
  grind

theorem kind?_eq_some_iff {kind : SymbolKind} : e.kind? = some kind ↔
    (kind = .function ∧ e.IsFunction) ∨ (kind = .data ∧ e.IsObject) := by
  unfold kind? IsFunction IsObject
  grind

theorem symbol?_eq_none_iff : e.symbol? = none ↔ ¬e.Eligible := by
  unfold symbol?
  split
  · next hleft =>
    exact iff_of_true rfl fun h => hleft.elim h.defined h.name
  · next hkept =>
    rw [Option.map_eq_none_iff, kind?_eq_none_iff, not_iff_not]
    exact ⟨fun h => ⟨fun hd => hkept (.inl hd), h, fun hn => hkept (.inr hn)⟩, Eligible.kind⟩

theorem describes_of_symbol? (h : e.symbol? = some s) : e.Describes s := by
  unfold symbol? at h
  split at h
  · cases h
  · obtain ⟨kind, hkind, rfl⟩ := Option.map_eq_some_iff.1 h
    exact ⟨rfl, rfl, kind?_eq_some_iff.1 hkind⟩

theorem eligible_of_symbol? (h : e.symbol? = some s) : e.Eligible := by
  by_contra hnot
  rw [symbol?_eq_none_iff.2 hnot] at h
  cases h

end Entry

/-! ### Places -/

/-- The entry at place `i` makes a symbol, and its key is new: it is not among those seen before,
and no entry at an earlier place that makes a symbol has it. -/
def IsNew (seen : List (String × UInt64)) (es : List Entry) (i : Nat) : Prop :=
  ∃ e, es[i]? = some e ∧ e.Eligible ∧ e.key ∉ seen ∧
    ∀ j < i, ∀ d, es[j]? = some d → d.Eligible → d.key ≠ e.key

/-- The entry at place `i` makes a symbol and is the first to do so with its name and address. -/
def IsFirst (es : List Entry) (i : Nat) : Prop :=
  IsNew [] es i

theorem isNew_zero : IsNew seen (e :: es) 0 ↔ e.Eligible ∧ e.key ∉ seen := by
  constructor
  · rintro ⟨_, he, heligible, hnew, -⟩
    cases he
    exact ⟨heligible, hnew⟩
  · rintro ⟨heligible, hnew⟩
    exact ⟨e, rfl, heligible, hnew, fun j hj => absurd hj (Nat.not_lt_zero j)⟩

theorem isNew_succ_of_not_eligible (he : ¬e.Eligible) :
    IsNew seen (e :: es) (i + 1) ↔ IsNew seen es i := by
  refine exists_congr fun c => and_congr_right fun _ => and_congr_right fun _ =>
    and_congr_right fun _ => ⟨fun h j hj => h (j + 1) (Nat.succ_lt_succ hj), fun h j hj d hd => ?_⟩
  cases j with
  | zero =>
    cases hd
    exact fun heligible => absurd heligible he
  | succ j => exact h j (Nat.lt_of_succ_lt_succ hj) d hd

/-- An entry that makes a symbol might as well have been seen before. -/
theorem isNew_succ_of_eligible (he : e.Eligible) :
    IsNew seen (e :: es) (i + 1) ↔ IsNew (e.key :: seen) es i := by
  refine exists_congr fun c => and_congr_right fun _ => and_congr_right fun _ => ?_
  rw [List.mem_cons, not_or]
  constructor
  · rintro ⟨hnew, hearlier⟩
    have hfirst := hearlier 0 (Nat.succ_pos i) e rfl he
    exact ⟨⟨hfirst.symm, hnew⟩, fun j hj => hearlier (j + 1) (Nat.succ_lt_succ hj)⟩
  · rintro ⟨⟨hfirst, hnew⟩, hearlier⟩
    refine ⟨hnew, fun j hj d hd => ?_⟩
    cases j with
    | zero =>
      cases hd
      exact fun _ => Ne.symm hfirst
    | succ j => exact hearlier j (Nat.lt_of_succ_lt_succ hj) d hd

theorem isNew_cons_of_mem (hseen : e.key ∈ seen) :
    IsNew (e.key :: seen) es i ↔ IsNew seen es i := by
  refine exists_congr fun c => and_congr_right fun _ => and_congr_right fun _ => ?_
  have hmem : c.key ∈ e.key :: seen ↔ c.key ∈ seen :=
    ⟨fun h => (List.mem_cons.1 h).elim (· ▸ hseen) id, List.mem_cons_of_mem _⟩
  rw [hmem]

/-- Places, in order, from which symbols come. -/
structure Places (seen : List (String × UInt64)) (es : List Entry) (ps : List Nat) : Prop where
  ascending : ps.Pairwise (· < ·)
  mem_iff : ∀ i, i ∈ ps ↔ IsNew seen es i

/-- The symbol describes the entry at a place. -/
def DescribedAt (es : List Entry) (i : Nat) (s : Symbol) : Prop :=
  ∃ e, es[i]? = some e ∧ e.Describes s

theorem ascending_map_succ {ps : List Nat} (h : ps.Pairwise (· < ·)) :
    (ps.map (· + 1)).Pairwise (· < ·) :=
  List.pairwise_map.2 (h.imp Nat.succ_lt_succ)

/-- The first entry has no place of its own. -/
theorem Places.skip {seen' : List (String × UInt64)} {ps : List Nat} (h : Places seen' es ps)
    (hzero : ¬IsNew seen (e :: es) 0)
    (hsucc : ∀ i, IsNew seen (e :: es) (i + 1) ↔ IsNew seen' es i) :
    Places seen (e :: es) (ps.map (· + 1)) where
  ascending := ascending_map_succ h.ascending
  mem_iff i := by
    cases i with
    | zero => exact iff_of_false (by simp) hzero
    | succ i => simp [hsucc, h.mem_iff]

theorem Places.keep {ps : List Nat} (h : Places (e.key :: seen) es ps) (he : e.Eligible)
    (hnew : e.key ∉ seen) : Places seen (e :: es) (0 :: ps.map (· + 1)) where
  ascending := List.pairwise_cons.2 ⟨by simp, ascending_map_succ h.ascending⟩
  mem_iff i := by
    cases i with
    | zero => exact iff_of_true List.mem_cons_self (isNew_zero.2 ⟨he, hnew⟩)
    | succ i => simp [isNew_succ_of_eligible he, h.mem_iff]

theorem describedAt_map_succ {ps : List Nat} {ss : List Symbol}
    (h : List.Forall₂ (DescribedAt es) ps ss) :
    List.Forall₂ (DescribedAt (e :: es)) (ps.map (· + 1)) ss :=
  List.forall₂_map_left_iff.2 h

theorem exists_places (seen : List (String × UInt64)) (es : List Entry) :
    ∃ ps, Places seen es ps ∧ List.Forall₂ (DescribedAt es) ps (distinctSymbols seen es) := by
  induction es generalizing seen with
  | nil =>
    refine ⟨[], ⟨.nil, fun i => iff_of_false List.not_mem_nil ?_⟩, .nil⟩
    rintro ⟨_, he, -⟩
    cases he
  | cons e es ih =>
    rw [distinctSymbols]
    split
    · next hnone =>
      have he := Entry.symbol?_eq_none_iff.1 hnone
      obtain ⟨ps, hps, hall⟩ := ih seen
      exact ⟨_, hps.skip (fun h => he (isNew_zero.1 h).1) fun i => isNew_succ_of_not_eligible he,
        describedAt_map_succ hall⟩
    · next s hsome =>
      have he := Entry.eligible_of_symbol? hsome
      have hs := Entry.describes_of_symbol? hsome
      rw [show (s.name, s.address) = e.key from hs.key]
      split
      · next hseen =>
        obtain ⟨ps, hps, hall⟩ := ih seen
        refine ⟨_, hps.skip (fun h => (isNew_zero.1 h).2 hseen) fun i => ?_,
          describedAt_map_succ hall⟩
        rw [isNew_succ_of_eligible he, isNew_cons_of_mem hseen]
      · next hnew =>
        obtain ⟨ps, hps, hall⟩ := ih (e.key :: seen)
        exact ⟨_, hps.keep he hnew, .cons ⟨e, rfl, hs⟩ (describedAt_map_succ hall)⟩

/-! ### What follows from the places -/

/-- The key of the entry at a place. -/
def keyAt (es : List Entry) (i : Nat) : Option (String × UInt64) :=
  es[i]?.map Entry.key

theorem map_key_eq {ps : List Nat} {ss : List Symbol} (h : List.Forall₂ (DescribedAt es) ps ss) :
    ps.map (keyAt es) = ss.map fun s => some s.key := by
  induction h with
  | nil => rfl
  | cons hd _ ih =>
    obtain ⟨e, he, hs⟩ := hd
    rw [List.map_cons, List.map_cons, ih, keyAt, he, Option.map_some, hs.key]

/-- Places with the same key are the same. -/
theorem eq_of_keyAt_eq (hi : IsFirst es i) (hj : IsFirst es j) (h : keyAt es i = keyAt es j) :
    i = j := by
  obtain ⟨d, hd, hdeligible, -, hdfirst⟩ := hi
  obtain ⟨e, he, heeligible, -, hefirst⟩ := hj
  have hkey : d.key = e.key := by
    rw [keyAt, keyAt, hd, he] at h
    exact Option.some.inj h
  rcases Nat.lt_trichotomy i j with hlt | heq | hgt
  · exact absurd hkey (hefirst i hlt d hd hdeligible)
  · exact heq
  · exact absurd hkey.symm (hdfirst j hgt e he heeligible)

/-- What makes a symbol has a first entry that does. -/
theorem exists_isFirst (he : e ∈ es) (heligible : e.Eligible) :
    ∃ i, IsFirst es i ∧ keyAt es i = some e.key := by
  classical
  obtain ⟨place, hplace⟩ := List.mem_iff_getElem?.1 he
  have hexists : ∃ i, ∃ d : Entry, es[i]? = some d ∧ d.Eligible ∧ d.key = e.key :=
    ⟨place, e, hplace, heligible, rfl⟩
  obtain ⟨d, hd, hdeligible, hdkey⟩ := Nat.find_spec hexists
  refine ⟨Nat.find hexists, ⟨d, hd, hdeligible, List.not_mem_nil, ?_⟩, ?_⟩
  · intro j hj c hc hceligible hckey
    exact Nat.find_min hexists hj ⟨c, hc, hceligible, hckey.trans hdkey⟩
  · rw [keyAt, hd, Option.map_some, hdkey]

/-! ### Both tables -/

/-- The entries of both tables, the static ones first. -/
def File.entries (f : File) : List Entry :=
  f.staticSymbols ++ f.dynamicSymbols

/-- An image that starts like an ELF file and can be read as one has its headers. -/
theorem toHeaders_load {f : File} {b : ByteArray} (hsize : minimalSize ≤ b.size)
    (hmagic : Bytes.number? b .big 4 0 = some 0x7f454c46) (hparse : parse b = some f)
    (name : String) (path : Option String) : (load name path b).toHeaders = f.headers := by
  have hrecognize : recognize b = some f.headers := by
    rw [recognize, if_neg (Nat.not_lt.2 hsize), hmagic]
    change Option.map File.headers (parse b) = _
    rw [hparse, Option.map_some]
  change (recognize b).getD .raw = _
  rw [hrecognize, Option.getD_some]

/-- **Symbols of an ELF file.**  Whatever its tables hold, no two symbols have the same name and
address, and the names at addresses that have a symbol are those of the entries that make one.
The symbols are in the order of the places where such an entry is the first of its name and
address, and have the kind and size of that entry.

They are the symbols of every image that is read from the file. -/
theorem symbols_of_entries (f : File) :
    (f.headers.symbols.map Symbol.key).Nodup ∧
    (∀ k, k ∈ f.headers.symbols.map Symbol.key ↔ ∃ e ∈ f.entries, e.Eligible ∧ e.key = k) ∧
    (∃ ps : List Nat, ps.Pairwise (· < ·) ∧ (∀ i, i ∈ ps ↔ IsFirst f.entries i) ∧
      List.Forall₂ (DescribedAt f.entries) ps f.headers.symbols) ∧
    ∀ (name : String) (path : Option String) (b : ByteArray), minimalSize ≤ b.size →
      Bytes.number? b .big 4 0 = some 0x7f454c46 → parse b = some f →
      (load name path b).symbols = f.headers.symbols := by
  obtain ⟨ps, ⟨hascending, hfirst⟩, hall⟩ := exists_places [] f.entries
  have hkeys := map_key_eq hall
  refine ⟨?_, fun k => ⟨fun hk => ?_, ?_⟩, ⟨ps, hascending, hfirst, hall⟩, ?_⟩
  · have hnodup : (ps.map (keyAt f.entries)).Nodup :=
      hascending.nodup.map_on fun i hi j hj => eq_of_keyAt_eq ((hfirst i).1 hi) ((hfirst j).1 hj)
    rw [hkeys] at hnodup
    exact .of_map some (by rwa [List.map_map])
  · have hplace : some k ∈ ps.map (keyAt f.entries) := by
      rw [hkeys]
      obtain ⟨s, hs, rfl⟩ := List.mem_map.1 hk
      exact List.mem_map_of_mem hs
    obtain ⟨i, hi, hkey⟩ := List.mem_map.1 hplace
    obtain ⟨e, he, heligible, -⟩ := (hfirst i).1 hi
    rw [keyAt, he] at hkey
    exact ⟨e, List.mem_of_getElem? he, heligible, Option.some.inj hkey⟩
  · rintro ⟨e, he, heligible, rfl⟩
    obtain ⟨i, hi, hkey⟩ := exists_isFirst he heligible
    have hplace : some e.key ∈ ps.map (keyAt f.entries) :=
      hkey ▸ List.mem_map_of_mem ((hfirst i).2 hi)
    rw [hkeys] at hplace
    obtain ⟨s, hs, hskey⟩ := List.mem_map.1 hplace
    exact List.mem_map.2 ⟨s, hs, Option.some.inj hskey⟩
  · intro name path b hsize hmagic hparse
    rw [toHeaders_load hsize hmagic hparse name path]

/-- A file with three symbols at one address: the function `a`, the object `b`, and `a` again as
an object of another size. -/
def twiceNamed : ByteArray :=
  let header : List UInt8 :=
    [0x7f, 0x45, 0x4c, 0x46, 1, 1, 1, 0, 0, 0, 0, 0, 0, 0, 0, 0, 1, 0, 3, 0, 1, 0, 0, 0, 0, 0, 0, 0,
      0, 0, 0, 0, 52, 0, 0, 0, 0, 0, 0, 0, 52, 0, 32, 0, 0, 0, 40, 0, 3, 0, 0, 0]
  let symbols : List UInt8 :=
    [0, 0, 0, 0, 2, 0, 0, 0, 0, 0, 0, 0, 0, 0, 0, 0, 172, 0, 0, 0, 48, 0, 0, 0, 2, 0, 0, 0,
      0, 0, 0, 0, 0, 0, 0, 0, 16, 0, 0, 0]
  let strings : List UInt8 :=
    [0, 0, 0, 0, 3, 0, 0, 0, 0, 0, 0, 0, 0, 0, 0, 0, 220, 0, 0, 0, 5, 0, 0, 0, 0, 0, 0, 0,
      0, 0, 0, 0, 0, 0, 0, 0, 0, 0, 0, 0]
  let entries : List UInt8 :=
    [1, 0, 0, 0, 16, 0, 0, 0, 4, 0, 0, 0, 0x12, 0, 1, 0,
      3, 0, 0, 0, 16, 0, 0, 0, 0, 0, 0, 0, 0x11, 0, 1, 0,
      1, 0, 0, 0, 16, 0, 0, 0, 8, 0, 0, 0, 0x11, 0, 1, 0]
  ⟨(header ++ List.replicate 40 0 ++ symbols ++ strings ++ entries ++ [0, 97, 0, 98, 0]).toArray⟩

def tablesOfTwiceNamed : File :=
  (parse twiceNamed).get (by decide +kernel)

/-- `b` stays beside `a`, and the second `a` is left out. -/
theorem symbols_of_entries_twiceNamed :
    parse twiceNamed = some tablesOfTwiceNamed ∧
    (tablesOfTwiceNamed.headers.symbols.map Symbol.key).Nodup ∧
    (load "twice" none twiceNamed).symbols =
      [⟨"a", 16, some 4, .function⟩, ⟨"b", 16, none, .data⟩] := by
  have hparse : parse twiceNamed = some tablesOfTwiceNamed := (Option.some_get _).symm
  obtain ⟨hnodup, -, -, hload⟩ := symbols_of_entries tablesOfTwiceNamed
  refine ⟨hparse, hnodup, ?_⟩
  rw [hload "twice" none twiceNamed (by decide +kernel) (by decide +kernel) hparse]
  decide +kernel

end Image.Elf

end DebugCatalog
