import DebugCatalog.Proofs.Store.History
import DebugCatalog.Proofs.Store.Transaction

/-!
# Calls and their answers

A store is used by calls, one after the other.  Each brings an answer, and one that fails leaves
the store as it was.  `callAll` has the answers of all calls and the store in the end, and
`succeeded` picks the calls that did what they were asked for.

* `callAll_induct`: what holds in the beginning, and is kept by a call with its answer, holds
  in the end of all calls that succeeded.
* `callAll_succeeded`: without the calls that failed the others have the same answers, and
  leave the same store.
* `exists_of_callAll`: each answer is the one to a call in the store that the earlier ones left.

What such calls enter into a table stays there, under the numbers from one on (`Numbered.Holds`).
-/

namespace DebugCatalog

/-! ### Tables that only grew -/

namespace Numbered

variable {α : Type} {t : Numbered α} {rows : List (Int × α)}

/-- All rows that were ever entered are there, and numbered from one. -/
structure Holds (t : Numbered α) (rows : List (Int × α)) : Prop where
  rows_eq : t.rows = rows
  largest_eq : t.largest = rows.length
  numbers : rows.map Prod.fst = (List.range' 1 rows.length).map Int.ofNat

namespace Holds

theorem empty : (Numbered.empty : Numbered α).Holds [] :=
  ⟨rfl, rfl, rfl⟩

theorem next_eq (h : t.Holds rows) : t.next = rows.length + 1 := by
  rw [Numbered.next, h.largest_eq]

theorem push (h : t.Holds rows) (a : α) : (t.push a).Holds (rows ++ [(t.next, a)]) := by
  refine ⟨?_, ?_, ?_⟩
  · rw [rows_push, h.rows_eq]
  · rw [largest_push, h.next_eq, List.length_append, List.length_singleton]
    rfl
  · rw [List.map_append, h.numbers, List.length_append, List.length_singleton,
      List.range'_concat, List.map_append, List.map_singleton, List.map_singleton, h.next_eq,
      Nat.one_mul, Nat.add_comm]
    rfl

theorem next_le_iff (h : t.Holds rows) :
    t.next ≤ maxNumber ↔ (rows.length : Int) < maxNumber := by
  rw [h.next_eq]
  exact Int.add_one_le_iff

end Holds

end Numbered

namespace Store

variable {ι α : Type}

/-- The answers to calls made one after the other, and the store in the end. -/
def callAll (call : ι → Store → Except StoreError α × Store) :
    List ι → Store → List (ι × Except StoreError α) × Store
  | [], s => ([], s)
  | c :: later, s =>
    let first := call c s
    let rest := callAll call later first.2
    ((c, first.1) :: rest.1, rest.2)

/-- The calls that succeeded, each with what it brought. -/
def succeeded (log : List (ι × Except StoreError α)) : List (ι × α) :=
  log.filterMap fun entry => entry.2.toOption.map fun a => (entry.1, a)

theorem succeeded_cons_ok (c : ι) (a : α) (log : List (ι × Except StoreError α)) :
    succeeded ((c, .ok a) :: log) = (c, a) :: succeeded log := rfl

variable {call : ι → Store → Except StoreError α × Store}

theorem callAll_cons {c : ι} {s s' : Store} {answer : Except StoreError α}
    (h : call c s = (answer, s')) (later : List ι) : callAll call (c :: later) s =
      ((c, answer) :: (callAll call later s').1, (callAll call later s').2) := by
  rw [callAll, h]

/-- What each call keeps, with the calls that succeeded so far, is kept by all of them. -/
theorem callAll_induct {P : List (ι × α) → Store → Prop}
    (hok : ∀ {done s c a s'}, P done s → call c s = (.ok a, s') → P (done ++ [(c, a)]) s')
    (herror : ∀ {done s c e s'}, P done s → call c s = (.error e, s') → P done s')
    {done : List (ι × α)} {s : Store} (hs : P done s) (calls : List ι) :
    P (done ++ succeeded (callAll call calls s).1) (callAll call calls s).2 := by
  induction calls generalizing done s with
  | nil =>
    change P (done ++ []) s
    rwa [List.append_nil]
  | cons c later ih =>
    cases hcall : call c s with
    | mk answer s' =>
      rw [callAll_cons hcall]
      cases answer with
      | ok a =>
        rw [succeeded_cons_ok, List.append_cons]
        exact ih (hok hs hcall)
      | error e => exact ih (herror hs hcall)

/-- If calls that fail leave the store alone, then no other call notices them. -/
theorem callAll_succeeded (hkept : ∀ {c s e s'}, call c s = (.error e, s') → s' = s)
    (calls : List ι) (s : Store) :
    callAll call ((succeeded (callAll call calls s).1).map Prod.fst) s =
      ((succeeded (callAll call calls s).1).map fun done => (done.1, .ok done.2),
        (callAll call calls s).2) := by
  induction calls generalizing s with
  | nil => rfl
  | cons c later ih =>
    cases hcall : call c s with
    | mk answer s' =>
      rw [callAll_cons hcall]
      cases answer with
      | ok a => rw [succeeded_cons_ok, List.map_cons, callAll_cons hcall, ih s', List.map_cons]
      | error e =>
        obtain rfl := hkept hcall
        exact ih s'

/-- Each answer was given in the store that the calls before it left. -/
theorem exists_of_callAll {calls : List ι} {s : Store} {c : ι} {answer : Except StoreError α}
    {earlier later : List (ι × Except StoreError α)}
    (h : (callAll call calls s).1 = earlier ++ (c, answer) :: later) :
    ∃ before, (callAll call before s).1 = earlier ∧
      (call c (callAll call before s).2).1 = answer := by
  induction earlier generalizing calls s with
  | nil =>
    cases calls with
    | nil => cases h
    | cons first rest =>
      cases h
      exact ⟨[], rfl, rfl⟩
  | cons entry earlier ih =>
    cases calls with
    | nil => cases h
    | cons first rest =>
      obtain ⟨hentry, hrest⟩ := List.cons.inj h
      obtain ⟨before, hearlier, hanswer⟩ := ih hrest
      exact ⟨first :: before, by rw [callAll, hearlier, hentry], hanswer⟩

theorem eq_of_settled_error {s s' : Store} {e : StoreError} {result : Except StoreError (Store × α)}
    (h : settled s result = (.error e, s')) : s' = s := by
  cases result with
  | ok done => cases h
  | error cause =>
    cases h
    rfl

theorem settled_eq_ok_iff {s s' : Store} {a : α} {result : Except StoreError (Store × α)} :
    settled s result = (.ok a, s') ↔ result = .ok (s', a) := by
  cases result with
  | ok done =>
    constructor
    · intro h
      cases h
      rfl
    · intro h
      cases h
      rfl
  | error cause => exact ⟨nofun, nofun⟩

theorem exists_settled_iff {s : Store} {result : Except StoreError (Store × α)} :
    (∃ a, (settled s result).1 = .ok a) ↔ ∃ s' a, result = .ok (s', a) := by
  constructor
  · rintro ⟨a, ha⟩
    exact ⟨_, a, settled_eq_ok_iff.1 (Prod.ext ha rfl)⟩
  · rintro ⟨s', a, rfl⟩
    exact ⟨a, rfl⟩

end Store

end DebugCatalog
