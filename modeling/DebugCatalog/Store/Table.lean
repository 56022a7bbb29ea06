/-!
# Tables

Two kinds of tables.  A `Numbered` table gives each new row the next number and
never gives a number twice, not even after a row is gone.  A keyed table is a
plain list of rows in the order of their last writing: `replaceRow` takes out
the row of the same key and puts the new one at the end.
-/

namespace DebugCatalog

/-- Rows by increasing number. -/
structure Numbered (α : Type) where
  /-- The largest number given so far. -/
  last : Int
  rows : List (Int × α)
  increasing : rows.Pairwise fun a b => a.1 < b.1
  deriving DecidableEq

namespace Numbered

variable {α : Type}

/-- No number is larger: `2 ^ 63 - 1`. -/
def maxNumber : Int := 0x7fffffffffffffff

def empty : Numbered α where
  last := 0
  rows := []
  increasing := .nil

/-- The largest number of a row, or that of the last one ever given. -/
def largest (t : Numbered α) : Int :=
  (t.rows.map Prod.fst).foldl max t.last

def next (t : Numbered α) : Int :=
  t.largest + 1

theorem le_foldl_max (xs : List Int) (a : Int) : a ≤ xs.foldl max a := by
  induction xs generalizing a with
  | nil => simp
  | cons x xs ih =>
    have := ih (max a x)
    simp only [List.foldl_cons]
    omega

theorem mem_le_foldl_max {xs : List Int} {x : Int} (a : Int) (h : x ∈ xs) :
    x ≤ xs.foldl max a := by
  induction xs generalizing a with
  | nil => cases h
  | cons y ys ih =>
    simp only [List.foldl_cons]
    rcases List.mem_cons.1 h with rfl | h
    · have := le_foldl_max ys (max a x)
      omega
    · exact ih _ h

theorem lt_next (t : Numbered α) {row : Int × α} (h : row ∈ t.rows) : row.1 < t.next := by
  have := mem_le_foldl_max t.last (List.mem_map_of_mem (f := Prod.fst) h)
  simp only [next, largest]
  omega

theorem last_lt_next (t : Numbered α) : t.last < t.next := by
  have := le_foldl_max (t.rows.map Prod.fst) t.last
  simp only [next, largest]
  omega

/-- Appends a row under the next number. -/
def push (t : Numbered α) (a : α) : Numbered α where
  last := t.next
  rows := t.rows ++ [(t.next, a)]
  increasing := List.pairwise_append.2
    ⟨t.increasing, List.pairwise_singleton _ _, fun _ h b hb => by
      rw [List.mem_singleton.1 hb]
      exact t.lt_next h⟩

/-- Keeps the rows that pass. -/
def filter (t : Numbered α) (keep : Int → α → Bool) : Numbered α where
  last := t.last
  rows := t.rows.filter fun row => keep row.1 row.2
  increasing := t.increasing.filter _

/-- Changes the contents of rows. -/
def map (t : Numbered α) (f : Int → α → α) : Numbered α where
  last := t.last
  rows := t.rows.map fun row => (row.1, f row.1 row.2)
  increasing := List.pairwise_map.2 t.increasing

def find? (t : Numbered α) (number : Int) : Option α :=
  t.rows.lookup number

/-- The contents of the rows. -/
def contents (t : Numbered α) : List α :=
  t.rows.map Prod.snd

theorem rows_push (t : Numbered α) (a : α) : (t.push a).rows = t.rows ++ [(t.next, a)] := rfl

theorem contents_push (t : Numbered α) (a : α) : (t.push a).contents = t.contents ++ [a] := by
  simp [contents, push]

end Numbered

/-- Writes a row of a keyed table. -/
def replaceRow {α κ : Type} [BEq κ] (key : α → κ) (rows : List α) (row : α) : List α :=
  rows.filter (fun r => key r != key row) ++ [row]

end DebugCatalog
