import Std.Data.HashMap

/-!
# Keyed lists

A keyed list holds entries in the order in which they came, and finds an entry
by its key through an index.  The first entry of a key stays: whoever adds asks
`contains` before and leaves a second one out.
-/

namespace DebugCatalog

variable {α κ : Type} [BEq κ] [Hashable κ]

/-- Entries with keys given by `key`, and the position of each key. -/
structure KeyedList (key : α → κ) where
  entries : Array α
  index : Std.HashMap κ Nat

namespace KeyedList

variable {key : α → κ}

def empty : KeyedList key where
  entries := #[]
  index := ∅

instance : Inhabited (KeyedList key) := ⟨empty⟩

def contains (l : KeyedList key) (k : κ) : Bool :=
  l.index.contains k

/-- Appends an entry.  Its key must be new. -/
def push (l : KeyedList key) (a : α) : KeyedList key where
  entries := l.entries.push a
  index := l.index.insert (key a) l.entries.size

def find? (l : KeyedList key) (k : κ) : Option α :=
  (l.index[k]?).bind fun i => l.entries[i]?

def toList (l : KeyedList key) : List α :=
  l.entries.toList

def size (l : KeyedList key) : Nat :=
  l.entries.size

def isEmpty (l : KeyedList key) : Bool :=
  l.entries.isEmpty

theorem toList_empty : (empty : KeyedList key).toList = [] := rfl

theorem toList_push (l : KeyedList key) (a : α) : (l.push a).toList = l.toList ++ [a] := by
  simp [push, toList]

theorem size_eq_length (l : KeyedList key) : l.size = l.toList.length := by
  simp [size, toList]

end KeyedList

end DebugCatalog
