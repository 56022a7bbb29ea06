import DebugCatalog.FunctionRecord
import DebugCatalog.KeyedList

/-!
# Collectors

A collector holds what parsers found in an image: types by name and functions
by address, each credited to the parser it came from.  The first entry of a key
wins.  A type without a name and a function without any name are turned away.

`Collector.merge` folds another collector in under the same rule and counts what
it took.
-/

namespace DebugCatalog

structure TypeEntry where
  name : String
  type : DataType
  /-- The parser it came from, if it came from one. -/
  source : Option String
  deriving DecidableEq

structure FunctionEntry where
  function : FunctionRecord
  /-- The parser it came from, if it came from one. -/
  source : Option String
  deriving DecidableEq

def FunctionEntry.address (e : FunctionEntry) : UInt64 :=
  e.function.address

structure Collector where
  types : KeyedList TypeEntry.name := .empty
  functions : KeyedList FunctionEntry.address := .empty
  /-- Who is credited with what is added next. -/
  source : Option String := none

/-- What a merge took and what it left out. -/
structure MergeCount where
  typesAdded : Nat := 0
  typesSkipped : Nat := 0
  functionsAdded : Nat := 0
  functionsSkipped : Nat := 0
  deriving DecidableEq

namespace Collector

def empty : Collector := {}

instance : Inhabited Collector := ⟨empty⟩

/-! ## Adding -/

/-- A type is taken if it has a name that is still free. -/
def takesType (c : Collector) (name : String) : Bool :=
  name != "" && !c.types.contains name

def addType (c : Collector) (name : String) (type : DataType) : Collector :=
  if c.takesType name then { c with types := c.types.push { name, type, source := c.source } }
  else c

/-- A function is taken if it has a name and its address is still free. -/
def takesFunction (c : Collector) (f : FunctionRecord) : Bool :=
  !f.isAnonymous && !c.functions.contains f.address

def addFunction (c : Collector) (f : FunctionRecord) : Collector :=
  if c.takesFunction f then
    { c with functions := c.functions.push { function := f, source := c.source } }
  else c

/-- The collector with the next additions credited to `source`. -/
def crediting (c : Collector) (source : Option String) : Collector :=
  { c with source }

/-! ## Looking up -/

def typeCount (c : Collector) : Nat :=
  c.types.size

def functionCount (c : Collector) : Nat :=
  c.functions.size

def isEmpty (c : Collector) : Bool :=
  c.types.isEmpty && c.functions.isEmpty

def type? (c : Collector) (name : String) : Option DataType :=
  (c.types.find? name).map TypeEntry.type

def typeSource (c : Collector) (name : String) : Option String :=
  (c.types.find? name).bind TypeEntry.source

def functionAt (c : Collector) (address : UInt64) : Option FunctionRecord :=
  (c.functions.find? address).map FunctionEntry.function

def functionSource (c : Collector) (address : UInt64) : Option String :=
  (c.functions.find? address).bind FunctionEntry.source

/-! ## Merging -/

/-- Takes in a type under its own source. -/
def absorbType (state : Collector × MergeCount) (e : TypeEntry) : Collector × MergeCount :=
  let (c, n) := state
  (((c.crediting e.source).addType e.name e.type),
    if c.takesType e.name then { n with typesAdded := n.typesAdded + 1 }
    else { n with typesSkipped := n.typesSkipped + 1 })

/-- Takes in a function under its own source. -/
def absorbFunction (state : Collector × MergeCount) (e : FunctionEntry) :
    Collector × MergeCount :=
  let (c, n) := state
  (((c.crediting e.source).addFunction e.function),
    if c.takesFunction e.function then { n with functionsAdded := n.functionsAdded + 1 }
    else { n with functionsSkipped := n.functionsSkipped + 1 })

/-- Folds `other` in.  Its entries keep their sources, and later additions to `c`
are credited as before. -/
def merge (c other : Collector) : Collector × MergeCount :=
  let state := other.types.toList.foldl absorbType (c, {})
  let (merged, n) := other.functions.toList.foldl absorbFunction state
  (merged.crediting c.source, n)

end Collector

/-! ## JSON -/

def TypeEntry.toJson (e : TypeEntry) : Json :=
  .object ([("name", .string e.name), ("ty", e.type.toJson)] ++ Json.optionalEntry "source" e.source)

def FunctionEntry.toJson (e : FunctionEntry) : Json :=
  .object (e.function.entries ++ Json.optionalEntry "source" e.source)

def Collector.toJson (c : Collector) : Json :=
  .object [("types", .array (c.types.toList.map TypeEntry.toJson)),
    ("functions", .array (c.functions.toList.map FunctionEntry.toJson))]

def MergeCount.toJson (n : MergeCount) : Json :=
  .object [("types_added", .count n.typesAdded), ("types_skipped", .count n.typesSkipped),
    ("functions_added", .count n.functionsAdded), ("functions_skipped", .count n.functionsSkipped)]

end DebugCatalog
