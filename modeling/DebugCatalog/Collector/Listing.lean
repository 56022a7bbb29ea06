import DebugCatalog.Collector.Basic
import DebugCatalog.DataType.Spelling

/-!
# Listings

The rows in which the contents of a collector are shown: functions by address,
types in the order in which they were collected.
-/

namespace DebugCatalog

structure FunctionRow where
  address : UInt64
  name : String
  fullName : String
  signature : String
  parser : Option String
  deriving DecidableEq

structure TypeRow where
  name : String
  definition : String
  parser : Option String
  deriving DecidableEq

def FunctionEntry.row (e : FunctionEntry) : FunctionRow where
  address := e.address
  name := e.function.displayName
  fullName := e.function.fullName
  signature := e.function.signature.display
  parser := e.source

def TypeEntry.row (e : TypeEntry) : TypeRow where
  name := e.name
  definition := e.type.display
  parser := e.source

namespace Collector

def functionRows (c : Collector) : List FunctionRow :=
  (c.functions.toList.map FunctionEntry.row).mergeSort fun a b => a.address ≤ b.address

def typeRows (c : Collector) : List TypeRow :=
  c.types.toList.map TypeEntry.row

end Collector

def FunctionRow.toJson (r : FunctionRow) : Json :=
  .object ([("address", .natural r.address), ("name", .string r.name),
    ("full_name", .string r.fullName), ("signature", .string r.signature)] ++
    Json.optionalEntry "parser" r.parser)

def TypeRow.toJson (r : TypeRow) : Json :=
  .object ([("name", .string r.name), ("definition", .string r.definition)] ++
    Json.optionalEntry "parser" r.parser)

end DebugCatalog
