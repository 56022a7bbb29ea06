import DebugCatalog.DataType.Reader
import DebugCatalog.DataType.Spelling
import DebugCatalog.Json.Record

/-!
# Function records

What debug data says about one function: up to three names, an address, a
return type and parameters.  A record is a plain value; whether it is worth
keeping is decided by the collector it is added to.
-/

namespace DebugCatalog

structure FunctionRecord where
  shortName : String
  fullName : String
  rawName : String
  address : UInt64
  returnType : DataType
  parameters : List (String × DataType)
  deriving DecidableEq

namespace FunctionRecord

/-- A missing return type is recorded as `void`. -/
def new (shortName fullName rawName : String) (address : UInt64) (returnType : Option DataType)
    (parameters : List (String × DataType)) : FunctionRecord :=
  { shortName, fullName, rawName, address, returnType := returnType.getD .void, parameters }

/-- None of the three names carries any text. -/
def isAnonymous (f : FunctionRecord) : Bool :=
  f.shortName == "" && f.fullName == "" && f.rawName == ""

/-- The first of the short, the full and the raw name that carries any text. -/
def displayName (f : FunctionRecord) : String :=
  ([f.shortName, f.fullName, f.rawName].find? fun name => name != "").getD ""

/-- The type of the function itself. -/
def signature (f : FunctionRecord) : DataType :=
  .function f.returnType (f.parameters.map Prod.snd) false

def display (f : FunctionRecord) : String :=
  "<debug-info function: " ++ f.shortName ++ ">"

/-! ## JSON -/

def parameterJson (p : String × DataType) : Json :=
  .array [.string p.1, p.2.toJson]

def entries (f : FunctionRecord) : List (String × Json) :=
  [("short_name", .string f.shortName), ("full_name", .string f.fullName),
    ("raw_name", .string f.rawName), ("address", .natural f.address),
    ("return_type", f.returnType.toJson), ("parameters", .array (f.parameters.map parameterJson))]

def toJson (f : FunctionRecord) : Json :=
  .object f.entries

/-- What has been read of a record. -/
structure Draft where
  shortName : Option String := none
  fullName : Option String := none
  rawName : Option String := none
  address : Option UInt64 := none
  returnType : Option DataType := none
  parameters : Option (List (String × DataType)) := none

def fields : List (Json.Field Draft) :=
  [.of "short_name" Json.readString (·.shortName.isSome) fun s d => { d with shortName := some s },
    .of "full_name" Json.readString (·.fullName.isSome) fun s d => { d with fullName := some s },
    .of "raw_name" Json.readString (·.rawName.isSome) fun s d => { d with rawName := some s },
    .of "address" Json.readWord (·.address.isSome) fun w d => { d with address := some w },
    .of "return_type" DataType.read (·.returnType.isSome) fun t d =>
      { d with returnType := some t },
    .of "parameters" (Json.readList (Json.readPair Json.readString DataType.read))
      (·.parameters.isSome) fun ps d => { d with parameters := some ps }]

def Draft.finish (d : Draft) : Except Json.Fault FunctionRecord := do
  let shortName ← Json.require "short_name" d.shortName
  let fullName ← Json.require "full_name" d.fullName
  let rawName ← Json.require "raw_name" d.rawName
  let address ← Json.require "address" d.address
  let returnType ← Json.require "return_type" d.returnType
  let parameters ← Json.require "parameters" d.parameters
  .ok { shortName, fullName, rawName, address, returnType, parameters }

def read : Json.Scan FunctionRecord := fun fuel room cs => do
  let (draft, rest) ← Json.readRecord "DebugFunctionInfo" fields {} fuel room cs
  .ok (← draft.finish, rest)

def decode (text : String) : Except Json.Fault FunctionRecord :=
  Json.readAll read text

end FunctionRecord

end DebugCatalog
