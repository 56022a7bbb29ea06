import DebugCatalog.Json.Record
import DebugCatalog.Json.Writer

/-!
# Project configurations

The file that makes a directory a project.  It names the database and may list
the parsers to run when none are asked for; an empty list stands for every
parser that accepts the image, and is not written at all.
-/

namespace DebugCatalog

structure Config where
  name : String
  description : Option String
  /-- The version of the file format. -/
  version : String
  databasePath : String
  defaultParsers : List String
  deriving DecidableEq

namespace Config

def new (name databasePath : String) : Config :=
  { name, description := none, version := "0.1.0", databasePath, defaultParsers := [] }

def toJson (c : Config) : Json :=
  .object ([("name", .string c.name), ("description", .optional c.description),
    ("config_version", .string c.version), ("db", .object [("path", .string c.databasePath)])] ++
    if c.defaultParsers.isEmpty then []
    else [("default_parsers", .array (c.defaultParsers.map .string))])

def databaseFields : List (Json.Field (Option String)) :=
  [.of "path" Json.readString Option.isSome fun s _ => some s]

def readDatabase : Json.Scan String := fun fuel room cs => do
  let (path, rest) ← Json.readRecord "DbConfig" databaseFields none fuel room cs
  .ok (← Json.require "path" path, rest)

/-- What has been read of a configuration. -/
structure Draft where
  name : Option String := none
  description : Option (Option String) := none
  version : Option String := none
  databasePath : Option String := none
  defaultParsers : Option (List String) := none

def fields : List (Json.Field Draft) :=
  [.of "name" Json.readString (·.name.isSome) fun s d => { d with name := some s },
    .of "description" (Json.readOptional Json.readString) (·.description.isSome) fun s d =>
      { d with description := some s },
    .of "config_version" Json.readString (·.version.isSome) fun s d => { d with version := some s },
    .of "db" readDatabase (·.databasePath.isSome) fun s d => { d with databasePath := some s },
    .of "default_parsers" (Json.readList Json.readString) (·.defaultParsers.isSome)
      (fun ps d => { d with defaultParsers := some ps }) true]

def Draft.finish (d : Draft) : Except Json.Fault Config := do
  let name ← Json.require "name" d.name
  let version ← Json.require "config_version" d.version
  let databasePath ← Json.require "db" d.databasePath
  .ok {
    name
    description := d.description.getD none
    version
    databasePath
    defaultParsers := d.defaultParsers.getD [] }

def read : Json.Scan Config := fun fuel room cs => do
  let (draft, rest) ← Json.readRecord "ProjectConfig" fields {} fuel room cs
  .ok (← draft.finish, rest)

def decode (text : String) : Except Json.Fault Config :=
  Json.readAll read text

/-- The text of the configuration file. -/
def fileText (c : Config) : String :=
  c.toJson.indented

end Config

end DebugCatalog
