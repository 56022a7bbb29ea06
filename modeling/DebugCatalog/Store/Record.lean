import DebugCatalog.Image.Basic
import DebugCatalog.Json.Record
import DebugCatalog.Json.Writer
import DebugCatalog.Text.Lowercase

/-!
# Records of a project

What a project database notes besides debug data: the binaries it knows, and
each run of a parser over one of them.
-/

namespace DebugCatalog

structure BinaryRecord where
  name : String
  path : String
  arch : Option String
  format : Option String
  /-- The SHA-256 of the contents. -/
  hash : Option String
  deriving DecidableEq

namespace BinaryRecord

/-- The record of an image that is kept at `path`. -/
def ofImage (v : Image) (path : String) : BinaryRecord where
  name := v.name
  path
  arch := v.arch
  format := some v.format.name
  hash := some v.sha256

def toJson (b : BinaryRecord) : Json :=
  .object [("name", .string b.name), ("path", .string b.path), ("arch", .optional b.arch),
    ("format", .optional b.format), ("hash", .optional b.hash)]

end BinaryRecord

inductive RunStatus where
  | succeeded
  | failed
  deriving DecidableEq, Repr

namespace RunStatus

def name : RunStatus → String
  | .succeeded => "succeeded"
  | .failed => "failed"

def ofName? : String → Option RunStatus
  | "succeeded" => some .succeeded
  | "failed" => some .failed
  | _ => none

/-- Reads a status in upper or lower case.  The error names it in lower case. -/
def parse (s : String) : Except String RunStatus :=
  match ofName? (Text.lowercase s) with
  | some status => .ok status
  | none => .error ("Invalid parse run status '" ++ Text.lowercase s ++ "'")

def toJson (s : RunStatus) : Json :=
  .string s.name

def named (name : String) : Except Json.Fault RunStatus :=
  match ofName? name with
  | some status => .ok status
  | none => .error (.mismatch (.unknownVariant name ["succeeded", "failed"]))

/-- A status is written as its name, or as an object whose one entry has that
key and the value `null`. -/
def read : Json.Scan RunStatus := fun fuel room cs => do
  let scanName (cs : List Char) : Except Json.Fault (RunStatus × List Char) := do
    let (name, rest) ← Json.readText "variant identifier" fuel room cs
    .ok (← named name, rest)
  match Json.skipSpace cs with
  | [] => .error .truncated
  | '"' :: rest => scanName ('"' :: rest)
  | '\x7b' :: rest =>
    if room = 0 then .error .malformed
    else
      let (status, rest) ← scanName rest
      let rest ← Json.expectColon rest
      let rest ←
        match Json.skipSpace rest with
        | [] => .error .truncated
        | 'n' :: rest => Json.expectWord ['u', 'l', 'l'] rest
        | cs => Json.refuse "unit" fuel cs
      match Json.skipSpace rest with
      | [] => .error .truncated
      | '\x7d' :: rest => .ok (status, rest)
      | _ => .error .malformed
  | _ => .error .malformed

end RunStatus

/-- One run of a parser over a binary. -/
structure RunRecord where
  binary : String
  parser : String
  status : RunStatus
  typesAdded : UInt64
  functionsAdded : UInt64
  /-- Why it failed, if it did. -/
  message : Option String
  startedAt : String
  finishedAt : String
  deriving DecidableEq

namespace RunRecord

def toJson (r : RunRecord) : Json :=
  .object ([("binary", .string r.binary), ("parser", .string r.parser),
    ("status", r.status.toJson), ("types_added", .natural r.typesAdded),
    ("functions_added", .natural r.functionsAdded)] ++ Json.optionalEntry "message" r.message ++
    [("started_at", .string r.startedAt), ("finished_at", .string r.finishedAt)])

/-- What has been read of a record. -/
structure Draft where
  binary : Option String := none
  parser : Option String := none
  status : Option RunStatus := none
  typesAdded : Option UInt64 := none
  functionsAdded : Option UInt64 := none
  message : Option (Option String) := none
  startedAt : Option String := none
  finishedAt : Option String := none

def fields : List (Json.Field Draft) :=
  [.of "binary" Json.readString (·.binary.isSome) fun s d => { d with binary := some s },
    .of "parser" Json.readString (·.parser.isSome) fun s d => { d with parser := some s },
    .of "status" RunStatus.read (·.status.isSome) fun s d => { d with status := some s },
    .of "types_added" Json.readWord (·.typesAdded.isSome) fun n d => { d with typesAdded := some n },
    .of "functions_added" Json.readWord (·.functionsAdded.isSome) fun n d =>
      { d with functionsAdded := some n },
    .of "message" (Json.readOptional Json.readString) (·.message.isSome)
      (fun s d => { d with message := some s }) true,
    .of "started_at" Json.readString (·.startedAt.isSome) fun s d => { d with startedAt := some s },
    .of "finished_at" Json.readString (·.finishedAt.isSome) fun s d =>
      { d with finishedAt := some s }]

def Draft.finish (d : Draft) : Except Json.Fault RunRecord := do
  let binary ← Json.require "binary" d.binary
  let parser ← Json.require "parser" d.parser
  let status ← Json.require "status" d.status
  let typesAdded ← Json.require "types_added" d.typesAdded
  let functionsAdded ← Json.require "functions_added" d.functionsAdded
  let startedAt ← Json.require "started_at" d.startedAt
  let finishedAt ← Json.require "finished_at" d.finishedAt
  .ok {
    binary, parser, status, typesAdded, functionsAdded, startedAt, finishedAt
    message := d.message.getD none }

def read : Json.Scan RunRecord := fun fuel room cs => do
  let (draft, rest) ← Json.readRecord "ParseRunRecord" fields {} fuel room cs
  .ok (← draft.finish, rest)

def decode (text : String) : Except Json.Fault RunRecord :=
  Json.readAll read text

end RunRecord

end DebugCatalog
