import DebugCatalog.Command.Run
import DebugCatalog.Command.Usage
import DebugCatalog.Store.File
import DebugCatalog.Timestamp
import Std.Time.DateTime.Timestamp

/-!
# The program

Commands on the files of the system.
-/

namespace DebugCatalog.Program

/-- An open database: a file that may be writable, or one that lives as long as the
program. -/
inductive Database where
  | file (path : String) (writable : Bool)
  | transient (contents : IO.Ref Store) (writable : Bool)

def fileError : IO.Error → FileError
  | .noFileOrDirectory .. => .notFound
  | .alreadyExists .. => .exists
  | .inappropriateType _ code _ => if code = 21 then .isADirectory else .notADirectory
  | e => .other (toString e)

def attempt {α : Type} (action : IO α) : IO (Except FileError α) := do
  try return .ok (← action) catch e => return .error (fileError e)

/-- What kind of thing is at a path. -/
def kind? (path : String) : IO (Option IO.FS.FileType) := do
  try return some (← (← IO.FS.realPath path).metadata).type catch _ => return none

/-- The store in a file, and how often it was changed. -/
def readStore (path : String) : IO (Except StoreError (Store × Nat)) := do
  match ← attempt (IO.FS.readBinFile path) with
  | .error _ => return .error .cannotOpen
  | .ok b => return Disk.storeOf (.bytes b)

def writeBytes (path : String) (b : ByteArray) : IO (Except StoreError Unit) := do
  return (← attempt (IO.FS.writeBinFile path b)).mapError fun _ => .cannotOpen

def writeStore (path : String) (s : Store) : IO (Except StoreError Unit) := do
  match ← readStore path with
  | .error e => return .error e
  | .ok (before, changes) => writeBytes path (s.toBytes (changes + before.changesTo s))

instance : Host IO where
  Handle := Database
  isFile path := return (← kind? path) == some .file
  isDirectory path := return (← kind? path) == some .dir
  canonicalize path := attempt do return (← IO.FS.realPath path).toString
  currentDirectory := return (← IO.FS.realPath ".").toString
  read path := attempt (IO.FS.readBinFile path)
  write path b := attempt (IO.FS.writeBinFile path b)
  makeDirectory path := attempt (IO.FS.createDir path)
  openStore name := do
    match Location.parse? name with
    | none => return .error .cannotOpen
    | some l =>
      if l.storage = .transient then return .ok (.transient (← IO.mkRef .blank) l.isWritable)
      let database := Database.file l.path l.isWritable
      if (← kind? l.path).isSome then return .ok database
      if l.access != .create then return .error .cannotOpen
      return (← writeBytes l.path .empty).map fun _ => database
  loadStore
    | .file path _ => return (← readStore path).map Prod.fst
    | .transient contents _ => return .ok (← contents.get)
  saveStore
    | .file path true, s => writeStore path s
    | .transient contents true, s => return .ok (← contents.set s)
    | .file _ false, _ | .transient _ false, _ => return .error .cannotOpen
  closeStore _ := return
  now := return Timestamp.text (← Std.Time.Timestamp.now).toNanosecondsSinceUnixEpoch.val.toNat

/-- Runs a command line and gives the number to end with. -/
def run (arguments : List String) : IO UInt32 := do
  match Invocation.parse arguments with
  | .error stop =>
    let code := Invocation.exitCode stop
    if code == 0 then IO.println (Usage.text stop) else IO.eprintln (Usage.text stop)
    return code.toUInt32
  | .ok i =>
    let format ← IO.getEnv "DEBUGINFO_LOG_FORMAT"
    match ← (i.run (m := IO) (.standard 0) format).run with
    | .ok out => IO.print out; return 0
    | .error f => IO.eprintln f.report; return 1

end DebugCatalog.Program

def main (arguments : List String) : IO UInt32 :=
  DebugCatalog.Program.run arguments
