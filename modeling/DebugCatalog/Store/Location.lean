import DebugCatalog.Text.Digits

/-!
# Where a database is

A database is named by a path, or by a text that begins with `file:` and may have
options behind a question mark.  `Location.parse?` says what a name means: the
path, what may be done there, and how the database is kept.
-/

namespace DebugCatalog

/-- What the name of a database lets its user do. -/
inductive Access where
  | readOnly
  | readWrite
  /-- Read and write, and make the file if there is none. -/
  | create
  /-- Use a database that is kept nowhere. -/
  | memory
  deriving DecidableEq

/-- How the changes of a database in use may be kept in a log. -/
inductive LogUse where
  | none
  /-- With an index that no file holds. -/
  | plain
  | indexed
  deriving DecidableEq

/-- How a database is kept: as long as it is open, or in a file. -/
inductive Storage where
  | transient
  | file (logs : LogUse)
  deriving DecidableEq

structure Location where
  path : String
  access : Access
  storage : Storage
  /-- Nobody changes the file, and what stands beside it is of no importance. -/
  isStill : Bool

namespace Access

def name : Access → String
  | .readOnly => "ro"
  | .readWrite => "rw"
  | .create => "rwc"
  | .memory => "memory"

def all : List Access :=
  [.readOnly, .readWrite, .create, .memory]

def rank : Access → Nat
  | .readOnly => 0
  | .readWrite => 1
  | .create => 2
  | .memory => 3

/-- An access by name.  A name can take away what is allowed and not add to it. -/
def restrict? (allowed : Access) (mode : String) : Option Access := do
  let wanted ← all.find? fun a => a.name == mode
  if wanted = .memory || wanted.rank ≤ allowed.rank then some wanted else none

end Access

namespace Location

/-- The bytes of a text in which a percent sign and two digits stand for a byte.
The text ends where such a byte is zero. -/
def unescape : List Char → List UInt8
  | [] => []
  | '%' :: high :: low :: rest =>
    match Text.hexDigit? high, Text.hexDigit? low with
    | some 0, some 0 => []
    | some x, some y => UInt8.ofNat (16 * x + y) :: unescape rest
    | _, _ => 0x25 :: unescape (high :: low :: rest)
  | c :: rest => (String.singleton c).toUTF8.toList ++ unescape rest
termination_by cs => cs.length

def unescaped? (cs : List Char) : Option String :=
  String.fromUTF8? ⟨(unescape cs).toArray⟩

/-- What follows the scheme and the host, which can only be this one. -/
def behindHost? : List Char → Option (List Char)
  | '/' :: '/' :: rest =>
    let host := String.ofList (rest.takeWhile (· != '/'))
    if host = "" || host = "localhost" then some (rest.dropWhile (· != '/')) else none
  | rest => some rest

/-- The largest number that the value of an option may be. -/
def maxNumber : Nat := 0x7fffffff

/-- Words for yes, in lower case. -/
def yesWords : List (List Char) :=
  ["on".toList, "yes".toList, "true".toList]

/-- Whether the value of an option says yes.  Of a number only the last byte counts. -/
def saysYes (value : List Char) : Bool :=
  match value.takeWhile Char.isDigit with
  | [] => value.map Char.toLower ∈ yesWords
  | digits =>
    let n := digits.foldl (fun n c => 10 * n + (c.toNat - '0'.toNat)) 0
    n ≤ maxNumber && n % 256 != 0

/-- What the options of a name say.  Of the last two the first mention counts. -/
structure Options where
  access : Access := .create
  system : String := "unix"
  still : Option Bool := none
  unlocked : Option Bool := none

def Options.add? (o : Options) (text : List Char) : Option Options := do
  let name ← unescaped? (text.takeWhile (· != '='))
  let value ← unescaped? ((text.dropWhile (· != '=')).drop 1)
  match name with
  | "mode" => some { o with access := ← o.access.restrict? value }
  | "vfs" => some { o with system := value }
  | "cache" => if value = "shared" || value = "private" then some o else none
  | "immutable" => some { o with still := o.still.or (some (saysYes value.toList)) }
  | "nolock" => some { o with unlocked := o.unlocked.or (some (saysYes value.toList)) }
  | _ => some o

/-- How a system of files keeps databases.  Those that lock in other ways have other
logs or none, and so has one without locks. -/
def Options.storage? (o : Options) : Option Storage :=
  let unlessUnlocked (logs : LogUse) : Storage := .file (if o.unlocked = some true then .none else logs)
  match o.system with
  | "memdb" => some .transient
  | "unix" => some (unlessUnlocked .indexed)
  | "unix-excl" => some (unlessUnlocked .plain)
  | "unix-dotfile" | "unix-none" => some (.file .none)
  | _ => none

/-- A location that has these options.  One in memory is in no file, and so is one
whose path is empty or says so by agreement. -/
def Options.location? (o : Options) (path : String) : Option Location := do
  let storage ← o.storage?
  if o.access = .memory || path == "" || path == ":memory:" then
    some { path, access := o.access, storage := .transient, isStill := false }
  else some { path, access := o.access, storage, isStill := o.still.getD false }

/-- What a name means.  Text behind a `#` is of no importance. -/
def parse? (name : String) : Option Location :=
  if name.toList.contains '\x00' then none
  else
    match name.toList with
    | 'f' :: 'i' :: 'l' :: 'e' :: ':' :: rest => do
      let text := (← behindHost? rest).takeWhile (· != '#')
      let path ← unescaped? (text.takeWhile (· != '?'))
      let options ← (((text.dropWhile (· != '?')).drop 1).splitOn '&').foldlM Options.add? {}
      options.location? path
    | _ => ({} : Options).location? name

def isWritable (l : Location) : Bool :=
  l.access != .readOnly && !l.isStill

end Location

end DebugCatalog
