import DebugCatalog.DataType.Json
import DebugCatalog.Json.Reader

/-!
# Reading types

The kind of a type may stand anywhere among its entries, so everything beside
it is read as plain JSON first and decoded once the kind is known.  A type may
also be an array of its kind and its fields in order.  Below the outermost type
the kind may be given by its position among the kinds.

`DataType.ofContent` decodes the fields of a given kind, `DataType.ofJson` a
nested type, and `DataType.read` a type in a text.
-/

namespace DebugCatalog.DataType

open DebugCatalog.Json (Mismatch Fault Scan)

/-- What a field of a description holds. -/
inductive Slot where
  | word
  | flag
  | text
  | optionalText
  | type
  | types
  | members
  | constants
  deriving DecidableEq

/-- What has been read for a field. -/
inductive Filling where
  | word (w : UInt64)
  | flag (b : Bool)
  | text (s : String)
  | optionalText (s : Option String)
  | type (t : DataType)
  | types (ts : List DataType)
  | members (ms : List (Member DataType))
  | constants (cs : List (String × UInt64))

/-- The fields read so far, by name. -/
abbrev Draft := List (String × Filling)

namespace Draft

def word (d : Draft) (name : String) : Except Mismatch UInt64 :=
  match d.lookup name with
  | some (.word w) => .ok w
  | _ => .error (.missingField name)

def flag (d : Draft) (name : String) : Except Mismatch Bool :=
  match d.lookup name with
  | some (.flag b) => .ok b
  | _ => .error (.missingField name)

def text (d : Draft) (name : String) : Except Mismatch String :=
  match d.lookup name with
  | some (.text s) => .ok s
  | _ => .error (.missingField name)

/-- A name that may be missing. -/
def optionalText (d : Draft) (name : String) : Option String :=
  match d.lookup name with
  | some (.optionalText s) => s
  | _ => none

def type (d : Draft) (name : String) : Except Mismatch DataType :=
  match d.lookup name with
  | some (.type t) => .ok t
  | _ => .error (.missingField name)

def types (d : Draft) (name : String) : Except Mismatch (List DataType) :=
  match d.lookup name with
  | some (.types ts) => .ok ts
  | _ => .error (.missingField name)

def members (d : Draft) (name : String) : Except Mismatch (List (Member DataType)) :=
  match d.lookup name with
  | some (.members ms) => .ok ms
  | _ => .error (.missingField name)

def constants (d : Draft) (name : String) : Except Mismatch (List (String × UInt64)) :=
  match d.lookup name with
  | some (.constants cs) => .ok cs
  | _ => .error (.missingField name)

end Draft

/-- The fields of a kind, in order. -/
def Kind.fields : Kind → List (String × Slot)
  | .void => []
  | .bool => []
  | .int => [("width", .word), ("signed", .flag)]
  | .float => [("width", .word)]
  | .pointer => [("target", .type), ("width", .word)]
  | .array => [("element", .type), ("count", .word)]
  | .function => [("return_type", .type), ("parameters", .types), ("variadic", .flag)]
  | .composite => [("name", .optionalText), ("width", .word), ("members", .members)]
  | .enumeration => [("name", .optionalText), ("width", .word), ("members", .constants)]
  | .named => [("name", .text)]

/-- How messages call the description of a kind. -/
def Kind.title : Kind → String
  | .void => "unit variant Type::Void"
  | .bool => "unit variant Type::Bool"
  | .int => "struct variant Type::Int"
  | .float => "struct variant Type::Float"
  | .pointer => "struct variant Type::Pointer"
  | .array => "struct variant Type::Array"
  | .function => "struct variant Type::Function"
  | .composite => "struct Structure"
  | .enumeration => "struct Enumeration"
  | .named => "struct variant Type::Named"

def memberFields : List (String × Slot) :=
  [("name", .text), ("ty", .type), ("offset", .word)]

def memberTitle : String := "struct StructureMember"

/-- The type of a kind with the given fields. -/
def Draft.build (d : Draft) : Kind → Except Mismatch DataType
  | .void => .ok .void
  | .bool => .ok .bool
  | .int => do .ok (.int (← d.word "width") (← d.flag "signed"))
  | .float => do .ok (.float (← d.word "width"))
  | .pointer => do .ok (.pointer (← d.type "target") (← d.word "width"))
  | .array => do .ok (.array (← d.type "element") (← d.word "count"))
  | .function => do
    .ok (.function (← d.type "return_type") (← d.types "parameters") (← d.flag "variadic"))
  | .composite => do
    .ok (.composite (d.optionalText "name") (← d.word "width") (← d.members "members"))
  | .enumeration => do
    .ok (.enumeration (d.optionalText "name") (← d.word "width") (← d.constants "members"))
  | .named => do .ok (.named (← d.text "name"))

def Draft.member (d : Draft) : Except Mismatch (Member DataType) := do
  .ok ⟨← d.text "name", ← d.type "ty", ← d.word "offset"⟩

/-! ## Values that contain no type -/

def wrongType {α : Type} (v : Json) (expected : String) : Except Mismatch α :=
  .error (.invalidType v.found expected)

def stringOf (v : Json) : Except Mismatch String :=
  match v with
  | .string s => .ok s
  | v => wrongType v "a string"

def wordOf (v : Json) : Except Mismatch UInt64 :=
  match v with
  | .number n => n.word?
  | v => wrongType v "u64"

def constantOf (v : Json) : Except Mismatch (String × UInt64) :=
  match v with
  | .array [] => .error (.invalidLength 0 "a tuple of size 2")
  | .array [name] => do
    let _ ← stringOf name
    .error (.invalidLength 1 "a tuple of size 2")
  | .array (name :: value :: more) => do
    let name ← stringOf name
    let value ← wordOf value
    if more.isEmpty then .ok (name, value)
    else .error (.invalidLength (more.length + 2) "2 elements in sequence")
  | v => wrongType v "a tuple of size 2"

def constantsOf (v : Json) : Except Mismatch (List (String × UInt64)) :=
  match v with
  | .array items => items.mapM constantOf
  | v => wrongType v "a sequence"

/-- Fills a slot that holds no type. -/
def plainFilling (slot : Slot) (v : Json) : Except Mismatch Filling :=
  match slot, v with
  | .flag, .boolean b => .ok (.flag b)
  | .flag, v => wrongType v "a boolean"
  | .text, v => .text <$> stringOf v
  | .optionalText, .null => .ok (.optionalText none)
  | .optionalText, v => (fun s => .optionalText (some s)) <$> stringOf v
  | .constants, v => .constants <$> constantsOf v
  | _, v => .word <$> wordOf v

/-- The kind a nested type gives, by name or by position. -/
def kindOf (v : Json) : Except Mismatch Kind :=
  match v with
  | .string s =>
    match Kind.ofName? s with
    | some k => .ok k
    | none => .error (.unknownVariant s (Kind.all.map Kind.name))
  | .number (.natural n) =>
    match Kind.all[n.toNat]? with
    | some k => .ok k
    | none => .error (.invalidValue (.integer n.toNat) "variant index 0 <= i < 10")
  | v => wrongType v "variant identifier"

/-- The kind among the entries of a nested type. -/
def kindAmong (kind : Option Kind) : List (String × Json) → Except Mismatch Kind
  | [] =>
    match kind with
    | some k => .ok k
    | none => .error (.missingField "kind")
  | (key, v) :: rest =>
    if key = "kind" then
      match kind with
      | some _ => .error (.duplicateField "kind")
      | none => do kindAmong (some (← kindOf v)) rest
    else kindAmong kind rest

/-- What an array that ends at `index` lacks. -/
def tooShort {α : Type} (title : String) (fields : List (String × Slot)) (index : Nat) :
    Except Mismatch α :=
  .error (.invalidLength index (title ++ " with " ++ Json.elements fields.length))

/-- What an array has too many of. -/
def tooLong {α : Type} (length expected : Nat) : Except Mismatch α :=
  .error (.invalidLength length (Json.elements expected ++ " in sequence"))

/-! ## Types -/

mutual

/-- A nested type. -/
def ofJson : Json → Except Mismatch DataType
  | .object entries => do
    let kind ← kindAmong none entries
    (← fromEntries kind.fields [] entries).build kind
  | .array [] => .error (.missingField "kind")
  | .array (kind :: items) => do
    let kind ← kindOf kind
    (← fromItems kind.title kind.fields kind.fields items.length [] items).build kind
  | .null => wrongType .null "internally tagged enum Type"
  | .boolean b => wrongType (.boolean b) "internally tagged enum Type"
  | .number n => wrongType (.number n) "internally tagged enum Type"
  | .string s => wrongType (.string s) "internally tagged enum Type"

/-- Fields by name.  Entries that name no field are passed over. -/
def fromEntries (fields : List (String × Slot)) (draft : Draft) :
    List (String × Json) → Except Mismatch Draft
  | [] => .ok draft
  | (key, v) :: rest =>
    match fields.lookup key with
    | none => fromEntries fields draft rest
    | some slot =>
      if (draft.lookup key).isSome then .error (.duplicateField key)
      else
        match slot, v with
        | .type, v => do
          let t ← ofJson v
          fromEntries fields ((key, .type t) :: draft) rest
        | .types, .array items => do
          let ts ← ofItems items
          fromEntries fields ((key, .types ts) :: draft) rest
        | .types, v => wrongType v "a sequence"
        | .members, .array items => do
          let ms ← membersOf items
          fromEntries fields ((key, .members ms) :: draft) rest
        | .members, v => wrongType v "a sequence"
        | slot, v => do
          let filling ← plainFilling slot v
          fromEntries fields ((key, filling) :: draft) rest

/-- Fields by position.  `fields` are those still to come out of `all`, and
`length` items were given. -/
def fromItems (title : String) (all fields : List (String × Slot)) (length : Nat) (draft : Draft) :
    List Json → Except Mismatch Draft
  | [] =>
    match fields with
    | [] => .ok draft
    | _ :: _ => tooShort title all length
  | v :: rest =>
    match fields with
    | [] => tooLong length all.length
    | (key, slot) :: fields =>
      match slot, v with
      | .type, v => do
        let t ← ofJson v
        fromItems title all fields length ((key, .type t) :: draft) rest
      | .types, .array items => do
        let ts ← ofItems items
        fromItems title all fields length ((key, .types ts) :: draft) rest
      | .types, v => wrongType v "a sequence"
      | .members, .array items => do
        let ms ← membersOf items
        fromItems title all fields length ((key, .members ms) :: draft) rest
      | .members, v => wrongType v "a sequence"
      | slot, v => do
        let filling ← plainFilling slot v
        fromItems title all fields length ((key, filling) :: draft) rest

def ofItems : List Json → Except Mismatch (List DataType)
  | [] => .ok []
  | v :: rest => do
    let t ← ofJson v
    let ts ← ofItems rest
    .ok (t :: ts)

def membersOf : List Json → Except Mismatch (List (Member DataType))
  | [] => .ok []
  | .object entries :: rest => do
    let m ← (← fromEntries memberFields [] entries).member
    let ms ← membersOf rest
    .ok (m :: ms)
  | .array items :: rest => do
    let m ← (← fromItems memberTitle memberFields memberFields items.length [] items).member
    let ms ← membersOf rest
    .ok (m :: ms)
  | v :: _ => wrongType v memberTitle

end

/-- The type of a kind whose fields were given as an object without its kind. -/
def ofEntries (kind : Kind) (entries : List (String × Json)) : Except Mismatch DataType := do
  (← fromEntries kind.fields [] entries).build kind

/-- The type of a kind whose fields were given in order. -/
def ofPositions (kind : Kind) (items : List Json) : Except Mismatch DataType := do
  (← fromItems kind.title kind.fields kind.fields items.length [] items).build kind

/-! ## Types in a text -/

/-- The kind of the outermost type, which is always given by name. -/
def readKind : Scan Kind := fun fuel room cs => do
  let (s, rest) ← Json.readText "variant identifier" fuel room cs
  match Kind.ofName? s with
  | some k => .ok (k, rest)
  | none => .error (.mismatch (.unknownVariant s (Kind.all.map Kind.name)))

/-- The entries of the outermost type: its kind, if given, and all others. -/
def readTagged (first : Bool) (kind : Option Kind) : Scan (Option Kind × List (String × Json))
  | 0, _, _ => .error .truncated
  | fuel + 1, room, cs => do
    match ← Json.objectTurn first cs with
    | .close rest => .ok ((kind, []), rest)
    | .item rest =>
      let (key, rest) ← Json.scanString fuel rest
      if String.ofList key = "kind" then
        if kind.isSome then .error (.mismatch (.duplicateField "kind"))
        else
          let rest ← Json.expectColon rest
          let (k, rest) ← readKind fuel room rest
          readTagged false (some k) fuel room rest
      else
        let rest ← Json.expectColon rest
        let (v, rest) ← Json.readValue fuel room rest
        let ((kind, entries), rest) ← readTagged false kind fuel room rest
        .ok ((kind, (String.ofList key, v) :: entries), rest)

/-- A decoded value, or the fault of a value that does not fit. -/
def settle {α : Type} (rest : List Char) : Except Mismatch α → Except Fault (α × List Char)
  | .ok a => .ok (a, rest)
  | .error m => .error (.mismatch m)

def read : Scan DataType := fun fuel room cs =>
  match Json.skipSpace cs with
  | '[' :: rest =>
    match room with
    | 0 => .error .malformed
    | room + 1 => do
      match ← Json.arrayTurn true rest with
      | .close _ => .error (.mismatch (.missingField "kind"))
      | .item rest =>
        let (kind, rest) ← readKind fuel room rest
        let (items, rest) ← Json.readItems false fuel room rest
        settle rest (ofPositions kind items)
  | '\x7b' :: rest =>
    match room with
    | 0 => .error .malformed
    | room + 1 => do
      let ((kind, entries), rest) ← readTagged true none fuel room rest
      match kind with
      | none => .error (.mismatch (.missingField "kind"))
      | some kind => settle rest (ofEntries kind entries)
  | cs => Json.refuse "internally tagged enum Type" fuel cs

/-- The type a text describes. -/
def decode (text : String) : Except Fault DataType :=
  Json.readAll read text

end DebugCatalog.DataType
