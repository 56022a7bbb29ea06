import DebugCatalog.Json.Reader

/-!
# Reading records

A record is written as an object with named fields in any order, or as an array
with the fields in their own order.  `readRecord` reads either into a draft of
type `σ`, which holds what has been read so far.  Keys that name no field are
passed over.  What a record lacks is decided by whoever turns the draft into
the record.
-/

namespace DebugCatalog.Json

/-- A field of a record with draft `σ`. -/
structure Field (σ : Type) where
  name : String
  /-- Whether the draft already has this field. -/
  given : σ → Bool
  /-- Reads the field and says what it does to the draft. -/
  scan : Scan (σ → σ)
  /-- An array may end before this field. -/
  mayEnd : Bool := false

/-- A field that `scan` reads and `put` puts into the draft. -/
def Field.of {σ α : Type} (name : String) (scan : Scan α) (given : σ → Bool) (put : α → σ → σ)
    (mayEnd : Bool := false) : Field σ where
  name
  given
  scan := fun fuel room cs => do
    let (a, rest) ← scan fuel room cs
    .ok (put a, rest)
  mayEnd

variable {σ : Type}

/-- The entries of a record written as an object, and its closing brace. -/
def readFields (fields : List (Field σ)) (first : Bool) (draft : σ) : Scan σ
  | 0, _, _ => .error .truncated
  | fuel + 1, room, cs => do
    match ← objectTurn first cs with
    | .close rest => .ok (draft, rest)
    | .item rest =>
      let (key, rest) ← scanString fuel rest
      match fields.find? fun f => f.name == String.ofList key with
      | some field =>
        if field.given draft then .error (.mismatch (.duplicateField field.name))
        else
          let rest ← expectColon rest
          let (put, rest) ← field.scan fuel room rest
          readFields fields false (put draft) fuel room rest
      | none =>
        let rest ← expectColon rest
        let rest ← skipValue fuel rest
        readFields fields false draft fuel room rest

/-- The items of a record written as an array, and its closing bracket.  `index`
fields have been read. -/
def readPositions (title : String) (fields : List (Field σ)) (index : Nat) (draft : σ) : Scan σ :=
  fun fuel room cs =>
    match fields with
    | [] => do .ok (draft, ← closeArray cs)
    | field :: fields => do
      match ← arrayTurn (index == 0) cs with
      | .close rest =>
        match (field :: fields).findIdx? fun f => !f.mayEnd with
        | some k => .error (.mismatch (.invalidLength (index + k) title))
        | none => .ok (draft, rest)
      | .item rest =>
        let (put, rest) ← field.scan fuel room rest
        readPositions title fields (index + 1) (put draft) fuel room rest

/-- `struct X with 3 elements`, as messages call a record. -/
def recordTitle (name : String) (size : Nat) : String :=
  "struct " ++ name ++ " with " ++ elements size

/-- A record called `name` in messages. -/
def readRecord (name : String) (fields : List (Field σ)) (draft : σ) : Scan σ :=
  fun fuel room cs =>
    match skipSpace cs with
    | '[' :: rest =>
      match room with
      | 0 => .error .malformed
      | room + 1 =>
        readPositions (recordTitle name fields.length) fields 0 draft fuel room rest
    | '\x7b' :: rest =>
      match room with
      | 0 => .error .malformed
      | room + 1 => readFields fields true draft fuel room rest
    | cs => refuse ("struct " ++ name) fuel cs

/-- What a record cannot do without. -/
def require {α : Type} (name : String) : Option α → Except Fault α
  | some a => .ok a
  | none => .error (.mismatch (.missingField name))

end DebugCatalog.Json
