import DebugCatalog.Word

/-!
# Data types

`DataType` describes the types that debug data mentions: return values,
parameters and named definitions.  A type is a plain value and refers to other
types either by containing them or, with `named`, by name.

`Structure` is a structure under construction: `Structure.push` adds a member
and lets the structure grow to cover it.
-/

namespace DebugCatalog

/-- A member of a structure, at a byte offset from its start. -/
structure Member (τ : Type) where
  name : String
  type : τ
  offset : UInt64

/-- A type found in debug data.  Widths are in bytes. -/
inductive DataType where
  | void
  | bool
  | int (width : UInt64) (signed : Bool)
  | float (width : UInt64)
  | pointer (target : DataType) (width : UInt64)
  | array (element : DataType) (count : UInt64)
  | function (result : DataType) (parameters : List DataType) (variadic : Bool)
  | composite (name : Option String) (width : UInt64) (members : List (Member DataType))
  | enumeration (name : Option String) (width : UInt64) (constants : List (String × UInt64))
  /-- A reference to a type that is defined elsewhere under this name. -/
  | named (name : String)
  deriving Inhabited

namespace DataType

/-- Size in bytes, where the type alone tells it. -/
def width : DataType → Option UInt64
  | .void => none
  | .function _ _ _ => none
  | .named _ => none
  | .bool => some 1
  | .int width _ => some width
  | .float width => some width
  | .pointer _ width => some width
  | .array element count => element.width.map fun w => Word.mulSat w count
  | .composite _ width _ => some width
  | .enumeration _ width _ => some width

def isVoid : DataType → Bool
  | .void => true
  | _ => false

mutual

/-- Equality of types, decided. -/
def same : DataType → DataType → Bool
  | .void, .void => true
  | .bool, .bool => true
  | .int w s, .int w' s' => w == w' && s == s'
  | .float w, .float w' => w == w'
  | .pointer t w, .pointer t' w' => same t t' && w == w'
  | .array t n, .array t' n' => same t t' && n == n'
  | .function r ps v, .function r' ps' v' => same r r' && (sameList ps ps' && v == v')
  | .composite n w ms, .composite n' w' ms' => n == n' && (w == w' && sameMembers ms ms')
  | .enumeration n w cs, .enumeration n' w' cs' => n == n' && (w == w' && cs == cs')
  | .named n, .named n' => n == n'
  | _, _ => false

def sameList : List DataType → List DataType → Bool
  | [], [] => true
  | t :: ts, t' :: ts' => same t t' && sameList ts ts'
  | _, _ => false

def sameMembers : List (Member DataType) → List (Member DataType) → Bool
  | [], [] => true
  | ⟨n, t, o⟩ :: ms, ⟨n', t', o'⟩ :: ms' =>
    (n == n' && o == o') && (same t t' && sameMembers ms ms')
  | _, _ => false

end

mutual

theorem same_iff (t u : DataType) : same t u = true ↔ t = u := by
  cases t with
  | pointer t w => cases u <;> simp [same, same_iff t]
  | array t n => cases u <;> simp [same, same_iff t]
  | function r ps v => cases u <;> simp [same, same_iff r, sameList_iff ps]
  | composite n w ms => cases u <;> simp [same, sameMembers_iff ms]
  | _ => cases u <;> simp [same]

theorem sameList_iff (ts us : List DataType) : sameList ts us = true ↔ ts = us := by
  cases ts with
  | nil => cases us <;> simp [sameList]
  | cons t ts => cases us <;> simp [sameList, same_iff t, sameList_iff ts]

theorem sameMembers_iff (ms ns : List (Member DataType)) :
    sameMembers ms ns = true ↔ ms = ns := by
  cases ms with
  | nil => cases ns <;> simp [sameMembers]
  | cons m ms =>
    obtain ⟨n, t, o⟩ := m
    cases ns with
    | nil => simp [sameMembers]
    | cons m' ns =>
      obtain ⟨n', t', o'⟩ := m'
      simp only [sameMembers, Bool.and_eq_true, beq_iff_eq, same_iff t, sameMembers_iff ms,
        List.cons.injEq, Member.mk.injEq]
      constructor
      · rintro ⟨⟨a, b⟩, c, d⟩; exact ⟨⟨a, c, b⟩, d⟩
      · rintro ⟨⟨a, c, b⟩, d⟩; exact ⟨⟨a, b⟩, c, d⟩

end

instance : DecidableEq DataType := fun t u =>
  decidable_of_iff _ (same_iff t u)

end DataType

/-- A structure to which members are still added. -/
structure Structure where
  name : Option String
  width : UInt64
  members : List (Member DataType)

namespace Structure

def empty (name : Option String) : Structure :=
  { name, width := 0, members := [] }

/-- Adds a member behind the others.  The structure grows to cover it; a member
without a width covers nothing. -/
def push (s : Structure) (name : String) (type : DataType) (offset : UInt64) : Structure :=
  let reach := Word.addSat offset (type.width.getD 0)
  { s with
    width := if s.width < reach then reach else s.width
    members := s.members ++ [⟨name, type, offset⟩] }

/-- The first member with the given name. -/
def member? (s : Structure) (name : String) : Option (Member DataType) :=
  s.members.find? fun m => m.name == name

def toType (s : Structure) : DataType :=
  .composite s.name s.width s.members

end Structure

end DebugCatalog
