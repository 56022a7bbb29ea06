import DebugCatalog.Ingest.Basic

/-!
# Failures

Why a project or a command could not go on: a cause, and the tasks it got in the
way of, the largest first.
-/

namespace DebugCatalog

inductive Failure.Cause where
  | message (text : String)
  | file (e : FileError)
  | unreadable (path : String) (e : FileError)
  | json (fault : Json.Fault)
  | store (e : StoreError)

structure Failure where
  /-- The tasks that failed. -/
  tasks : List String
  cause : Failure.Cause

namespace Failure

def Cause.ofIngest : Ingest.Error → Cause
  | .unreadable path e => .unreadable path e
  | .store e => .store e
  | e => .message e.message

/-- A cause in words, and what is behind it. -/
def Cause.messages : Cause → List String
  | .message text => [text]
  | .file e => [e.message]
  | .unreadable path e => [Ingest.unreadableMessage path e, e.message]
  | .json fault => [fault.message]
  | .store e => if e.message = e.detail then [e.message] else [e.message, e.detail]

def messages (f : Failure) : List String :=
  f.tasks ++ f.cause.messages

/-- The causes of what is said first, with numbers if there is more than one. -/
def causeLines : List String → List String
  | [] => []
  | [cause] => ["", "Caused by:", "    " ++ cause]
  | causes => "" :: "Caused by:" :: causes.zipIdx.map fun (cause, i) =>
      "    " ++ toString i ++ ": " ++ cause

/-- The text in which the program tells of a failure. -/
def report (f : Failure) : String :=
  match f.messages with
  | [] => "Error"
  | first :: causes => "\n".intercalate (("Error: " ++ first) :: causeLines causes)

variable {m : Type → Type} [Monad m] {ε α : Type}

/-- Does something, and fails the tasks if it ends in an error. -/
def during (tasks : List String) (cause : ε → Cause) (action : m (Except ε α)) :
    ExceptT Failure m α := do
  match ← action with
  | .ok a => pure a
  | .error e => throw { tasks, cause := cause e }

end Failure

end DebugCatalog
