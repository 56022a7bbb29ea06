import DebugCatalog.Command.Basic
import DebugCatalog.Version

/-!
# Usage

What the program says when it does not follow its command line: its version, how
to write a command line, or what is wrong with the one it was given.
-/

namespace DebugCatalog.Usage

open Arguments (OptionRule Stop)
open Command (Verb)

def program : String := "debuginfo"

/-- An option as it may be written. -/
def optionText (rule : OptionRule) : String :=
  let name := "--" ++ rule.name
  match rule.arity with
  | .flag => "[" ++ name ++ "]"
  | .once => if rule.required then name ++ " VALUE" else "[" ++ name ++ " VALUE]"
  | .repeated => "[" ++ name ++ " VALUE]..."
  | .choice values _ => "[" ++ name ++ " [" ++ "|".intercalate values ++ "]]"

def verbText (v : Verb) : String :=
  "  " ++ " ".intercalate (v.name :: v.options.map optionText)

/-- How to write a command line. -/
def help : String :=
  "\n".intercalate (
    ("Usage: " ++ program ++ " " ++ " ".intercalate (Invocation.logOptions.map optionText) ++
      " COMMAND") ::
    "" :: "Commands:" :: Verb.all.map verbText)

/-- What is wrong with a command line. -/
def problem? : Stop → Option String
  | .unknownArgument => some "unexpected argument"
  | .missingArgument => some "a required option is missing"
  | .invalidValue => some "an option has no value or not one of its values"
  | .tooManyValues => some "a value for an option that takes none"
  | .givenTwice => some "an option is given twice"
  | .unknownCommand => some "unknown command"
  | .missingCommand => some "a command is missing"
  | .nothingAsked | .help | .version => none

def text (stop : Stop) : String :=
  match stop with
  | .version => program ++ " " ++ DebugCatalog.version
  | _ =>
    match problem? stop with
    | some problem => "error: " ++ problem ++ "\n\n" ++ help
    | none => help

end DebugCatalog.Usage
