/-!
# File errors

Why an operation on files failed, and the number and wording the system has for
it.
-/

namespace DebugCatalog

inductive FileError where
  | notFound
  | exists
  | notADirectory
  | isADirectory
  | invalidArgument
  | nameTooLong
  | notEmpty
  | tooManyLinks
  /-- A path with the character that ends a text. -/
  | invalidPath
  /-- A text was asked for, and the file holds none. -/
  | notText
  /-- Any other reason, in the words of the system. -/
  | other (message : String)
  deriving DecidableEq

namespace FileError

def system (text : String) (number : Nat) : String :=
  text ++ " (os error " ++ toString number ++ ")"

def message : FileError → String
  | .notFound => system "No such file or directory" 2
  | .exists => system "File exists" 17
  | .notADirectory => system "Not a directory" 20
  | .isADirectory => system "Is a directory" 21
  | .invalidArgument => system "Invalid argument" 22
  | .nameTooLong => system "File name too long" 36
  | .notEmpty => system "Directory not empty" 39
  | .tooManyLinks => system "Too many levels of symbolic links" 40
  | .invalidPath => "file name contained an unexpected NUL byte"
  | .notText => "stream did not contain valid UTF-8"
  | .other text => text

end FileError

end DebugCatalog
