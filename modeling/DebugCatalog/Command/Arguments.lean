/-!
# Command line arguments

A command line has options, each named by two dashes, and words.  A word behind
an option that wants a value is its value; a value may also be attached to the
name by an equals sign.  Two dashes on their own end the options.

`scan` reads one level of a command line: the options in front of a command, or
those behind it.  An option whose value is still to come is pending until the
next option or the end.  Where a level cannot go on, it stops with a `Stop`.
-/

namespace DebugCatalog.Arguments

/-- What an option takes. -/
inductive Arity where
  /-- Nothing.  It may be given once. -/
  | flag
  /-- One value.  It may be given once. -/
  | once
  /-- One value each time. -/
  | repeated
  /-- A value out of a list, or nothing, which stands for the value `absent`.
  It may be given once. -/
  | choice (values : List String) (absent : String)
  deriving DecidableEq

structure OptionRule where
  name : String
  arity : Arity
  required : Bool := false
  deriving DecidableEq

/-- Why a command line is not followed. -/
inductive Stop where
  | unknownArgument
  | missingArgument
  | invalidValue
  | tooManyValues
  | givenTwice
  | unknownCommand
  | missingCommand
  /-- Nothing was asked for, so help is shown. -/
  | nothingAsked
  /-- Help was asked for. -/
  | help
  /-- The version was asked for. -/
  | version
  deriving DecidableEq

/-- What a level of a command line may consist of. -/
structure Level where
  options : List OptionRule
  /-- The commands that may follow. -/
  commands : List String
  /-- Whether the version may be asked for. -/
  tellsVersion : Bool

/-- Options with their values.  A flag has the empty text. -/
abbrev Given := List (String × String)

namespace Given

def has (g : Given) (name : String) : Bool :=
  g.any fun (n, _) => n == name

def value? (g : Given) (name : String) : Option String :=
  g.lookup name

def values (g : Given) (name : String) : List String :=
  (g.filter fun (n, _) => n == name).map Prod.snd

end Given

/-- An option that has been named, and its value once that is known. -/
structure Pending where
  rule : OptionRule
  value : Option String

structure State where
  given : Given := []
  pending : Option Pending := none

namespace State

/-- Whether the next word is a value. -/
def awaitsValue (s : State) : Bool :=
  s.pending.any fun p => p.value.isNone

/-- Takes in an option with its value. -/
def give (s : State) (rule : OptionRule) (value : String) : Except Stop State :=
  let taken := { s with given := s.given ++ [(rule.name, value)] }
  match rule.arity with
  | .repeated => .ok taken
  | .flag | .once => if s.given.has rule.name then .error .givenTwice else .ok taken
  | .choice values _ =>
    if s.given.has rule.name then .error .givenTwice
    else if values.contains value then .ok taken
    else .error .invalidValue

/-- Takes in the pending option, if there is one. -/
def settle (s : State) : Except Stop State :=
  match s.pending with
  | none => .ok s
  | some p =>
    let s := { s with pending := none }
    match p.value, p.rule.arity with
    | some value, _ => s.give p.rule value
    | none, .choice _ absent => s.give p.rule absent
    | none, _ => .error .invalidValue

end State

/-! ## Names and attached values -/

/-- The name of a long option, and the value behind an equals sign. -/
def splitOption (body : List Char) : String × Option String :=
  let name := String.ofList (body.takeWhile (· != '='))
  match body.dropWhile (· != '=') with
  | _ :: value => (name, some (String.ofList value))
  | [] => (name, none)

inductive Shape where
  | word
  /-- Two dashes. -/
  | border
  | long (name : String) (value : Option String)
  /-- One dash, with the letter behind it. -/
  | short (letter : Char)

def shape (argument : String) : Shape :=
  match argument.toList with
  | ['-', '-'] => .border
  | '-' :: '-' :: body => let (name, value) := splitOption body; .long name value
  | '-' :: letter :: _ => .short letter
  | _ => .word

/-! ## One level -/

namespace Level

/-- Flags that stop the command line, by their names. -/
def signal? (l : Level) (name : String) : Option Stop :=
  if name = "help" then some .help
  else if name = "version" && l.tellsVersion then some .version
  else none

def letter? (l : Level) (letter : Char) : Option Stop :=
  if letter = 'h' then some .help
  else if letter = 'V' && l.tellsVersion then some .version
  else none

/-- Why a word does not belong where it stands. -/
def strayWord (l : Level) (behindBorder : Bool) (word : String) : Stop :=
  if l.commands.isEmpty then .unknownArgument
  else if behindBorder && (l.commands.contains word || word == "help") then .unknownArgument
  else .unknownCommand

/-- What the words behind `help` lead to. -/
def helpOn (l : Level) : List String → Stop
  | [] => .help
  | [word] => if l.commands.contains word || word == "help" then .help else .unknownCommand
  | _ => .unknownCommand

/-- A long option. -/
def long (l : Level) (s : State) (name : String) (value : Option String) : Except Stop State :=
  match l.signal? name with
  | some stop => if value.isSome then .error .tooManyValues else do let _ ← s.settle; .error stop
  | none =>
    match l.options.find? fun rule => rule.name == name with
    | none => .error .unknownArgument
    | some rule =>
      match rule.arity, value with
      | .flag, some _ => .error .tooManyValues
      | .flag, none => do (← s.settle).give rule ""
      | _, some value => do (← s.settle).give rule value
      | _, none => do .ok { ← s.settle with pending := some ⟨rule, none⟩ }

/-- A letter behind one dash. -/
def short (l : Level) (s : State) (letter : Char) : Except Stop State :=
  match l.letter? letter with
  | some stop => do let _ ← s.settle; .error stop
  | none => .error .unknownArgument

/-- Reads a level up to its end, or up to a command and what is behind it. -/
def scan (l : Level) (s : State) : List String → Except Stop (State × Option (String × List String))
  | [] => .ok (s, none)
  | argument :: rest =>
    if !s.awaitsValue && !l.commands.isEmpty && argument == "help" then .error (l.helpOn rest)
    else if !s.awaitsValue && l.commands.contains argument then .ok (s, some (argument, rest))
    else
      match shape argument with
      | .border =>
        match rest with
        | [] => .ok (s, none)
        | word :: _ => .error (l.strayWord true word)
      | .long name value => do l.scan (← l.long s name value) rest
      | .short letter => do l.scan (← l.short s letter) rest
      | .word =>
        match s.pending with
        | some ⟨rule, none⟩ => l.scan { s with pending := some ⟨rule, some argument⟩ } rest
        | _ => .error (l.strayWord false argument)

end Level

/-- The options behind a command. -/
def behindCommand (options : List OptionRule) (arguments : List String) : Except Stop Given := do
  let (s, _) ← Level.scan { options, commands := [], tellsVersion := false } {} arguments
  let s ← s.settle
  if options.any fun rule => rule.required && !s.given.has rule.name then .error .missingArgument
  else .ok s.given

end DebugCatalog.Arguments
