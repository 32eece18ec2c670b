import Provisioner.Number.Unsigned
import Provisioner.Operation

/-!
# Arguments

A command line names a verb and gives it values. A verb says which values it takes: positional ones, which
are known by their place, and options, which are known by a name and may stand anywhere. A line is read from
left to right and stops at the first thing that is wrong or that asks for help; what is missing is found at
the end.
-/
namespace Provisioner.Command

/-- What a value has to be. -/
inductive ValueKind where
  | text
  /-- A path, which is never empty. -/
  | path
  | operation
  | count
  deriving DecidableEq, Repr

/-- What is wrong with a value, if anything. -/
def ValueKind.objection? (kind : ValueKind) (value : String) : Option String :=
  match kind with
  | text => none
  | path => if value = "" then some "a value is required" else none
  | operation =>
    match Operation.parse value with
    | .ok _ => none
    | .error unknown => some unknown.message
  | count =>
    match Unsigned.parse value.toList with
    | .ok _ => none
    | .error error => some error.message

/-- A value that is known by its place. -/
structure Positional where
  placeholder : String
  about : String := ""
  kind : ValueKind := .text
  deriving DecidableEq, Repr

/-- What happens when an option is not given. -/
inductive Absent where
  | refused
  | allowed
  | default (value : String)
  deriving DecidableEq, Repr

/-- A value that is known by a name. -/
structure OptionSpec where
  name : String
  short : Option Char := none
  about : String
  kind : ValueKind := .path
  absent : Absent := .refused
  deriving DecidableEq, Repr

namespace OptionSpec

/-- How usage texts write the value of an option. -/
def placeholder (option : OptionSpec) : String :=
  String.ofList (option.name.toList.map fun c => if c = '-' then '_' else c.toUpper)

/-- An option with its value, as usage texts write it. -/
def shown (option : OptionSpec) : String :=
  s!"--{option.name} <{option.placeholder}>"

end OptionSpec

/-- How usage texts write a positional value. -/
def Positional.shown (positional : Positional) : String :=
  s!"<{positional.placeholder}>"

/-- What a command line can ask for. -/
structure Verb where
  name : String
  about : String
  positionals : List Positional := []
  options : List OptionSpec := []
  deriving DecidableEq, Repr

/-- What is wrong with a command line. -/
inductive UsageError where
  | noCommand
  | unknownCommand (text : String)
  | unexpected (argument : String)
  | valueMissing (option : String)
  | valueRejected (value option reason : String)
  | valueUnneeded (value option : String)
  | repeated (option : String)
  | missing (arguments : List String)
  deriving DecidableEq, Repr

/-- The wording of a wrong command line. -/
def UsageError.message : UsageError → String
  | noCommand => "a subcommand is required but one was not provided"
  | unknownCommand text => s!"unrecognized subcommand '{text}'"
  | unexpected argument => s!"unexpected argument '{argument}' found"
  | valueMissing option => s!"a value is required for '{option}' but none was supplied"
  | valueRejected value option reason => s!"invalid value '{value}' for '{option}': {reason}"
  | valueUnneeded value option => s!"unexpected value '{value}' for '{option}' found; no more were expected"
  | repeated option => s!"the argument '{option}' cannot be used multiple times"
  | missing arguments =>
    "the following required arguments were not provided:" ++ String.join (arguments.map ("\n  " ++ ·))

/-- What a command line can ask to be explained. -/
inductive Topic where
  | program
  | verb (verb : Verb)
  | help
  deriving DecidableEq, Repr

/-- Why a command line is not carried out. -/
inductive Interruption where
  | misused (error : UsageError)
  | help (topic : Topic)
  | version
  deriving DecidableEq, Repr

/-- The values of a command line: positional ones in order, and those of options under their names. -/
structure Given where
  positionals : List String := []
  options : List (String × String) := []
  deriving DecidableEq, Repr

/-! ## Words -/

/-- What a word of a command line is. -/
inductive Word where
  | plain
  /-- Two hyphens, after which all words are plain. -/
  | separator
  | long (name : String) (value : Option String)
  | short (letter : Char) (rest : List Char)
  deriving DecidableEq, Repr

/-- The kind of a word. -/
def Word.of (word : String) : Word :=
  match word.toList with
  | ['-', '-'] => .separator
  | '-' :: '-' :: cs =>
    match cs.dropWhile (· ≠ '=') with
    | [] => .long (String.ofList cs) none
    | _ :: value => .long (String.ofList (cs.takeWhile (· ≠ '='))) (some (String.ofList value))
  | '-' :: letter :: rest => .short letter rest
  | _ => .plain

/-! ## Reading the values of a verb -/

/-- The values with one more for an option. -/
def Given.addOption (given : Given) (option : OptionSpec) (value : String) : Except Interruption Given :=
  match option.kind.objection? value with
  | some reason => .error (.misused (.valueRejected value option.shown reason))
  | none =>
    if (given.options.lookup option.name).isSome then .error (.misused (.repeated option.shown))
    else .ok { given with options := given.options ++ [(option.name, value)] }

/-- The values with one more at the next place. -/
def Given.addPositional (given : Given) (verb : Verb) (value : String) : Except Interruption Given :=
  match verb.positionals[given.positionals.length]? with
  | none => .error (.misused (.unexpected value))
  | some positional =>
    match positional.kind.objection? value with
    | some reason => .error (.misused (.valueRejected value positional.shown reason))
    | none => .ok { given with positionals := given.positionals ++ [value] }

/-- The value that follows the letter of an option in the same word. -/
def attached? : List Char → Option String
  | [] => none
  | '=' :: value => some (String.ofList value)
  | value => some (String.ofList value)

/-- Reads words into values. An option may be waiting for its value, and after a separator every word is a
positional value. -/
def readWords (verb : Verb) (waiting : Option OptionSpec) (separated : Bool) (given : Given) :
    List String → Except Interruption Given
  | [] =>
    match waiting with
    | some option => .error (.misused (.valueMissing option.shown))
    | none => .ok given
  | word :: rest =>
    match waiting with
    | some option =>
      match Word.of word with
      | .plain => do readWords verb none false (← given.addOption option word) rest
      | _ => .error (.misused (.valueMissing option.shown))
    | none =>
      if separated then do readWords verb none true (← given.addPositional verb word) rest
      else
        match Word.of word with
        | .plain => do readWords verb none false (← given.addPositional verb word) rest
        | .separator => readWords verb none true given rest
        | .long name value =>
          if name = "help" then
            match value with
            | none => .error (.help (.verb verb))
            | some value => .error (.misused (.valueUnneeded value "--help"))
          else
            match verb.options.find? (·.name = name), value with
            | none, _ => .error (.misused (.unexpected ("--" ++ name)))
            | some option, none => readWords verb (some option) false given rest
            | some option, some value => do readWords verb none false (← given.addOption option value) rest
        | .short letter tail =>
          if letter = 'h' then .error (.help (.verb verb))
          else
            match verb.options.find? (·.short = some letter), attached? tail with
            | none, _ => .error (.misused (.unexpected (String.ofList ['-', letter])))
            | some option, none => readWords verb (some option) false given rest
            | some option, some value => do readWords verb none false (← given.addOption option value) rest

/-- The values with the defaults of options that were not given. -/
def Given.withDefaults (given : Given) (verb : Verb) : Given :=
  let defaults := verb.options.filterMap fun option =>
    match option.absent, given.options.lookup option.name with
    | .default value, none => some (option.name, value)
    | _, _ => none
  { given with options := given.options ++ defaults }

/-- What a verb needs and was not given. -/
def Given.missing (given : Given) (verb : Verb) : List String :=
  (verb.options.filter fun option => option.absent = .refused ∧ given.options.lookup option.name = none).map
    OptionSpec.shown ++ (verb.positionals.drop given.positionals.length).map Positional.shown

/-- Reads the words after a verb. -/
def Verb.read (verb : Verb) (words : List String) : Except Interruption Given := do
  let given ← readWords verb none false {} words
  let missing := given.missing verb
  if missing.isEmpty then return given.withDefaults verb else .error (.misused (.missing missing))

/-! ## Reading a command line -/

/-- A verb, and what a command line with its values asks for. -/
structure Route (α : Type) where
  verb : Verb
  ask? : Given → Option α

/-- What is to be explained when the words after `help` are these. -/
def readTopic (verbs : List Verb) : List String → Except Interruption Topic
  | [] => .ok .program
  | name :: rest =>
    let topic : Option Topic := if name = "help" then some .help else (verbs.find? (·.name = name)).map .verb
    match topic, rest with
    | none, _ => .error (.misused (.unknownCommand name))
    | some topic, [] => .ok topic
    | some _, other :: _ => .error (.misused (.unknownCommand other))

/-- What a command line with a verb asks for. -/
def readVerb {α : Type} (routes : List (Route α)) (name : String) (words : List String) : Except Interruption α :=
  match routes.find? (·.verb.name = name) with
  | none => .error (.misused (.unknownCommand name))
  | some route => do
    match route.ask? (← route.verb.read words) with
    | some value => return value
    | none => .error (.misused .noCommand)

/-- What a command line asks for. -/
def readLine {α : Type} (routes : List (Route α)) : List String → Except Interruption α
  | [] => .error (.misused .noCommand)
  | word :: rest =>
    match Word.of word with
    | .plain =>
      if word = "help" then do .error (.help (← readTopic (routes.map (·.verb)) rest))
      else readVerb routes word rest
    | .separator =>
      match rest with
      | [] => .error (.misused .noCommand)
      | other :: _ => .error (.misused (.unknownCommand other))
    | .long name none =>
      if name = "help" then .error (.help .program)
      else if name = "version" then .error .version
      else .error (.misused (.unexpected word))
    | .long name (some value) =>
      if name = "help" ∨ name = "version" then .error (.misused (.valueUnneeded value ("--" ++ name)))
      else .error (.misused (.unexpected ("--" ++ name)))
    | .short 'h' _ => .error (.help .program)
    | .short 'V' _ => .error .version
    | .short letter _ => .error (.misused (.unexpected (String.ofList ['-', letter])))

end Provisioner.Command
