import Provisioner.Command.Arguments

/-!
# Usage texts

What a program says about itself and its verbs. Each text has what the thing is for, how a command line with
it looks, and lists of terms with their explanations in two columns. Explanations are filled to a width of
100 and continue under their own start.
-/
namespace Provisioner.Command

/-- What a program is called, and what it can do. -/
structure Manual where
  /-- The word that a command line begins with. -/
  name : String
  /-- What the program calls itself when it names its version. -/
  package : String
  version : String
  about : String
  verbs : List Verb
  deriving DecidableEq, Repr

/-- A list of terms with their explanations. -/
structure Glossary where
  title : String
  entries : List (String × String)
  deriving DecidableEq, Repr

/-! ## Layout -/

/-- The width that explanations are filled to. -/
def pageWidth : Nat := 100

/-- The lines of a text that is filled with words up to a width; a longer word has a line of its own. -/
def fill (width : Nat) : (line : String) → List String → List String
  | line, [] => [line]
  | line, word :: words =>
    if line.length + 1 + word.length ≤ width then fill width (line ++ " " ++ word) words
    else line :: fill width word words

/-- The lines of an explanation in a column of a width. -/
def column (width : Nat) (text : String) : List String :=
  match text.splitOn " " with
  | [] => []
  | word :: words => fill width word words

/-- A text with blanks after it, up to a width. -/
def padTo (width : Nat) (text : String) : String :=
  String.ofList (text.toList ++ List.replicate (width - text.length) ' ')

/-- A list with the explanations in a column of their own. -/
def Glossary.text (glossary : Glossary) : String :=
  let width := (glossary.entries.map fun entry => entry.1.length).foldl max 0
  let margin := String.ofList (List.replicate (width + 4) ' ')
  let rows := glossary.entries.map fun (term, explanation) =>
    "  " ++ padTo width term ++ "  " ++
      String.intercalate ("\n" ++ margin) (column (pageWidth - (width + 4)) explanation)
  glossary.title ++ ":\n" ++ String.intercalate "\n" rows

/-- A usage text of its parts. -/
def usageText (about usage : String) (glossaries : List Glossary) : String :=
  let parts := [about, "Usage: " ++ usage] ++
    (glossaries.filter fun glossary => !glossary.entries.isEmpty).map Glossary.text
  String.intercalate "\n\n" parts ++ "\n"

/-! ## The parts -/

/-- An option as a term. -/
def OptionSpec.term (option : OptionSpec) : String :=
  let short :=
    match option.short with
    | some letter => String.ofList ['-', letter, ',', ' ']
    | none => "    "
  short ++ option.shown

/-- What is said of an option. -/
def OptionSpec.explanation (option : OptionSpec) : String :=
  match option.absent with
  | .default value => s!"{option.about} [default: {value}]"
  | _ => option.about

/-- The option that every verb has. -/
def helpEntry : String × String := ("-h, --help", "Print help")

/-- A command line with a verb. -/
def Manual.verbUsage (manual : Manual) (verb : Verb) : String :=
  let anyOptions := if verb.options.any (·.absent != .refused) then ["[OPTIONS]"] else []
  let options := (verb.options.filter (·.absent = .refused)).map OptionSpec.shown
  String.intercalate " "
    ([manual.name, verb.name] ++ anyOptions ++ options ++ verb.positionals.map Positional.shown)

/-- A command line with any verb. -/
def Manual.usage (manual : Manual) : String :=
  s!"{manual.name} <COMMAND>"

/-- What is said of the verb that explains the others. -/
def helpAbout : String := "Print this message or the help of the given subcommand(s)"

/-- The text about a topic. -/
def Manual.explain (manual : Manual) : Topic → String
  | .program =>
    usageText manual.about manual.usage
      [⟨"Commands", manual.verbs.map (fun verb => (verb.name, verb.about)) ++ [("help", helpAbout)]⟩,
        ⟨"Options", [helpEntry, ("-V, --version", "Print version")]⟩]
  | .verb verb =>
    usageText verb.about (manual.verbUsage verb)
      [⟨"Arguments", verb.positionals.map fun positional => (positional.shown, positional.about)⟩,
        ⟨"Options", verb.options.map (fun option => (option.term, option.explanation)) ++ [helpEntry]⟩]
  | .help =>
    usageText helpAbout s!"{manual.name} help [COMMAND]..."
      [⟨"Arguments", [("[COMMAND]...", "Print help for the subcommand(s)")]⟩]

/-- The text of the version. -/
def Manual.versionText (manual : Manual) : String :=
  s!"{manual.package} {manual.version}\n"

/-- The text about a wrong command line. -/
def Manual.complaint (manual : Manual) : UsageError → String
  | .noCommand => manual.explain .program
  | error => s!"error: {error.message}\n\nUsage: {manual.usage}\n\nFor more information, try '--help'.\n"

end Provisioner.Command
