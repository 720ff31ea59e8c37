import Stylesheet.Command.Options
import Stylesheet.Document.Reindent
import Stylesheet.Json
import Stylesheet.Listing

/-!
# Commands

A command line is read into a `Command`, which may ask for a file. What a command prints, and the
code it exits with, follow from the command and the content of that file.
-/
namespace Stylesheet

/-- Why a file cannot be read. -/
inductive FileError where
  /-- There is none. -/
  | missing
  /-- Access is refused. -/
  | denied
  /-- Its bytes are not UTF-8. -/
  | notText
  /-- Any other reason, in the words of the system. -/
  | other (reason : String)
  deriving DecidableEq, Repr

/-- The cause in words. -/
def FileError.message (path : Text) (error : FileError) : String :=
  let path := String.ofList path
  match error with
  | missing => s!"cannot find file '{path}'"
  | denied => s!"permission denied reading '{path}'"
  | notText => s!"'{path}' contains invalid UTF-8 data"
  | other reason => s!"error reading '{path}': {reason}"

/-- What a finished command leaves behind. -/
structure Outcome where
  /-- The exit code: zero for success. -/
  code : Nat
  /-- What goes to the standard output. -/
  stdout : String
  /-- What goes to the standard error. -/
  stderr : String
  deriving DecidableEq, Repr

namespace Outcome

/-- Success with some output. -/
def success (output : String) : Outcome := ⟨0, output, ""⟩

/-- Failure with a line of explanation. -/
def failure (explanation : String) : Outcome := ⟨1, "", explanation ++ "\n"⟩

end Outcome

namespace Command

/-- The version of the program. -/
def version : String := "0.1.0-alpha.1"

/-- The help text, line by line. -/
def helpLines : List String := [
  "cssm: CSS-family editor modes",
  "",
  "Usage: cssm <command> [options]",
  "",
  "Commands:",
  "  tokens <file>              Print every token with its style",
  "  indent <file>              Print the file reindented",
  "  hint <file> <line>:<ch>    Print completions at a cursor (zero-based)",
  "  words                      Print the plain completion word list",
  "  help                       Show this help message",
  "  version                    Show version information",
  "",
  "Options:",
  "  --dialect=<name>     css, scss, less, gss or a MIME type (default: from extension)",
  "  --inline             Tokenize as a style attribute body",
  "  --indent-unit=<n>    Columns per nesting level (default: 2)",
  "  --tab-size=<n>       Columns per tab (default: 4)",
  "  --json               Machine-readable output (tokens, hint)",
  "",
  "Examples:",
  "  cssm tokens style.scss",
  "  cssm tokens theme.css --dialect=less --json",
  "  cssm indent main.css --indent-unit=4",
  "  cssm hint main.css 3:7",
  "",
  "Set RUST_LOG (e.g. RUST_LOG=cssm_mode=trace) to trace the parser."]

/-- Lines of text, each with its terminator. -/
def unlines (lines : List String) : String := String.join (lines.map (· ++ "\n"))

/-- The help text. -/
def help : String := unlines helpLines

/-- How the listing of tokens is called. -/
def tokensCall : String := "cssm tokens <file> [--dialect=<name>] [--inline] [--json]"

/-- How reindenting is called. -/
def indentCall : String :=
  "cssm indent <file> [--dialect=<name>] [--indent-unit=<n>] [--tab-size=<n>]"

/-- How completion is called. -/
def hintCall : String := "cssm hint <file> <line>:<ch> [--dialect=<name>] [--json]"

/-- How the list of words is called. -/
def wordsCall : String := "cssm words [--dialect=<name>]"

/-- A complaint about the command line, with the help text behind it. -/
def misuse (complaint : String) : Outcome := ⟨1, help, complaint ++ "\n\n"⟩

/-- A reminder of how a command is called. -/
def remind (call : String) : Outcome := .failure s!"Usage: {call}"

/-- What is done with a file. -/
inductive Task where
  /-- List its tokens. -/
  | tokens
  /-- Reindent it. -/
  | indent
  /-- List the completions at a place. -/
  | hint (line offset : Nat)
  deriving DecidableEq, Repr

end Command

/-- What a command line asks for. -/
inductive Command where
  /-- Something whose outcome is known. -/
  | done (outcome : Outcome)
  /-- Something to be done with a file. -/
  | file (path : Text) (options : Options) (task : Command.Task)
  deriving DecidableEq, Repr

namespace Command

/-- A value for machines, on lines of its own. -/
def printJson (value : Json) : Outcome := .success (String.ofList (value.pretty 0 ++ ['\n']))

/-- A token for machines. -/
def tokenJson (token : DocumentToken) : Json :=
  .object [("line", .number token.line), ("start", .number token.start),
    ("end", .number token.stop), ("text", .string token.text),
    ("style", .ofString token.token.style.label), ("kind", .ofString token.token.kind.name)]

/-- Completions for machines. -/
def completionsJson (line : Nat) (completions : Completions) : Json :=
  .object [("line", .number line), ("from", .number completions.start),
    ("to", .number completions.stop), ("list", .array (completions.words.map Json.ofString))]

/-- The words of a dialect. -/
def words (options : Options) : Outcome :=
  let words := (options.dialectFor none).vocabulary.completionWords
  if options.json then printJson (.array (words.map Json.ofString))
  else .success (unlines words)

/-- What is done with a file that could be read, in a mode. -/
def perform (mode : Mode) (options : Options) (document : Text) : Task → Outcome
  | .tokens =>
    let tokens := mode.highlight document
    if options.json then printJson (.array (tokens.map tokenJson))
    else .success (String.ofList (Listing.tokens document tokens mode.settings.tabSize))
  | .indent =>
    let indented := mode.reindent document
    if indented.isEmpty || indented.getLast? == some '\n' then .success (String.ofList indented)
    else .success (String.ofList (indented ++ ['\n']))
  | .hint line offset =>
    match mode.completions? document line offset with
    | none => .success ""
    | some completions =>
      if options.json then printJson (completionsJson line completions)
      else .success (String.ofList (Listing.completions line completions))

/-- What a command does to a file, given what reading it yields. Trouble with the file is
reported before trouble with the settings. -/
def finish (path : Text) (options : Options) (task : Task)
    (content : Except FileError Text) : Outcome :=
  match content with
  | .error fault => .failure (fault.message path)
  | .ok document =>
    match options.modeFor (some path) with
    | .error fault => .failure s!"error: {fault.message}"
    | .ok mode => perform mode options document task

/-- The completions at the place an argument gives. -/
def hint (path : Text) (options : Options) (position : Text) : Command :=
  match parsePosition? position with
  | some (line, offset) => .file path options (.hint line offset)
  | none =>
    let position := String.ofList position
    .done (.failure s!"error: expected a cursor position as <line>:<ch>, got '{position}'")

/-- Read a command that takes options. -/
def withOptions (arguments : List Text) (command : Options → List Text → Command) : Command :=
  match Options.parse arguments with
  | .error fault => .done (misuse s!"error: {fault.message}")
  | .ok (options, positional) => command options positional

/-- Read a command line. -/
def parse : List Text → Command
  | [] => .done (.success help)
  | name :: arguments =>
    match String.ofList name with
    | "tokens" => withOptions arguments fun
      | options, [path] => .file path options .tokens
      | _, _ => .done (remind tokensCall)
    | "indent" => withOptions arguments fun
      | options, [path] => .file path options .indent
      | _, _ => .done (remind indentCall)
    | "hint" => withOptions arguments fun
      | options, [path, position] => hint path options position
      | _, _ => .done (remind hintCall)
    | "words" => withOptions arguments fun
      | options, [] => .done (words options)
      | _, _ => .done (remind wordsCall)
    | "help" | "--help" | "-h" => .done (.success help)
    | "version" | "--version" | "-V" => .done (.success s!"cssm {version}\n")
    | other => .done (misuse s!"Unknown command: {other}")

/-- Run a command line where files can be read. -/
def run {m : Type → Type} [Monad m] (contentOf : Text → m (Except FileError Text))
    (arguments : List Text) : m Outcome :=
  match parse arguments with
  | .done outcome => pure outcome
  | .file path options task => finish path options task <$> contentOf path

end Command

end Stylesheet
