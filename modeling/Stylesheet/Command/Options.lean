import Stylesheet.Mode
import Stylesheet.Text.Numeral

/-!
# Options

Every command takes the same options, before, between or behind its other arguments. An argument
is read on its own, the first one that means nothing is reported, and of two values for one
option the last counts.
-/
namespace Stylesheet

/-- Why an argument means nothing. -/
inductive OptionError where
  /-- The dialect it names does not exist. -/
  | dialect (cause : ModeError)
  /-- An option counts columns and its value does not. -/
  | count (option : String) (value : Text)
  /-- No option has the name. -/
  | unknown (argument : Text)
  deriving DecidableEq, Repr

/-- The cause in words. -/
def OptionError.message : OptionError → String
  | dialect cause => cause.message
  | count option value =>
    let value := String.ofList value
    s!"{option} expects a column count, got '{value}'"
  | unknown argument =>
    let argument := String.ofList argument
    s!"unknown option '{argument}'"

/-- An argument by itself. -/
inductive Argument where
  | positional (text : Text)
  | dialect (dialect : Dialect)
  | indentUnit (columns : UInt64)
  | tabSize (columns : UInt64)
  | inline
  | json
  deriving DecidableEq, Repr

namespace Argument

/-- What comes behind a text at the front of an argument. -/
def behind? (front : String) (argument : Text) : Option Text :=
  if front.toList.isPrefixOf argument then some (argument.drop front.length) else none

/-- A count of columns, as the value of an option. -/
def count (option : String) (value : Text) : Except OptionError UInt64 :=
  match Text.numeral? value with
  | some columns => .ok (.ofNat columns)
  | none => .error (.count option value)

/-- Read one argument. -/
def read (argument : Text) : Except OptionError Argument :=
  match behind? "--dialect=" argument with
  | some name =>
    match Dialect.named name with
    | .ok found => .ok (.dialect found)
    | .error cause => .error (.dialect cause)
  | none =>
    match behind? "--indent-unit=" argument with
    | some value => (count "--indent-unit" value).map indentUnit
    | none =>
      match behind? "--tab-size=" argument with
      | some value => (count "--tab-size" value).map tabSize
      | none =>
        if argument = "--inline".toList then .ok inline
        else if argument = "--json".toList then .ok json
        else if argument.head? = some '-' then .error (.unknown argument)
        else .ok (positional argument)

/-- The text of an argument that is no option. -/
def positional? : Argument → Option Text
  | positional text => some text
  | _ => none

end Argument

/-- The options of a command. -/
structure Options where
  /-- The dialect that was asked for. -/
  dialect : Option Dialect := none
  /-- The settings of the mode. -/
  settings : Settings := {}
  /-- Whether the output is for machines. -/
  json : Bool := false
  deriving DecidableEq, Repr

namespace Options

/-- The options with one more argument taken into account. -/
def set (options : Options) : Argument → Options
  | .positional _ => options
  | .dialect found => { options with dialect := some found }
  | .indentUnit columns => { options with settings.indentUnit := columns }
  | .tabSize columns => { options with settings.tabSize := columns }
  | .inline => { options with settings.inline := true }
  | .json => { options with json := true }

/-- The options in a list of arguments, and the arguments that are none. -/
def parse (arguments : List Text) : Except OptionError (Options × List Text) := do
  let read ← arguments.mapM Argument.read
  return (read.foldl set {}, read.filterMap Argument.positional?)

/-- The dialect of a file: the one that was asked for, else that of its extension, else plain
style sheets. -/
def dialectFor (options : Options) (path : Option Text) : Dialect :=
  (options.dialect.or (path.bind Dialect.ofPath?)).getD .css

/-- The mode for a file. -/
def modeFor (options : Options) (path : Option Text) : Except ModeError Mode :=
  Mode.make (options.dialectFor path) options.settings

end Options

/-- A line number and an offset with a colon between them, white space around each left out. -/
def parsePosition? (argument : Text) : Option (Nat × Nat) :=
  let line := argument.takeWhile (· != ':')
  match argument.dropWhile (· != ':') with
  | [] => none
  | _ :: offset =>
    match Text.numeral? (Text.trim line), Text.numeral? (Text.trim offset) with
    | some line, some offset => some (line, offset)
    | _, _ => none

end Stylesheet
