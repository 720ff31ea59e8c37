import Stylesheet.Command.Run

/-!
# The program

Reads the command line and files, prints, and exits.
-/
namespace Stylesheet

/-- The words of the system for a failure, with its number. Numbers below zero are counted from
the top. -/
def systemReason (code : UInt32) (details : String) : String :=
  let number := if code < 0x80000000 then code else 0 - code
  s!"{details.capitalize} (os error {number})"

/-- Read a file as text. -/
def readTextFile (path : Text) : IO (Except FileError Text) := do
  try
    let bytes ← IO.FS.readBinFile (String.ofList path)
    match String.fromUTF8? bytes with
    | some content => return .ok content.toList
    | none => return .error .notText
  catch
    | .noFileOrDirectory .. => return .error .missing
    | .permissionDenied .. => return .error .denied
    | .inappropriateType _ code details => return .error (.other (systemReason code details))
    | error => return .error (.other error.toString)

end Stylesheet

/-- Run the command line and exit with its code. -/
def main (arguments : List String) : IO UInt32 := do
  let outcome ← Stylesheet.Command.run Stylesheet.readTextFile (arguments.map String.toList)
  (← IO.getStdout).putStr outcome.stdout
  (← IO.getStderr).putStr outcome.stderr
  return outcome.code.toUInt32
