import Stylesheet.Text.Split

/-!
# File names

A path is a list of steps between slashes. Empty steps and single dots lead nowhere and are
passed over. The last step is the name of a file, unless it leads to the directory above.
-/
namespace Stylesheet.Text

/-- The name of the file a path leads to. -/
def fileName? (path : Text) : Option Text :=
  let steps := (split '/' path).filter fun step => !step.isEmpty && step != ['.']
  steps.getLast?.filter (· != ['.', '.'])

/-- The part of a file name behind its last dot. A dot in front of the name does not count. -/
def extensionOf? (name : Text) : Option Text :=
  match (split '.' name).reverse with
  | [] => none
  | [_] => none
  | [extension, stem] => if stem.isEmpty then none else some extension
  | extension :: _ :: _ :: _ => some extension

/-- The extension of the file a path leads to. -/
def extension? (path : Text) : Option Text := (fileName? path).bind extensionOf?

end Stylesheet.Text
