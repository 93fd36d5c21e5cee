import Playpen.Text.Classes

/-!
# The name a dependency is bound under

A script sees a package under an identifier made from its name: the scope is dropped, characters
that no identifier holds separate words, and every word after the first begins in upper case.  An
underscore is put in front where the result would be empty, begin with a number, or be a word the
script may not bind.
-/

namespace Playpen.Dependency

open Playpen.Text (isAlphanumeric isNumber upper)

/-- Words that cannot name a binding. -/
def reservedWords : List String := [
  "arguments", "await", "break", "case", "catch", "class", "const", "continue", "debugger", "default",
  "delete", "do", "else", "enum", "eval", "export", "extends", "false", "finally", "for", "function",
  "if", "implements", "import", "in", "instanceof", "interface", "let", "new", "null", "package",
  "private", "protected", "public", "return", "static", "super", "switch", "this", "throw", "true",
  "try", "typeof", "var", "void", "while", "with", "yield"]

/-- Characters that stay in an identifier. -/
def isNameChar (c : Char) : Bool := isAlphanumeric c || c = '_' || c = '$'

/-- What follows the last slash; everything when there is none. -/
def afterLastSlash (cs : List Char) : List Char := (cs.reverse.takeWhile (· ≠ '/')).reverse

/-- A scoped name without its scope. -/
def unscoped : List Char → List Char
  | '@' :: rest => afterLastSlash rest
  | cs => cs

/-- Joins the words of a name.  `begun` says that something has been written, `gap` that separators
came since. -/
def camelCase (begun gap : Bool) : List Char → List Char
  | [] => []
  | c :: rest =>
    if isNameChar c then
      (if begun && gap then upper c else [c]) ++ camelCase true false rest
    else camelCase begun true rest

/-- Whether an underscore has to be put in front. -/
def needsUnderscore (cs : List Char) : Bool :=
  match cs with
  | [] => true
  | c :: _ => isNumber c || String.ofList cs = "console" || reservedWords.contains (String.ofList cs)

/-- The identifier a dependency is bound under. -/
def bindingIdentifier (name : String) : String :=
  let cs := camelCase false false (unscoped name.toList)
  String.ofList (if needsUnderscore cs then '_' :: cs else cs)

end Playpen.Dependency
