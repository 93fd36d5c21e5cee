import Playpen.Dependency.Error
import Playpen.Json.Decode
import Playpen.Url.Basic

/-!
# Dependencies

A dependency is a package and the version wanted of it.  It is written `name@version`; a scoped name
begins with an `@` of its own, and without a version the newest is meant.
-/

namespace Playpen

/-- A package made available to scripts. -/
structure Dependency where
  name : String
  version : String
  description : String
  /-- Where the package is described. -/
  url : String
  deriving DecidableEq, Repr, Inhabited

namespace Dependency

/-- A dependency without a description, described on its registry page. -/
def ofName (name version : String) : Dependency :=
  ⟨name, version, "", "https://www.npmjs.com/package/" ++ name⟩

def toJson (d : Dependency) : Json :=
  .object [
    ("name", .string d.name), ("version", .string d.version),
    ("description", .string d.description), ("url", .string d.url)]

/-- A dependency of which some fields are known. -/
structure Draft where
  name : Option String
  version : Option String
  description : Option String
  url : Option String

def shape : Json.Shape Draft Dependency where
  name := "Dependency"
  slots := [
    .of "name" true Draft.name fun d s => { d with name := some s },
    .of "version" true Draft.version fun d s => { d with version := some s },
    .of "description" false Draft.description fun d s => { d with description := some s },
    .of "url" false Draft.url fun d s => { d with url := some s }]
  start := ⟨none, none, none, none⟩
  finish d := ⟨d.name.getD "", d.version.getD "", d.description.getD "", d.url.getD ""⟩

instance : Json.Decodable Dependency := ⟨shape.read, shape.ofValue⟩

/-! ## Specs -/

/-- Cuts a text at its last `@`. -/
def cutLastAt (cs : List Char) : Option (List Char × List Char) :=
  let after := (cs.reverse.takeWhile (· ≠ '@')).reverse
  if after.length = cs.length then none else some (cs.take (cs.length - after.length - 1), after)

/-- Name and version in a spec without blanks around it: the version follows the last `@` that is
not the first character. -/
def cutSpec : List Char → List Char × List Char
  | [] => ([], "latest".toList)
  | '@' :: rest =>
    match cutLastAt rest with
    | some (name, version) => ('@' :: name, version)
    | none => ('@' :: rest, "latest".toList)
  | cs => (cutLastAt cs).getD (cs, "latest".toList)

/-- What a spec's name must be: not empty, with a slash when it is scoped, without blanks. -/
def isPackageName (name : List Char) : Bool :=
  !name.isEmpty && (name.head? != some '@' || name.contains '/') && !name.any Text.isWhiteSpace

/-- What a spec's version must be: not empty and without blanks. -/
def isVersion (version : List Char) : Bool := !version.isEmpty && !version.any Text.isWhiteSpace

/-- Reads `name@version`, `@scope/name@version`, or a bare name. -/
def parseSpec (spec : String) : Except Error Dependency :=
  let cs := Text.trimBy Text.isWhiteSpace spec.toList
  let (name, version) := cutSpec cs
  if isPackageName name && isVersion version then .ok (ofName (String.ofList name) (String.ofList version))
  else .error (.invalidSpec (String.ofList cs))

/-! ## The entry module -/

/-- A text without the slashes at its end. -/
def dropTrailingSlashes (s : String) : String := String.ofList (s.toList.reverse.dropWhile (· = '/')).reverse

/-- The text of the entry module's address. -/
def moduleAddress (d : Dependency) (cdnBase : String) : String :=
  dropTrailingSlashes cdnBase ++ "/npm/" ++ d.name ++ "@" ++ d.version ++ "/+esm"

/-- The URL of the entry module. -/
def moduleUrl (d : Dependency) (cdnBase : String) : Except Error Url :=
  let raw := d.moduleAddress cdnBase
  match Url.parse raw with
  | .ok u => .ok u
  | .error e => .error (.invalidUrl raw e.message)

end Dependency

end Playpen
