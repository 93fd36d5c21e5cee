import Playpen.Url.Host

/-!
# URLs

A URL in its parts, its written form, and how it is read, alone or against a base.  The reading
follows the URL standard: blanks at the ends and tabs and line breaks anywhere are dropped, the
special schemes read a backslash as a slash, and `.` and `..` segments are resolved on the way.
-/

namespace Playpen

/-- The path of a URL. -/
inductive Url.Path where
  /-- Text with no structure, as in `mailto:`. -/
  | whole (text : String)
  /-- Segments, each behind a slash. -/
  | segments (parts : List String)
  deriving DecidableEq, Repr

/-- The segments of a path, if it has any. -/
def Url.Path.parts : Url.Path → List String
  | .whole _ => []
  | .segments parts => parts

/-- A URL. -/
structure Url where
  scheme : String
  username : String := ""
  password : String := ""
  host : Option Url.Host := none
  port : Option Nat := none
  path : Url.Path
  query : Option String := none
  fragment : Option String := none
  deriving DecidableEq, Repr

namespace Url

/-- Schemes with slashes, hosts and default ports. -/
def isSpecial (scheme : String) : Bool := ["http", "https", "ws", "wss", "ftp", "file"].contains scheme

def defaultPort (scheme : String) : Option Nat :=
  match scheme with
  | "http" => some 80
  | "ws" => some 80
  | "https" => some 443
  | "wss" => some 443
  | "ftp" => some 21
  | _ => none

/-- Whether relative references can be resolved against the URL. -/
def isBase (u : Url) : Bool :=
  match u.path with
  | .whole _ => false
  | .segments _ => true

/-- User name and password, with the sign behind them. -/
def userinfo (u : Url) : String :=
  if u.username = "" ∧ u.password = "" then ""
  else u.username ++ (if u.password = "" then "" else ":" ++ u.password) ++ "@"

/-- Host and port, or `//` alone for files without a host. -/
def authority (u : Url) : String :=
  match u.host with
  | some h => "//" ++ u.userinfo ++ h.text ++ (match u.port with | some p => ":" ++ toString p | none => "")
  | none =>
    if u.scheme = "file" then "//"
    else match u.path with
      | .segments ("" :: _ :: _) => "/."
      | _ => ""

def pathText (u : Url) : String :=
  match u.path with
  | .whole text => text
  | .segments parts => String.join (parts.map ("/" ++ ·))

/-- The written form. -/
def text (u : Url) : String :=
  u.scheme ++ ":" ++ u.authority ++ u.pathText ++ (u.query.elim "" ("?" ++ ·)) ++ (u.fragment.elim "" ("#" ++ ·))

instance : ToString Url := ⟨text⟩

/-! ## Reading -/

def isSlash (special : Bool) (c : Char) : Bool := c = '/' || (special && c = '\\')

/-- Splits at the first character that satisfies `p`, which stays with the rest. -/
def cut (p : Char → Bool) (cs : List Char) : List Char × List Char := (cs.takeWhile (!p ·), cs.dropWhile (!p ·))

def lowerAscii (cs : List Char) : List Char := cs.map Char.toLower

/-- A scheme and what follows its colon. -/
def cutScheme (cs : List Char) : Option (String × List Char) :=
  match cs with
  | [] => none
  | c :: _ =>
    if Text.isAsciiLetter c then
      let inScheme (c : Char) := Text.isAsciiLetter c || Text.isDigit c || c = '+' || c = '-' || c = '.'
      match cs.dropWhile inScheme with
      | ':' :: rest => some (String.ofList (lowerAscii (cs.takeWhile inScheme)), rest)
      | _ => none
    else none

def isDoubleDot (seg : List Char) : Bool :=
  let s := String.ofList (lowerAscii seg)
  s = ".." || s = ".%2e" || s = "%2e." || s = "%2e%2e"

def isSingleDot (seg : List Char) : Bool :=
  let s := String.ofList (lowerAscii seg)
  s = "." || s = "%2e"

/-- `C:` or `C|`. -/
def isDriveLetter (seg : List Char) : Bool :=
  match seg with
  | [c, d] => Text.isAsciiLetter c && (d = ':' || d = '|')
  | _ => false

/-- A drive letter at the start of a text, with nothing or a separator behind it. -/
def startsWithDriveLetter (cs : List Char) : Bool :=
  isDriveLetter (cs.take 2) &&
    match cs.drop 2 with
    | [] => true
    | c :: _ => c = '/' || c = '\\' || c = '?' || c = '#'

/-- Removes the last segment; a file's drive letter stays. -/
def shorten (file : Bool) (parts : List String) : List String :=
  match parts with
  | [d] => if file && (match d.toList with | [c, ':'] => Text.isAsciiLetter c | _ => false) then parts else []
  | _ => parts.dropLast

/-- Reads the segments of a path whose leading slash has been taken; `parts` is the path so far. -/
def readSegments (special file : Bool) : List (List Char) → List String → List String
  | [], parts => parts
  | seg :: rest, parts =>
    let last := rest.isEmpty
    let encoded := encodeWith pathSet seg
    if isDoubleDot seg then
      let parts := shorten file parts
      readSegments special file rest (if last then parts ++ [""] else parts)
    else if isSingleDot seg then readSegments special file rest (if last then parts ++ [""] else parts)
    else
      let encoded :=
        if file && parts.isEmpty && isDriveLetter seg then seg.take 1 ++ [':'] else encoded
      readSegments special file rest (parts ++ [String.ofList encoded])

/-- Pieces of a path between slashes. -/
def splitPath (special : Bool) : List Char → List (List Char)
  | [] => [[]]
  | c :: rest =>
    if isSlash special c then [] :: splitPath special rest
    else match splitPath special rest with
      | piece :: pieces => (c :: piece) :: pieces
      | [] => [[c]]

/-- A path from its text, appended to the segments already there. -/
def pathFrom (scheme : String) (before : List String) (cs : List Char) : List String :=
  let file := scheme = "file"
  let parts := readSegments (isSpecial scheme) file (splitPath (isSpecial scheme) cs) before
  if file then
    -- a file's path begins with one slash only
    match parts.dropWhile (· = "") with
    | [] => [""]
    | kept => kept
  else parts

/-- Query and fragment, from the rest of a URL that begins with `?` or `#` or is empty. -/
def withTail (u : Url) (cs : List Char) : Url :=
  let (beforeHash, hash) := cut (· = '#') cs
  let set := if isSpecial u.scheme then specialQuerySet else querySet
  let query := match beforeHash with
    | '?' :: q => some (String.ofList (encodeWith set q))
    | _ => none
  let fragment := match hash with
    | '#' :: f => some (String.ofList (encodeWith fragmentSet f))
    | _ => none
  { u with query := query, fragment := fragment }

def isTail (c : Char) : Bool := c = '?' || c = '#'

/-- A port, unless it is the scheme's own. -/
def readPort (scheme : String) (cs : List Char) : Except Error (Option Nat × List Char) :=
  let digits := cs.takeWhile Text.isDigit
  let rest := cs.dropWhile Text.isDigit
  let port := numberIn 10 digits
  if port > 65535 then .error .badPort
  else match rest with
    | [] => .ok (pick digits port, rest)
    | c :: _ => if c = '/' || c = '\\' || isTail c then .ok (pick digits port, rest) else .error .badPort
where
  pick (digits : List Char) (port : Nat) : Option Nat :=
    if digits.isEmpty ∨ defaultPort scheme = some port then none else some port

/-- The host's text, up to a colon outside brackets. -/
def cutHost : Bool → List Char → List Char × List Char
  | _, [] => ([], [])
  | inside, c :: rest =>
    if c = ':' && !inside then ([], c :: rest)
    else
      let inside := if c = '[' then true else if c = ']' then false else inside
      let (host, tail) := cutHost inside rest
      (c :: host, tail)

/-- The last `@` of an authority. -/
def cutAtSign (cs : List Char) : Option (List Char × List Char) :=
  let after := (cs.reverse.takeWhile (· ≠ '@')).reverse
  if after.length = cs.length then none else some (cs.take (cs.length - after.length - 1), after)

/-- What stands before the last `@` of an authority, and after it. -/
def cutLogin (cs : List Char) : Option (List Char) × List Char :=
  match cutAtSign cs with
  | some (info, hostport) => (some info, hostport)
  | none => (none, cs)

/-- User name and password, as they are written before the sign. -/
def readLogin (info : Option (List Char)) : String × String :=
  match info with
  | some info =>
    let (user, pass) := cut (· = ':') info
    (String.ofList (encodeWith userinfoSet user), String.ofList (encodeWith userinfoSet (pass.drop 1)))
  | none => ("", "")

/-- The port behind a host, after its colon. -/
def readPortText (scheme : String) (cs : List Char) : Except Error (Option Nat) :=
  match cs with
  | ':' :: digits => do pure (← readPort scheme digits).1
  | _ => pure none

/-- Host and port; behind a user name or password the host may not be missing. -/
def readHostPort (scheme : String) (login : String × String) (cs : List Char) :
    Except Error (Host × Option Nat) := do
  let (hostText, portText) := cutHost false cs
  if isSpecial scheme ∧ hostText.isEmpty then throw .emptyHost
  let host ← Host.read (isSpecial scheme) hostText
  if hostText.isEmpty ∧ (!portText.isEmpty ∨ login ≠ ("", "")) then throw .emptyHost
  let port ← readPortText scheme portText
  pure (host, port)

/-- The path behind an authority. -/
def authorityPath (scheme : String) (cs : List Char) : List String :=
  match cs with
  | [] => if isSpecial scheme then [""] else []
  | c :: more => pathFrom scheme [] (if isSlash (isSpecial scheme) c then more else cs)

/-- Authority, path and tail of a URL, from behind the two slashes. -/
def readAuthority (scheme : String) (cs : List Char) : Except Error Url := do
  let (authority, rest) := cut (fun c => isSlash (isSpecial scheme) c || isTail c) cs
  let (info, hostport) := cutLogin authority
  if info = some [] ∧ hostport.isEmpty ∧ !rest.isEmpty then throw .emptyHost
  let login := readLogin info
  let (host, port) ← readHostPort scheme login hostport
  let (pathCs, tail) := cut isTail rest
  pure (withTail {
    scheme := scheme, username := login.1, password := login.2
    host := some host, port := port, path := .segments (authorityPath scheme pathCs) } tail)

/-- A file URL whose path goes on from the segments `before`. -/
def fileUrl (host : Option Host) (before : List String) (cs : List Char) : Url :=
  let (pathCs, tail) := cut isTail cs
  withTail { scheme := "file", host := host, path := .segments (pathFrom "file" before pathCs) } tail

/-- The host of a file and what follows it; the local host is none. -/
def readFileHost (cs : List Char) : Except Error (Option Host × List Char) :=
  let (hostText, tail) := cut (fun c => isSlash true c || isTail c) cs
  if isDriveLetter hostText then .ok (none, cs)
  else if hostText.isEmpty then .ok (none, tail)
  else do
    let h ← Host.parse hostText
    pure (if h = .domain "localhost" then none else some h, tail)

/-- A file URL, from behind the two slashes before its host. -/
def readFileAuthority (cs : List Char) : Except Error Url := do
  let (host, tail) ← readFileHost cs
  let tail := match tail with
    | c :: more => if isSlash true c then more else tail
    | [] => []
  let u := fileUrl host [] tail
  -- a drive letter takes the host away
  match u.path with
  | .segments (d :: _) => pure (if isDriveLetter d.toList then { u with host := none } else u)
  | _ => pure u

/-- The drive letter that the segments of a path begin with. -/
def drive (parts : List String) : List String :=
  match parts with
  | d :: _ => if isDriveLetter d.toList then [d] else []
  | [] => []

/-- A file URL, from behind its colon; the base counts only if it is one too. -/
def readFile (base : Option Url) (cs : List Char) : Except Error Url :=
  match cs with
  | a :: rest =>
    if isSlash true a then
      match rest with
      | b :: rest' =>
        if isSlash true b then readFileAuthority rest'
        else
          let inherited := if startsWithDriveLetter rest then none else base
          .ok (fileUrl (inherited.bind (·.host)) (inherited.elim [] (drive ·.path.parts)) rest)
      | [] => .ok (fileUrl (base.bind (·.host)) [] [])
    else match base with
      | some b =>
        if a = '?' then .ok (withTail { b with query := none, fragment := none } cs)
        else if a = '#' then .ok { withTail b cs with query := b.query }
        else if startsWithDriveLetter cs then .ok (fileUrl none [] cs)
        else .ok (fileUrl b.host (shorten true b.path.parts) cs)
      | none => .ok (fileUrl none [] cs)
  | [] =>
    match base with
    | some b => .ok { b with fragment := none }
    | none => .ok (fileUrl none [] [])

/-- Only the fragment changes. -/
def withFragment (base : Url) (cs : List Char) : Url :=
  { base with fragment := (withTail { base with query := none } cs).fragment }

/-- A reference without a scheme. -/
def readRelative (base : Url) (cs : List Char) : Except Error Url := do
  let special := isSpecial base.scheme
  match cs with
  | [] => pure { base with fragment := none }
  | '?' :: _ => pure (withTail { base with query := none, fragment := none } cs)
  | '#' :: _ => pure (withFragment base cs)
  | a :: rest =>
    if isSlash special a then
      match rest with
      | b :: rest' =>
        if isSlash special b then
          if a = '/' ∧ b = '/' then readAuthority base.scheme rest'
          else readAuthority base.scheme (rest'.dropWhile (isSlash special))
        else
          let (pathCs, tail) := cut isTail rest
          pure (withTail { base with path := .segments (pathFrom base.scheme [] pathCs) } tail)
      | [] => pure { base with path := .segments [""], query := none, fragment := none }
    else
      let (pathCs, tail) := cut isTail cs
      pure (withTail { base with path := .segments (pathFrom base.scheme base.path.parts.dropLast pathCs) } tail)

/-- What follows a scheme and its colon. -/
def readAfterScheme (base : Option Url) (scheme : String) (cs : List Char) : Except Error Url :=
  if scheme = "file" then readFile (base.filter (·.scheme = "file")) cs
  else if isSpecial scheme then
    let slashes := (cs.takeWhile (isSlash true)).length
    match base with
    | some b =>
      if slashes < 2 ∧ b.scheme = scheme then readRelative b cs
      else readAuthority scheme (cs.dropWhile (isSlash true))
    | none => readAuthority scheme (cs.dropWhile (isSlash true))
  else match cs with
    | '/' :: '/' :: rest => readAuthority scheme rest
    | '/' :: rest =>
      let (pathCs, tail) := cut isTail rest
      .ok (withTail { scheme := scheme, path := .segments (pathFrom scheme [] pathCs) } tail)
    | cs =>
      let (pathCs, tail) := cut isTail cs
      .ok (withTail { scheme := scheme, path := .whole (String.ofList (encodeWith controlSet pathCs)) } tail)

/-- Drops what the standard drops before reading. -/
def cleaned (s : String) : List Char :=
  (Text.trimBy (·.toNat ≤ 0x20) s.toList).filter fun c => c ≠ '\t' && c ≠ '\n' && c ≠ '\r'

/-- Reads a reference against a base. -/
def resolve (base : Option Url) (s : String) : Except Error Url :=
  let cs := cleaned s
  match cutScheme cs with
  | some (scheme, rest) => readAfterScheme base scheme rest
  | none =>
    match base with
    | none => .error .noBase
    | some b =>
      if cs.head? = some '#' then .ok (withFragment b cs)
      else if !b.isBase then .error .opaqueBase
      else if b.scheme = "file" then readFile (some b) cs
      else readRelative b cs

/-- Reads an absolute URL. -/
def parse (s : String) : Except Error Url := resolve none s

/-- Reads a reference relative to a URL. -/
def join (base : Url) (s : String) : Except Error Url := resolve (some base) s

end Url

end Playpen
