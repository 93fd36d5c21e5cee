import Playpen.Script.Token
import Playpen.Text.Classes

/-!
# Reading tokens

Every function here takes the characters of a source and an index, and says where it stopped.  What
a slash begins, and where a template goes on, only the grammar knows: `scan` reads a token as it
stands where an operator may stand, `scanRegex`, `scanTemplate` and `scanGreater` are for whoever
knows better.
-/

namespace Playpen.Script.Lexer

open Playpen.Text (Wide isDigit isHexDigit hexValue isIdStart isIdContinue)

/-- How a source is to be read: the transpiler reads typed sources, the engine plain scripts, and both
read modules. -/
structure Mode where
  /-- Whether types may be written. -/
  typed : Bool
  /-- Whether markup elements may be written. -/
  markup : Bool
  isModule : Bool
  deriving Inhabited

/-- Whether the source is a plain script. -/
def Mode.isScript (m : Mode) : Bool := !m.typed && !m.isModule

def isLineEnd (c : Char) : Bool := c = '\n' || c = '\r' || c.toNat = 0x2028 || c.toNat = 0x2029

/-- Blanks of the script language, line ends aside. -/
def isBlank (c : Char) : Bool :=
  c = ' ' || c = '\t' || c.toNat = 11 || c.toNat = 12 || c.toNat = 0xFEFF ||
    (c.toNat ≥ 0x80 && Text.isWhiteSpace c && !isLineEnd c && c.toNat ≠ 0x85)

def isNameStart (c : Char) : Bool := isIdStart c || c = '$' || c = '_'

def isNamePart (c : Char) : Bool := isIdContinue c || c = '$' || c.toNat = 0x200C || c.toNat = 0x200D

/-- The first index from `i` on where the character fails `p`. -/
def skipWhile (p : Char → Bool) (src : Array Char) (i : Nat) : Nat :=
  if h : i < src.size then if p src[i] then skipWhile p src (i + 1) else i else i
termination_by src.size - i

/-- The text from `i` up to but not including `j`. -/
def textOf (src : Array Char) (i j : Nat) : String := String.ofList (src.extract i j).toList

def charAt (src : Array Char) (i : Nat) : Char := src.getD i (Char.ofNat 0)

/-- Past the end there is nothing but the null character. -/
theorem lt_size_of_charAt {src : Array Char} {i : Nat} {c : Char} (h : charAt src i = c) (hc : c ≠ Char.ofNat 0) :
    i < src.size := by
  unfold charAt Array.getD at h
  split at h
  · assumption
  · exact absurd h.symm hc

/-- Whether a text stands at an index. -/
def standsAt (src : Array Char) (i : Nat) : List Char → Bool
  | [] => true
  | c :: rest => src[i]? == some c && standsAt src (i + 1) rest

/-! ## Blanks and comments -/

/-- The index behind the `*/` of a comment, and whether a line ended inside. -/
def skipBlockComment (src : Array Char) (i : Nat) (newline : Bool) : Option Nat × Bool :=
  if h : i < src.size then
    if src[i] = '*' && src[i + 1]? == some '/' then (some (i + 2), newline)
    else skipBlockComment src (i + 1) (newline || isLineEnd src[i])
  else (none, newline)
termination_by src.size - i

/-- What lies before a token. -/
structure Gap where
  next : Nat
  newline : Bool
  /-- Whether a line has ended, or the source begun, since the token before. -/
  fresh : Bool
  /-- Comments that belong to what follows, last first. -/
  comments : List Comment
  complaint : Option Complaint

/-- What the end of a line tells of the comments before it: those on the line of the token before
belong to that token, and are passed over. -/
def Gap.endLine (g : Gap) : Gap :=
  let comments := if !g.fresh then [] else match g.comments with
    | c :: rest => { c with newlineAfter := true } :: rest
    | [] => []
  { g with newline := true, fresh := true, comments := comments }

/-- Skips blanks, line ends and comments. -/
def skipGap (m : Mode) (src : Array Char) : Nat → Gap → Gap
  | 0, g => g
  | fuel + 1, g =>
    let i := g.next
    let c := charAt src i
    if i ≥ src.size then g
    else if isBlank c then skipGap m src fuel { g with next := i + 1 }
    else if isLineEnd c then skipGap m src fuel { g.endLine with next := i + 1 }
    else if c = '/' && src[i + 1]? == some '/' then
      let j := skipWhile (!isLineEnd ·) src i
      let comment : Comment := ⟨textOf src i j, true, g.fresh, true⟩
      let comments := if g.fresh then comment :: g.comments else []
      skipGap m src fuel { g with next := j, fresh := true, comments := comments }
    else if c = '/' && src[i + 1]? == some '*' then
      match skipBlockComment src (i + 2) false with
      | (some j, newline) =>
        skipGap m src fuel { g with
          next := j, newline := g.newline || newline
          comments := ⟨textOf src i j, false, g.fresh, false⟩ :: g.comments }
      | (none, _) =>
        { g with
          next := src.size
          complaint := some ⟨"Unterminated multiline comment", "unterminated multiline comment", some src.size⟩ }
    else if m.typed && !m.isModule && standsAt src i ['<', '!', '-', '-'] then
      skipGap m src fuel { g with next := skipWhile (!isLineEnd ·) src i }
    else if m.typed && !m.isModule && (g.newline || i = 0) && standsAt src i ['-', '-', '>'] then
      skipGap m src fuel { g with next := skipWhile (!isLineEnd ·) src i }
    else g

/-! ## Escapes -/

/-- The value of hexadecimal digits. -/
def hexNumber (src : Array Char) (i j : Nat) : Nat :=
  (src.extract i j).foldl (fun n c => n * 16 + hexValue c) 0

/-- A `\u` escape, from behind the `u`: a code point and where it ends. -/
def unicodeEscape (src : Array Char) (i : Nat) : Option (Nat × Nat) :=
  if src[i]? == some '\x7b' then
    let j := skipWhile isHexDigit src (i + 1)
    let n := hexNumber src (i + 1) j
    if j > i + 1 && src[j]? == some '\x7d' && n ≤ 0x10FFFF then some (n, j + 1) else none
  else
    let four := (src.extract i (i + 4))
    if four.size = 4 && four.all isHexDigit then some (hexNumber src i (i + 4), i + 4) else none

/-- What an escape stands for. -/
inductive Escape where
  /-- A piece of text, where the escape ends, and whether it is an old octal escape. -/
  | piece (p : Piece) (stop : Nat) (legacy : Bool)
  | wrong (stop : Nat)

def isOctal (c : Char) : Bool := '0' ≤ c ∧ c ≤ '7'

/-- The escape whose backslash stands at `i`. -/
def escape (src : Array Char) (i : Nat) : Escape :=
  let one (n : Nat) : Escape := .piece (.char (Char.ofNat n)) (i + 2) false
  match src[i + 1]? with
  | none => .wrong (i + 1)
  | some 'n' => one 10
  | some 't' => one 9
  | some 'r' => one 13
  | some 'b' => one 8
  | some 'v' => one 11
  | some 'f' => one 12
  | some '\n' => .piece .line (i + 2) false
  | some '\r' => .piece .line (if src[i + 2]? == some '\n' then i + 3 else i + 2) false
  | some 'x' =>
    let two := src.extract (i + 2) (i + 4)
    if two.size = 2 && two.all isHexDigit then .piece (.char (Char.ofNat (hexNumber src (i + 2) (i + 4)))) (i + 4) false
    else .wrong (i + 2)
  | some 'u' =>
    match unicodeEscape src (i + 2) with
    | some (n, j) =>
      .piece (if src[i + 2]? == some '\x7b' then .point (Fin.ofNat 0x110000 n) else .unit n.toUInt16) j false
    | none => .wrong (i + 2)
  | some c =>
    if isLineEnd c then .piece .line (i + 2) false
    else if c = '0' && !(isDigit (charAt src (i + 2))) then one 0
    else if isOctal c then
      let limit := if c ≤ '3' then i + 4 else i + 3
      let j := min limit (skipWhile isOctal src (i + 1))
      .piece (.char (Char.ofNat ((src.extract (i + 1) j).foldl (fun (n : Nat) (d : Char) => n * 8 + (d.toNat - 48)) 0))) j true
    else if c = '8' || c = '9' then .piece (.char c) (i + 2) true
    else .piece (.char c) (i + 2) false

/-! ## Names -/

/-- A name from `i` on: its characters, last first, where it ends, and whether an escape is in it. -/
def nameFrom (src : Array Char) (fuel i : Nat) (acc : List Char) (escaped : Bool) :
    Option (List Char × Nat × Bool) :=
  match fuel with
  | 0 => some (acc, i, escaped)
  | fuel + 1 =>
    let ok (c : Char) : Bool := if acc.isEmpty then isNameStart c else isNamePart c
    match src[i]? with
    | none => some (acc, i, escaped)
    | some '\\' =>
      if src[i + 1]? == some 'u' then
        match unicodeEscape src (i + 2) with
        | some (n, j) => if ok (Char.ofNat n) then nameFrom src fuel j (Char.ofNat n :: acc) true else none
        | none => none
      else none
    | some c => if ok c then nameFrom src fuel (i + 1) (c :: acc) escaped else some (acc, i, escaped)

/-! ## Tokens -/

/-- A token as read, with what is wrong with it. -/
structure Scan where
  kind : TokenKind
  stop : Nat
  escaped : Bool
  complaints : List Complaint

def found (kind : TokenKind) (stop : Nat) : Scan := ⟨kind, stop, false, []⟩

def refused (stop : Nat) (c : Complaint) : Scan := ⟨.bad, stop, false, [c]⟩

/-- A token as read, with complaints about what stands before its end. -/
def Scan.with (s : Scan) (before : List Complaint) : Scan := { s with complaints := before ++ s.complaints }

/-- The complaint about a character that cannot stand where it stands. -/
def badCharacter (src : Array Char) (i : Nat) (detail : String) : Complaint :=
  match src[i]? with
  | some c => ⟨s!"Invalid Character `{c}`", detail, some i⟩
  | none => ⟨"Unexpected end of file", detail, some i⟩

/-- Where digits end that may have single underscores between them, and the complaint about an
underscore that no digit follows. -/
def digitsEnd (digit : Char → Bool) (src : Array Char) (i : Nat) : Nat × List Complaint :=
  let j := skipWhile digit src i
  if h : i < j ∧ charAt src j = '_' then
    if digit (charAt src (j + 1)) then digitsEnd digit src (j + 1)
    else
      let detail := if charAt src (j + 1) = '_' then "only one underscore is allowed as numeric separator"
        else "underscores are not allowed at the end of numeric literals"
      (j + 1, [badCharacter src (j + 1) detail])
  else (j, [])
termination_by src.size - i
decreasing_by
  have := lt_size_of_charAt h.2 (by decide)
  omega

def plainDigits (src : Array Char) (i j : Nat) : List Char := (src.extract i j).toList.filter (· ≠ '_')

/-- Digits in a radix as a number. -/
def digitsValue (radix : Nat) (cs : List Char) : Nat := cs.foldl (fun n c => n * radix + hexValue c) 0

/-- What comes behind a number: nothing that could go on in a name. -/
def endNumber (src : Array Char) (kind : TokenKind) (j : Nat) : Scan :=
  let c := charAt src j
  if j < src.size && (isNameStart c || isDigit c || c = '\\') then
    refused (skipWhile isNamePart src j) ⟨"Invalid characters after number",
      "a numeric literal must not be followed by an alphanumeric, $ or _ characters", some j⟩
  else found kind j

/-- A number with a radix mark. -/
def scanRadix (src : Array Char) (i radix : Nat) (digit : Char → Bool) : Scan :=
  match digitsEnd digit src (i + 2) with
  | (j, c :: _) => refused j c
  | (j, []) =>
    if j = i + 2 then refused (i + 2) (badCharacter src j "unexpected character in numeric literal")
    else if src[j]? == some 'n' then endNumber src (.bigint (textOf src i j)) (j + 1)
    else endNumber src (.number (Decimal.toFloat (digitsValue radix (plainDigits src (i + 2) j)) 0) false) j

/-- A decimal number without radix mark. -/
def scanDecimal (src : Array Char) (i : Nat) : Scan :=
  let (whole, complaints) := digitsEnd isDigit src i
  if src[whole]? == some 'n' && whole > i then
    (endNumber src (.bigint (textOf src i whole)) (whole + 1)).with complaints
  else
    let point := src[whole]? == some '.'
    let (places, morePlaces) := if point then digitsEnd isDigit src (whole + 1) else (whole, [])
    let mark := src[places]? == some 'e' || src[places]? == some 'E'
    let signed := mark && (src[places + 1]? == some '+' || src[places + 1]? == some '-')
    let first := if signed then places + 2 else places + 1
    let (stop, more) := if mark then digitsEnd isDigit src first else (places, [])
    if mark && stop = first then refused first (badCharacter src first "unexpected character in exponent")
    else
      let wholeDigits := plainDigits src i whole
      let placeDigits := if point then plainDigits src (whole + 1) places else []
      let e := if mark then digitsValue 10 (plainDigits src first stop) else 0
      let e : Int := if signed && src[places + 1]? == some '-' then -e else e
      let x := Decimal.toFloat (digitsValue 10 (wholeDigits ++ placeDigits)) (e - placeDigits.length)
      (endNumber src (.number x false) stop).with (complaints ++ morePlaces ++ more)

/-- A number that begins at `i`. -/
def scanNumber (src : Array Char) (i : Nat) : Scan :=
  let c := charAt src (i + 1)
  if charAt src i = '0' then
    if c = 'x' || c = 'X' then scanRadix src i 16 isHexDigit
    else if c = 'o' || c = 'O' then scanRadix src i 8 isOctal
    else if c = 'b' || c = 'B' then scanRadix src i 2 (fun d => d = '0' || d = '1')
    else if isDigit c then
      let j := skipWhile isDigit src i
      let ds := (src.extract i j).toList
      if ds.all isOctal then endNumber src (.number (Decimal.toFloat (digitsValue 8 ds) 0) true) j
      else
        match scanDecimal src i with
        | ⟨.number x _, stop, e, c⟩ => ⟨.number x true, stop, e, c⟩
        | other => other
    else scanDecimal src i
  else scanDecimal src i

/-- The rest of a string literal; `acc` holds the pieces before, last first. -/
def stringFrom (src : Array Char) (quote : Char) : Nat → Nat → List Piece → Bool → Except Complaint (Written × Nat × Bool)
  | 0, i, _, _ => .error ⟨"Unterminated string", "unterminated string literal", some i⟩
  | fuel + 1, i, acc, legacy =>
    match src[i]? with
    | none => .error ⟨"Unterminated string", "unterminated string literal", none⟩
    | some '\\' =>
      match escape src i with
      | .piece p stop old => stringFrom src quote fuel stop (p :: acc) (legacy || old)
      | .wrong j =>
        .error ⟨if src[j]? == none then "Unterminated string" else "Invalid escape sequence",
          "invalid escape sequence in string literal", some j⟩
    | some c =>
      if c = quote then .ok (⟨acc.reverse⟩, i + 1, legacy)
      else if c = '\n' || c = '\r' then .error ⟨"Unterminated string", "unterminated string literal", none⟩
      else stringFrom src quote fuel (i + 1) (.char c :: acc) legacy

/-- Reads the string literal whose quote stands at `i`: its pieces, where it ends, and whether an old
octal escape is in it. -/
def stringAt (src : Array Char) (i : Nat) : Except Complaint (Written × Nat × Bool) :=
  stringFrom src (charAt src i) (src.size - i) (i + 1) [] false

/-- A string literal whose quote stands at `i`. -/
def scanString (src : Array Char) (i : Nat) : Scan :=
  match stringAt src i with
  | .ok (w, stop, legacy) => found (.text w.wide legacy) stop
  | .error c => refused src.size c

/-- A piece of a template, from behind its opening mark. -/
def templateFrom (src : Array Char) : Nat → Nat → Option (Array UInt16) → String → Option (Quasi × Bool × Nat)
  | 0, _, _, _ => none
  | fuel + 1, i, value, raw =>
    match src[i]? with
    | none => none
    | some '\\' =>
      match escape src i with
      | .piece p stop legacy =>
        let raw := raw ++ (textOf src i stop).replace "\r\n" "\n"
        templateFrom src fuel stop (if legacy then none else value.map (· ++ p.units)) raw
      | .wrong _ =>
        match src[i + 1]? with
        | none => none
        | some c => templateFrom src fuel (i + 2) none ((raw.push '\\').push c)
    | some '\r' =>
      let next := if src[i + 1]? == some '\n' then i + 2 else i + 1
      templateFrom src fuel next (value.map (·.push 10)) (raw.push '\n')
    | some c =>
      if c.toNat = 0x60 then some (⟨value.map Wide.ofUnits, raw⟩, true, i + 1)
      else if c = '$' && src[i + 1]? == some '\x7b' then some (⟨value.map Wide.ofUnits, raw⟩, false, i + 2)
      else templateFrom src fuel (i + 1) (value.map (Wide.pushChar · c)) (raw.push c)

/-- A piece of a template that begins behind `i`, where its opening mark or a closing brace stands. -/
def scanTemplate (src : Array Char) (i : Nat) : Scan :=
  match templateFrom src (src.size + 1) (i + 1) (some #[]) "" with
  | some (q, closed, stop) => found (.template q closed) stop
  | none => refused src.size ⟨"Unterminated string", "unterminated template literal", none⟩

/-- The index of the slash that ends a regular expression. -/
def regexEnd (src : Array Char) (i : Nat) (inClass : Bool) : Option Nat :=
  if h : i < src.size then
    let c := src[i]
    if isLineEnd c then none
    else if c = '\\' then
      if isLineEnd (charAt src (i + 1)) then none else regexEnd src (i + 2) inClass
    else if c = '/' && !inClass then some i
    else regexEnd src (i + 1) (if c = '[' then true else if c = ']' then false else inClass)
  else none
termination_by src.size - i

/-- Sorts the characters behind a regular expression: flags, and complaints about the others. -/
def readFlags : List Char → Place → List Char → List Char × List Complaint
  | [], _, seen => (seen.reverse, [])
  | c :: rest, i, seen =>
    if !"dgimsuvy".toList.contains c then
      let (fs, more) := readFlags rest (i + 1) seen
      (fs, ⟨s!"Unexpected flag {c} in regular expression literal", s!"invalid regular expression flag {c}", some i⟩ :: more)
    else if seen.contains c then
      let (fs, more) := readFlags rest (i + 1) seen
      (fs, ⟨s!"Flag {c} is mentioned twice in regular expression literal", s!"repeated regular expression flag {c}",
        some i⟩ :: more)
    else readFlags rest (i + 1) (c :: seen)

/-- A regular expression whose first slash stands at `i`. -/
def scanRegex (src : Array Char) (i : Nat) : Scan :=
  match regexEnd src (i + 1) false with
  | some j =>
    let isFlag (c : Char) : Bool := Text.isAsciiLetter c || isDigit c || c = '$' || c = '_'
    let stop := skipWhile isFlag src (j + 1)
    let (flags, complaints) := readFlags (src.extract (j + 1) stop).toList (j + 1) []
    (found (.regex (textOf src (i + 1) j) (String.ofList flags)) stop).with complaints
  | none => refused src.size ⟨"Unterminated regular expression", "abrupt end", none⟩

/-- Operators of three characters, of two, and of one. -/
def operators : List (List Char) :=
  ["...", "===", "!==", "**=", "<<=", "&&=", "||=", "??=",
    "=>", "==", "!=", "<=", "++", "--", "<<", "&&", "||", "??", "?.", "+=", "-=", "*=", "/=", "%=", "&=",
    "|=", "^=", "**",
    "\x7b", "\x7d", "(", ")", "[", "]", ";", ",", "<", ">", "+", "-", "*", "/", "%", "&", "|", "^", "!", "~",
    "?", ":", "=", ".", "@"].map String.toList

/-- An operator at `i`; a `?.` before a digit is a question mark. -/
def scanOperator (src : Array Char) (i : Nat) : Option Scan :=
  match operators.find? (standsAt src i) with
  | some o =>
    if o = ['?', '.'] && isDigit (charAt src (i + 2)) then some (found (.op "?") (i + 1))
    else some (found (.op (String.ofList o)) (i + o.length))
  | none => none

/-- What operator a `>` at `i` begins. -/
def scanGreater (src : Array Char) (i : Nat) : Scan :=
  let longest := [">>>=", ">>>", ">>=", ">>", ">="].find? fun o => standsAt src i o.toList
  let o := longest.getD ">"
  found (.op o) (i + o.length)

/-- A name or word at `i`. -/
def scanWord (src : Array Char) (i : Nat) : Scan :=
  match nameFrom src (src.size - i) i [] false with
  | some (cs, stop, escaped) => ⟨.word (String.ofList cs.reverse), stop, escaped, []⟩
  | none => refused (i + 1) ⟨"Invalid Unicode escape sequence", "malformed Unicode character escape sequence", some i⟩

/-- A private name whose `#` stands at `i`. -/
def scanHidden (src : Array Char) (i : Nat) : Scan :=
  match nameFrom src (src.size - i) (i + 1) [] false with
  | some (cs, stop, escaped) =>
    if cs.isEmpty then
      refused (i + 1) { badCharacter src (i + 1) "Abrupt end: Expecting private identifier" with place := some i }
    else ⟨.hidden ("#" ++ String.ofList cs.reverse), stop, escaped, []⟩
  | none => refused (i + 1) (badCharacter src (i + 1) "Abrupt end: Expecting private identifier")

/-- The token at `i`, which is no blank. -/
def scanAt (place : Place → Nat × Nat) (src : Array Char) (i : Nat) : Scan :=
  match src[i]? with
  | none => found .stop i
  | some c =>
    if isNameStart c || c = '\\' then scanWord src i
    else if isDigit c || (c = '.' && isDigit (charAt src (i + 1))) then scanNumber src i
    else if c = '"' || c = '\'' then scanString src i
    else if c.toNat = 0x60 then scanTemplate src i
    else if c = '#' then scanHidden src i
    else match scanOperator src i with
      | some s => s
      | none =>
        let (line, column) := place i
        refused (i + 1) ⟨s!"Invalid Character `{c}`", s!"unexpected '{c}' at line {line}, column {column}", some i⟩

/-- Line and column, from 1, of an index. -/
def lineColumn (src : Array Char) (p : Place) : Nat × Nat :=
  let step := fun (acc : Nat × Nat × Bool) (c : Char) =>
    let (line, column, afterReturn) := acc
    if c = '\n' && afterReturn then (line, 1, false)
    else if isLineEnd c then (line + 1, 1, c = '\r')
    else (line, column + 1, false)
  let (line, column, _) := (src.extract 0 p).foldl step (1, 1, false)
  (line, column)

/-- The next token from `i` on, the gap before it, and all complaints. -/
def next (m : Mode) (src : Array Char) (i : Nat) : Token × Gap × List Complaint :=
  let gap := skipGap m src (src.size + 1 - i) ⟨i, false, i = 0, [], none⟩
  let s := scanAt (lineColumn src) src gap.next
  (⟨s.kind, gap.next, s.stop, gap.newline, s.escaped⟩, gap, gap.complaint.toList ++ s.complaints)

end Playpen.Script.Lexer
