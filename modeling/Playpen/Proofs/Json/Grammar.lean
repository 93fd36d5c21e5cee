import Playpen.Json.Cursor
import Playpen.Proofs.Decimal.Literal

/-!
# The grammar of JSON texts

What a text of JSON is, laid down without the readers.  A string is a row of
pieces between quotes, and what counts is either which character each piece
stands for (`Literal`) or only that the pieces are well formed (`IsString`):
the escapes of two halves of a character stand for one, and a half alone is
well formed but stands for none.

Arrays and objects have one layout, `Enclosed`, in which only the form of the
parts differs.  Blanks may stand wherever they do not part a word.
-/

namespace Playpen.Json

open Playpen.Text (isDigit isHexDigit hexValue)
open Playpen.Decimal (Digits Exponent)

/-- Nothing but blanks. -/
def Blanks (cs : List Char) : Prop := ∀ c ∈ cs, Reader.isBlank c = true

theorem Blanks.nil : Blanks [] := fun _ hc => nomatch hc

/-! ## Strings -/

/-- Four hexadecimal digits, with the number they make. -/
inductive HexCode : Nat → List Char → Prop
  | intro {a b x y : Char} (ha : isHexDigit a = true) (hb : isHexDigit b = true)
      (hx : isHexDigit x = true) (hy : isHexDigit y = true) :
      HexCode (((hexValue a * 16 + hexValue b) * 16 + hexValue x) * 16 + hexValue y) [a, b, x, y]

/-- The character may be written so between the quotes of a string: as it is, by
a letter behind a backslash, by its code, or by the codes of its two halves. -/
inductive Spells (c : Char) : List Char → Prop
  | plain (hcontrol : 32 ≤ c.toNat) (hquote : c ≠ '"') (hbackslash : c ≠ '\\') : Spells c [c]
  | letter {l : Char} (hl : Reader.simpleEscape l = some c) : Spells c ['\\', l]
  | code {ds : List Char} (hds : HexCode c.toNat ds) : Spells c ('\\' :: 'u' :: ds)
  | halves {high low : Nat} {ds ds' : List Char} (hhigh : high < 0x400) (hlow : low < 0x400)
      (hc : c.toNat = high * 0x400 + low + 0x10000) (hds : HexCode (0xD800 + high) ds)
      (hds' : HexCode (0xDC00 + low) ds') : Spells c ('\\' :: 'u' :: (ds ++ '\\' :: 'u' :: ds'))

/-- The characters may be written so, one after the other. -/
inductive Spelled : List Char → List Char → Prop
  | nil : Spelled [] []
  | cons {c : Char} {cs piece text : List Char} (hc : Spells c piece) (hcs : Spelled cs text) :
      Spelled (c :: cs) (piece ++ text)

/-- A literal of the string. -/
inductive Literal (s : String) : List Char → Prop
  | intro {text : List Char} (h : Spelled s.toList text) : Literal s ('"' :: (text ++ ['"']))

/-- A piece of a string that is well formed, whether or not it stands for a
character. -/
inductive IsPiece : List Char → Prop
  | plain {c : Char} (hcontrol : 32 ≤ c.toNat) (hquote : c ≠ '"') (hbackslash : c ≠ '\\') :
      IsPiece [c]
  | letter {l : Char} (hl : (Reader.simpleEscape l).isSome = true) : IsPiece ['\\', l]
  | code {n : Nat} {ds : List Char} (hds : HexCode n ds) : IsPiece ('\\' :: 'u' :: ds)

/-- A string, whatever it stands for. -/
inductive IsString : List Char → Prop
  | intro {pieces : List (List Char)} (h : ∀ piece ∈ pieces, IsPiece piece) :
      IsString ('"' :: (pieces.flatten ++ ['"']))

/-! ## Numbers -/

/-- A row of digits that does not begin with a zero, or a zero. -/
inductive IsWhole : List Char → Prop
  | zero : IsWhole ['0']
  | digits {d : Char} {ds : List Char} (hd : isDigit d = true) (hzero : d ≠ '0')
      (hds : ∀ c ∈ ds, isDigit c = true) : IsWhole (d :: ds)

/-- Places behind a point, or none. -/
inductive IsFraction : List Char → Prop
  | absent : IsFraction []
  | present {ds : List Char} (hds : Digits isDigit ds) : IsFraction ('.' :: ds)

/-- A number without a sign. -/
inductive IsUnsigned : List Char → Prop
  | intro {whole fraction tail : List Char} (hwhole : IsWhole whole)
      (hfraction : IsFraction fraction) (htail : Exponent tail) :
      IsUnsigned (whole ++ (fraction ++ tail))

/-- A number. -/
inductive IsNumber : List Char → Prop
  | plain {cs : List Char} (h : IsUnsigned cs) : IsNumber cs
  | signed {cs : List Char} (h : IsUnsigned cs) : IsNumber ('-' :: cs)

/-! ## Containers -/

section

variable {α : Type}

/-- At least one part, with commas between the parts and blanks around each. -/
inductive Listed (one : α → List Char → Prop) : List α → List Char → Prop
  | last {a : α} {before piece after : List Char} (hbefore : Blanks before) (hpiece : one a piece)
      (hafter : Blanks after) : Listed one [a] (before ++ (piece ++ after))
  | cons {a : α} {as : List α} {before piece after text : List Char} (hbefore : Blanks before)
      (hpiece : one a piece) (hafter : Blanks after) (hmore : Listed one as text) :
      Listed one (a :: as) (before ++ (piece ++ (after ++ ',' :: text)))

/-- Parts between brackets. -/
inductive Enclosed (left right : Char) (one : α → List Char → Prop) : List α → List Char → Prop
  | empty {blanks : List Char} (h : Blanks blanks) :
      Enclosed left right one [] (left :: (blanks ++ [right]))
  | filled {as : List α} {text : List Char} (h : Listed one as text) :
      Enclosed left right one as (left :: (text ++ [right]))

end

/-- A key and a value with the colon between them. -/
inductive Entry (key value : List Char) : List Char → Prop
  | intro {before after : List Char} (hbefore : Blanks before) (hafter : Blanks after) :
      Entry key value (key ++ (before ++ ':' :: (after ++ value)))

/-- A value under some key. -/
def IsMember (value piece : List Char) : Prop := ∃ key, IsString key ∧ Entry key value piece

/-- A value under the given key. -/
def IsField (field : String × List Char) (piece : List Char) : Prop :=
  ∃ key, Literal field.1 key ∧ Entry key field.2 piece

/-- An object, with its keys and the texts of its values in their order. -/
def IsRecord (fields : List (String × List Char)) (text : List Char) : Prop :=
  Enclosed '\x7b' '\x7d' IsField fields text

/-- A value. -/
inductive IsValue : List Char → Prop
  | nullWord : IsValue ['n', 'u', 'l', 'l']
  | trueWord : IsValue ['t', 'r', 'u', 'e']
  | falseWord : IsValue ['f', 'a', 'l', 's', 'e']
  | number {text : List Char} (h : IsNumber text) : IsValue text
  | string {text : List Char} (h : IsString text) : IsValue text
  | array {items : List (List Char)} {text : List Char} (h : Enclosed '[' ']' Eq items text)
      (hitems : ∀ item ∈ items, IsValue item) : IsValue text
  | object {values : List (List Char)} {text : List Char}
      (h : Enclosed '\x7b' '\x7d' IsMember values text) (hvalues : ∀ v ∈ values, IsValue v) :
      IsValue text

/-! ## Records -/

/-- The keys of the fields that are among the names, in their order. -/
def given (names : List String) (fields : List (String × List Char)) : List String :=
  (fields.map Prod.fst).filter (· ∈ names)

/-- A field that may stand in a record: under a name stands a text for it, and
under any other key any value. -/
def Fits (names : List String) (Good : String → List Char → Prop)
    (field : String × List Char) : Prop :=
  (field.1 ∈ names → Good field.1 field.2) ∧ (field.1 ∉ names → IsValue field.2)

/-- The text is an object that gives fields under just these of the names, in
this order, and may have others under keys of its own. -/
def Gives (names : List String) (Good : String → List Char → Prop) (keys : List String)
    (text : List Char) : Prop :=
  ∃ fields, IsRecord fields text ∧ (∀ field ∈ fields, Fits names Good field) ∧
    given names fields = keys

/-- The text is an object that gives a field under one of the names once more
than it may.  What stands there, and what comes behind it, does not matter. -/
def Repeats (names : List String) (Good : String → List Char → Prop) (text : List Char) : Prop :=
  ∃ earlier field later, IsRecord (earlier ++ field :: later) text ∧
    (∀ f ∈ earlier, Fits names Good f) ∧ field.1 ∈ given names earlier

end Playpen.Json
