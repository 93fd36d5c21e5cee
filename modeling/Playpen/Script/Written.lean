import Playpen.Text.Wide

/-!
# Text literals as they are written

A text literal has two readers.  The engine strings the units of its pieces together.  The transpiler
reads characters: two halves of a surrogate pair make one where an escape of the first is followed by
an escape of the second, and any other half is kept apart.  What it hands on is text all the same, in
which U+FFFD begins an escape as soon as a half is kept apart.
-/

namespace Playpen.Script

open Playpen.Text (Wide)

/-- A piece of a text literal. -/
inductive Piece where
  /-- A character, bare or behind a backslash. -/
  | char (c : Char)
  /-- An escape of a unit: four digits behind a `u`. -/
  | unit (u : UInt16)
  /-- An escape of a code point: digits in braces behind a `u`. -/
  | point (n : Fin 0x110000)
  /-- A line end behind a backslash, which stands for nothing. -/
  | line
  deriving DecidableEq, Inhabited

/-- The units that a piece stands for. -/
def Piece.units : Piece → Array UInt16
  | char c => Wide.pushChar #[] c
  | unit u => #[u]
  | point n => Wide.pushCodePoint #[] n
  | line => #[]

/-- A text literal, piece by piece. -/
structure Written where
  pieces : List Piece
  deriving DecidableEq, Inhabited

namespace Written

/-- What the engine reads. -/
def wide (w : Written) : Wide := .ofUnits (w.pieces.foldl (fun us p => us ++ p.units) #[])

/-- Whether a code point is one half of a surrogate pair. -/
def isHalf (n : Nat) : Bool := 0xD800 ≤ n && n < 0xE000

/-- The code points of pieces, as the transpiler reads them. -/
def pointsOf : List Piece → List Nat
  | [] => []
  | .unit hi :: .unit lo :: rest =>
    if Wide.isHigh hi && Wide.isLow lo then Wide.pairValue hi lo :: pointsOf rest
    else hi.toNat :: pointsOf (.unit lo :: rest)
  | .unit u :: rest => u.toNat :: pointsOf rest
  | .char c :: rest => c.toNat :: pointsOf rest
  | .point n :: rest => n.val :: pointsOf rest
  | .line :: rest => pointsOf rest

/-- Whether the transpiler keeps some half apart. -/
def isTorn (w : Written) : Bool := (pointsOf w.pieces).any isHalf

/-- A code point where some half is kept apart: a half is escaped by U+FFFD and four lower-case
hexadecimal digits, and so is U+FFFD itself. -/
def escapedPoint (n : Nat) : List Char :=
  if isHalf n || n = 0xFFFD then '\uFFFD' :: (Wide.hex4 n).toList.map Char.toLower else [Char.ofNat n]

/-- The text that the transpiler hands on. -/
def handed (w : Written) : String :=
  .ofList (if w.isTorn then (pointsOf w.pieces).flatMap escapedPoint else (pointsOf w.pieces).map Char.ofNat)

end Written

end Playpen.Script
