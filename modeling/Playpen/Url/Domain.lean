import Playpen.Text.Normal
import Playpen.Url.DomainTables
import Playpen.Url.Punycode

/-!
# Domain names

A domain is a list of labels.  Its characters are folded: to lower case, to their normal form, and
stops of all kinds to a full stop.  Labels with characters beyond ASCII are then checked (no mark
comes first, joiners stand only where letters join, directions do not mix) and written in Punycode.
-/

namespace Playpen.Url

/-- Pieces of a text between occurrences of a character. -/
def splitOnChar (sep : Char) : List Char → List (List Char)
  | [] => [[]]
  | c :: rest =>
    if c = sep then [] :: splitOnChar sep rest
    else match splitOnChar sep rest with
      | piece :: pieces => (c :: piece) :: pieces
      | [] => [[c]]

namespace Domain

/-! ## Classes -/

def disallowed : Array Nat := Text.readEdges DomainTables.disallowed
def ignored : Array Nat := Text.readEdges DomainTables.ignored
def rightToLeft : Array Nat := Text.readEdges DomainTables.rightToLeft
def arabicNumber : Array Nat := Text.readEdges DomainTables.arabicNumber
def europeanNumber : Array Nat := Text.readEdges DomainTables.europeanNumber
def neutral : Array Nat := Text.readEdges DomainTables.neutral
def nonspacing : Array Nat := Text.readEdges DomainTables.nonspacing
def joinsRight : Array Nat := Text.readEdges DomainTables.joinsRight
def joinsLeft : Array Nat := Text.readEdges DomainTables.joinsLeft
def transparent : Array Nat := Text.readEdges DomainTables.transparent
def mark : Array Nat := Text.readEdges DomainTables.mark

def isIn (edges : Array Nat) (c : Char) : Bool := Text.inClass edges c.toNat

/-! ## Folding -/

/-- Characters that are kept although they fold to others elsewhere: the sharp s, the final sigma
and the joiners. -/
def isKept (c : Char) : Bool := c = 'ß' ∨ c = 'ς' ∨ c = '\u200C' ∨ c = '\u200D'

def isStop (c : Char) : Bool := c = '.' ∨ c = '\u3002' ∨ c = '\uFF0E' ∨ c = '\uFF61'

/-- A character without its case.  Letters of Cherokee fold to their older, upper-case forms. -/
def foldCase (c : Char) : List Char :=
  let n := c.toNat
  if n = 0x131 ∨ (0x13A0 ≤ n ∧ n ≤ 0x13F5) then [c]
  else if (0x13F8 ≤ n ∧ n ≤ 0x13FD) ∨ (0xAB70 ≤ n ∧ n ≤ 0xABBF) then Text.upper c
  else (Text.upper c).flatMap Text.lower

def normalize (form : Text.NormalForm) (cs : List Char) : List Char :=
  (form.apply (cs.map Char.toNat)).map Char.ofNat

/-- What a character is folded to; nothing for a character that no domain holds. -/
def fold? (c : Char) : Option (List Char) :=
  if c.toNat < 128 then some [c.toLower]
  else if isStop c then some ['.']
  else if isKept c then some [c]
  else if c = 'ẞ' then some ['ß']
  else if isIn ignored c then some []
  else if isIn disallowed c then none
  else
    let plain := normalize .nfkc (foldCase c)
    some (normalize .nfkc (plain.flatMap foldCase))

/-- A text folded, in composed form. -/
def folded? (cs : List Char) : Option (List Char) := (cs.mapM fold?).map fun folded => normalize .nfc folded.flatten

/-! ## Labels -/

def isAscii (label : List Char) : Bool := label.all (·.toNat < 128)

/-- A label with its Punycode undone, which must be needed and must give a folded label. -/
def readLabel (label : List Char) : Option (List Char) :=
  if label.take 4 = ['x', 'n', '-', '-'] then do
    let plain ← Punycode.decode (label.drop 4)
    if isAscii plain || folded? plain != some plain || Punycode.encode plain != label.drop 4 then none
    else some plain
  else some label

/-- A virama joins consonants. -/
def isVirama (c : Char) : Bool := Text.combiningClass c.toNat = 9

/-- Whether every joiner stands after a virama, or, if it keeps letters apart, between letters that
would join; `before` is what comes before, the nearest first. -/
def joinersFit (before : List Char) : List Char → Bool
  | [] => true
  | c :: rest =>
    (match c with
      | '\u200D' => before.head?.any isVirama
      | '\u200C' =>
        before.head?.any isVirama ||
          ((before.dropWhile (isIn transparent)).head?.any (isIn joinsRight) &&
            (rest.dropWhile (isIn transparent)).head?.any (isIn joinsLeft))
      | _ => true) && joinersFit (c :: before) rest

/-- Whether a label holds what makes directions matter. -/
def hasDirection (label : List Char) : Bool := label.any fun c => isIn rightToLeft c || isIn arabicNumber c

/-- Letters that are written from left to right. -/
def isLeftToRight (c : Char) : Bool :=
  !(isIn rightToLeft c || isIn arabicNumber c || isIn europeanNumber c || isIn neutral c || isIn nonspacing c)

/-- Whether the directions in a label go together. -/
def directionsFit (label : List Char) : Bool :=
  let last := (label.reverse.dropWhile (isIn nonspacing)).head?
  match label.head? with
  | none => true
  | some first =>
    if isIn rightToLeft first then
      label.all (fun c => !isLeftToRight c) &&
        last.any (fun c => isIn rightToLeft c || isIn europeanNumber c || isIn arabicNumber c) &&
        !(label.any (isIn europeanNumber) && label.any (isIn arabicNumber))
    else
      isLeftToRight first && label.all (fun c => !(isIn rightToLeft c || isIn arabicNumber c)) &&
        last.any fun c => isLeftToRight c || isIn europeanNumber c

/-- Whether a label may stand in a domain; `directed` says that directions matter in it. -/
def isValid (directed : Bool) (label : List Char) : Bool :=
  (isAscii label || (!label.head?.any (isIn mark) && joinersFit [] label)) && (!directed || directionsFit label)

def writeLabel (label : List Char) : List Char :=
  if isAscii label then label else ['x', 'n', '-', '-'] ++ Punycode.encode label

/-- A domain in ASCII; nothing if it is no domain. -/
def toAscii? (cs : List Char) : Option (List Char) := do
  let labels ← (splitOnChar '.' (← folded? cs)).mapM readLabel
  if labels.all (isValid (labels.any hasDirection)) then
    some (List.intercalate ['.'] (labels.map writeLabel))
  else none

end Domain

end Playpen.Url
