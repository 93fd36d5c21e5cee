import Playpen.Text.Decomposition
import Playpen.Text.Entries
import Std.Data.HashMap

/-!
# Normalization forms

Texts that say the same with different characters have one normal form.  Every character is
decomposed as far as that goes, marks are put in the order of their combining classes, and for the
composed forms a base and a mark that nothing keeps apart become one character again.

Characters are code points here, so that a lone half of a surrogate pair stands for itself.
-/

namespace Playpen.Text

/-! ## Decompositions and classes -/

/-- What each character stands for. -/
def decompositions (table : String) : Std.HashMap Nat (List Nat) :=
  (readEntries table).foldl (fun m entry =>
    match entry.toList with
    | c :: parts => m.insert c parts
    | [] => m) ∅

def canonical : Std.HashMap Nat (List Nat) := decompositions canonicalTable

def compatible : Std.HashMap Nat (List Nat) := decompositions compatibleTable

def combining : Std.HashMap Nat Nat :=
  (readEntries combiningTable).foldl (fun m entry =>
    match entry.toList with
    | [first, last, k] => (List.range (last + 1 - first)).foldl (fun m i => m.insert (first + i) k) m
    | _ => m) ∅

/-- The combining class of a character; a base has class zero. -/
def combiningClass (c : Nat) : Nat := combining.getD c 0

def uncomposed : Array Nat := readEdges uncomposedTable

/-- The character that two characters are put together to. -/
def composites : Std.HashMap (Nat × Nat) Nat :=
  canonical.fold (fun m c parts =>
    match parts with
    | [a, b] => if inClass uncomposed c then m else m.insert (a, b) c
    | _ => m) ∅

/-! ## Syllables of Hangul -/

namespace Hangul

def first : Nat := 0xAC00
def leading : Nat := 0x1100
def vowel : Nat := 0x1161
def trailing : Nat := 0x11A7

/-- How many vowels, and how many trailing consonants with none, there are. -/
def vowels : Nat := 21
def trailings : Nat := 28

def isSyllable (c : Nat) : Bool := first ≤ c && c < first + 19 * vowels * trailings

/-- A syllable as its letters. -/
def letters (c : Nat) : List Nat :=
  let i := c - first
  [leading + i / (vowels * trailings), vowel + i / trailings % vowels] ++
    (if i % trailings = 0 then [] else [trailing + i % trailings])

/-- A leading consonant with a vowel, or such a syllable with a trailing consonant. -/
def compose? (a b : Nat) : Option Nat :=
  if leading ≤ a ∧ a < leading + 19 ∧ vowel ≤ b ∧ b < vowel + vowels then
    some (first + ((a - leading) * vowels + (b - vowel)) * trailings)
  else if isSyllable a ∧ (a - first) % trailings = 0 ∧ trailing < b ∧ b < trailing + trailings then
    some (a + (b - trailing))
  else none

end Hangul

/-! ## Forms -/

/-- A normalization form. -/
structure NormalForm where
  /-- Whether differences of look are dropped. -/
  folded : Bool
  /-- Whether characters are put together. -/
  composed : Bool

namespace NormalForm

def nfc : NormalForm := ⟨false, true⟩
def nfd : NormalForm := ⟨false, false⟩
def nfkc : NormalForm := ⟨true, true⟩
def nfkd : NormalForm := ⟨true, false⟩

def named? : String → Option NormalForm
  | "NFC" => some nfc
  | "NFD" => some nfd
  | "NFKC" => some nfkc
  | "NFKD" => some nfkd
  | _ => none

/-- One step of a decomposition, if there is one. -/
def step? (form : NormalForm) (c : Nat) : Option (List Nat) :=
  if Hangul.isSyllable c then some (Hangul.letters c)
  else match canonical[c]? with
    | some parts => some parts
    | none => if form.folded then compatible[c]? else none

/-- A character decomposed in at most so many steps; no character needs more than a handful. -/
def decompose (form : NormalForm) : Nat → Nat → List Nat
  | 0, c => [c]
  | steps + 1, c =>
    match form.step? c with
    | some parts => parts.flatMap (decompose form steps)
    | none => [c]

end NormalForm

/-- Puts a character before ordered ones, after those marks that come before it. -/
def insertMark (c : Nat) : List Nat → List Nat
  | [] => [c]
  | d :: rest =>
    if combiningClass d ≠ 0 ∧ combiningClass d < combiningClass c then d :: insertMark c rest
    else c :: d :: rest

/-- Marks in the order of their classes; those of one class stay as they are. -/
def orderMarks (cs : List Nat) : List Nat := cs.foldr insertMark []

/-- How far a text has been composed: what is done, the last base, and the marks on it that could
not be composed. -/
structure Composing where
  done : Array Nat
  base : Option Nat
  marks : Array Nat

namespace Composing

def finish (s : Composing) : Array Nat := s.done ++ s.base.toList ++ s.marks

def step (s : Composing) (c : Nat) : Composing :=
  match s.base with
  | none => if combiningClass c = 0 then { s with base := some c } else { s with done := s.done.push c }
  | some base =>
    let blocked := s.marks.back?.any (combiningClass · ≥ combiningClass c)
    match if blocked then none else (Hangul.compose? base c).or (composites[(base, c)]?) with
    | some composite => { s with base := some composite }
    | none =>
      if combiningClass c = 0 then ⟨s.finish, some c, #[]⟩
      else { s with marks := s.marks.push c }

end Composing

/-- Puts characters together where they can be. -/
def compose (cs : List Nat) : List Nat := (cs.foldl Composing.step ⟨#[], none, #[]⟩).finish.toList

/-- A text in a normalization form. -/
def NormalForm.apply (form : NormalForm) (cs : List Nat) : List Nat :=
  let parts := orderMarks (cs.flatMap (form.decompose 16))
  if form.composed then compose parts else parts

end Playpen.Text
