import Playpen.Engine.Regex.Pattern

/-!
# Regular expressions: matching

A match is looked for by trying, with the rest of the match as a continuation.
-/

namespace Playpen.Engine.Regex

open Playpen.Text (Wide)

/-- Where a match has come to: a position, and what the groups have taken. -/
structure Progress where
  pos : Nat
  groups : Array (Option (Nat × Nat))

/-- What a match goes by. -/
structure Subject where
  units : Array UInt16
  ignoreCase : Bool
  multiline : Bool
  dotAll : Bool
  unicode : Bool
  names : List (String × Nat)

namespace Subject

/-- The character behind or before a position, and the position on its other side. -/
def read (s : Subject) (back : Bool) (pos : Nat) : Option (Nat × Nat) :=
  if back then
    if pos = 0 then none
    else
      let u := s.units.getD (pos - 1) 0
      if s.unicode && Wide.isLow u && pos ≥ 2 && Wide.isHigh (s.units.getD (pos - 2) 0) then
        some (Wide.pairValue (s.units.getD (pos - 2) 0) u, pos - 2)
      else some (u.toNat, pos - 1)
  else
    match s.units[pos]? with
    | none => none
    | some u =>
      match s.units[pos + 1]? with
      | some v =>
        if s.unicode && Wide.isHigh u && Wide.isLow v then some (Wide.pairValue u v, pos + 2) else some (u.toNat, pos + 1)
      | none => some (u.toNat, pos + 1)

/-- The form in which characters are compared when case does not count. -/
def fold (n : Nat) : Nat :=
  if n < 128 then (if 97 ≤ n && n ≤ 122 then n - 32 else n)
  else if 0xD800 ≤ n && n < 0xE000 then n
  else
    match Text.upper (Char.ofNat n) with
    | [c] => if c.toNat < 128 then n else c.toNat
    | _ => n

def canon (s : Subject) (n : Nat) : Nat := if s.ignoreCase then fold n else n

def inRanges (rs : Array (Nat × Nat)) (n : Nat) : Bool := rs.any fun r => r.1 ≤ n && n ≤ r.2

def inSet (s : Subject) (rs : Array (Nat × Nat)) (n : Nat) : Bool :=
  inRanges rs n || (s.ignoreCase && (inRanges rs (fold n) ||
    (if n < 0x110000 && !(0xD800 ≤ n && n < 0xE000) then
      (match Text.lower (Char.ofNat (fold n)) with
        | [c] => inRanges rs c.toNat
        | _ => false)
    else false)))

def isLineEnd (n : Nat) : Bool := n = 10 || n = 13 || n = 0x2028 || n = 0x2029

def isWordAt (s : Subject) (pos : Nat) : Bool :=
  match s.units[pos]? with
  | some u => inRanges wordChars u.toNat
  | none => false

/-- Whether a node takes exactly one character, and whether it takes this one. -/
def single (s : Subject) (r : RegexNode) : Option (Nat → Bool) :=
  match r with
  | .char c => some fun n => s.canon n == s.canon c
  | .any => some fun n => s.dotAll || !isLineEnd n
  | .set negated rs => some fun n => s.inSet rs n != negated
  | _ => none

/-- Positions behind the characters that a test takes, last first. -/
def run (s : Subject) (back : Bool) (test : Nat → Bool) : Nat → Nat → List Nat → List Nat
  | 0, _, acc => acc
  | n + 1, pos, acc =>
    match s.read back pos with
    | some (c, pos') => if test c then run s back test n pos' (pos' :: acc) else acc
    | none => acc

/-- Whether a text stands at a position; gives the position on its other side. -/
def same (s : Subject) (back : Bool) (first stop pos : Nat) : Option Nat :=
  let n := stop - first
  let start := if back then pos - n else pos
  if back && n > pos then none
  else if start + n > s.units.size then none
  else if (List.range n).all fun i =>
      s.canon (s.units.getD (start + i) 0).toNat == s.canon (s.units.getD (first + i) 0).toNat then
    some (if back then start else pos + n)
  else none

/-- The first continuation that works. -/
def firstOf (ps : List Nat) (k : Nat → Option Progress) : Option Progress := ps.findSome? k

/-- Groups from `first` up to `last` have taken nothing. -/
def cleared (p : Progress) (first last : Nat) : Progress :=
  { p with groups := (List.range (last - first)).foldl (fun g i => g.setIfInBounds (first + i) none) p.groups }

def go (s : Subject) : Nat → RegexNode → Bool → Progress → (Progress → Option Progress) → Option Progress
  | 0, _, _, _, _ => none
  | n + 1, r, back, p, k =>
    match r with
    | .empty => k p
    | .char _ | .any | .set _ _ =>
      match s.single r, s.read back p.pos with
      | some test, some (c, pos) => if test c then k { p with pos := pos } else none
      | _, _ => none
    | .seq a b =>
      if back then go s n b back p fun q => go s n a back q k
      else go s n a back p fun q => go s n b back q k
    | .alt a b =>
      match go s n a back p k with
      | some q => some q
      | none => go s n b back p k
    | .group i a =>
      go s n a back p fun q =>
        k { q with groups := q.groups.setIfInBounds i (some (min p.pos q.pos, max p.pos q.pos)) }
    | .backreference i =>
      match p.groups.getD i none with
      | none => k p
      | some (a, b) => (s.same back a b p.pos).bind fun pos => k { p with pos := pos }
    | .namedBackreference name =>
      match (s.names.lookup name).bind fun i => p.groups.getD i none with
      | none => k p
      | some (a, b) => (s.same back a b p.pos).bind fun pos => k { p with pos := pos }
    | .lineStart =>
      if p.pos = 0 || (s.multiline && isLineEnd (s.units.getD (p.pos - 1) 0).toNat) then k p else none
    | .lineEnd =>
      if p.pos = s.units.size || (s.multiline && isLineEnd (s.units.getD p.pos 0).toNat) then k p else none
    | .wordBoundary negated =>
      let before := p.pos > 0 && s.isWordAt (p.pos - 1)
      if (before != s.isWordAt p.pos) != negated then k p else none
    | .look ahead negated a =>
      match go s n a (!ahead) p some, negated with
      | some q, false => k { q with pos := p.pos }
      | none, true => k p
      | _, _ => none
    | .repeat least most greedy a first last =>
      match s.single a with
      | some test =>
        -- no need to try one character after the other
        let most := most.getD (s.units.size + 1)
        let ends := s.run back test most p.pos [p.pos]
        let ends := ends.take (ends.length - least)
        firstOf (if greedy then ends else ends.reverse) fun pos => k { p with pos := pos }
      | none =>
        let again (q : Progress) : Option Progress :=
          go s n (.repeat (least - 1) (most.map (· - 1)) greedy a first last) back q k
        let p' := cleared p first last
        if most == some 0 then k p
        else if least > 0 then go s n a back p' again
        else
          let more (_ : Unit) : Option Progress :=
            go s n a back p' fun q => if q.pos = p.pos then none else again q
          if greedy then
            match more () with
            | some q => some q
            | none => k p
          else
            match k p with
            | some q => some q
            | none => more ()

/-- How deep a match may go. -/
def depth : Nat := 100000

end Subject

/-- The match of a regular expression that begins at a position: where it ends and what its groups
have taken, the whole match first. -/
def matchAt (r : Regex) (units : Array UInt16) (pos : Nat) : Option (Array (Option (Nat × Nat))) :=
  let has (c : Char) : Bool := r.flags.toList.contains c
  let s : Subject := ⟨units, has 'i', has 'm', has 's', has 'u' || has 'v', r.names⟩
  let start : Progress := ⟨pos, Array.replicate (r.groups + 1) none⟩
  (s.go Subject.depth r.node false start some).map fun p => p.groups.setIfInBounds 0 (some (pos, p.pos))

end Playpen.Engine.Regex
