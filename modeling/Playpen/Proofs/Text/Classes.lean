import Playpen.Text.Classes
import Mathlib.Data.List.Sort
import Mathlib.Data.List.TakeWhile

/-!
# Classes of characters, range by range

A class is looked up by halving the list of its edges.  What holds of thousands
of characters is settled here by one pass over that list instead: `covers`
walks along the edges and a list of ranges at once, and says that every range
lies inside the class.  With `0` put in front of the edges, the class is turned
inside out.
-/

namespace Playpen.Text

/-! ## Halving and counting -/

/-- Whether an odd number of edges is at or below `n`, counted from the first
one on. -/
def oddBelow : List Nat → Nat → Bool
  | [], _ => false
  | e :: es, n => if e ≤ n then !oddBelow es n else false

/-- The edges at or below `n` stand before the place that halving finds, the
others behind it. -/
theorem edgesUpTo_splits {edges : Array Nat} (hsorted : edges.toList.Pairwise (· < ·)) {n lo hi : Nat}
    (hle : lo ≤ hi) (hsize : hi ≤ edges.size)
    (hlo : ∀ i (h : i < edges.size), i < lo → edges[i] ≤ n)
    (hhi : ∀ i (h : i < edges.size), hi ≤ i → n < edges[i]) :
    edgesUpTo edges n lo hi ≤ edges.size ∧
      (∀ i (h : i < edges.size), i < edgesUpTo edges n lo hi → edges[i] ≤ n) ∧
      ∀ i (h : i < edges.size), edgesUpTo edges n lo hi ≤ i → n < edges[i] := by
  have hmono : ∀ i j (hi : i < edges.size) (hj : j < edges.size), i < j → edges[i] < edges[j] :=
    fun i j hi hj hij => List.pairwise_iff_getElem.mp hsorted i j hi hj hij
  fun_induction edgesUpTo edges n lo hi with
  | case1 lo hi hlt mid hup ih =>
    have hmid : mid < edges.size := by omega
    rw [Array.getElem?_eq_getElem hmid, Option.any_some, decide_eq_true_iff] at hup
    refine ih (by omega) hsize (fun i h hi' => ?_) hhi
    rcases Nat.lt_or_eq_of_le (Nat.le_of_lt_succ hi') with hless | rfl
    · exact Nat.le_trans (Nat.le_of_lt (hmono i mid h hmid hless)) hup
    · exact hup
  | case2 lo hi hlt mid hdown ih =>
    have hmid : mid < edges.size := by omega
    rw [Array.getElem?_eq_getElem hmid, Option.any_some, decide_eq_true_iff, Nat.not_le] at hdown
    refine ih (by omega) (by omega) hlo (fun i h hi' => ?_)
    rcases Nat.lt_or_eq_of_le hi' with hless | rfl
    · exact Nat.lt_trans hdown (hmono mid i hmid h hless)
    · exact hdown
  | case3 lo hi hnlt =>
    have : hi = lo := by omega
    subst this
    exact ⟨hsize, hlo, hhi⟩

/-- Where the edges at or below `n` come first, counting them is halving. -/
theorem oddBelow_eq {n : Nat} :
    ∀ {es : List Nat} {r : Nat}, r ≤ es.length → (∀ i (h : i < es.length), i < r → es[i] ≤ n) →
      (∀ i (h : i < es.length), r ≤ i → n < es[i]) → oddBelow es n = decide (r % 2 = 1)
  | [], r, hr, _, _ => by
      rw [List.length_nil, Nat.le_zero] at hr
      subst hr
      rfl
  | e :: es, 0, _, _, hbehind => by
      have : n < e := hbehind 0 (Nat.zero_lt_succ _) (Nat.le_refl 0)
      rw [oddBelow, if_neg (Nat.not_le.mpr this)]
      rfl
  | e :: es, r + 1, hr, hbefore, hbehind => by
      have hfirst : e ≤ n := hbefore 0 (Nat.zero_lt_succ _) (Nat.zero_lt_succ _)
      have hrest : oddBelow es n = decide (r % 2 = 1) :=
        oddBelow_eq (Nat.le_of_succ_le_succ hr)
          (fun i h hi => hbefore (i + 1) (Nat.succ_lt_succ h) (Nat.succ_lt_succ hi))
          (fun i h hi => hbehind (i + 1) (Nat.succ_lt_succ h) (Nat.succ_le_succ hi))
      rw [oddBelow, if_pos hfirst, hrest, ← decide_not]
      exact decide_eq_decide.mpr (by omega)

theorem inClass_eq {edges : Array Nat} (hsorted : edges.toList.Pairwise (· < ·)) (n : Nat) :
    inClass edges n = oddBelow edges.toList n := by
  obtain ⟨hsize, hbefore, hbehind⟩ := edgesUpTo_splits (n := n) hsorted (Nat.zero_le _) (Nat.le_refl _)
    (fun _ _ h => absurd h (Nat.not_lt_zero _)) (fun _ h h' => absurd h (Nat.not_lt.mpr h'))
  exact (oddBelow_eq hsize hbefore hbehind).symm

/-- Whether numbers ascend, from one on. -/
def ascends : Nat → List Nat → Bool
  | _, [] => true
  | a, e :: es => Nat.blt a e && ascends e es

theorem pairwise_of_ascends :
    ∀ {a : Nat} {es : List Nat}, ascends a es = true → (a :: es).Pairwise (· < ·)
  | a, [], _ => List.pairwise_singleton _ a
  | a, e :: es, h => by
      rw [ascends, Bool.and_eq_true, Nat.blt_eq] at h
      have hes := pairwise_of_ascends h.2
      refine List.pairwise_cons.mpr ⟨?_, hes⟩
      intro b hb
      rcases List.mem_cons.mp hb with rfl | hb
      · exact h.1
      · exact Nat.lt_trans h.1 ((List.pairwise_cons.mp hes).1 b hb)

/-! ## Ranges inside a class -/

/-- Whether each of the ranges, which ascend, lies between an edge where the
class begins and the next one. -/
def covers : List Nat → List (Nat × Nat) → Bool
  | a :: b :: es, ranges => covers es (ranges.dropWhile fun s => Nat.ble a s.1 && Nat.blt s.2 b)
  | _, ranges => ranges.isEmpty

theorem le_of_oddBelow {e n : Nat} {es : List Nat} (h : oddBelow (e :: es) n = true) : e ≤ n := by
  rw [oddBelow] at h
  split at h
  · assumption
  · cases h

theorem oddBelow_of_covers {n : Nat} {s : Nat × Nat} (hfirst : s.1 ≤ n) (hlast : n ≤ s.2) :
    ∀ {es : List Nat} {ranges : List (Nat × Nat)}, es.Pairwise (· < ·) → covers es ranges = true →
      s ∈ ranges → oddBelow es n = true
  | a :: b :: es, ranges, hsorted, hcovers, hs => by
      rw [covers] at hcovers
      rw [List.pairwise_cons, List.pairwise_cons] at hsorted
      obtain ⟨ha, hb, hes⟩ := hsorted
      rw [← List.takeWhile_append_dropWhile (p := fun s : Nat × Nat => Nat.ble a s.1 && Nat.blt s.2 b)
        (l := ranges)] at hs
      rcases List.mem_append.mp hs with hinside | hlater
      · -- the range lies between `a` and `b`
        have hs := List.mem_takeWhile_imp hinside
        rw [Bool.and_eq_true, Nat.ble_eq, Nat.blt_eq] at hs
        rw [oddBelow, if_pos (by omega), oddBelow, if_neg (by omega)]
        rfl
      · have hodd := oddBelow_of_covers hfirst hlast hes hcovers hlater
        cases es with
        | nil => cases hodd
        | cons e es =>
          have he := le_of_oddBelow hodd
          have hbe := hb e List.mem_cons_self
          have hab := ha b List.mem_cons_self
          rw [oddBelow, if_pos (by omega), oddBelow, if_pos (by omega), hodd]
          rfl
  | [], ranges, _, hcovers, hs => by
      rw [covers, List.isEmpty_iff] at hcovers
      · rw [hcovers] at hs
        cases hs
      · exact fun _ _ _ h => nomatch h
  | [a], ranges, _, hcovers, hs => by
      rw [covers, List.isEmpty_iff] at hcovers
      · rw [hcovers] at hs
        cases hs
      · exact fun _ _ _ h => nomatch h

/-- The ranges of a class, whose edges come in pairs. -/
def ranges : List Nat → List (Nat × Nat)
  | a :: b :: es => (a, b - 1) :: ranges es
  | _ => []

theorem exists_range {n : Nat} :
    ∀ {es : List Nat}, es.length % 2 = 0 → es.Pairwise (· < ·) → oddBelow es n = true →
      ∃ s ∈ ranges es, s.1 ≤ n ∧ n ≤ s.2
  | [], _, _, h => by cases h
  | [a], hlen, _, _ => by cases hlen
  | a :: b :: es, hlen, hsorted, h => by
      have ha := le_of_oddBelow h
      by_cases hb : b ≤ n
      · rw [oddBelow, if_pos ha, oddBelow, if_pos hb, Bool.not_not] at h
        rw [List.length_cons, List.length_cons] at hlen
        obtain ⟨s, hs, hin⟩ := exists_range (by omega) hsorted.of_cons.of_cons h
        exact ⟨s, List.mem_cons_of_mem _ hs, hin⟩
      · exact ⟨(a, b - 1), List.mem_cons_self, ha, by dsimp only; omega⟩

/-! ## Classes with their edges

What only a pass over a whole table can tell is told where the table is named,
as a field of a structure. -/

/-- A class with a short rule below U+0080 and edges above. -/
structure CharClass where
  holds : Char → Bool
  edges : Array Nat
  ascends : ascends 0 edges.toList = true
  paired : edges.toList.length % 2 = 0
  short : ∀ n < 128, holds (Char.ofNat n) = oddBelow edges.toList n
  long : ∀ c : Char, ¬ c.toNat < 128 → holds c = inClass edges c.toNat

/-- Whether a class has a code point, read off its edges. -/
def CharClass.has (k : CharClass) (n : Nat) : Bool := oddBelow k.edges.toList n

/-- Ranges inside a class. -/
structure Inside (k : CharClass) where
  ranges : List (Nat × Nat)
  covered : covers k.edges.toList ranges = true

/-- Ranges outside a class. -/
structure Outside (k : CharClass) where
  ranges : List (Nat × Nat)
  covered : covers (0 :: k.edges.toList) ranges = true

section

variable {k : CharClass} {n : Nat} {s : Nat × Nat}

theorem CharClass.sorted (k : CharClass) : (0 :: k.edges.toList).Pairwise (· < ·) :=
  pairwise_of_ascends k.ascends

theorem CharClass.holds_eq (k : CharClass) (c : Char) : k.holds c = k.has c.toNat := by
  by_cases hc : c.toNat < 128
  · have := k.short c.toNat hc
    rwa [Char.ofNat_toNat] at this
  · rw [k.long c hc, inClass_eq k.sorted.of_cons]
    rfl

theorem Inside.has (r : Inside k) (hs : s ∈ r.ranges) (hfirst : s.1 ≤ n) (hlast : n ≤ s.2) :
    k.has n = true :=
  oddBelow_of_covers hfirst hlast k.sorted.of_cons r.covered hs

/-- Before the first edge no class has anything, so an edge at `0` turns the
class inside out. -/
theorem Outside.has (r : Outside k) (hs : s ∈ r.ranges) (hfirst : s.1 ≤ n) (hlast : n ≤ s.2) :
    k.has n = false := by
  have hodd := oddBelow_of_covers hfirst hlast k.sorted r.covered hs
  rw [oddBelow, if_pos (Nat.zero_le n)] at hodd
  simpa [CharClass.has] using hodd

end

/-! ## The classes of names -/

def idContinue : CharClass where
  holds := isIdContinue
  edges := Tables.idContinue
  ascends := by decide +kernel
  paired := by decide +kernel
  short := by decide +kernel
  long _ h := if_neg h

def idStart : CharClass where
  holds := isIdStart
  edges := Tables.idStart
  ascends := by decide +kernel
  paired := by decide +kernel
  short := by decide +kernel
  long _ h := if_neg h

def alphanumeric : CharClass where
  holds := isAlphanumeric
  edges := Tables.alphanumeric
  ascends := by decide +kernel
  paired := by decide +kernel
  short := by decide +kernel
  long _ h := if_neg h

theorem toNat_ofNat_of_valid {n : Nat} (h : n.isValidChar) : (Char.ofNat n).toNat = n := by
  rw [Char.ofNat, dif_pos h]
  rfl

def startRanges : Inside idContinue := ⟨ranges Tables.idStart.toList, by decide +kernel⟩

/-- What may begin a name may also go on in it. -/
theorem isIdContinue_of_isIdStart {c : Char} (h : isIdStart c = true) : isIdContinue c = true := by
  have hstart : idStart.has c.toNat = true := (idStart.holds_eq c).symm.trans h
  obtain ⟨s, hs, hfirst, hlast⟩ := exists_range idStart.paired idStart.sorted.of_cons hstart
  exact (idContinue.holds_eq c).trans (startRanges.has hs hfirst hlast)

/-- A character that may stand in a name behind the first. -/
def goesOn (c : Char) : Bool := isIdContinue c || c = '$'

theorem goesOn_of_has {c : Char} (h : idContinue.has c.toNat = true) : goesOn c = true := by
  rw [goesOn, show isIdContinue c = true from (idContinue.holds_eq c).trans h, Bool.true_or]

/-- Places between tokens above U+007F, joiners, and the byte order mark. -/
def spaces : List (Nat × Nat) :=
  [(0x80, 0xA0), (0x1680, 0x1680), (0x2000, 0x200D), (0x2028, 0x2029), (0x202F, 0x202F),
    (0x205F, 0x205F), (0x3000, 0x3000), (0xFEFF, 0xFEFF)]

def spacesOffStart : Outside idStart := ⟨spaces, by decide +kernel⟩

def spacesOffWords : Outside alphanumeric := ⟨spaces, by decide +kernel⟩

/-! ## Upper case

Upper case never leads into the characters that go on in a name, nor out of
them.  All runs but two have their characters and their images inside
ID_Continue, range by range. -/

abbrev Run := Nat × Nat × Nat × Int

/-- The image of a code point under a shift. -/
def shifted (n : Nat) (shift : Int) : Nat := Int.toNat (n + shift)

/-- The first and the last image of a run. -/
def imageRange (r : Run) : Nat × Nat := (shifted r.1 r.2.2.2, shifted r.2.1 r.2.2.2)

/-- The run whose images leave gaps, where characters have no case. -/
def gappedRun : Run := (8017, 8023, 2, 8)

/-- The run of the circled letters, which are in no name. -/
def circledRun : Run := (9424, 9449, 1, -26)

/-- The other runs.  None of their images is a surrogate. -/
def plainRuns : { rs : List Run //
    (∀ r ∈ Tables.upperRuns.toList, r ∈ rs ∨ r = gappedRun ∨ r = circledRun) ∧
    ∀ r ∈ rs, (imageRange r).2 < 0xD800 ∨
      (0xDFFF < (imageRange r).1 ∧ (imageRange r).2 < 0x110000) } :=
  ⟨Tables.upperRuns.toList.filter fun r => r.1 ≠ gappedRun.1 && r.1 ≠ circledRun.1, by
    decide +kernel⟩

def plainSources : Inside idContinue :=
  ⟨plainRuns.1.map fun r => (r.1, r.2.1), by decide +kernel⟩

/-- The images of runs in order.  Only the kernel is to sort them. -/
@[irreducible]
def imageRanges (rs : List Run) : List (Nat × Nat) :=
  (rs.map imageRange).insertionSort fun a b => a.1 ≤ b.1

theorem mem_imageRanges {r : Run} {rs : List Run} (h : r ∈ rs) :
    imageRange r ∈ imageRanges rs := by
  rw [imageRanges]
  exact (List.mem_insertionSort _).mpr (List.mem_map_of_mem h)

def plainImages : Inside idContinue := ⟨imageRanges plainRuns.1, by decide +kernel⟩

/-- The characters of the run with gaps, and their images. -/
def gappedRanges : Inside idContinue :=
  ⟨[8017, 8019, 8021, 8023, 8025, 8027, 8029, 8031].map fun n => (n, n), by decide +kernel⟩

def circledRange : Outside idContinue := ⟨[(9398, 9449)], by decide +kernel⟩

/-- Characters of which several come. -/
def specialSources : Inside idContinue :=
  ⟨Tables.upperSpecial.toList.map fun p => (p.1, p.1), by decide +kernel⟩

/-- Ranges that hold all characters that come with others. -/
def specialImages : { r : Inside idContinue //
    ∀ p ∈ Tables.upperSpecial.toList, p.2 ≠ [] ∧
      ∀ n ∈ p.2, ∃ s ∈ r.ranges, s.1 ≤ n ∧ n ≤ s.2 ∧ s.2 < 0xD800 } :=
  ⟨⟨[(65, 90), (700, 705), (768, 834), (902, 906), (910, 929), (931, 974), (1329, 1366),
      (7944, 7951), (7976, 7983), (8040, 8047), (8122, 8122), (8138, 8138), (8186, 8186)], by
      decide +kernel⟩, by decide +kernel⟩

theorem mapRun_eq_some {runs : Array Run} {n m : Nat} (h : mapRun runs n = some m) :
    ∃ r ∈ runs.toList, r.1 ≤ n ∧ n ≤ r.2.1 ∧ (n - r.1) % r.2.2.1 = 0 ∧ m = shifted n r.2.2.2 := by
  unfold mapRun at h
  obtain ⟨r, hr, hsome⟩ := Array.exists_of_findSome?_eq_some h
  refine ⟨r, Array.mem_toList_iff.mpr hr, ?_⟩
  dsimp only at hsome
  split at hsome
  · rename_i hin
    exact ⟨hin.1, hin.2.1, hin.2.2, (Option.some.inj hsome).symm⟩
  · cases hsome

/-- The circled capital and small letters. -/
def IsCircled (n : Nat) : Prop := 9398 ≤ n ∧ n ≤ 9449

theorem not_goesOn_of_circled {c : Char} (h : IsCircled c.toNat) : goesOn c = false := by
  have hdollar : c ≠ '$' := by
    rintro rfl
    exact absurd h.1 (by decide)
  have hout : isIdContinue c = false :=
    (idContinue.holds_eq c).trans (circledRange.has List.mem_cons_self h.1 h.2)
  rw [goesOn, hout, decide_eq_false hdollar, Bool.or_false]

/-- A run takes the characters of ID_Continue to characters of ID_Continue, and
the circled letters to circled letters. -/
theorem mapRun_upperRuns {n m : Nat} (h : mapRun Tables.upperRuns n = some m) :
    m.isValidChar ∧
      (idContinue.has n = true ∧ idContinue.has m = true ∨ IsCircled n ∧ IsCircled m) := by
  obtain ⟨r, hr, hfirst, hlast, hstride, rfl⟩ := mapRun_eq_some h
  rcases plainRuns.2.1 r hr with hplain | rfl | rfl
  · have hlow : (imageRange r).1 ≤ shifted n r.2.2.2 := by
      unfold imageRange shifted
      omega
    have hhigh : shifted n r.2.2.2 ≤ (imageRange r).2 := by
      unfold imageRange shifted
      omega
    have hsource := plainSources.has (s := (r.1, r.2.1)) (List.mem_map.mpr ⟨r, hplain, rfl⟩)
      hfirst hlast
    have himage := plainImages.has (mem_imageRanges hplain) hlow hhigh
    have hvalid := plainRuns.2.2 r hplain
    refine ⟨?_, Or.inl ⟨hsource, himage⟩⟩
    unfold Nat.isValidChar
    omega
  · have hn : n = 8017 ∨ n = 8019 ∨ n = 8021 ∨ n = 8023 := by
      simp only [gappedRun] at hfirst hlast hstride
      omega
    have hin : ∀ n, (n, n) ∈ gappedRanges.ranges → idContinue.has n = true :=
      fun n hmem => gappedRanges.has hmem (Nat.le_refl n) (Nat.le_refl n)
    rcases hn with rfl | rfl | rfl | rfl <;>
      exact ⟨by decide, Or.inl ⟨hin _ (by decide), hin _ (by decide)⟩⟩
  · have hm : IsCircled (shifted n circledRun.2.2.2) := by
      simp only [circledRun, IsCircled, shifted] at hfirst hlast ⊢
      omega
    refine ⟨?_, Or.inr ⟨?_, hm⟩⟩
    · unfold Nat.isValidChar
      unfold IsCircled at hm
      omega
    · simp only [circledRun] at hfirst hlast
      exact ⟨by omega, hlast⟩

/-- Where upper case is several characters, all of them are in the class. -/
theorem has_of_special {p : Nat × List Nat} (hp : p ∈ Tables.upperSpecial.toList) {m : Nat}
    (hm : m ∈ p.2) : m.isValidChar ∧ idContinue.has p.1 = true ∧ idContinue.has m = true := by
  obtain ⟨s, hs, hlow, hhigh, hbelow⟩ := (specialImages.2 p hp).2 m hm
  refine ⟨Or.inl (Nat.lt_of_le_of_lt hhigh hbelow), ?_, specialImages.1.has hs hlow hhigh⟩
  exact specialSources.has (s := (p.1, p.1)) (List.mem_map.mpr ⟨p, hp, rfl⟩) (Nat.le_refl _)
    (Nat.le_refl _)

theorem toUpper_cases : ∀ n < 128, (Char.ofNat n).toUpper = Char.ofNat n ∨
    (goesOn (Char.ofNat n) = true ∧ goesOn (Char.ofNat n).toUpper = true) := by decide +kernel

/-- A character that is not its own upper case goes on in a name, as its upper
case does; the circled letters do not. -/
theorem upper_cases {c d : Char} (hd : d ∈ upper c) :
    d = c ∨ (goesOn c = true ∧ goesOn d = true) ∨
      (goesOn c = false ∧ goesOn d = false ∧ IsCircled d.toNat) := by
  by_cases hc : c.toNat < 128
  · rw [upper, if_pos hc, List.mem_singleton] at hd
    have hcases := toUpper_cases c.toNat hc
    rw [Char.ofNat_toNat] at hcases
    rw [hd]
    exact hcases.imp_right Or.inl
  · rw [upper, if_neg hc] at hd
    split at hd
    · rename_i n cs hfind
      have hmem := Array.mem_toList_iff.mpr (Array.mem_of_find?_eq_some hfind)
      have hn : n = c.toNat := by simpa using Array.find?_some hfind
      obtain ⟨m, hm, rfl⟩ := List.mem_map.mp hd
      obtain ⟨hvalid, hsource, himage⟩ := has_of_special hmem hm
      refine Or.inr (Or.inl ⟨goesOn_of_has (hn ▸ hsource), goesOn_of_has ?_⟩)
      rwa [toNat_ofNat_of_valid hvalid]
    · cases hrun : mapRun Tables.upperRuns c.toNat with
      | none =>
        rw [hrun] at hd
        exact Or.inl (List.mem_singleton.mp hd)
      | some m =>
        rw [hrun] at hd
        obtain ⟨hvalid, hclass⟩ := mapRun_upperRuns hrun
        have hdm : d.toNat = m := by
          rw [List.mem_singleton.mp hd]
          exact toNat_ofNat_of_valid hvalid
        rw [← hdm] at hclass
        rcases hclass with ⟨hsource, himage⟩ | ⟨hsource, himage⟩
        · exact Or.inr (Or.inl ⟨goesOn_of_has hsource, goesOn_of_has himage⟩)
        · exact Or.inr (Or.inr ⟨not_goesOn_of_circled hsource, not_goesOn_of_circled himage, himage⟩)

/-- A character goes on in a name exactly when every character of its upper case
does. -/
theorem goesOn_upper {c d : Char} (hd : d ∈ upper c) : goesOn d = goesOn c := by
  rcases upper_cases hd with rfl | ⟨hc, hd⟩ | ⟨hc, hd, -⟩
  · rfl
  · rw [hc, hd]
  · rw [hc, hd]

theorem upper_ne_nil (c : Char) : upper c ≠ [] := by
  rw [upper]
  split
  · exact List.cons_ne_nil _ _
  · split
    · rename_i n cs hfind
      have := (specialImages.2 _ (Array.mem_toList_iff.mpr (Array.mem_of_find?_eq_some hfind))).1
      simpa using this
    · exact List.cons_ne_nil _ _

end Playpen.Text
