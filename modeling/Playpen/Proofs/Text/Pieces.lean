import Playpen.Text.Classes
import Mathlib.Data.List.TakeWhile

/-!
# Texts in pieces

A text that is written piece by piece is taken apart again by classes of
characters: where one piece lies inside a class and what follows it begins
outside, the cut is between them.
-/

namespace Playpen.Text

variable {p : Char → Bool} {xs ys cs : List Char}

/-- A row of one character. -/
theorem toList_pushn (c : Char) (n : Nat) : ("".pushn c n).toList = List.replicate n c := by
  rw [String.pushn_eq_repeat_push]
  induction n with
  | zero => rfl
  | succ n ih => rw [Nat.repeat, String.toList_push, ih, List.replicate_succ']

/-! ## The end of a piece -/

/-- What follows begins outside the class, or nothing follows. -/
def Stops (p : Char → Bool) (cs : List Char) : Prop := ∀ c, cs.head? = some c → p c = false

theorem stops_nil (p : Char → Bool) : Stops p [] := by
  intro c h
  cases h

theorem stops_cons {c : Char} : Stops p (c :: cs) ↔ p c = false := by
  simp [Stops]

theorem stops_append (hxs : Stops p xs) (hys : Stops p ys) : Stops p (xs ++ ys) := by
  cases xs with
  | nil => exact hys
  | cons c xs => exact stops_cons.mpr (stops_cons.mp hxs)

theorem stops_of_append (h : Stops p (xs ++ ys)) : Stops p xs := by
  intro c hc
  apply h
  rw [List.head?_append, hc]
  rfl

theorem takeWhile_append_of_stops (hxs : ∀ c ∈ xs, p c = true) (hys : Stops p ys) :
    (xs ++ ys).takeWhile p = xs := by
  rw [List.takeWhile_append_of_pos hxs]
  cases ys with
  | nil => rw [List.takeWhile_nil, List.append_nil]
  | cons c ys => rw [List.takeWhile_cons, if_neg (by simp [stops_cons.mp hys]), List.append_nil]

theorem dropWhile_append_of_stops (hxs : ∀ c ∈ xs, p c = true) (hys : Stops p ys) :
    (xs ++ ys).dropWhile p = ys := by
  rw [List.dropWhile_append_of_pos hxs]
  cases ys with
  | nil => rfl
  | cons c ys => rw [List.dropWhile_cons, if_neg (by simp [stops_cons.mp hys])]

/-! ## Both ends -/

/-- What trimming takes away is in the class. -/
theorem exists_trimBy (p : Char → Bool) (cs : List Char) :
    ∃ before after, cs = before ++ trimBy p cs ++ after ∧
      (∀ c ∈ before, p c = true) ∧ ∀ c ∈ after, p c = true := by
  refine ⟨cs.takeWhile p, ((cs.dropWhile p).reverse.takeWhile p).reverse, ?_, ?_, ?_⟩
  · rw [trimBy, List.append_assoc, ← List.reverse_append, List.takeWhile_append_dropWhile,
      List.reverse_reverse, List.takeWhile_append_dropWhile]
  · exact fun c hc => List.mem_takeWhile_imp hc
  · exact fun c hc => List.mem_takeWhile_imp (List.mem_reverse.mp hc)

theorem stops_dropWhile (p : Char → Bool) (cs : List Char) : Stops p (cs.dropWhile p) := by
  intro c hc
  have := List.head?_dropWhile_not p cs
  rw [hc] at this
  exact this

theorem stops_reverse_trimBy (p : Char → Bool) (cs : List Char) :
    Stops p (trimBy p cs).reverse := by
  rw [trimBy, List.reverse_reverse]
  exact stops_dropWhile p _

theorem stops_trimBy (p : Char → Bool) (cs : List Char) : Stops p (trimBy p cs) := by
  intro c hc
  have hfront : cs.dropWhile p =
      trimBy p cs ++ ((cs.dropWhile p).reverse.takeWhile p).reverse := by
    rw [trimBy, ← List.reverse_append, List.takeWhile_append_dropWhile, List.reverse_reverse]
  apply stops_dropWhile p cs
  rw [hfront, List.head?_append, hc]
  rfl

/-- Trimming uncovers a piece with ends that are not in the class. -/
theorem trimBy_append_of_stops {before core after : List Char} (hbefore : ∀ c ∈ before, p c = true)
    (hfirst : Stops p core) (hlast : Stops p core.reverse) (hafter : ∀ c ∈ after, p c = true) :
    trimBy p (before ++ core ++ after) = core := by
  cases core with
  | nil =>
    have hall : ∀ c ∈ before ++ after, p c = true := by
      intro c hc
      rcases List.mem_append.mp hc with hc | hc
      · exact hbefore c hc
      · exact hafter c hc
    rw [trimBy, List.append_nil, List.dropWhile_eq_nil_iff.mpr hall]
    rfl
  | cons c core =>
    have hfirst : Stops p (c :: core ++ after) := stops_cons.mpr (stops_cons.mp hfirst)
    rw [trimBy, List.append_assoc, dropWhile_append_of_stops hbefore hfirst, List.reverse_append,
      dropWhile_append_of_stops (fun d hd => hafter d (List.mem_reverse.mp hd)) hlast,
      List.reverse_reverse]

/-- Trimming uncovers a piece that has nothing of the class. -/
theorem trimBy_append {before core after : List Char} (hbefore : ∀ c ∈ before, p c = true)
    (hcore : ∀ c ∈ core, p c = false) (hafter : ∀ c ∈ after, p c = true) :
    trimBy p (before ++ core ++ after) = core :=
  trimBy_append_of_stops hbefore (fun c hc => hcore c (List.mem_of_mem_head? hc))
    (fun c hc => hcore c (List.mem_reverse.mp (List.mem_of_mem_head? hc))) hafter

theorem trimBy_eq_nil_iff : trimBy p cs = [] ↔ ∀ c ∈ cs, p c = true := by
  constructor
  · intro hnil c hc
    obtain ⟨before, after, hcs, hbefore, hafter⟩ := exists_trimBy p cs
    rw [hcs, hnil, List.append_nil] at hc
    rcases List.mem_append.mp hc with hc | hc
    · exact hbefore c hc
    · exact hafter c hc
  · intro hall
    rw [trimBy, List.dropWhile_eq_nil_iff.mpr hall]
    rfl

end Playpen.Text
