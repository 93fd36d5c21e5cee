import Playpen.Url.Host
import Mathlib.Data.List.Basic

/-!
# Dotted addresses in IPv6 addresses

An IPv6 address may end in a dotted IPv4 address, and there only: no colon stands
behind a dot (`not_mem_of_parseIPv6`), be it a single one or the two that stand for
zeros.
-/

namespace Playpen.Url

variable {sep c : Char} {cs before after : List Char} {pieces : List Nat}

/-! ## Pieces between separators -/

theorem exists_splitOnChar (sep : Char) (cs : List Char) :
    ∃ piece rest, splitOnChar sep cs = piece :: rest := by
  induction cs with
  | nil => exact ⟨[], [], rfl⟩
  | cons c cs ih =>
    obtain ⟨piece, rest, hcs⟩ := ih
    rw [splitOnChar]
    split
    · exact ⟨_, _, rfl⟩
    · exact ⟨c :: piece, rest, by rw [hcs]⟩

theorem splitOnChar_append (before after : List Char) : splitOnChar sep (before ++ sep :: after) =
    splitOnChar sep before ++ splitOnChar sep after := by
  induction before with
  | nil =>
    rw [List.nil_append, splitOnChar.eq_2, if_pos rfl]
    rfl
  | cons c before ih =>
    obtain ⟨piece, rest, hbefore⟩ := exists_splitOnChar sep before
    rw [List.cons_append, splitOnChar, splitOnChar, ih, hbefore]
    split <;> rfl

/-- Every character but the separator is in one of the pieces. -/
theorem exists_mem_splitOnChar (hc : c ≠ sep) (hmem : c ∈ cs) :
    ∃ piece ∈ splitOnChar sep cs, c ∈ piece := by
  induction cs with
  | nil => cases hmem
  | cons d cs ih =>
    obtain ⟨first, rest, hcs⟩ := exists_splitOnChar sep cs
    rw [splitOnChar]
    rcases List.mem_cons.mp hmem with rfl | hmem
    · rw [if_neg hc, hcs]
      exact ⟨_, List.mem_cons_self, List.mem_cons_self⟩
    · obtain ⟨piece, hpiece, hc⟩ := ih hmem
      split
      · exact ⟨piece, List.mem_cons_of_mem _ hpiece, hc⟩
      · rw [hcs] at hpiece ⊢
        rcases List.mem_cons.mp hpiece with rfl | hpiece
        · exact ⟨_, List.mem_cons_self, List.mem_cons_of_mem d hc⟩
        · exact ⟨piece, List.mem_cons_of_mem _ hpiece, hc⟩

/-! ## Sides of an address -/

/-- What a group of hexadecimal digits has in common with no dotted address. -/
theorem not_mem_of_isHexDigit (h : cs.all Text.isHexDigit = true) : '.' ∉ cs := by
  intro hmem
  exact absurd (List.all_eq_true.mp h '.' hmem) (by decide)

theorem exists_of_mapM {α β : Type} {f : α → Option β} {xs : List α} {ys : List β}
    (h : xs.mapM f = some ys) {x : α} (hx : x ∈ xs) : ∃ y, f x = some y := by
  induction xs generalizing ys with
  | nil => cases hx
  | cons a xs ih =>
    rw [List.mapM_cons] at h
    obtain ⟨y, hy, h⟩ := Option.bind_eq_some_iff.mp h
    obtain ⟨ys', hys, -⟩ := Option.bind_eq_some_iff.mp h
    rcases List.mem_cons.mp hx with rfl | hx
    · exact ⟨y, hy⟩
    · exact ih hys hx

/-- A group that is read has no dot in it, unless it is the last one of a side that
ends the address. -/
theorem group_of_ipv6Side {ends : Bool} (h : ipv6Side ends cs = some pieces) (hcs : cs ≠ [])
    {g : List Char} {i : Nat} (hg : (splitOnChar ':' cs)[i]? = some g) :
    '.' ∉ g ∨ ends = true ∧ i + 1 = (splitOnChar ':' cs).length := by
  unfold ipv6Side at h
  rw [if_neg (by simpa using hcs)] at h
  obtain ⟨read, hread, -⟩ := Option.map_eq_some_iff.mp h
  have hgroup : (g, i) ∈ (splitOnChar ':' cs).zipIdx := List.mem_zipIdx_iff_getElem?.mpr hg
  obtain ⟨y, hy⟩ := exists_of_mapM hread hgroup
  dsimp only at hy
  split at hy
  · rename_i hlast
    exact .inr ⟨hlast.1, hlast.2.1⟩
  · split at hy
    · cases hy
    · rename_i hdigits
      refine .inl (not_mem_of_isHexDigit ?_)
      by_contra hall
      exact hdigits (.inr (.inr (by simpa using hall)))

/-- In a side that does not end the address there is no dot, and in one that does,
no colon behind a dot. -/
theorem not_mem_of_ipv6Side {ends : Bool} (h : ipv6Side ends cs = some pieces) :
    (ends = false → '.' ∉ cs) ∧ ∀ before after, cs = before ++ ':' :: after → '.' ∉ before := by
  by_cases hempty : cs = []
  · subst hempty
    exact ⟨fun _ => List.not_mem_nil, fun before after hcs => by simp at hcs⟩
  constructor
  · rintro rfl hdot
    have hsep : '.' ≠ ':' := by decide
    obtain ⟨g, hg, hdot⟩ := exists_mem_splitOnChar hsep hdot
    obtain ⟨i, hi⟩ := List.mem_iff_getElem?.mp hg
    rcases group_of_ipv6Side h hempty hi with hnone | ⟨hends, -⟩
    · exact hnone hdot
    · cases hends
  · rintro before after rfl hdot
    have hsep : '.' ≠ ':' := by decide
    obtain ⟨g, hg, hdot⟩ := exists_mem_splitOnChar hsep hdot
    obtain ⟨i, hi⟩ := List.mem_iff_getElem?.mp hg
    have hlt : i < (splitOnChar ':' before).length := (List.getElem?_eq_some_iff.mp hi).1
    obtain ⟨piece, rest, hafter⟩ := exists_splitOnChar ':' after
    have hi' : (splitOnChar ':' (before ++ ':' :: after))[i]? = some g := by
      rw [splitOnChar_append, List.getElem?_append_left hlt, hi]
    rcases group_of_ipv6Side h hempty hi' with hnone | ⟨-, hlast⟩
    · exact hnone hdot
    · rw [splitOnChar_append, hafter, List.length_append, List.length_cons] at hlast
      omega

/-! ## Addresses -/

theorem cutDoubleColon_eq {rest : List Char} (h : cutDoubleColon cs = some (before, rest)) :
    cs = before ++ ':' :: ':' :: rest := by
  fun_induction cutDoubleColon cs generalizing before with
  | case1 rest' =>
    cases h
    rfl
  | case2 c cs _ ih =>
    obtain ⟨cut, hcut, heq⟩ := Option.map_eq_some_iff.mp h
    cases heq
    rw [ih hcut]
    rfl
  | case3 => cases h

/-- No colon stands behind a dot. -/
theorem not_mem_of_parseIPv6 {host : Host} (h : parseIPv6 cs = .ok host)
    (hcs : cs = before ++ ':' :: after) : '.' ∉ before := by
  unfold parseIPv6 at h
  dsimp only at h
  split at h
  · rename_i ps hpieces
    cases hcut : cutDoubleColon cs with
    | none =>
      rw [hcut] at hpieces
      obtain ⟨side, hside, -⟩ := Option.bind_eq_some_iff.mp hpieces
      exact (not_mem_of_ipv6Side hside).2 before after hcs
    | some cut =>
      obtain ⟨left, right⟩ := cut
      rw [hcut] at hpieces
      obtain ⟨a, hleft, hpieces⟩ := Option.bind_eq_some_iff.mp hpieces
      obtain ⟨b, hright, -⟩ := Option.bind_eq_some_iff.mp hpieces
      have hnone := (not_mem_of_ipv6Side hleft).1 rfl
      rw [cutDoubleColon_eq hcut] at hcs
      -- the colon lies in the left side, or is one of the two, or lies in the right side
      rcases List.append_eq_append_iff.mp hcs with ⟨more, rfl, hmore⟩ | ⟨more, rfl, -⟩
      · rw [List.mem_append]
        rintro (hdot | hdot)
        · exact hnone hdot
        · cases more with
          | nil => cases hdot
          | cons c more =>
            rw [List.cons_append, List.cons.injEq] at hmore
            obtain ⟨rfl, hmore⟩ := hmore
            cases more with
            | nil => exact absurd (List.mem_singleton.mp hdot) (by decide)
            | cons d more =>
              rw [List.cons_append, List.cons.injEq] at hmore
              obtain ⟨rfl, hmore⟩ := hmore
              have hright' := (not_mem_of_ipv6Side hright).2 more after hmore
              simp [hright'] at hdot
      · exact fun hdot => hnone (List.mem_append_left _ hdot)
  · cases h

example : Host.parse "[1.2.3.4::]".toList = .error .badIPv6 := by decide

end Playpen.Url
