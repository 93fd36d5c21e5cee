import Playpen.Proofs.Url.Delimiters

/-!
# Percent encoding undone

A percent sign in an encoded text is either the mark of a code or one that was
there before, and nothing tells the two apart.  Of a text without percent signs
nothing is lost: reading the codes gives its bytes again
(`percentDecode_encodeWith`), so two such texts that are encoded alike are the
same (`encodeWith_inj`).
-/

namespace Playpen.Url

/-! ## Bytes -/

/-- The bytes of a text. -/
def bytesOf (cs : List Char) : List UInt8 := cs.flatMap String.utf8EncodeChar

theorem bytesOf_append (xs ys : List Char) : bytesOf (xs ++ ys) = bytesOf xs ++ bytesOf ys :=
  List.flatMap_append

theorem bytesOf_singleton {c : Char} (h : c.toNat < 128) : bytesOf [c] = [c.val.toUInt8] := by
  have hsize : c.utf8Size = 1 :=
    Char.utf8Size_eq_one_iff.mpr (UInt32.le_iff_toNat_le.mpr (Nat.le_of_lt_succ h))
  rw [bytesOf, List.flatMap_singleton, String.utf8EncodeChar_eq_singleton hsize]

theorem ofNat_toUInt8 {c : Char} (h : c.toNat < 128) : Char.ofNat c.val.toUInt8.toNat = c := by
  have hbyte : c.val.toUInt8.toNat = c.toNat := by
    rw [UInt32.toNat_toUInt8]
    exact Nat.mod_eq_of_lt (Nat.lt_trans h (by decide))
  rw [hbyte, Char.ofNat_toNat]

/-- A text is told by its bytes. -/
theorem bytesOf_inj {xs ys : List Char} (h : bytesOf xs = bytesOf ys) : xs = ys := by
  have hutf8 : xs.utf8Encode = ys.utf8Encode := congrArg List.toByteArray h
  rw [← String.toByteArray_ofList, ← String.toByteArray_ofList] at hutf8
  exact String.ofList_inj.mp (String.toByteArray_inj.mp hutf8)

/-! ## Codes -/

theorem upperHexDigit : ∀ n < 16,
    (Char.ofNat (if n < 10 then 48 + n else 55 + n)).toNat < 128 ∧
      Text.isHexDigit (Char.ofNat (if n < 10 then 48 + n else 55 + n)) = true ∧
      Text.hexValue (Char.ofNat (if n < 10 then 48 + n else 55 + n)) = n := by
  decide

theorem percentDecode_cons {b : UInt8} (h : b ≠ 0x25) (bytes : List UInt8) :
    percentDecode (b :: bytes) = b :: percentDecode bytes := by
  match bytes with
  | [] => rfl
  | [_] => rfl
  | _ :: _ :: _ => rw [percentDecode, if_neg fun hcode => h hcode.1]

/-- A code is read as the byte it was written for. -/
theorem percentDecode_percentByte (b : UInt8) (bytes : List UInt8) :
    percentDecode (bytesOf (percentByte b) ++ bytes) = b :: percentDecode bytes := by
  have hb := b.toNat_lt
  obtain ⟨hlow, hdigit, hvalue⟩ := upperHexDigit (b.toNat / 16) (by omega)
  obtain ⟨hlow', hdigit', hvalue'⟩ := upperHexDigit (b.toNat % 16) (by omega)
  have hbytes : ∀ {c d : Char}, c.toNat < 128 → d.toNat < 128 →
      bytesOf ['%', c, d] = [0x25, c.val.toUInt8, d.val.toUInt8] := by
    intro c d hc hd
    have hsplit : ['%', c, d] = ['%'] ++ ([c] ++ [d]) := rfl
    rw [hsplit, bytesOf_append, bytesOf_append, bytesOf_singleton (by decide),
      bytesOf_singleton hc, bytesOf_singleton hd]
    rfl
  rw [percentByte, hbytes hlow hlow']
  dsimp only [List.cons_append, List.nil_append]
  rw [percentDecode, ofNat_toUInt8 hlow, ofNat_toUInt8 hlow', if_pos ⟨rfl, hdigit, hdigit'⟩,
    hvalue, hvalue', Nat.div_add_mod', Nat.toUInt8_eq, UInt8.ofNat_toNat]

theorem percentDecode_percentBytes (bs bytes : List UInt8) :
    percentDecode (bytesOf (bs.flatMap percentByte) ++ bytes) = bs ++ percentDecode bytes := by
  induction bs with
  | nil => rfl
  | cons b bs ih =>
    rw [List.flatMap_cons, bytesOf_append, List.append_assoc, percentDecode_percentByte, ih,
      List.cons_append]

/-! ## Texts -/

section

variable {set : Char → Bool} {cs xs ys : List Char}

theorem encodeWith_cons (set : Char → Bool) (c : Char) (cs : List Char) :
    encodeWith set (c :: cs) =
      (if set c then (String.utf8EncodeChar c).flatMap percentByte else [c]) ++
        encodeWith set cs := by
  rw [encodeWith, List.flatMap_cons, toList_toUTF8_singleton]
  rfl

theorem encodeWith_append (set : Char → Bool) (xs ys : List Char) :
    encodeWith set (xs ++ ys) = encodeWith set xs ++ encodeWith set ys := List.flatMap_append

variable (hset : ∀ c, set c = false → c.toNat < 128)

include hset

/-- The codes of a text without percent signs give its bytes again. -/
theorem percentDecode_encodeWith (h : '%' ∉ cs) :
    percentDecode (bytesOf (encodeWith set cs)) = bytesOf cs := by
  induction cs with
  | nil => rfl
  | cons c cs ih =>
    rw [List.mem_cons, not_or] at h
    obtain ⟨hc, hcs⟩ := h
    have hcons : bytesOf (c :: cs) = String.utf8EncodeChar c ++ bytesOf cs := List.flatMap_cons
    rw [encodeWith_cons, bytesOf_append, hcons]
    split
    · rw [percentDecode_percentBytes, ih hcs]
    · rename_i hkept
      have hlow : c.toNat < 128 := hset c (by simpa using hkept)
      have hbyte : c.val.toUInt8 ≠ 0x25 := by
        intro heq
        apply hc
        rw [← ofNat_toUInt8 hlow, heq]
        rfl
      have hsingle : String.utf8EncodeChar c = [c.val.toUInt8] := by
        rw [← bytesOf_singleton hlow, bytesOf, List.flatMap_singleton]
      rw [bytesOf_singleton hlow, hsingle, List.cons_append, List.nil_append,
        percentDecode_cons hbyte, ih hcs]
      rfl

theorem encodeWith_inj (hxs : '%' ∉ xs) (hys : '%' ∉ ys) (h : encodeWith set xs = encodeWith set ys) :
    xs = ys := by
  apply bytesOf_inj
  rw [← percentDecode_encodeWith hset hxs, ← percentDecode_encodeWith hset hys, h]

end

theorem low_of_not_pathSet {c : Char} (h : pathSet c = false) : c.toNat < 128 := by
  have hcontrol : controlSet c = false := by
    simp only [pathSet, fragmentSet, Bool.or_eq_false_iff] at h
    exact h.1.1.1.1.1.1.1.1.1
  simp only [controlSet, Bool.or_eq_false_iff, decide_eq_false_iff_not] at hcontrol
  omega

end Playpen.Url
