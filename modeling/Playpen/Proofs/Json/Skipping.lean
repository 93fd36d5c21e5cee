import Playpen.Proofs.Json.RoundTrip

/-!
# What is passed over

A value that nobody wants is passed over by a reader of its own, which keeps no
more than the brackets that are due.  Whatever the grammar calls a value, it
passes over that value and stops behind it (`leads_skipValue`).

A value is done in a number of rounds that does not depend on what is open below
it or follows it, so the rounds are an existential of `Skips`.
-/

namespace Playpen.Json

open Reader
open Playpen.Decimal (Digits Exponent)

variable {c : Char} {cs text piece : List Char}

/-! ## Numbers -/

/-- How an exponent part begins. -/
theorem exists_of_exponent {tail : List Char} (h : Exponent tail) (hne : tail ≠ []) :
    ∃ e rest, tail = e :: rest ∧ (e = 'e' ∨ e = 'E') := by
  cases h with
  | absent => exact absurd rfl hne
  | plain he _ => exact ⟨_, _, rfl, he⟩
  | signed he _ _ => exact ⟨_, _, rfl, he⟩

/-- What is left of an exponent part behind its sign. -/
theorem leads_skipExponentDigits {ds : List Char} (hds : Digits Text.isDigit ds)
    (hends : EndsDigits cs) :
    Leads (do
      match ← peekDigit with
      | some _ => discard (skipDigits (← remaining) 0)
      | none => if (← peek).isSome then faultAhead .badNumber else faultHere .badNumber)
      (ds ++ cs) (pure ()) cs := by
  obtain ⟨hne, hdigits⟩ := hds
  have hskip := leads_skipDigits hdigits hends (show ds.length ≤ (ds ++ cs).length by simp) 0
  obtain ⟨d, rest, rfl⟩ := List.exists_cons_of_ne_nil hne
  refine (leads_peekDigit_cons (hdigits d List.mem_cons_self) (rest ++ cs)).bind.trans ?_
  exact (leads_remaining _).bind.trans hskip.bind

theorem leads_skipExponent {tail : List Char} (h : Exponent tail) (hne : tail ≠ [])
    (hends : EndsDigits cs) : Leads skipExponent (tail ++ cs) (pure ()) cs := by
  cases h with
  | absent => exact absurd rfl hne
  | @plain e ds he hds =>
    have hdigits := leads_skipExponentDigits hds hends
    obtain ⟨d, rest, rfl⟩ := List.exists_cons_of_ne_nil hds.1
    have hd : Text.isDigit d = true := hds.2 d List.mem_cons_self
    refine (leads_skip e _).bind.trans ?_
    refine (leads_peek _).bind.trans ?_
    -- a digit is no sign
    split
    · rename_i heq
      cases heq
      cases hd
    · rename_i heq
      cases heq
      cases hd
    · exact hdigits
  | @signed e s ds he hs hds =>
    have hdigits := leads_skipExponentDigits hds hends
    refine (leads_skip e _).bind.trans ?_
    refine (leads_peek _).bind.trans ?_
    rcases hs with rfl | rfl
    · exact (leads_skip '+' _).bind.trans hdigits
    · exact (leads_skip '-' _).bind.trans hdigits

/-- An exponent part or nothing is passed over. -/
theorem leads_skipTail {tail : List Char} (h : Exponent tail) (hends : EndsNumber cs) :
    Leads (if isExponentMark (tail ++ cs).head? then skipExponent else pure ()) (tail ++ cs)
      (pure ()) cs := by
  by_cases hne : tail = []
  · subst hne
    rw [List.nil_append, isExponentMark_head? hends]
    exact .refl _ _
  · have hskip := leads_skipExponent h hne hends.endsDigits
    obtain ⟨e, rest, rfl, he⟩ := exists_of_exponent h hne
    have hmark : isExponentMark (e :: rest ++ cs).head? = true := by
      rcases he with rfl | rfl
      all_goals rfl
    rw [if_pos hmark]
    exact hskip

/-- What comes behind the digits of a number is no digit, and no point behind
its places. -/
theorem not_isDigit_of_tail {tail : List Char} (h : Exponent tail) (hends : EndsNumber cs) :
    ∀ c, (tail ++ cs).head? = some c → Text.isDigit c = false ∧ c ≠ '.' := by
  by_cases hne : tail = []
  · subst hne
    exact fun c hc => ⟨(hends c hc).1, (hends c hc).2.1⟩
  · obtain ⟨e, rest, rfl, he⟩ := exists_of_exponent h hne
    rintro c ⟨⟩
    rcases he with rfl | rfl
    all_goals decide

/-- What is left of a number behind its whole part. -/
def Reader.skipPlaces : Reader Unit := do
  match ← peek with
  | some '.' =>
    skip
    if (← skipDigits (← remaining) 0) = 0 then faultAhead .badNumber
    if isExponentMark (← peek) then skipExponent
  | c => if isExponentMark c then skipExponent else pure ()

theorem leads_skipPlaces {fraction tail : List Char} (hfraction : IsFraction fraction)
    (htail : Exponent tail) (hends : EndsNumber cs) :
    Leads skipPlaces (fraction ++ (tail ++ cs)) (pure ()) cs := by
  have hskip := leads_skipTail htail hends
  have hnext := not_isDigit_of_tail htail hends
  cases hfraction with
  | absent =>
    refine (leads_peek _).bind.trans ?_
    rw [List.nil_append]
    split
    · rename_i heq
      exact absurd rfl (hnext '.' heq).2
    · exact hskip
  | @present ds hds =>
    refine (leads_peek _).bind.trans ?_
    refine (leads_skip '.' _).bind.trans ?_
    refine (leads_remaining _).bind.trans ?_
    refine (leads_skipDigits hds.2 (fun c hc => (hnext c hc).1) (by simp) 0).bind.trans ?_
    rw [if_neg (by have := List.length_pos_iff.mpr hds.1; omega)]
    exact (leads_peek _).bind.trans hskip

theorem isDigit_sub_ne_zero (hc : Text.isDigit c = true) (hzero : c ≠ '0') : c.toNat - 48 ≠ 0 := by
  simp only [Text.isDigit, Char.le_def, UInt32.le_iff_toNat_le, decide_eq_true_eq] at hc
  intro heq
  apply hzero
  apply Char.ext
  apply UInt32.toNat_inj.mp
  have h0 : '0'.val.toNat = 48 := rfl
  change c.val.toNat - 48 = 0 at heq
  omega

/-- A number is passed over behind its sign. -/
theorem leads_skipNumber (h : IsUnsigned text) (hends : EndsNumber cs) :
    Leads skipNumber (text ++ cs) (pure ()) cs := by
  cases h with
  | @intro whole fraction tail hwhole hfraction htail =>
    have hrest := leads_skipPlaces hfraction htail hends
    have hnext : EndsDigits (fraction ++ (tail ++ cs)) := by
      cases hfraction with
      | absent => exact fun c hc => (not_isDigit_of_tail htail hends c hc).1
      | present hds =>
        rintro c ⟨⟩
        rfl
    rw [List.append_assoc, List.append_assoc]
    cases hwhole with
    | zero =>
      refine (leads_peekDigit_cons (c := '0') rfl _).bind.trans ?_
      refine (leads_skip '0' _).bind.trans ?_
      exact (leads_peekDigit_end hnext).bind.trans hrest
    | @digits d ds hd hzero hds =>
      have hall : ∀ c ∈ d :: ds, Text.isDigit c = true := List.forall_mem_cons.mpr ⟨hd, hds⟩
      have hskip := leads_skipDigits hall hnext
        (show (d :: ds).length ≤ (d :: ds ++ (fraction ++ (tail ++ cs))).length by simp) 0
      refine (leads_peekDigit_cons hd _).bind.trans ?_
      obtain ⟨m, hm⟩ := Nat.exists_eq_succ_of_ne_zero (isDigit_sub_ne_zero hd hzero)
      rw [hm]
      refine (leads_remaining _).bind.trans ?_
      have hdiscard : Leads (discard (skipDigits _ 0)) _ (pure ()) _ := hskip.bind
      exact hdiscard.bind.trans hrest

/-! ## Strings -/

theorem leads_skipString_piece (h : IsPiece piece) (fuel : Nat) (cs : List Char) :
    Leads (skipString (fuel + 1)) (piece ++ cs) (skipString fuel) cs := by
  refine (leads_peek _).bind.trans ?_
  cases h with
  | @plain c hcontrol hquote hbackslash =>
    split
    · rename_i heq
      cases heq
    · rename_i heq
      cases heq
      exact absurd rfl hquote
    · rename_i heq
      cases heq
      exact absurd rfl hbackslash
    · rename_i heq
      cases heq
      rw [if_neg (by omega)]
      exact (leads_skip c cs).bind
  | @letter l hl =>
    refine (leads_skip '\\' _).bind.trans ?_
    refine (leads_peek _).bind.trans ?_
    split
    · rename_i heq
      cases heq
    · rename_i heq
      cases heq
      cases hl
    · rename_i heq
      cases heq
      rw [if_pos hl]
      exact (leads_skip l cs).bind
  | @code n ds hds =>
    refine (leads_skip '\\' _).bind.trans ?_
    refine (leads_peek _).bind.trans ?_
    refine (leads_skip 'u' _).bind.trans ?_
    have hdiscard : Leads (discard hex4) (ds ++ cs) (pure ()) cs := (leads_hex4 hds cs).bind
    exact hdiscard.bind

theorem leads_skipString {pieces : List (List Char)} (h : ∀ piece ∈ pieces, IsPiece piece)
    {fuel : Nat} (hfuel : pieces.length < fuel) (cs : List Char) :
    Leads (skipString fuel) (pieces.flatten ++ '"' :: cs) (pure ()) cs := by
  induction pieces generalizing fuel with
  | nil =>
    cases fuel with
    | zero => cases hfuel
    | succ fuel =>
      refine (leads_peek _).bind.trans ?_
      exact leads_skip '"' cs
  | cons piece pieces ih =>
    obtain ⟨hpiece, hmore⟩ := List.forall_mem_cons.mp h
    cases fuel with
    | zero => cases hfuel
    | succ fuel =>
      rw [List.flatten_cons, List.append_assoc]
      exact (leads_skipString_piece hpiece fuel _).trans (ih hmore (Nat.lt_of_succ_lt_succ hfuel))

theorem length_le_flatten {pieces : List (List Char)} (h : ∀ piece ∈ pieces, IsPiece piece) :
    pieces.length ≤ pieces.flatten.length := by
  induction pieces with
  | nil => exact Nat.le_refl _
  | cons piece pieces ih =>
    obtain ⟨hpiece, hmore⟩ := List.forall_mem_cons.mp h
    have hlength : 1 ≤ piece.length := by
      cases hpiece
      all_goals exact Nat.le_add_left _ _
    have := ih hmore
    rw [List.flatten_cons, List.length_cons, List.length_append]
    omega

/-- A string is passed over, its opening quote taken, with fuel for every
character to come. -/
theorem exists_leads_skipString (h : IsString text) :
    ∃ body, text = '"' :: body ∧ ∀ cs,
      Leads (skipString ((body ++ cs).length + 1)) (body ++ cs) (pure ()) cs := by
  cases h with
  | @intro pieces h =>
    refine ⟨pieces.flatten ++ ['"'], rfl, fun cs => ?_⟩
    have := length_le_flatten h
    rw [List.append_assoc]
    refine leads_skipString h ?_ cs
    rw [List.length_append]
    omega

/-- A key is passed over with its colon. -/
theorem leads_skipKey {key before after : List Char} (hkey : IsString key) (hbefore : Blanks before)
    (hafter : Blanks after) (cs : List Char) :
    Leads skipKey (before ++ (key ++ (after ++ ':' :: cs))) (pure ()) cs := by
  obtain ⟨body, rfl, hbody⟩ := exists_leads_skipString hkey
  refine (leads_token_blanks hbefore rfl rfl _).trans ?_
  refine (leads_remaining _).bind.trans ?_
  refine (hbody _).bind.trans ?_
  refine (leads_peekToken_blanks_cons hafter rfl cs).bind.trans ?_
  exact leads_skip ':' cs

/-! ## Rounds -/

/-- Goes on with the stack: a key comes before a value where an object is open. -/
def Reader.skipPart (fuel : Nat) (stack : List Char) : Reader Unit := do
  if stack.head? = some '\x7d' then skipKey
  skipValues fuel stack

/-- What is done once a value is done, or a container opened: what ends here is
left, and what follows is passed over. -/
def Reader.skipOn (comma : Bool) (fuel : Nat) (stack : List Char) : Reader Unit := do
  match ← skipClose (stack.length + 1) comma stack with
  | none => pure ()
  | some stack => skipPart fuel stack

/-- The text is passed over with anything open below it, in a number of rounds
of its own. -/
def Skips (text : List Char) : Prop :=
  ∃ n ≤ text.length, ∀ fuel stack before cs, Blanks before → EndsNumber cs →
    Leads (skipValues (fuel + n) stack) (before ++ (text ++ cs)) (skipOn true fuel stack) cs

section

variable {fuel : Nat} {stack before : List Char} {right : Char}

theorem leads_skipValues_blanks (h : Blanks before) (cs : List Char) :
    Leads (skipValues (fuel + 1) stack) (before ++ cs) (skipValues (fuel + 1) stack) cs := by
  rw [skipValues]
  exact (leads_peekToken_blanks h cs).bind_left

/-- A value that is done in one round. -/
theorem skips_of_round (hne : text ≠ [])
    (h : ∀ fuel stack cs, EndsNumber cs →
      Leads (skipValues (fuel + 1) stack) (text ++ cs) (skipOn true fuel stack) cs) :
    Skips text := by
  refine ⟨1, List.length_pos_iff.mpr hne, fun fuel stack before cs hbefore hends => ?_⟩
  exact (leads_skipValues_blanks hbefore _).trans (h fuel stack cs hends)

/-- A bracket that ends a container. -/
def IsRight (right : Char) : Prop := right = ']' ∨ right = '\x7d'

theorem IsRight.isBlank_eq (h : IsRight right) : isBlank right = false := by
  rcases h with rfl | rfl
  all_goals rfl

theorem IsRight.ne_comma (h : IsRight right) : right ≠ ',' := by
  rcases h with rfl | rfl
  all_goals decide

theorem IsRight.endsNumber (h : IsRight right) (cs : List Char) : EndsNumber (right :: cs) := by
  rcases h with rfl | rfl
  all_goals exact endsNumber_cons (by decide)

/-- A container that ends is a value that is done. -/
theorem leads_skipOn_right (h : IsRight right) (hbefore : Blanks before) (comma : Bool)
    (fuel : Nat) (stack cs : List Char) :
    Leads (skipOn comma fuel (right :: stack)) (before ++ right :: cs) (skipOn true fuel stack)
      cs := by
  refine Leads.bind_left ?_
  rw [List.length_cons, skipClose]
  refine (leads_peekToken_blanks_cons hbefore h.isBlank_eq cs).bind.trans ?_
  dsimp only
  rw [if_neg (fun hcomma => h.ne_comma hcomma.1), if_pos rfl]
  exact (leads_skip right cs).bind

/-- Behind a comma the container goes on. -/
theorem leads_skipOn_comma (hbefore : Blanks before) (fuel : Nat) (stack cs : List Char) :
    Leads (skipOn true fuel (right :: stack)) (before ++ ',' :: cs)
      (skipPart fuel (right :: stack)) cs := by
  have hclose : Leads (skipClose (stack.length + 1 + 1) true (right :: stack)) (before ++ ',' :: cs)
      (pure (some (right :: stack))) cs := by
    rw [skipClose]
    refine (leads_peekToken_blanks_cons hbefore rfl cs).bind.trans ?_
    dsimp only
    rw [if_pos ⟨rfl, rfl⟩]
    exact (leads_skip ',' cs).bind
  exact hclose.bind

/-- A container that has just been opened and does not end. -/
theorem leads_skipOn_left (hbefore : Blanks before) (hblank : isBlank c = false) (hc : c ≠ right)
    (fuel : Nat) (stack cs : List Char) :
    Leads (skipOn false fuel (right :: stack)) (before ++ c :: cs)
      (skipPart fuel (right :: stack)) (c :: cs) := by
  have hclose : Leads (skipClose (stack.length + 1 + 1) false (right :: stack)) (before ++ c :: cs)
      (pure (some (right :: stack))) (c :: cs) := by
    rw [skipClose]
    refine (leads_peekToken_blanks_cons hbefore hblank cs).bind.trans ?_
    dsimp only
    rw [if_neg (fun hcomma => nomatch hcomma.2), if_neg hc]
    exact .refl _ _
  exact hclose.bind

end

/-! ## Scalars -/

theorem skips_null : Skips ['n', 'u', 'l', 'l'] := by
  refine skips_of_round (List.cons_ne_nil _ _) fun fuel stack cs _ => ?_
  refine (leads_token (c := 'n') rfl rfl _).trans ?_
  exact (leads_word ['u', 'l', 'l'] cs).bind

theorem skips_true : Skips ['t', 'r', 'u', 'e'] := by
  refine skips_of_round (List.cons_ne_nil _ _) fun fuel stack cs _ => ?_
  refine (leads_token (c := 't') rfl rfl _).trans ?_
  exact (leads_word ['r', 'u', 'e'] cs).bind

theorem skips_false : Skips ['f', 'a', 'l', 's', 'e'] := by
  refine skips_of_round (List.cons_ne_nil _ _) fun fuel stack cs _ => ?_
  refine (leads_token (c := 'f') rfl rfl _).trans ?_
  exact (leads_word ['a', 'l', 's', 'e'] cs).bind

theorem skips_string (h : IsString text) : Skips text := by
  obtain ⟨body, rfl, hbody⟩ := exists_leads_skipString h
  refine skips_of_round (List.cons_ne_nil _ _) fun fuel stack cs _ => ?_
  refine (leads_token (c := '"') rfl rfl _).trans ?_
  refine (leads_remaining _).bind.trans ?_
  exact (hbody cs).bind

/-- A number without a sign begins with a digit. -/
theorem IsUnsigned.exists_cons (h : IsUnsigned text) :
    ∃ d rest, text = d :: rest ∧ Text.isDigit d = true := by
  cases h with
  | intro hwhole _ _ =>
    cases hwhole with
    | zero => exact ⟨'0', _, rfl, rfl⟩
    | digits hd _ _ => exact ⟨_, _, rfl, hd⟩

theorem leads_skipValues_digit (hc : Text.isDigit c = true) (fuel : Nat) (stack cs : List Char) :
    Leads (skipValues (fuel + 1) stack) (c :: cs) (do skipNumber; skipOn true fuel stack)
      (c :: cs) := by
  have hne : ∀ d : Char, Text.isDigit d = false → some c ≠ some d := by
    intro d hd heq
    exact ne_of_isDigit hc hd (Option.some.inj heq)
  rw [skipValues]
  refine (leads_peekToken_cons (isBlank_of_isDigit hc) _).bind.trans ?_
  split
  · rename_i heq
    cases heq
  · exact absurd ‹_› (hne 'n' (by decide))
  · exact absurd ‹_› (hne 't' (by decide))
  · exact absurd ‹_› (hne 'f' (by decide))
  · exact absurd ‹_› (hne '-' (by decide))
  · exact absurd ‹_› (hne '"' (by decide))
  · exact absurd ‹_› (hne '[' (by decide))
  · exact absurd ‹_› (hne '\x7b' (by decide))
  · rename_i heq
    cases heq
    rw [if_pos hc]
    exact .refl _ _

theorem skips_number (h : IsNumber text) : Skips text := by
  cases h with
  | plain h =>
    obtain ⟨d, rest, rfl, hd⟩ := h.exists_cons
    refine skips_of_round (List.cons_ne_nil _ _) fun fuel stack cs hends => ?_
    refine (leads_skipValues_digit hd fuel stack (rest ++ cs)).trans ?_
    exact (leads_skipNumber h hends).bind
  | signed h =>
    refine skips_of_round (List.cons_ne_nil _ _) fun fuel stack cs hends => ?_
    refine (leads_token (c := '-') rfl rfl _).trans ?_
    exact (leads_skipNumber h hends).bind

/-! ## Containers -/

/-- What the way in which the parts of a container are written has to do with
their values: before a value it takes what the reader takes. -/
structure Parts (right : Char) (one : List Char → List Char → Prop) : Prop where
  length_le {value piece : List Char} : one value piece → value.length ≤ piece.length
  enters {value piece before : List Char} : one value piece → Blanks before →
    ∃ before', Blanks before' ∧ ∀ fuel stack cs,
      Leads (skipPart fuel (right :: stack)) (before ++ (piece ++ cs))
        (skipValues fuel (right :: stack)) (before' ++ (value ++ cs))

theorem parts_items : Parts ']' Eq where
  length_le := by
    rintro value piece rfl
    exact Nat.le_refl _
  enters := by
    rintro value piece before rfl hbefore
    exact ⟨before, hbefore, fun fuel stack cs => .refl _ _⟩

theorem parts_members : Parts '\x7d' IsMember where
  length_le := by
    rintro value piece ⟨key, -, ⟨hbefore, hafter⟩⟩
    simp only [List.length_append, List.length_cons]
    omega
  enters := by
    rintro value piece before ⟨key, hkey, ⟨hcolon, hafter⟩⟩ hbefore
    refine ⟨_, hafter, fun fuel stack cs => ?_⟩
    have hskip := leads_skipKey hkey hbefore hcolon
    simp only [List.append_assoc, List.cons_append]
    exact (hskip _).bind

/-- The blanks before the first part may be left out. -/
theorem Listed.exists_begins {α : Type} {one : α → List Char → Prop} {P : Char → Prop} {as : List α}
    (h : Listed one as text)
    (hbegins : ∀ a ∈ as, ∀ piece, one a piece →
      ∃ c rest, piece = c :: rest ∧ isBlank c = false ∧ P c) :
    ∃ blanks c rest, text = blanks ++ c :: rest ∧ Blanks blanks ∧ isBlank c = false ∧ P c ∧
      Listed one as (c :: rest) := by
  cases h with
  | @last a before piece after hbefore hpiece hafter =>
    obtain ⟨c, rest, rfl, hc, hP⟩ := hbegins a List.mem_cons_self piece hpiece
    exact ⟨before, c, rest ++ after, rfl, hbefore, hc, hP, .last Blanks.nil hpiece hafter⟩
  | @cons a as before piece after text hbefore hpiece hafter hmore =>
    obtain ⟨c, rest, rfl, hc, hP⟩ := hbegins a List.mem_cons_self piece hpiece
    exact ⟨before, c, rest ++ (after ++ ',' :: text), rfl, hbefore, hc, hP,
      .cons Blanks.nil hpiece hafter hmore⟩

section

variable {left right : Char} {one : List Char → List Char → Prop} {values : List (List Char)}
  (hright : IsRight right) (hparts : Parts right one)

include hright hparts

/-- The parts of a container are passed over one after the other, and the
container with the last of them. -/
theorem exists_leads_skipPart (h : Listed one values text) (hvalues : ∀ v ∈ values, Skips v) :
    ∃ n ≤ text.length, ∀ fuel stack cs,
      Leads (skipPart (fuel + n) (right :: stack)) (text ++ right :: cs) (skipOn true fuel stack)
        cs := by
  induction h with
  | @last value before piece after hbefore hpiece hafter =>
    obtain ⟨n, hn, hskip⟩ := hvalues value List.mem_cons_self
    obtain ⟨before', hbefore', henter⟩ := hparts.enters hpiece hbefore
    have hlength := hparts.length_le hpiece
    refine ⟨n, ?_, fun fuel stack cs => ?_⟩
    · simp only [List.length_append]
      omega
    · rw [List.append_assoc, List.append_assoc]
      refine (henter _ _ _).trans ?_
      have hends := endsNumber_of_blanks hafter (hright.endsNumber cs)
      refine (hskip _ _ _ _ hbefore' hends).trans ?_
      exact leads_skipOn_right hright hafter true fuel stack cs
  | @cons value values before piece after text hbefore hpiece hafter hmore ih =>
    obtain ⟨hvalue, hothers⟩ := List.forall_mem_cons.mp hvalues
    obtain ⟨n, hn, hskip⟩ := hvalue
    obtain ⟨n', hn', hskip'⟩ := ih hothers
    obtain ⟨before', hbefore', henter⟩ := hparts.enters hpiece hbefore
    have hlength := hparts.length_le hpiece
    refine ⟨n' + n, ?_, fun fuel stack cs => ?_⟩
    · simp only [List.length_append, List.length_cons]
      omega
    · rw [List.append_assoc, List.append_assoc, List.append_assoc, ← Nat.add_assoc]
      refine (henter _ _ _).trans ?_
      have hends : EndsNumber (after ++ ',' :: (text ++ right :: cs)) :=
        endsNumber_of_blanks hafter (endsNumber_cons (by decide))
      refine (hskip _ _ _ _ hbefore' hends).trans ?_
      exact (leads_skipOn_comma hafter _ _ _).trans (hskip' fuel stack cs)

/-- A container is passed over if its values are. -/
theorem skips_enclosed (h : Enclosed left right one values text)
    (hopen : ∀ fuel stack cs, Leads (skipValues (fuel + 1) stack) (left :: cs)
      (skipOn false fuel (right :: stack)) cs)
    (hbegins : ∀ v ∈ values, ∀ piece, one v piece →
      ∃ c rest, piece = c :: rest ∧ isBlank c = false ∧ c ≠ right)
    (hvalues : ∀ v ∈ values, Skips v) : Skips text := by
  cases h with
  | @empty blanks hblanks =>
    refine skips_of_round (List.cons_ne_nil _ _) fun fuel stack cs _ => ?_
    rw [List.cons_append, List.append_assoc]
    exact (hopen fuel stack _).trans (leads_skipOn_right hright hblanks false fuel stack cs)
  | @filled _ text hlisted =>
    obtain ⟨blanks, c, rest, rfl, hblanks, hblank, hc, hlisted⟩ :=
      hlisted.exists_begins fun v hv piece hpiece => hbegins v hv piece hpiece
    obtain ⟨n, hn, hskip⟩ := exists_leads_skipPart hright hparts hlisted hvalues
    refine ⟨n + 1, ?_, fun fuel stack before cs hbefore _ => ?_⟩
    · simp only [List.length_append, List.length_cons] at hn ⊢
      omega
    · rw [← Nat.add_assoc]
      refine (leads_skipValues_blanks hbefore _).trans ?_
      rw [List.cons_append, List.append_assoc, List.append_assoc]
      refine (hopen _ _ _).trans ?_
      refine (leads_skipOn_left hblanks hblank hc _ _ _).trans ?_
      exact hskip fuel stack cs

end

/-! ## All values -/

/-- A value begins with none of the characters that may stand between values. -/
theorem IsValue.exists_cons (h : IsValue text) :
    ∃ c rest, text = c :: rest ∧ isBlank c = false ∧ c ≠ ']' := by
  cases h with
  | nullWord => exact ⟨'n', _, rfl, rfl, by decide⟩
  | trueWord => exact ⟨'t', _, rfl, rfl, by decide⟩
  | falseWord => exact ⟨'f', _, rfl, rfl, by decide⟩
  | number h =>
    cases h with
    | plain h =>
      obtain ⟨d, rest, rfl, hd⟩ := h.exists_cons
      exact ⟨d, rest, rfl, isBlank_of_isDigit hd, ne_of_isDigit hd (by decide)⟩
    | signed _ => exact ⟨'-', _, rfl, rfl, by decide⟩
  | string h =>
    cases h with
    | intro _ => exact ⟨'"', _, rfl, rfl, by decide⟩
  | array h _ =>
    cases h with
    | empty _ => exact ⟨'[', _, rfl, rfl, by decide⟩
    | filled _ => exact ⟨'[', _, rfl, rfl, by decide⟩
  | object h _ =>
    cases h with
    | empty _ => exact ⟨'\x7b', _, rfl, rfl, by decide⟩
    | filled _ => exact ⟨'\x7b', _, rfl, rfl, by decide⟩

theorem IsMember.exists_cons {value : List Char} (h : IsMember value piece) :
    ∃ c rest, piece = c :: rest ∧ isBlank c = false ∧ c ≠ '\x7d' := by
  obtain ⟨key, ⟨hpieces⟩, ⟨hbefore, hafter⟩⟩ := h
  exact ⟨'"', _, rfl, rfl, by decide⟩

theorem IsValue.skips (h : IsValue text) : Skips text := by
  induction h with
  | nullWord => exact skips_null
  | trueWord => exact skips_true
  | falseWord => exact skips_false
  | number h => exact skips_number h
  | string h => exact skips_string h
  | array h hitems ih =>
    refine skips_enclosed (.inl rfl) parts_items h (fun fuel stack cs => ?_) ?_ ih
    · exact leads_token (c := '[') rfl rfl cs
    · rintro item hitem piece rfl
      exact (hitems item hitem).exists_cons
  | object h hvalues ih =>
    refine skips_enclosed (.inr rfl) parts_members h (fun fuel stack cs => ?_) ?_ ih
    · exact leads_token (c := '\x7b') rfl rfl cs
    · exact fun value _ piece hpiece => hpiece.exists_cons

/-- A value that nobody wants is passed over, and nothing else. -/
theorem leads_skipValue (h : IsValue text) {before : List Char} (hbefore : Blanks before)
    (hends : EndsNumber cs) :
    Leads skipValue (before ++ (text ++ cs)) (pure ()) cs := by
  obtain ⟨n, hn, hskip⟩ := h.skips
  obtain ⟨fuel, hfuel⟩ : ∃ fuel, (before ++ (text ++ cs)).length + 1 = fuel + n := by
    refine ⟨(before ++ (text ++ cs)).length + 1 - n, ?_⟩
    simp only [List.length_append]
    omega
  refine (leads_remaining _).bind.trans ?_
  rw [hfuel]
  exact hskip fuel [] before cs hbefore hends

end Playpen.Json
