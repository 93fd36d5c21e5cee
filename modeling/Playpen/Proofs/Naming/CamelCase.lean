import Playpen.Proofs.Naming.Identifier

/-!
# Which names share an identifier

The identifier of a dependency is made in one pass, which remembers whether a
word has begun and whether separators came since.  `camelCase_eq` says what the
pass comes to: the words of the name, each after the first with its first letter
in upper case.  So nothing but the words of a name that has no scope matters.

Among names of ASCII characters the identifiers that may be bound are the ones
that stay as they are (`bindingIdentifier_of_plain`), and every result is one of
them (`isPlainIdentifier_bindingIdentifier`).
-/

namespace Playpen.Dependency

open Playpen.Text (isAlphanumeric isAsciiLetter isDigit isNumber upper)

/-! ## Words -/

/-- The words of a name: the longest rows of characters that are kept. -/
def words (cs : List Char) : List (List Char) :=
  (cs.splitOnP fun c => !isNameChar c).filter (· ≠ [])

/-- A word with its first letter in upper case. -/
def capitalized : List Char → List Char
  | [] => []
  | c :: rest => upper c ++ rest

/-- Words put together, all but the first with their first letter in upper
case. -/
def joined : List (List Char) → List Char
  | [] => []
  | first :: more => first ++ more.flatMap capitalized

/-- What the pass writes, from each of its three states: inside a word, behind
a separator, and before the first word. -/
theorem camelCase_spec (cs : List Char) : ∃ piece pieces,
    cs.splitOnP (fun c => !isNameChar c) = piece :: pieces ∧
    camelCase true false cs = piece ++ (pieces.filter (· ≠ [])).flatMap capitalized ∧
    camelCase true true cs = ((piece :: pieces).filter (· ≠ [])).flatMap capitalized ∧
    ∀ gap, camelCase false gap cs = joined ((piece :: pieces).filter (· ≠ [])) := by
  induction cs with
  | nil => exact ⟨[], [], rfl, rfl, rfl, fun _ => rfl⟩
  | cons c cs ih =>
    obtain ⟨piece, pieces, hsplit, hinside, hbehind, hbefore⟩ := ih
    rw [List.splitOnP_cons_eq_if_modifyHead, hsplit]
    by_cases hkept : isNameChar c = true
    · refine ⟨c :: piece, pieces, by simp [hkept], ?_, ?_, fun gap => ?_⟩
      · simp [camelCase, hkept, hinside]
      · simp [camelCase, hkept, hinside, capitalized]
      · simp [camelCase, hkept, hinside, joined]
    · refine ⟨[], piece :: pieces, by simp [hkept], ?_, ?_, fun gap => ?_⟩
      · simp [camelCase, hkept, hbehind]
      · simp [camelCase, hkept, hbehind]
      · simp [camelCase, hkept, hbefore]

theorem camelCase_eq (gap : Bool) (cs : List Char) :
    camelCase false gap cs = joined (words cs) := by
  obtain ⟨piece, pieces, hsplit, -, -, hbefore⟩ := camelCase_spec cs
  rw [hbefore, words, hsplit]

/-- A name that begins with its scope. -/
def IsScoped (name : String) : Prop := name.toList.head? = some '@'

theorem unscoped_of_not_isScoped {name : String} (h : ¬ IsScoped name) :
    unscoped name.toList = name.toList := by
  unfold IsScoped at h
  rw [unscoped]
  rintro rest hname
  exact h (by rw [hname]; rfl)

theorem bindingIdentifier_eq_of_words_eq {name other : String} (h : ¬ IsScoped name)
    (h' : ¬ IsScoped other) (hwords : words name.toList = words other.toList) :
    bindingIdentifier name = bindingIdentifier other := by
  unfold bindingIdentifier
  rw [unscoped_of_not_isScoped h, unscoped_of_not_isScoped h', camelCase_eq, camelCase_eq, hwords]

/-! ## ASCII names -/

/-- An ASCII character that may begin an identifier. -/
def startsPlain (c : Char) : Bool := isAsciiLetter c || c = '_' || c = '$'

/-- An ASCII character that may stand in an identifier. -/
def isPlain (c : Char) : Bool := startsPlain c || isDigit c

/-- The identifiers `[A-Za-z_$][A-Za-z0-9_$]*`. -/
def IsPlainIdentifier (name : String) : Prop :=
  ∃ c rest, name.toList = c :: rest ∧ startsPlain c = true ∧ ∀ d ∈ rest, isPlain d = true

/-- A name of ASCII characters. -/
def IsAscii (name : String) : Prop := ∀ c ∈ name.toList, c.toNat < 128

/-- What holds of ASCII characters can be checked on their code points. -/
theorem forall_ascii (p : Char → Prop) (h : ∀ n < 128, p (Char.ofNat n)) {c : Char}
    (hc : c.toNat < 128) : p c := by
  have := h c.toNat hc
  rwa [Char.ofNat_toNat] at this

theorem isNameChar_eq {c : Char} (hc : c.toNat < 128) : isNameChar c = isPlain c := by
  unfold isNameChar isPlain startsPlain isAlphanumeric
  rw [if_pos hc]
  cases isAsciiLetter c <;> cases isDigit c <;> simp

theorem isNumber_eq {c : Char} (hc : c.toNat < 128) : isNumber c = isDigit c := by
  rw [isNumber, if_pos hc]

theorem lt_of_isPlain {c : Char} (h : isPlain c = true) : c.toNat < 128 := by
  have hbelow : ∀ a b : Char, a ≤ b → a.toNat ≤ b.toNat := fun _ _ h => h
  unfold isPlain startsPlain isAsciiLetter isDigit at h
  simp only [Bool.or_eq_true, decide_eq_true_eq] at h
  rcases h with (((⟨-, hz⟩ | ⟨-, hZ⟩) | rfl) | rfl) | ⟨-, h9⟩
  · exact Nat.lt_of_le_of_lt (hbelow _ _ hz) (by decide)
  · exact Nat.lt_of_le_of_lt (hbelow _ _ hZ) (by decide)
  · decide
  · decide
  · exact Nat.lt_of_le_of_lt (hbelow _ _ h9) (by decide)

theorem isNameChar_of_isPlain {c : Char} (h : isPlain c = true) : isNameChar c = true := by
  rw [isNameChar_eq (lt_of_isPlain h), h]

theorem isPlain_of_startsPlain {c : Char} (h : startsPlain c = true) : isPlain c = true := by
  rw [isPlain, h, Bool.true_or]

theorem isDigit_of_startsPlain {c : Char} (h : startsPlain c = true) : isDigit c = false := by
  exact forall_ascii (fun c => startsPlain c = true → isDigit c = false) (by decide +kernel)
    (lt_of_isPlain (isPlain_of_startsPlain h)) h

theorem isPlain_upper {c d : Char} (h : isPlain c = true) (hd : d ∈ upper c) : isPlain d = true := by
  rw [upper, if_pos (lt_of_isPlain h), List.mem_singleton] at hd
  rw [hd]
  exact forall_ascii (fun c => isPlain c = true → isPlain c.toUpper = true) (by decide +kernel)
    (lt_of_isPlain h) h

/-- Of ASCII characters, only those of identifiers are written. -/
theorem isPlain_of_mem_camelCase {d : Char} :
    ∀ {begun gap : Bool} {cs : List Char}, (∀ c ∈ cs, c.toNat < 128) →
      d ∈ camelCase begun gap cs → isPlain d = true
  | _, _, [], _, hd => by cases hd
  | begun, gap, c :: cs, hascii, hd => by
      obtain ⟨hc, hcs⟩ := List.forall_mem_cons.mp hascii
      rw [camelCase] at hd
      split at hd
      · rename_i hkept
        rw [isNameChar_eq hc] at hkept
        rcases List.mem_append.mp hd with hword | hlater
        · split at hword
          · exact isPlain_upper hkept hword
          · rw [List.mem_singleton.mp hword]
            exact hkept
        · exact isPlain_of_mem_camelCase hcs hlater
      · exact isPlain_of_mem_camelCase hcs hd

theorem camelCase_of_forall_isNameChar {begun : Bool} {cs : List Char}
    (h : ∀ c ∈ cs, isNameChar c = true) : camelCase begun false cs = cs := by
  induction cs generalizing begun with
  | nil => rfl
  | cons c cs ih =>
    obtain ⟨hc, hcs⟩ := List.forall_mem_cons.mp h
    rw [camelCase, if_pos hc, Bool.and_false, if_neg Bool.false_ne_true, ih hcs]
    rfl

/-! ## Names that stay -/

theorem ascii_unscoped {name : String} (h : IsAscii name) :
    ∀ c ∈ unscoped name.toList, c.toNat < 128 := by
  have hsublist : ∀ cs c, c ∈ unscoped cs → c ∈ cs := by
    intro cs c hc
    unfold unscoped at hc
    split at hc
    · rename_i rest
      have hrest := (List.takeWhile_sublist _).subset (List.mem_reverse.mp hc)
      exact List.mem_cons_of_mem _ (List.mem_reverse.mp hrest)
    · exact hc
  exact fun c hc => h c (hsublist _ c hc)

/-- What an ASCII name is bound under is an identifier. -/
theorem isPlainIdentifier_bindingIdentifier {name : String} (h : IsAscii name) :
    IsPlainIdentifier (bindingIdentifier name) := by
  unfold IsPlainIdentifier bindingIdentifier
  dsimp only
  rw [String.toList_ofList]
  have hplain : ∀ d ∈ camelCase false false (unscoped name.toList), isPlain d = true :=
    fun d hd => isPlain_of_mem_camelCase (ascii_unscoped h) hd
  generalize camelCase false false (unscoped name.toList) = cs at hplain
  split
  · exact ⟨'_', cs, rfl, by decide, hplain⟩
  · rename_i hnone
    cases cs with
    | nil => exact absurd rfl hnone
    | cons c cs =>
      obtain ⟨hc, hcs⟩ := List.forall_mem_cons.mp hplain
      refine ⟨c, cs, rfl, ?_, hcs⟩
      have hdigit : isDigit c = false := by
        rw [← isNumber_eq (lt_of_isPlain hc), Bool.eq_false_iff]
        exact fun hnumber => hnone (needsUnderscore_cons.mpr (Or.inl hnumber))
      rwa [isPlain, hdigit, Bool.or_false] at hc

/-- An identifier that may be bound is bound as it is. -/
theorem bindingIdentifier_of_plain {name : String} (h : IsPlainIdentifier name)
    (hfree : name ∉ "console" :: reservedWords) : bindingIdentifier name = name := by
  obtain ⟨c, rest, hname, hc, hrest⟩ := h
  have hkept : ∀ d ∈ c :: rest, isNameChar d = true := by
    intro d hd
    rcases List.mem_cons.mp hd with rfl | hd
    · exact isNameChar_of_isPlain (isPlain_of_startsPlain hc)
    · exact isNameChar_of_isPlain (hrest d hd)
  have hunscoped : ¬ IsScoped name := by
    intro hscoped
    rw [IsScoped, hname] at hscoped
    cases hscoped
    revert hc
    decide
  have hstays : ¬ needsUnderscore (c :: rest) = true := by
    rw [needsUnderscore_cons, isNumber_eq (lt_of_isPlain (isPlain_of_startsPlain hc)),
      isDigit_of_startsPlain hc, ← hname, String.ofList_toList]
    exact not_or.mpr ⟨Bool.false_ne_true, hfree⟩
  unfold bindingIdentifier
  rw [unscoped_of_not_isScoped hunscoped, hname, camelCase_of_forall_isNameChar hkept]
  dsimp only
  rw [if_neg hstays, ← hname, String.ofList_toList]

/-- Making an identifier of an ASCII name twice comes to making it once, and the
names that stay as they are are the identifiers that may be bound.  Of any two
names without a scope that have the same words, whatever separates them, comes
before or behind them, the identifier is the same. -/
theorem bindingIdentifier_settles :
    (∀ name, IsAscii name →
      bindingIdentifier (bindingIdentifier name) = bindingIdentifier name ∧
      (bindingIdentifier name = name ↔
        IsPlainIdentifier name ∧ name ∉ "console" :: reservedWords)) ∧
    ∀ name other, ¬ IsScoped name → ¬ IsScoped other →
      words name.toList = words other.toList →
      bindingIdentifier name = bindingIdentifier other := by
  refine ⟨fun name hascii => ⟨?_, ?_, fun h => bindingIdentifier_of_plain h.1 h.2⟩,
    fun name other => bindingIdentifier_eq_of_words_eq⟩
  · exact bindingIdentifier_of_plain (isPlainIdentifier_bindingIdentifier hascii)
      (bindingIdentifier_not_mem name)
  · intro hstays
    rw [← hstays]
    exact ⟨isPlainIdentifier_bindingIdentifier hascii, bindingIdentifier_not_mem name⟩

example : words "..date--fns/".toList = words "date fns".toList := by decide +kernel

end Playpen.Dependency
