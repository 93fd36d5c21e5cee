import Playpen.Proofs.Json.Doubles
import Playpen.Proofs.Json.Layout

/-!
# What is written is read back

The reader keeps the containers that are still open on a stack, so a text is read
with any stack below it, and is followed until its value is done (`ReadsAs`).
The values of a container are done one after the other, and the last of them
completes the container, which is then done itself.

The rounds of the reader are counted by a fuel.  A text takes a number of rounds
that depends neither on what is open nor on what follows, and is no larger than
the text.

A double need not be read as the one that was written, since its digits are put
together again in arithmetic of doubles.  All else of a value is read back
(`Like`), in any layout, and a value without doubles is read back as it is.
-/

namespace Playpen.Json

open Reader

/-- A value of which nothing is lost in writing: objects have distinct keys, and
numbers are whole and fit into 64 bits, with or without a sign. -/
inductive Plain : Json → Prop where
  | null : Plain .null
  | bool (b : Bool) : Plain (.bool b)
  | int {i : Int} : -2 ^ 63 ≤ i → i < 2 ^ 64 → Plain (.number (.int i))
  | string (s : String) : Plain (.string s)
  | array {items : List Json} : (∀ item ∈ items, Plain item) → Plain (.array items)
  | object {members : List (String × Json)} : (members.map Prod.fst).Nodup →
      (∀ m ∈ members, Plain m.2) → Plain (.object members)

/-- The same value, but that a double may stand for another one. -/
inductive Like : Json → Json → Prop where
  | null : Like .null .null
  | bool (b : Bool) : Like (.bool b) (.bool b)
  | int (i : Int) : Like (.number (.int i)) (.number (.int i))
  | double (x y : Float) : Like (.number (.double x)) (.number (.double y))
  | string (s : String) : Like (.string s) (.string s)
  | array {items items' : List Json} : List.Forall₂ Like items items' →
      Like (.array items) (.array items')
  | object {members members' : List (String × Json)} :
      members'.map Prod.fst = members.map Prod.fst →
      List.Forall₂ Like (members.map Prod.snd) (members'.map Prod.snd) →
      Like (.object members) (.object members')

section

variable {v w : Json} {c : Char} {rest cs text before : List Char}

theorem Plain.sound (h : v.Plain) : v.Sound := by
  induction h with
  | null => exact .null
  | bool b => exact .bool b
  | int hlo hhi => exact .number (.int hlo hhi)
  | string s => exact .string s
  | array _ ih => exact .array ih
  | object hkeys _ ih => exact .object hkeys ih

theorem eq_of_forall₂_like {vs ws : List Json} (h : List.Forall₂ Like vs ws)
    (hvs : ∀ v ∈ vs, ∀ w, Like v w → w = v) : ws = vs := by
  induction h with
  | nil => rfl
  | cons hlike _ ih =>
    obtain ⟨hv, hvs⟩ := List.forall_mem_cons.mp hvs
    rw [hv _ hlike, ih hvs]

/-- Two lists of members are one if their keys and their values are. -/
theorem members_ext {ms ns : List (String × Json)} (hkeys : ms.map Prod.fst = ns.map Prod.fst)
    (hvalues : ms.map Prod.snd = ns.map Prod.snd) : ms = ns :=
  (List.zip_of_prod hkeys hvalues).trans (List.zip_of_prod rfl rfl).symm

/-- Without doubles nothing else is like the value. -/
theorem Plain.eq_of_like (h : v.Plain) (hlike : Like v w) : w = v := by
  induction h generalizing w with
  | null =>
    cases hlike
    rfl
  | bool b =>
    cases hlike
    rfl
  | int hlo hhi =>
    cases hlike
    rfl
  | string s =>
    cases hlike
    rfl
  | array _ ih =>
    cases hlike with
    | array hitems => rw [eq_of_forall₂_like hitems fun v hv w => ih v hv]
  | object _ _ ih =>
    cases hlike with
    | object hkeys hvalues =>
      refine congrArg Json.object (members_ext hkeys (eq_of_forall₂_like hvalues ?_))
      intro v hv w
      obtain ⟨m, hm, rfl⟩ := List.mem_map.mp hv
      exact ih m hm

/-! ## Rounds -/

/-- What the reader does once a value is done. -/
def Reader.after (fuel : Nat) (v : Json) (stack : List Open) : Reader Json := do
  match ← close (stack.length + 1) v stack with
  | .inl stack => values none fuel stack
  | .inr v => pure v

/-- What follows the text of a value and cannot be taken for more of it. -/
def Delimits (cs : List Char) (v : Json) : Prop := ∀ n, v = .number n → EndsNumber cs

/-- The text is read as the value, in a number of rounds of its own. -/
structure ReadsAs (text : List Char) (v : Json) : Prop where
  begins : Begins text
  leads : ∃ n < text.length, ∀ fuel stack cs, Delimits cs v →
    Leads (values none (fuel + (n + 1)) stack) (text ++ cs) (after fuel v stack) cs

/-- A value that is begun and done in one round. -/
theorem readsAs_of_begin (hbegins : Begins text)
    (h : ∀ stack cs, Delimits cs v →
      Leads (begin none stack) (text ++ cs) (pure (.inr v)) cs) : ReadsAs text v := by
  refine ⟨hbegins, 0, ?_, ?_⟩
  · obtain ⟨c, rest, rfl, -⟩ := hbegins
    exact Nat.succ_pos _
  · intro fuel stack cs hends
    rw [values]
    exact (h stack cs hends).bind

theorem leads_values_blanks (hbefore : Blanks before) (fuel : Nat) (stack : List Open)
    (cs : List Char) :
    Leads (values none (fuel + 1) stack) (before ++ cs) (values none (fuel + 1) stack) cs := by
  rw [values]
  exact (leads_peekToken_blanks hbefore _).bind_left.bind_left

/-- A value is read behind blanks, and then what holds it goes on. -/
theorem ReadsAs.leads_behind (h : ReadsAs text v) (hbefore : Blanks before) :
    ∃ n < text.length, ∀ fuel stack cs, Delimits cs v →
      Leads (values none (fuel + (n + 1)) stack) (before ++ (text ++ cs))
        (after fuel v stack) cs := by
  obtain ⟨n, hn, hread⟩ := h.leads
  exact ⟨n, hn, fun fuel stack cs hcs =>
    (leads_values_blanks hbefore (fuel + n) stack _).trans (hread fuel stack cs hcs)⟩

theorem delimits_of_endsNumber (h : EndsNumber cs) : Delimits cs v := fun _ _ => h

/-! ## Items -/

theorem endsNumber_behind (h : Blanks before)
    (hc : Text.isDigit c = false ∧ c ≠ '.' ∧ c ≠ 'e' ∧ c ≠ 'E') : EndsNumber (before ++ c :: cs) :=
  endsNumber_of_blanks h (endsNumber_cons hc)

/-- What begins a value behind blanks does not end an array. -/
theorem leads_peekToken_begins {α : Type} {f : Option Char → Reader α} {r : Reader α}
    (hbefore : Blanks before) (hbegins : Begins text) (hf : ∀ c ≠ ']', f (some c) = r)
    (cs : List Char) : Leads (peekToken >>= f) (before ++ (text ++ cs)) r (text ++ cs) := by
  obtain ⟨c, more, rfl, hblank, hne⟩ := hbegins
  rw [← hf c hne]
  exact (leads_peekToken_blanks_cons hbefore hblank _).bind

theorem leads_first_item (hbefore : Blanks before) (hbegins : Begins text) (stack : List Open)
    (cs : List Char) :
    Leads (begin none stack) ('[' :: (before ++ (text ++ cs))) (pure (.inl (.array [] :: stack)))
      (text ++ cs) := by
  refine (leads_token (c := '[') rfl rfl _).trans ?_
  exact leads_peekToken_begins hbefore hbegins (fun c hc => by simp) cs

theorem leads_next_item {after : List Char} (hafter : Blanks after) (hbefore : Blanks before)
    (hbegins : Begins text) (fuel : Nat) (v : Json) (done : List Json) (stack : List Open)
    (cs : List Char) :
    Leads (close (fuel + 1) v (.array done :: stack)) (after ++ ',' :: (before ++ (text ++ cs)))
      (pure (.inl (.array (v :: done) :: stack))) (text ++ cs) := by
  rw [close]
  refine (leads_token_blanks (c := ',') hafter rfl rfl _).trans ?_
  exact leads_peekToken_begins hbefore hbegins (fun c hc => by simp) cs

/-- The items that are listed are read, and complete the list.  The blanks before
the first of them have been passed. -/
theorem exists_leads_items {vs : List Json} (h : Listed (fun v piece => ReadsAs piece v) vs text) :
    ∃ before rest, text = before ++ rest ∧ Blanks before ∧ Begins rest ∧
      ∃ n ≤ rest.length, ∀ fuel done stack cs,
        Leads (values none (fuel + n) (.array done :: stack)) (rest ++ ']' :: cs)
          (after fuel (.array (done.reverse ++ vs)) stack) cs := by
  induction h with
  | @last v before piece after hbefore hpiece hafter =>
    obtain ⟨n, hn, hread⟩ := hpiece.leads
    obtain ⟨c, rest, rfl, hblank, hne⟩ := hpiece.begins
    refine ⟨before, _, rfl, hbefore, ⟨c, _, rfl, hblank, hne⟩, n + 1, ?_, ?_⟩
    · rw [List.length_append]
      omega
    · intro fuel done stack cs
      rw [List.append_assoc]
      refine (hread _ _ _ (delimits_of_endsNumber (endsNumber_behind hafter (by decide)))).trans ?_
      refine Leads.bind_left ?_
      rw [List.length_cons, close, ← List.reverse_cons]
      exact leads_token_blanks (c := ']') hafter rfl rfl cs
  | @cons v vs before piece after text hbefore hpiece hafter hmore ih =>
    obtain ⟨n, hn, hread⟩ := hpiece.leads
    obtain ⟨c, rest, rfl, hblank, hne⟩ := hpiece.begins
    obtain ⟨before', rest', rfl, hbefore', hbegins', n', hn', hread'⟩ := ih
    refine ⟨before, _, rfl, hbefore, ⟨c, _, rfl, hblank, hne⟩, n' + (n + 1), ?_, ?_⟩
    · simp only [List.length_append, List.length_cons] at hn hn' ⊢
      omega
    · intro fuel done stack cs
      have htext : c :: rest ++ (after ++ ',' :: (before' ++ rest')) ++ ']' :: cs =
          c :: rest ++ (after ++ ',' :: (before' ++ (rest' ++ ']' :: cs))) := by simp
      rw [htext, ← Nat.add_assoc]
      refine (hread _ _ _ (delimits_of_endsNumber (endsNumber_behind hafter (by decide)))).trans ?_
      refine (leads_next_item hafter hbefore' hbegins' _ v done stack _).bind.trans ?_
      have hrest := hread' fuel (v :: done) stack cs
      rwa [List.reverse_cons, List.append_assoc] at hrest

theorem readsAs_array {vs : List Json}
    (h : Enclosed '[' ']' (fun v piece => ReadsAs piece v) vs text) : ReadsAs text (.array vs) := by
  cases h with
  | @empty blanks h =>
    refine readsAs_of_begin ⟨'[', _, rfl, rfl, by decide⟩ fun stack cs _ => ?_
    rw [List.cons_append, List.append_assoc]
    refine (leads_token (c := '[') rfl rfl _).trans ?_
    exact leads_token_blanks (c := ']') h rfl rfl _
  | @filled _ text h =>
    obtain ⟨before, rest, rfl, hbefore, hbegins, n, hn, hread⟩ := exists_leads_items h
    refine ⟨⟨'[', _, rfl, rfl, by decide⟩, n, ?_, ?_⟩
    · simp only [List.length_append, List.length_cons] at hn ⊢
      omega
    · intro fuel stack cs _
      have htext : '[' :: (before ++ rest ++ [']']) ++ cs =
          '[' :: (before ++ (rest ++ ']' :: cs)) := by simp
      rw [htext, ← Nat.add_assoc, values]
      exact (leads_first_item hbefore hbegins stack _).bind.trans (hread fuel [] stack cs)

/-! ## Members -/

theorem insertMember_of_not_mem {key : String} {members : List (String × Json)}
    (h : key ∉ members.map Prod.fst) : insertMember key v members = members ++ [(key, v)] := by
  induction members with
  | nil => rfl
  | cons m members ih =>
    have hne : m.1 ≠ key := (List.ne_of_not_mem_cons h).symm
    rw [insertMember, if_neg hne, ih (List.not_mem_of_not_mem_cons h)]
    rfl

theorem insertMember_of_nodup {key : String} {keys : List String} {done : List (String × Json)}
    (h : (done.map Prod.fst ++ key :: keys).Nodup) :
    insertMember key v done = done ++ [(key, v)] := by
  apply insertMember_of_not_mem
  intro hmem
  exact (List.nodup_append.mp h).2.2 key hmem key List.mem_cons_self rfl

/-- A key and its colon, and then a value in the object. -/
def Reader.member (fuel : Nat) (done : List (String × Json)) (stack : List Open) : Reader Json := do
  values none fuel (.object done (← Reader.key) :: stack)

/-- What reads a member after its key is the same in the first place and in a
later one. -/
theorem leads_member {fuel : Nat} {done : List (String × Json)} {stack : List Open}
    {f : List Open ⊕ Json → Reader Json} (hf : ∀ stack, f (.inl stack) = values none fuel stack) :
    Leads ((do let k ← Reader.key; pure (.inl (.object done k :: stack))) >>= f) cs
      (member fuel done stack) cs := by
  have heq : ((do let k ← Reader.key; pure (.inl (.object done k :: stack))) >>= f) =
      member fuel done stack := by
    rw [bind_assoc]
    simp only [pure_bind, hf]
    rfl
  rw [heq]
  exact .refl _ _

/-- The text of a member that is read as the value under the key. -/
def ReadsMember (m : String × Json) (piece : List Char) : Prop :=
  ∃ value, IsField (m.1, value) piece ∧ ReadsAs value m.2

theorem ReadsMember.exists_leads {m : String × Json} {piece : List Char} (h : ReadsMember m piece) :
    ∃ rest, piece = '"' :: rest ∧ ∃ n < piece.length, ∀ fuel done stack cs, Delimits cs m.2 →
      Leads (member (fuel + (n + 1)) done stack) (piece ++ cs)
        (after fuel m.2 (.object done m.1 :: stack)) cs := by
  obtain ⟨value, ⟨key, hkey, hentry⟩, hvalue⟩ := h
  cases hentry with
  | @intro before after hbefore hafter =>
    obtain ⟨n, hn, hread⟩ := hvalue.leads_behind hafter
    cases hkey with
    | @intro key hkey =>
      refine ⟨_, rfl, n, ?_, ?_⟩
      · simp only [List.length_append, List.length_cons]
        omega
      · intro fuel done stack cs hcs
        have hleads : Leads Reader.key
            ('"' :: (key ++ '"' :: (before ++ ':' :: (after ++ (value ++ cs))))) (pure m.1)
            (after ++ (value ++ cs)) := by
          refine (leads_skip '"' _).bind.trans ?_
          refine (leads_string_of_spelled hkey _).bind.trans ?_
          exact leads_token_blanks (c := ':') hbefore rfl rfl _
        have htext : '"' :: (key ++ ['"']) ++ (before ++ ':' :: (after ++ value)) ++ cs =
            '"' :: (key ++ '"' :: (before ++ ':' :: (after ++ (value ++ cs)))) := by simp
        rw [htext]
        exact hleads.bind.trans (hread fuel _ cs hcs)

/-- The members that are listed are read, and complete the object.  The blanks
before the first of them have been passed. -/
theorem exists_leads_members {ms : List (String × Json)} (h : Listed ReadsMember ms text) :
    ∃ before rest, text = before ++ '"' :: rest ∧ Blanks before ∧
      ∃ n ≤ rest.length + 1, ∀ fuel done stack cs,
        (done.map Prod.fst ++ ms.map Prod.fst).Nodup →
        Leads (member (fuel + n) done stack) ('"' :: rest ++ '\x7d' :: cs)
          (after fuel (.object (done ++ ms)) stack) cs := by
  induction h with
  | @last m before piece after hbefore hpiece hafter =>
    obtain ⟨rest, rfl, n, hn, hread⟩ := hpiece.exists_leads
    refine ⟨before, rest ++ after, rfl, hbefore, n + 1, ?_, ?_⟩
    · simp only [List.length_append, List.length_cons] at hn ⊢
      omega
    · intro fuel done stack cs hnodup
      rw [← List.cons_append, List.append_assoc]
      refine (hread _ _ _ _ (delimits_of_endsNumber (endsNumber_behind hafter (by decide)))).trans ?_
      refine Leads.bind_left ?_
      rw [List.length_cons, close, insertMember_of_nodup hnodup]
      exact leads_token_blanks (c := '\x7d') hafter rfl rfl cs
  | @cons m ms before piece after text hbefore hpiece hafter hmore ih =>
    obtain ⟨rest, rfl, n, hn, hread⟩ := hpiece.exists_leads
    obtain ⟨before', rest', rfl, hbefore', n', hn', hread'⟩ := ih
    refine ⟨before, rest ++ (after ++ ',' :: (before' ++ '"' :: rest')), rfl, hbefore,
      n' + (n + 1), ?_, ?_⟩
    · simp only [List.length_append, List.length_cons] at hn ⊢
      omega
    · intro fuel done stack cs hnodup
      have hopen : Leads (Reader.after (fuel + n') m.2 (.object done m.1 :: stack))
          (after ++ ',' :: (before' ++ ('"' :: rest' ++ '\x7d' :: cs)))
          (member (fuel + n') (done ++ [m]) stack) ('"' :: rest' ++ '\x7d' :: cs) := by
        unfold Reader.after
        rw [List.length_cons, close, insertMember_of_nodup hnodup]
        refine (leads_token_blanks (c := ',') hafter rfl rfl _).bind_left.trans ?_
        refine (leads_peekToken_blanks_cons (c := '"') hbefore' rfl _).bind.bind_left.trans ?_
        exact leads_member fun _ => rfl
      have htext : '"' :: (rest ++ (after ++ ',' :: (before' ++ '"' :: rest'))) ++ '\x7d' :: cs =
          '"' :: rest ++ (after ++ ',' :: (before' ++ ('"' :: rest' ++ '\x7d' :: cs))) := by simp
      rw [htext, ← Nat.add_assoc]
      refine (hread _ _ _ _ (delimits_of_endsNumber (endsNumber_behind hafter (by decide)))).trans ?_
      refine hopen.trans ?_
      have hrest := hread' fuel (done ++ [m]) stack cs ?_
      · rwa [List.append_assoc] at hrest
      · rw [List.map_append, List.append_assoc]
        exact hnodup

theorem readsAs_object {ms : List (String × Json)} (h : Enclosed '\x7b' '\x7d' ReadsMember ms text)
    (hkeys : (ms.map Prod.fst).Nodup) : ReadsAs text (.object ms) := by
  cases h with
  | @empty blanks h =>
    refine readsAs_of_begin ⟨'\x7b', _, rfl, rfl, by decide⟩ fun stack cs _ => ?_
    rw [List.cons_append, List.append_assoc]
    refine (leads_token (c := '\x7b') rfl rfl _).trans ?_
    exact leads_token_blanks (c := '\x7d') h rfl rfl _
  | @filled _ text h =>
    obtain ⟨before, rest, rfl, hbefore, n, hn, hread⟩ := exists_leads_members h
    refine ⟨⟨'\x7b', _, rfl, rfl, by decide⟩, n, ?_, ?_⟩
    · simp only [List.length_append, List.length_cons] at hn ⊢
      omega
    · intro fuel stack cs _
      have htext : '\x7b' :: (before ++ '"' :: rest ++ ['\x7d']) ++ cs =
          '\x7b' :: (before ++ ('"' :: rest ++ '\x7d' :: cs)) := by simp
      rw [htext, ← Nat.add_assoc, values]
      refine (leads_token (c := '\x7b') rfl rfl _).bind_left.trans ?_
      refine (leads_peekToken_blanks_cons (c := '"') hbefore rfl _).bind.bind_left.trans ?_
      exact (leads_member fun _ => rfl).trans (hread fuel [] stack cs hkeys)

/-! ## Values -/

theorem toList_natural (n : Nat) : (compact (.number (.int n))).toList = Nat.toDigits 10 n := by
  rw [compact, Number.text, if_neg (by omega), Int.natAbs_natCast, Decimal.natText,
    String.toList_ofList]

theorem toList_negative {n : Nat} (hn : 0 < n) :
    (compact (.number (.int (-n)))).toList = '-' :: Nat.toDigits 10 n := by
  rw [compact, Number.text, if_pos (by omega), Int.natAbs_neg, Int.natAbs_natCast,
    Decimal.natText, String.toList_append, String.toList_ofList]
  rw [String.toList_ofList]
  rfl

/-- A whole number with or without its sign. -/
theorem exists_natAbs (i : Int) : (∃ n : Nat, i = n) ∨ ∃ n : Nat, 0 < n ∧ i = -n := by
  by_cases h : i < 0
  · exact .inr ⟨i.natAbs, by omega, by omega⟩
  · exact .inl ⟨i.natAbs, by omega⟩

theorem ne_of_isDigit {d : Char} (hc : Text.isDigit c = true) (hd : Text.isDigit d = false) :
    c ≠ d := by
  rintro rfl
  rw [hc] at hd
  cases hd

theorem isBlank_of_isDigit (hc : Text.isDigit c = true) : isBlank c = false := by
  have hne : ∀ d : Char, Text.isDigit d = false → c ≠ d := fun d => ne_of_isDigit hc
  simp [isBlank, hne ' ' (by decide), hne '\t' (by decide), hne '\n' (by decide),
    hne '\r' (by decide)]

theorem exists_toDigits (n : Nat) :
    ∃ c rest, Nat.toDigits 10 n = c :: rest ∧ Text.isDigit c = true := by
  obtain ⟨c, rest, hdigits⟩ := List.exists_cons_of_ne_nil (Nat.toDigits_ne_nil (n := n) (b := 10))
  exact ⟨c, rest, hdigits, isDigit_of_mem_toDigits (n := n) (hdigits ▸ List.mem_cons_self)⟩

theorem leads_begin_digit (hc : Text.isDigit c = true) (stack : List Open) (cs : List Char) :
    Leads (begin none stack) (c :: cs) (do return .inr (.number (← Reader.number true)))
      (c :: cs) := by
  have hne : ∀ d : Char, Text.isDigit d = false → some c ≠ some d := by
    intro d hd heq
    exact ne_of_isDigit hc hd (Option.some.inj heq)
  refine (leads_peekToken_cons (isBlank_of_isDigit hc) _).bind.trans ?_
  split
  · rename_i heq
    cases heq
  · exact absurd ‹_› (hne 'n' (by decide))
  · exact absurd ‹_› (hne 't' (by decide))
  · exact absurd ‹_› (hne 'f' (by decide))
  · exact absurd ‹_› (hne '"' (by decide))
  · exact absurd ‹_› (hne '-' (by decide))
  · exact absurd ‹_› (hne '[' (by decide))
  · exact absurd ‹_› (hne '\x7b' (by decide))
  · rename_i heq
    cases heq
    rw [if_pos hc]
    exact .refl _ _

/-- A number without a sign. -/
theorem readsAs_unsigned {n : Number} (hbegins : ∃ c rest, text = c :: rest ∧ Text.isDigit c = true)
    (h : ∀ cs, EndsNumber cs → Leads (Reader.number true) (text ++ cs) (pure n) cs) :
    ReadsAs text (.number n) := by
  obtain ⟨c, rest, rfl, hc⟩ := hbegins
  refine readsAs_of_begin ⟨c, rest, rfl, isBlank_of_isDigit hc, ne_of_isDigit hc (by decide)⟩ ?_
  intro stack cs hcs
  exact (leads_begin_digit hc stack _).trans (h cs (hcs n rfl)).bind

theorem readsAs_signed {n : Number}
    (h : ∀ cs, EndsNumber cs → Leads (Reader.number false) (text ++ cs) (pure n) cs) :
    ReadsAs ('-' :: text) (.number n) := by
  refine readsAs_of_begin ⟨'-', text, rfl, rfl, by decide⟩ fun stack cs hcs => ?_
  refine (leads_token (c := '-') rfl rfl _).trans ?_
  exact (h cs (hcs n rfl)).bind

theorem readsAs_int {i : Int} (hlo : -2 ^ 63 ≤ i) (hhi : i < 2 ^ 64) :
    ReadsAs (Number.int i).text.toList (.number (.int i)) := by
  rcases exists_natAbs i with ⟨n, rfl⟩ | ⟨n, hn, rfl⟩
  · have htext : (Number.int n).text.toList = Nat.toDigits 10 n := toList_natural n
    rw [htext]
    refine readsAs_unsigned (exists_toDigits n) fun cs hcs => ?_
    exact leads_number true hcs (by omega) fun h => nomatch h
  · have htext : (Number.int (-n)).text.toList = '-' :: Nat.toDigits 10 n := toList_negative hn
    rw [htext]
    refine readsAs_signed fun cs hcs => ?_
    exact leads_number false hcs (by omega) fun _ => ⟨hn, by omega⟩

/-- A finite double is read as some double. -/
theorem exists_readsAs_double {x : Float} (hx : Decimal.isFinite x = true) :
    ∃ y, ReadsAs (Number.double x).text.toList (.number (.double y)) := by
  obtain ⟨body, hread, htext⟩ := exists_documentText hx
  have hdouble : (Number.double x).text = Decimal.documentText x := rfl
  rw [hdouble]
  rcases htext with htext | htext
  · obtain ⟨y, hy⟩ := hread true
    rw [htext]
    exact ⟨y, readsAs_unsigned (hread true).begins hy⟩
  · obtain ⟨y, hy⟩ := hread false
    rw [htext]
    exact ⟨y, readsAs_signed hy⟩

theorem exists_forall₂ {α β : Type} {R : α → β → Prop} {as : List α} (h : ∀ a ∈ as, ∃ b, R a b) :
    ∃ bs, List.Forall₂ R as bs := by
  induction as with
  | nil => exact ⟨[], .nil⟩
  | cons a as ih =>
    obtain ⟨⟨b, hb⟩, hrest⟩ := List.forall_mem_cons.mp h
    obtain ⟨bs, hbs⟩ := ih hrest
    exact ⟨b :: bs, .cons hb hbs⟩

/-- A value with a word of its own. -/
theorem readsAs_word {word : List Char} (hc : isBlank c = false) (hne : c ≠ ']')
    (h : ∀ stack cs, Leads (begin none stack) (c :: cs)
      (do Reader.word word; return .inr v) cs) : ReadsAs (c :: word) v :=
  readsAs_of_begin ⟨c, word, rfl, hc, hne⟩ fun stack cs _ =>
    (h stack _).trans (leads_word word cs).bind

theorem readsAs_string {s : String} (h : Literal s text) : ReadsAs text (.string s) := by
  refine readsAs_of_begin h.begins fun stack cs _ => ?_
  cases h with
  | @intro text h =>
    rw [List.cons_append, List.append_assoc]
    refine (leads_token (c := '"') rfl rfl _).trans ?_
    exact (leads_string_of_spelled h cs).bind

theorem exists_readsAs_number {n : Number} (hn : n.Sound) :
    ∃ w, Like (.number n) w ∧ ReadsAs n.text.toList w := by
  cases hn with
  | int hlo hhi => exact ⟨_, .int _, readsAs_int hlo hhi⟩
  | double hx =>
    obtain ⟨y, hy⟩ := exists_readsAs_double hx
    exact ⟨_, .double _ y, hy⟩

theorem exists_readsAs_array {parts : List (Json × List Char)}
    (h : Enclosed '[' ']' Eq (parts.map Prod.snd) text)
    (hparts : ∀ p ∈ parts, ∃ w, Like p.1 w ∧ ReadsAs p.2 w) :
    ∃ w, Like (.array (parts.map Prod.fst)) w ∧ ReadsAs text w := by
  obtain ⟨vs, hvs⟩ := exists_forall₂ hparts
  refine ⟨.array vs, .array ?_, readsAs_array (h.transfer ?_)⟩
  · exact List.forall₂_map_left_iff.mpr (hvs.imp fun _ _ hp => hp.1)
  · refine List.forall₂_map_left_iff.mpr (hvs.imp ?_)
    rintro p w ⟨-, hw⟩ _ rfl
    exact hw

theorem exists_readsAs_object {parts : List (String × Json × List Char)}
    (h : IsRecord (parts.map fun p => (p.1, p.2.2)) text) (hkeys : (parts.map Prod.fst).Nodup)
    (hparts : ∀ p ∈ parts, ∃ w, Like p.2.1 w ∧ ReadsAs p.2.2 w) :
    ∃ w, Like (.object (parts.map fun p => (p.1, p.2.1))) w ∧ ReadsAs text w := by
  have hone : ∀ p ∈ parts, ∃ m : String × Json,
      p.1 = m.1 ∧ Like p.2.1 m.2 ∧ ReadsAs p.2.2 m.2 := by
    intro p hp
    obtain ⟨w, hw⟩ := hparts p hp
    exact ⟨(p.1, w), rfl, hw⟩
  obtain ⟨ms, hms⟩ := exists_forall₂ hone
  have hsame : List.Forall₂ Eq (parts.map Prod.fst) (ms.map Prod.fst) :=
    List.forall₂_map_left_iff.mpr (List.forall₂_map_right_iff.mpr (hms.imp fun _ _ hp => hp.1))
  rw [List.forall₂_eq_eq_eq] at hsame
  refine ⟨.object ms, .object ?_ ?_, readsAs_object (h.transfer ?_) (hsame ▸ hkeys)⟩
  · rw [List.map_map]
    exact hsame.symm
  · rw [List.map_map]
    refine List.forall₂_map_left_iff.mpr (List.forall₂_map_right_iff.mpr (hms.imp ?_))
    exact fun _ _ hp => hp.2.1
  · refine List.forall₂_map_left_iff.mpr (hms.imp ?_)
    rintro p m ⟨hkey, -, hm⟩ piece hpiece
    exact ⟨p.2.2, hkey ▸ hpiece, hm⟩

/-- Whatever the layout, a sound value is read back up to its doubles. -/
theorem Written.exists_readsAs (h : Written v text) (hv : v.Sound) :
    ∃ w, Like v w ∧ ReadsAs text w := by
  induction h with
  | null => exact ⟨_, .null, readsAs_word rfl (by decide) fun _ => leads_token rfl rfl⟩
  | trueWord => exact ⟨_, .bool true, readsAs_word rfl (by decide) fun _ => leads_token rfl rfl⟩
  | falseWord => exact ⟨_, .bool false, readsAs_word rfl (by decide) fun _ => leads_token rfl rfl⟩
  | number n =>
    cases hv with
    | number hn => exact exists_readsAs_number hn
  | string h => exact ⟨_, .string _, readsAs_string h⟩
  | array h _ ih =>
    cases hv with
    | array hitems =>
      exact exists_readsAs_array h fun p hp => ih p hp (hitems _ (List.mem_map_of_mem hp))
  | object h _ ih =>
    cases hv with
    | object hkeys hmembers =>
      rw [List.map_map] at hkeys
      exact exists_readsAs_object h hkeys fun p hp =>
        ih p hp (hmembers _ (List.mem_map_of_mem hp))

/-! ## Whole texts -/

theorem ReadsAs.leads_value (h : ReadsAs text v) (hbefore : Blanks before) {after : List Char}
    (hafter : Delimits after v) :
    Leads (Reader.value none) (before ++ (text ++ after)) (pure v) after := by
  obtain ⟨n, hn, hread⟩ := h.leads_behind hbefore
  obtain ⟨fuel, hfuel⟩ : ∃ fuel, (before ++ (text ++ after)).length + 1 = fuel + (n + 1) := by
    refine ⟨(before ++ (text ++ after)).length - n, ?_⟩
    simp only [List.length_append]
    omega
  refine (leads_remaining _).bind.trans ?_
  rw [hfuel]
  exact hread fuel [] after hafter

/-- The compact text of a value without doubles is read as the value. -/
theorem Plain.readsAs (h : v.Plain) : ReadsAs v.compact.toList v := by
  obtain ⟨w, hlike, hread⟩ := (written_compact v).exists_readsAs h.sound
  rwa [h.eq_of_like hlike] at hread

section

variable {α : Type} {r : Reader α} {a : α}

/-- Blanks at the end do not matter. -/
theorem run_of_blanks (h : Leads r cs (pure a) rest) (hrest : ∀ c ∈ rest, isBlank c = true) :
    r.run (String.ofList cs) = .ok a := by
  have hpeek := leads_peekToken rest
  rw [List.dropWhile_eq_nil_iff.mpr hrest] at hpeek
  have hfinish : Leads finish rest (pure ()) [] := hpeek.bind
  have hwhole : Leads (do let a ← r; finish; pure a : Reader α) cs (pure a) [] :=
    h.bind.trans hfinish.bind
  obtain ⟨c, -, hrun⟩ := hwhole (Cursor.ofString (String.ofList cs)) (String.toList_ofList)
  unfold Reader.run
  rw [hrun]
  rfl

/-- Anything else there is refused. -/
theorem run_of_trailing (h : Leads r cs (pure a) rest) (hrest : ∃ c ∈ rest, isBlank c = false) :
    ∃ f, r.run (String.ofList cs) = .error f := by
  obtain ⟨c, more, hmore⟩ : ∃ c more, rest.dropWhile isBlank = c :: more := by
    apply List.exists_cons_of_ne_nil
    intro hnil
    obtain ⟨c, hc, hblank⟩ := hrest
    rw [List.dropWhile_eq_nil_iff.mp hnil c hc] at hblank
    cases hblank
  have hpeek := leads_peekToken rest
  rw [hmore] at hpeek
  have hfinish : Leads finish rest (faultAhead .trailingCharacters) (c :: more) := hpeek.bind
  have hwhole : Leads (do let a ← r; finish; pure a : Reader α) cs
      (do faultAhead .trailingCharacters; pure a) (c :: more) :=
    h.bind.trans hfinish.bind_left
  obtain ⟨k, -, hrun⟩ := hwhole (Cursor.ofString (String.ofList cs)) (String.toList_ofList)
  unfold Reader.run
  rw [hrun]
  exact ⟨_, rfl⟩

end

theorem delimits_of_blanks (h : Blanks cs) : Delimits cs v := by
  intro n _
  have hends := endsNumber_of_blanks h endsNumber_nil
  rwa [List.append_nil] at hends

theorem written_eq (before after : String) : before ++ v.compact ++ after =
    String.ofList (before.toList ++ (v.compact.toList ++ after.toList)) := by
  rw [← String.toList_append, ← String.toList_append, String.ofList_toList, String.append_assoc]

/-- A sound value in any layout, with blanks around it, is read back up to its
doubles. -/
theorem Written.exists_parse (h : Written v text) (hv : v.Sound) :
    ∃ w, Like v w ∧ ∀ before after : List Char, Blanks before → Blanks after →
      parse none (String.ofList (before ++ (text ++ after))) = .ok w := by
  obtain ⟨w, hlike, hread⟩ := h.exists_readsAs hv
  exact ⟨w, hlike, fun before after hbefore hafter =>
    run_of_blanks (hread.leads_value hbefore (delimits_of_blanks hafter)) hafter⟩

section

variable (h : v.Plain) {before after : String}
  (hbefore : ∀ c ∈ before.toList, isBlank c = true)

include h hbefore

/-- What is written, with blanks around it, is read as the value it was written
for. -/
theorem Plain.parse_blanks (hafter : ∀ c ∈ after.toList, isBlank c = true) :
    parse none (before ++ v.compact ++ after) = .ok v := by
  rw [parse, written_eq]
  exact run_of_blanks (h.readsAs.leads_value hbefore (delimits_of_blanks hafter)) hafter

/-- With more behind it that is not part of a number, it is not read at all. -/
theorem Plain.parse_trailing (hdelimits : Delimits after.toList v)
    (hafter : ∃ c ∈ after.toList, isBlank c = false) :
    ∃ f, parse none (before ++ v.compact ++ after) = .error f := by
  rw [parse, written_eq]
  exact run_of_trailing (h.readsAs.leads_value hbefore hdelimits) hafter

end

end

end Playpen.Json
