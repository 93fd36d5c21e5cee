import Playpen.Json.Decode
import Playpen.Proofs.Json.Fields
import Playpen.Proofs.Json.Skipping

/-!
# Records read from their texts

What is decoded while it is read: `Reads r text a` says that `r` makes `a` of the
text, whatever blanks stand before it, and `Refuses r text` that a field is
given twice in it.  A shape has many readers, one for each slot and state, so it
is asked for what they have in common (`Shape.Fielded`): a relation between
the keys given so far and the state, which every field carries on.  From it come
what an object is read as (`Shape.Fielded.exists_reads`) and when it is refused
(`Shape.Fielded.refuses`).
-/

namespace Playpen.Json

open Reader

section

variable {α β : Type} {r : Reader α} {f : α → Reader β} {a : α} {c : Char}
  {cs cs' cs'' text before : List Char}

/-! ## Success and failure -/

/-- The reader makes the value of the text. -/
def Reads (r : Reader α) (text : List Char) (a : α) : Prop :=
  ∀ before cs, Blanks before → EndsNumber cs → Leads r (before ++ (text ++ cs)) (pure a) cs

/-- A field has been given twice. -/
def IsRepeat (p : Problem) : Prop := ∃ key : String, p = .mismatch s!"duplicate field `{key}`"

/-- The reader finds a field that is given twice. -/
def Fails (r : Reader α) (cs : List Char) : Prop :=
  ∀ k : Cursor, k.rest = cs → ∃ fault k', r k = .error fault k' ∧ IsRepeat fault.problem

/-- The reader finds a field that is given twice within the text. -/
def Refuses (r : Reader α) (text : List Char) : Prop :=
  ∀ before cs, Blanks before → EndsNumber cs → Fails r (before ++ (text ++ cs))

theorem Leads.fails {r' : Reader α} (h : Leads r cs r' cs') (hfails : Fails r' cs') :
    Fails r cs := by
  intro k hk
  obtain ⟨k', hk', hr⟩ := h k hk
  obtain ⟨fault, k'', hfault, hrepeat⟩ := hfails k' hk'
  exact ⟨fault, k'', hr.trans hfault, hrepeat⟩

theorem Fails.bind (h : Fails r cs) : Fails (r >>= f) cs := by
  intro k hk
  obtain ⟨fault, k', hfault, hrepeat⟩ := h k hk
  refine ⟨fault, k', ?_, hrepeat⟩
  show EStateM.bind r f k = _
  unfold EStateM.bind
  rw [hfault]

theorem fails_mismatch (key : String) (cs : List Char) :
    Fails (mismatch s!"duplicate field `{key}`" : Reader α) cs :=
  fun k _ => ⟨_, k, rfl, key, rfl⟩

theorem Leads.placed (h : Leads r cs (pure a) cs') : Leads (placed r) cs (pure a) cs' := by
  intro k hk
  obtain ⟨k', hk', hr⟩ := h k hk
  refine ⟨k', hk', ?_⟩
  unfold Reader.placed
  rw [hr]
  rfl

theorem Fails.placed (h : Fails r cs) : Fails (placed r) cs := by
  intro k hk
  obtain ⟨⟨problem, place⟩, k', hfault, hrepeat⟩ := h k hk
  unfold Reader.placed
  rw [hfault]
  cases place with
  | none => exact ⟨_, _, rfl, hrepeat⟩
  | some place => exact ⟨_, _, rfl, hrepeat⟩

theorem Leads.enclosed {stop : Reader Unit} (h : Leads r cs (pure a) cs')
    (hstop : Leads stop cs' (pure ()) cs'') :
    Leads (Shape.enclosed r stop) cs (pure a) cs'' := by
  intro k hk
  obtain ⟨k', hk', hr⟩ := h k hk
  obtain ⟨k'', hk'', hs⟩ := hstop k' hk'
  have hread : r k = .ok a k' := hr
  have hend : stop k' = .ok () k'' := hs
  refine ⟨k'', hk'', ?_⟩
  unfold Shape.enclosed
  rw [hread]
  dsimp only
  rw [hend]
  rfl

theorem Fails.enclosed {stop : Reader Unit} (h : Fails r cs) :
    Fails (Shape.enclosed r stop) cs := by
  intro k hk
  obtain ⟨fault, k', hfault, hrepeat⟩ := h k hk
  unfold Shape.enclosed
  rw [hfault]
  dsimp only
  cases stop k' with
  | ok _ k'' => exact ⟨fault, k'', rfl, hrepeat⟩
  | error _ k'' => exact ⟨fault, k'', rfl, hrepeat⟩

/-! ## Scalars -/

theorem leads_wanted (h : Blanks before) (hc : isBlank c = false) (cs : List Char) :
    Leads token (before ++ c :: cs) (pure c) (c :: cs) :=
  (leads_peekToken_blanks_cons h hc cs).bind

theorem reads_string {s : String} (h : Literal s text) :
    Reads (Decodable.read : Reader String) text s := by
  intro before cs hbefore _
  cases h with
  | @intro text h =>
    rw [List.cons_append, List.append_assoc]
    refine (leads_wanted hbefore rfl _).bind.trans ?_
    rw [if_pos rfl]
    refine (leads_skip '"' _).bind.trans ?_
    exact leads_string_of_spelled h cs

theorem reads_true : Reads (Decodable.read : Reader Bool) ['t', 'r', 'u', 'e'] true := by
  intro before cs hbefore _
  refine (leads_wanted (c := 't') hbefore rfl _).bind.trans ?_
  refine (leads_skip 't' _).bind.trans ?_
  exact (leads_word ['r', 'u', 'e'] cs).bind

theorem reads_false : Reads (Decodable.read : Reader Bool) ['f', 'a', 'l', 's', 'e'] false := by
  intro before cs hbefore _
  refine (leads_wanted (c := 'f') hbefore rfl _).bind.trans ?_
  refine (leads_skip 'f' _).bind.trans ?_
  exact (leads_word ['a', 'l', 's', 'e'] cs).bind

theorem reads_word {name : String} {n : Nat} (h : n < 2 ^ 64) :
    Reads (Decodable.read : Reader (Word name)) (Nat.toDigits 10 n) ⟨n⟩ := by
  intro before cs hbefore hends
  have hnumber := leads_number true hends h fun hfalse => nomatch hfalse
  obtain ⟨c, rest, hdigits, hc⟩ := exists_toDigits n
  rw [hdigits] at hnumber ⊢
  refine (leads_wanted hbefore (isBlank_of_isDigit hc) _).bind.trans ?_
  rw [if_neg (ne_of_isDigit hc (by decide)), if_pos hc]
  exact Leads.placed hnumber.bind

theorem reads_none [Decodable α] :
    Reads (Decodable.read : Reader (Option α)) ['n', 'u', 'l', 'l'] none := by
  intro before cs hbefore _
  refine (leads_peekToken_blanks_cons (c := 'n') hbefore rfl _).bind.trans ?_
  rw [if_pos rfl]
  refine (leads_skip 'n' _).bind.trans ?_
  exact (leads_word ['u', 'l', 'l'] cs).bind

theorem reads_some [Decodable α] (h : Reads (Decodable.read : Reader α) (c :: text) a)
    (hblank : isBlank c = false) (hc : c ≠ 'n') :
    Reads (Decodable.read : Reader (Option α)) (c :: text) (some a) := by
  intro before cs hbefore hends
  refine (leads_peekToken_blanks_cons hbefore hblank _).bind.trans ?_
  rw [if_neg (fun heq => hc (Option.some.inj heq))]
  exact (h [] cs Blanks.nil hends).bind

theorem reads_some_word {name : String} {n : Nat} (h : n < 2 ^ 64) :
    Reads (Decodable.read : Reader (Option (Word name))) (Nat.toDigits 10 n) (some ⟨n⟩) := by
  have hread : Reads (Decodable.read : Reader (Word name)) (Nat.toDigits 10 n) ⟨n⟩ := reads_word h
  obtain ⟨c, rest, hdigits, hc⟩ := exists_toDigits n
  rw [hdigits] at hread ⊢
  exact reads_some hread (isBlank_of_isDigit hc) (ne_of_isDigit hc (by decide))

theorem reads_slot {σ : Type} [Decodable α] (h : Reads (Decodable.read : Reader α) text a)
    {name : String} {required : Bool} {get : σ → Option α} {set : σ → α → σ} (state : σ) :
    Reads ((Slot.of name required get set).read state) text (set state a) :=
  fun before cs hbefore hends => (h before cs hbefore hends).bind

theorem refuses_slot {σ : Type} [Decodable α] (h : Refuses (Decodable.read : Reader α) text)
    {name : String} {required : Bool} {get : σ → Option α} {set : σ → α → σ} (state : σ) :
    Refuses ((Slot.of name required get set).read state) text :=
  fun before cs hbefore hends => (h before cs hbefore hends).bind

/-! ## Whole texts -/

theorem Reads.run_eq {after : List Char} (h : Reads r text a) (hbefore : Blanks before)
    (hafter : Blanks after) : r.run (String.ofList (before ++ (text ++ after))) = .ok a :=
  run_of_blanks (h before after hbefore (by simpa using endsNumber_of_blanks hafter endsNumber_nil))
    hafter

theorem Refuses.run_eq {after : List Char} (h : Refuses r text) (hbefore : Blanks before)
    (hafter : Blanks after) :
    ∃ fault, r.run (String.ofList (before ++ (text ++ after))) = .error fault ∧
      IsRepeat fault.problem := by
  have hends : EndsNumber after := by simpa using endsNumber_of_blanks hafter endsNumber_nil
  have hwhole : Fails (do let a ← r; finish; pure a : Reader α) (before ++ (text ++ after)) :=
    (h before after hbefore hends).bind
  obtain ⟨fault, k, hfault, hrepeat⟩ := hwhole (Cursor.ofString _) String.toList_ofList
  refine ⟨fault, ?_, hrepeat⟩
  unfold Reader.run
  rw [hfault]

end

/-! ## The layout of an object -/

namespace Shape

variable {σ α : Type} {s : Shape σ α} {first : Bool} {key : String} {state state' : σ}
  {slot : Slot σ} {c : Char} {cs text before lead piece : List Char}

/-- What stands between the brace or a value and the next key. -/
inductive Parting : Bool → List Char → Prop
  | brace : Parting true []
  | comma {blanks : List Char} (h : Blanks blanks) : Parting false (blanks ++ [','])

theorem leads_moreKeys (hlead : Parting first lead) (hbefore : Blanks before) (cs : List Char) :
    Leads (moreKeys first) (lead ++ (before ++ '"' :: cs)) (pure true) ('"' :: cs) := by
  cases hlead with
  | brace => exact (leads_peekToken_blanks_cons (c := '"') hbefore rfl cs).bind
  | comma hblanks =>
    rw [List.append_assoc]
    refine (leads_peekToken_blanks_cons (c := ',') hblanks rfl _).bind.trans ?_
    refine (leads_skip ',' _).bind.trans ?_
    exact (leads_peekToken_blanks_cons (c := '"') hbefore rfl cs).bind

theorem leads_moreKeys_end (hbefore : Blanks before) (first : Bool) (cs : List Char) :
    Leads (moreKeys first) (before ++ '\x7d' :: cs) (pure false) ('\x7d' :: cs) :=
  (leads_peekToken_blanks_cons (c := '\x7d') hbefore rfl cs).bind

theorem leads_colon (hbefore : Blanks before) (cs : List Char) :
    Leads colon (before ++ ':' :: cs) (pure ()) cs := by
  refine (leads_peekToken_blanks_cons (c := ':') hbefore rfl cs).bind.trans ?_
  exact leads_skip ':' cs

/-- Goes on behind a key. -/
def readMember (s : Shape σ α) (fuel : Nat) (state : σ) (key : String) : Reader α :=
  match s.slots.find? (·.name = key) with
  | some slot =>
    if slot.filled state then mismatch s!"duplicate field `{key}`"
    else do
      colon
      readObject s fuel false (← slot.read state)
  | none => do
    colon
    skipValue
    readObject s fuel false state

/-- The key of a field is read, and left is the value with the colon before it. -/
theorem exists_leads_readMember {field : String × List Char} (hfield : IsField field piece) :
    ∃ blanks after, Blanks blanks ∧ Blanks after ∧
      ∀ {first lead before}, Parting first lead → Blanks before → ∀ fuel state cs,
        Leads (s.readObject (fuel + 1) first state) (lead ++ (before ++ (piece ++ cs)))
          (s.readMember fuel state field.1) (blanks ++ ':' :: (after ++ (field.2 ++ cs))) := by
  obtain ⟨_, @⟨text, htext⟩, @⟨blanks, after, hblanks, hafter⟩⟩ := hfield
  refine ⟨blanks, after, hblanks, hafter, fun {first lead before} hlead hbefore fuel state cs => ?_⟩
  simp only [List.cons_append, List.append_assoc, List.nil_append]
  rw [readObject]
  refine (leads_moreKeys hlead hbefore _).bind.trans ?_
  rw [if_pos rfl]
  refine (leads_skip '"' _).bind.trans ?_
  exact (leads_string_of_spelled htext _).bind

theorem leads_readObject_end (hbefore : Blanks before) (fuel : Nat) (first : Bool) (state : σ)
    (cs : List Char) :
    Leads (s.readObject (fuel + 1) first state) (before ++ '\x7d' :: cs) (lift (s.complete state))
      ('\x7d' :: cs) := by
  rw [readObject]
  exact (leads_moreKeys_end hbefore first cs).bind

/-- An object is read by what is behind its brace. -/
theorem leads_read {a : α} {rest : List Char} (hbefore : Blanks before)
    (h : Leads (s.readObject (rest.length + 1) true s.start) rest (pure a) ('\x7d' :: cs)) :
    Leads s.read (before ++ '\x7b' :: rest) (pure a) cs := by
  have hbody : Leads (do s.readObject ((← remaining) + 1) true s.start) rest (pure a)
      ('\x7d' :: cs) := (leads_remaining rest).bind.trans h
  have hstop : Leads endObject ('\x7d' :: cs) (pure ()) cs :=
    (leads_peekToken_cons (c := '\x7d') rfl cs).bind.trans (leads_skip '\x7d' cs)
  refine (leads_wanted hbefore rfl rest).bind.trans ?_
  refine (leads_skip '\x7b' rest).bind.trans ?_
  exact (hbody.enclosed hstop).placed

theorem fails_read {rest : List Char} (hbefore : Blanks before)
    (h : Fails (s.readObject (rest.length + 1) true s.start) rest) :
    Fails s.read (before ++ '\x7b' :: rest) := by
  have hbody : Fails (do s.readObject ((← remaining) + 1) true s.start) rest :=
    (leads_remaining rest).bind.fails h
  refine ((leads_wanted hbefore rfl rest).bind).fails ?_
  refine ((leads_skip '\x7b' rest).bind).fails ?_
  exact hbody.enclosed.placed

/-! ## Fields -/

/-- The keys that a shape knows. -/
def keys (s : Shape σ α) : List String := s.slots.map (·.name)

theorem mem_of_find? (h : s.slots.find? (·.name = key) = some slot) :
    slot ∈ s.slots ∧ slot.name = key :=
  ⟨List.mem_of_find?_eq_some h, by simpa using List.find?_some h⟩

theorem exists_slot (h : key ∈ s.keys) : ∃ slot, s.slots.find? (·.name = key) = some slot := by
  obtain ⟨slot, hslot, hname⟩ := List.mem_map.mp h
  have hsome : (s.slots.find? (·.name = key)).isSome = true :=
    List.find?_isSome.mpr ⟨slot, hslot, decide_eq_true hname⟩
  exact Option.isSome_iff_exists.mp hsome

theorem find?_eq_none (h : key ∉ s.keys) : s.slots.find? (·.name = key) = none := by
  rw [List.find?_eq_none]
  intro slot hslot hname
  exact h (List.mem_map.mpr ⟨slot, hslot, of_decide_eq_true hname⟩)

/-- Just the slots of these keys are filled. -/
def Tracks (s : Shape σ α) (done : List String) (state : σ) : Prop :=
  ∀ slot ∈ s.slots, slot.filled state = true ↔ slot.name ∈ done

/-- What the slots of a shape do, in terms of the keys that have been given:
`Holds done state` says that just these have been.  Of texts, `Good` are those
that a key takes, and in `Bad` ones a field is given twice. -/
structure Fielded (s : Shape σ α) (Holds : List String → σ → Prop)
    (Good Bad : String → List Char → Prop) : Prop where
  start : Holds [] s.start
  filled {done : List String} {state : σ} {slot : Slot σ} : Holds done state → slot ∈ s.slots →
    (slot.filled state = true ↔ slot.name ∈ done)
  takes {done : List String} {state : σ} {key : String} {value : List Char} :
    Holds done state → key ∉ done → Good key value →
    ∃ slot state', s.slots.find? (·.name = key) = some slot ∧ Reads (slot.read state) value state' ∧
      Holds (done ++ [key]) state'
  bars {key : String} {value : List Char} : Bad key value →
    ∃ slot, s.slots.find? (·.name = key) = some slot ∧ ∀ state, Refuses (slot.read state) value

variable {Holds : List String → σ → Prop} {Good Bad : String → List Char → Prop}
  {done : List String} {field : String × List Char}

namespace Fielded

variable (hs : s.Fielded Holds Good Bad)

include hs

/-- A field that is not a repeat of an earlier one is read. -/
theorem exists_leads_field (hholds : Holds done state) (hfield : IsField field piece)
    (hfits : Fits s.keys Good field) (hnew : field.1 ∈ s.keys → field.1 ∉ done)
    (hlead : Parting first lead) (hbefore : Blanks before) :
    ∃ state', Holds (done ++ given s.keys [field]) state' ∧ ∀ fuel cs, EndsNumber cs →
      Leads (s.readObject (fuel + 1) first state) (lead ++ (before ++ (piece ++ cs)))
        (s.readObject fuel false state') cs := by
  obtain ⟨blanks, after, hblanks, hafter, hread⟩ := exists_leads_readMember (s := s) hfield
  obtain ⟨key, value⟩ := field
  by_cases hmem : key ∈ s.keys
  · obtain ⟨slot, state', hfind, htakes, hholds'⟩ := hs.takes hholds (hnew hmem) (hfits.1 hmem)
    obtain ⟨hslot, rfl⟩ := mem_of_find? hfind
    refine ⟨state', by rwa [given_of_mem hmem], fun fuel cs hends => ?_⟩
    refine (hread hlead hbefore fuel state cs).trans ?_
    unfold readMember
    rw [hfind]
    dsimp only
    rw [if_neg (fun hfilled => hnew hmem ((hs.filled hholds hslot).mp hfilled))]
    refine (leads_colon hblanks _).bind.trans ?_
    exact (htakes after cs hafter hends).bind
  · refine ⟨state, by rwa [given_of_not_mem hmem, List.append_nil], fun fuel cs hends => ?_⟩
    refine (hread hlead hbefore fuel state cs).trans ?_
    unfold readMember
    rw [find?_eq_none hmem]
    refine (leads_colon hblanks _).bind.trans ?_
    exact (leads_skipValue (hfits.2 hmem) hafter hends).bind

/-- A field that repeats an earlier one, or in which a field is repeated, is not
read. -/
theorem fails_field (hholds : Holds done state) (hfield : IsField field piece)
    (hmem : field.1 ∈ s.keys) (hfault : field.1 ∈ done ∨ Bad field.1 field.2)
    (hlead : Parting first lead) (hbefore : Blanks before) (fuel : Nat) (hends : EndsNumber cs) :
    Fails (s.readObject (fuel + 1) first state) (lead ++ (before ++ (piece ++ cs))) := by
  obtain ⟨blanks, after, hblanks, hafter, hread⟩ := exists_leads_readMember (s := s) hfield
  have hslot : ∃ slot, s.slots.find? (·.name = field.1) = some slot ∧
      (slot.filled state = true ∨ Refuses (slot.read state) field.2) := by
    rcases hfault with hdone | hbad
    · obtain ⟨slot, hfind⟩ := exists_slot hmem
      obtain ⟨hslot, hname⟩ := mem_of_find? hfind
      exact ⟨slot, hfind, .inl ((hs.filled hholds hslot).mpr (hname ▸ hdone))⟩
    · obtain ⟨slot, hfind, hrefuses⟩ := hs.bars hbad
      exact ⟨slot, hfind, .inr (hrefuses state)⟩
  obtain ⟨slot, hfind, hslot⟩ := hslot
  refine (hread hlead hbefore fuel state cs).fails ?_
  unfold readMember
  rw [hfind]
  dsimp only
  by_cases hfilled : slot.filled state = true
  · rw [if_pos hfilled]
    exact fails_mismatch field.1 _
  · rw [if_neg hfilled]
    refine (leads_colon hblanks _).bind.fails ?_
    exact (hslot.resolve_left hfilled after cs hafter hends).bind

/-! ## Whole records -/

/-- Fields of which none is a repeat are read up to the brace. -/
theorem exists_leads_readObject {fields : List (String × List Char)}
    (h : Listed IsField fields text) (hfits : ∀ field ∈ fields, Fits s.keys Good field)
    (hholds : Holds done state)
    (hnodup : (done ++ given s.keys fields).Nodup) (hlead : Parting first lead) :
    ∃ state', Holds (done ++ given s.keys fields) state' ∧ ∀ fuel cs, fields.length ≤ fuel →
      Leads (s.readObject (fuel + 1) first state) (lead ++ (text ++ '\x7d' :: cs))
        (lift (s.complete state')) ('\x7d' :: cs) := by
  induction h generalizing done state first lead with
  | @last field before piece after hbefore hpiece hafter =>
    obtain ⟨state', hholds', hread⟩ := hs.exists_leads_field hholds hpiece
      (hfits field List.mem_cons_self) (not_mem_of_nodup hnodup) hlead hbefore
    refine ⟨state', hholds', fun fuel cs hfuel => ?_⟩
    obtain ⟨fuel, rfl⟩ := Nat.exists_eq_add_of_le' hfuel
    have hends : EndsNumber (after ++ '\x7d' :: cs) :=
      endsNumber_of_blanks hafter (endsNumber_cons (by decide))
    rw [List.append_assoc, List.append_assoc]
    exact (hread _ _ hends).trans (leads_readObject_end hafter fuel false state' cs)
  | @cons field fields before piece after text hbefore hpiece hafter hmore ih =>
    obtain ⟨hfit, hfits⟩ := List.forall_mem_cons.mp hfits
    obtain ⟨state₁, hholds₁, hread⟩ := hs.exists_leads_field hholds hpiece hfit
      (not_mem_of_nodup hnodup) hlead hbefore
    rw [given_cons, ← List.append_assoc] at hnodup ⊢
    obtain ⟨state', hholds', hrest⟩ := ih hfits hholds₁ hnodup (.comma hafter)
    refine ⟨state', hholds', fun fuel cs hfuel => ?_⟩
    obtain ⟨fuel, rfl⟩ := Nat.exists_eq_add_of_le' (Nat.le_trans (Nat.le_add_left 1 _) hfuel)
    have hends : EndsNumber (after ++ [','] ++ (text ++ '\x7d' :: cs)) := by
      rw [List.append_assoc]
      exact endsNumber_of_blanks hafter (endsNumber_cons (by decide))
    have htext : lead ++ (before ++ (piece ++ (after ++ ',' :: text)) ++ '\x7d' :: cs) =
        lead ++ (before ++ (piece ++ (after ++ [','] ++ (text ++ '\x7d' :: cs)))) := by simp
    rw [htext]
    exact (hread _ _ hends).trans (hrest fuel cs (Nat.le_of_succ_le_succ hfuel))

/-- The first repeat is found, whatever comes behind it. -/
theorem fails_readObject {earlier later : List (String × List Char)}
    (h : Listed IsField (earlier ++ field :: later) text)
    (hfits : ∀ f ∈ earlier, Fits s.keys Good f) (hholds : Holds done state)
    (hmem : field.1 ∈ s.keys)
    (hfault : field.1 ∈ done ++ given s.keys earlier ∨ Bad field.1 field.2)
    (hlead : Parting first lead) {fuel : Nat} (hfuel : earlier.length < fuel)
    (hends : EndsNumber cs) :
    Fails (s.readObject fuel first state) (lead ++ (text ++ cs)) := by
  induction earlier generalizing text done state first lead fuel with
  | nil =>
    obtain ⟨fuel, rfl⟩ := Nat.exists_eq_add_of_le' hfuel
    obtain ⟨before, piece, rest, rfl, hbefore, hpiece, hrest⟩ := exists_head_of_listed h
    rw [show given s.keys [] = [] from rfl, List.append_nil] at hfault
    rw [List.append_assoc, List.append_assoc]
    exact hs.fails_field hholds hpiece hmem hfault hlead hbefore fuel (hrest cs hends)
  | cons f earlier ih =>
    obtain ⟨hfit, hfits⟩ := List.forall_mem_cons.mp hfits
    obtain ⟨fuel, rfl⟩ := Nat.exists_eq_add_of_le' (Nat.zero_lt_of_lt hfuel)
    obtain ⟨before, piece, after, text, rfl, hbefore, hpiece, hafter, hmore⟩ :=
      exists_more_of_listed h (by simp)
    have htext : lead ++ (before ++ (piece ++ (after ++ ',' :: text)) ++ cs) =
        lead ++ (before ++ (piece ++ (after ++ [','] ++ (text ++ cs)))) := by simp
    have hcomma : EndsNumber (after ++ [','] ++ (text ++ cs)) := by
      rw [List.append_assoc]
      exact endsNumber_of_blanks hafter (endsNumber_cons (by decide))
    rw [htext]
    by_cases hrepeat : f.1 ∈ s.keys ∧ f.1 ∈ done
    · exact hs.fails_field hholds hpiece hrepeat.1 (.inl hrepeat.2) hlead hbefore fuel hcomma
    · obtain ⟨state', hholds', hread⟩ := hs.exists_leads_field hholds hpiece hfit
        (fun hmem hdone => hrepeat ⟨hmem, hdone⟩) hlead hbefore
      rw [given_cons, ← List.append_assoc] at hfault
      refine (hread _ _ hcomma).fails ?_
      exact ih hmore hfits hholds' hfault (.comma hafter) (Nat.lt_of_succ_lt_succ hfuel)

/-- A record of which no field is given twice is read as what its fields come to. -/
theorem exists_reads {given : List String} (h : Gives s.keys Good given text)
    (hnodup : given.Nodup) :
    ∃ state, Holds given state ∧ ∀ a, s.complete state = .ok a → Reads s.read text a := by
  obtain ⟨fields, hrecord, hfits, rfl⟩ := h
  cases hrecord with
  | @empty blanks hblanks =>
    refine ⟨s.start, hs.start, fun a ha before cs hbefore _ => ?_⟩
    have hread :=
      leads_readObject_end (s := s) hblanks (blanks ++ '\x7d' :: cs).length true s.start cs
    rw [ha] at hread
    rw [List.cons_append, List.append_assoc]
    exact leads_read hbefore hread
  | @filled _ text h =>
    obtain ⟨state, hholds, hread⟩ :=
      hs.exists_leads_readObject h hfits hs.start hnodup .brace
    refine ⟨state, hholds, fun a ha before cs hbefore _ => ?_⟩
    have hlength := length_le_of_listed h
    have hobject := hread (text ++ '\x7d' :: cs).length cs (by
      rw [List.length_append]
      omega)
    rw [ha] at hobject
    rw [List.cons_append, List.append_assoc]
    exact leads_read hbefore hobject

/-- A record is refused at the first field that is a repeat, or holds one. -/
theorem refuses {earlier later : List (String × List Char)}
    (h : IsRecord (earlier ++ field :: later) text) (hfits : ∀ f ∈ earlier, Fits s.keys Good f)
    (hmem : field.1 ∈ s.keys)
    (hfault : field.1 ∈ given s.keys earlier ∨ Bad field.1 field.2) : Refuses s.read text := by
  intro before cs hbefore _
  generalize hfields : earlier ++ field :: later = fields at h
  cases h with
  | empty _ => simp at hfields
  | @filled _ text h =>
    subst hfields
    have hlength := length_le_of_listed h
    have hread := hs.fails_readObject h hfits hs.start hmem hfault .brace
      (show earlier.length < (text ++ '\x7d' :: cs).length + 1 by
        simp only [List.length_append, List.length_cons] at hlength ⊢
        omega) (endsNumber_cons (by decide) : EndsNumber ('\x7d' :: cs))
    rw [List.cons_append, List.append_assoc]
    exact fails_read hbefore hread

/-- A record that gives a field once more than it may is refused. -/
theorem refuses_of_repeats (h : Repeats s.keys Good text) : Refuses s.read text := by
  obtain ⟨earlier, field, later, hrecord, hfits, hgiven⟩ := h
  obtain ⟨-, -, -, hmem⟩ := exists_of_mem_given hgiven
  exact hs.refuses hrecord hfits hmem (.inl hgiven)

end Fielded

end Shape

end Playpen.Json
