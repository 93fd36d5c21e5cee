import Playpen.Json.Read
import Playpen.Proofs.Json.Assembly

/-!
# What is read is sound

A reader keeps what it has read in order: whole numbers fit into 64 bits, doubles
are finite, and the keys of an object are distinct (`Sound`).  It is shown of
each reader what holds of the value it comes to (`Reader.Ensures`), and of the
containers that are still open as of those that are done.  Nothing else can be
the value of a text (`sound_of_parse`).
-/

namespace Playpen.Json

/-- A number as it is read: a whole number fits into 64 bits, with or without a
sign, and a double is finite. -/
inductive Number.Sound : Number → Prop
  | int {i : Int} : -2 ^ 63 ≤ i → i < 2 ^ 64 → Sound (.int i)
  | double {x : Float} : Decimal.isFinite x = true → Sound (.double x)

namespace Reader

variable {α β : Type}

/-- What holds of the value of a reader that comes to one. -/
def Ensures (r : Reader α) (P : α → Prop) : Prop := ∀ c a c', r c = .ok a c' → P a

section

variable {r : Reader α} {f : α → Reader β} {P : α → Prop} {Q : β → Prop} {a : α}

theorem Ensures.pure (h : P a) : Ensures (pure a : Reader α) P := by
  rintro c b c' ⟨⟩
  exact h

theorem Ensures.bind (hr : Ensures r P) (hf : ∀ a, P a → Ensures (f a) Q) :
    Ensures (r >>= f) Q := by
  intro c b c' h
  change EStateM.bind r f c = .ok b c' at h
  unfold EStateM.bind at h
  cases hread : r c with
  | ok a k =>
    rw [hread] at h
    exact hf a (hr c a k hread) k b c' h
  | error fault k =>
    rw [hread] at h
    cases h

theorem Ensures.any (r : Reader α) : Ensures r fun _ => True := fun _ _ _ _ => trivial

theorem Ensures.then (hf : ∀ a, Ensures (f a) Q) : Ensures (r >>= f) Q :=
  (Ensures.any r).bind fun a _ => hf a

theorem ensures_faultHere (p : Problem) : Ensures (faultHere p : Reader α) P := by
  rintro c b c' ⟨⟩

theorem ensures_faultAhead (p : Problem) : Ensures (faultAhead p : Reader α) P := by
  rintro c b c' ⟨⟩

end

theorem isFinite_sign {x : Float} (h : Decimal.isFinite x = true) (positive : Bool) :
    Decimal.isFinite (sign positive x) = true := by
  cases positive with
  | true => exact h
  | false => exact Decimal.isFinite_neg h

theorem ensures_double (positive : Bool) (s : Nat) (e : Int) :
    Ensures (double positive s e) Number.Sound := by
  unfold double
  split
  · rename_i y hy
    exact .pure (.double (isFinite_sign (Decimal.isFinite_of_isReal (isReal_assemble hy)) positive))
  · exact ensures_faultHere _

/-- What is left of an exponent part behind its sign. -/
def exponentValue (positive : Bool) (significand : Nat) (start : Int) (positiveExponent : Bool) :
    Reader Number := do
  match ← peek with
  | none => faultHere .endInValue
  | some c =>
    if Text.isDigit c then
      skip
      match ← exponentDigits (← remaining) (c.toNat - 48) with
      | some e =>
        let exponent := if positiveExponent then start + e else start - e
        double positive significand (clampExponent exponent)
      | none =>
        if significand ≠ 0 && positiveExponent then faultHere .numberOutOfRange
        else
          discard (skipDigits (← remaining) 0)
          pure (.double (sign positive 0.0))
    else faultAhead .badNumber

theorem ensures_exponentValue (positive : Bool) (s : Nat) (start : Int) (positiveExponent : Bool) :
    Ensures (exponentValue positive s start positiveExponent) Number.Sound := by
  have hzero : Decimal.isFinite 0.0 = true := by decide +kernel
  refine .then fun c => ?_
  split
  · exact ensures_faultHere _
  split
  · refine .then fun _ => .then fun _ => .then fun e => ?_
    split
    · exact ensures_double _ _ _
    split
    · exact ensures_faultHere _
    · exact .then fun _ => .then fun _ => .pure (.double (isFinite_sign hzero positive))
  · exact ensures_faultAhead _

theorem ensures_exponentPart (positive : Bool) (s : Nat) (start : Int) :
    Ensures (exponentPart positive s start) Number.Sound := by
  have hvalue := ensures_exponentValue positive s start
  refine .then fun _ => .then fun c => ?_
  split
  · exact .then fun _ => .then hvalue
  · exact .then fun _ => .then hvalue
  · exact .then hvalue

theorem ensures_afterPlaces (positive : Bool) (s : Nat) (e : Int) :
    Ensures (afterPlaces positive s e) Number.Sound := by
  refine .then fun c => ?_
  split
  · exact ensures_exponentPart _ _ _
  · exact ensures_double _ _ _

theorem ensures_places (positive : Bool) (start : Int) (fuel s count : Nat) :
    Ensures (places positive start fuel s count) Number.Sound := by
  induction fuel generalizing s count with
  | zero => exact ensures_afterPlaces _ _ _
  | succ fuel ih =>
    rw [places]
    refine .then fun d => ?_
    split
    · split
      · exact .then fun _ => ih _ _
      · exact .then fun _ => ensures_afterPlaces _ _ _
    split
    · refine .then fun c => ?_
      split
      · exact ensures_faultAhead _
      · exact ensures_faultAhead _
    · exact ensures_afterPlaces _ _ _

theorem ensures_pointPart (positive : Bool) (s : Nat) (start : Int) :
    Ensures (pointPart positive s start) Number.Sound :=
  .then fun _ => .then fun _ => ensures_places _ _ _ _ _

theorem ensures_afterWhole (positive : Bool) {s : Nat} (hs : s < 2 ^ 64) :
    Ensures (afterWhole positive s) Number.Sound := by
  refine .then fun c => ?_
  split
  · exact ensures_pointPart _ _ _
  split
  · exact ensures_exponentPart _ _ _
  split
  · exact .pure (.int (by omega) (by omega))
  split
  · rename_i hrange
    obtain ⟨hpos, hle⟩ : 0 < s ∧ s ≤ 2 ^ 63 := hrange
    exact .pure (.int (by omega) (by omega))
  · exact .pure (.double (Decimal.isFinite_neg
      (Decimal.isFinite_of_isReal (within_toFloat s.toUInt64).isReal)))

theorem ensures_longWhole (positive : Bool) (s : Nat) :
    Ensures (longWhole positive s) Number.Sound := by
  refine .then fun _ => .then fun n => .then fun c => ?_
  split
  · exact ensures_pointPart _ _ _
  split
  · exact ensures_exponentPart _ _ _
  · exact ensures_double _ _ _

theorem ensures_wholeDigits (positive : Bool) (fuel : Nat) {s : Nat} (hs : s < 2 ^ 64) :
    Ensures (wholeDigits positive fuel s) Number.Sound := by
  induction fuel generalizing s with
  | zero => exact ensures_afterWhole positive hs
  | succ fuel ih =>
    rw [wholeDigits]
    refine .then fun d => ?_
    split
    · split
      · exact .then fun _ => ih ‹_›
      · exact ensures_longWhole _ _
    · exact ensures_afterWhole positive hs

/-- A number that is read is sound. -/
theorem ensures_number (positive : Bool) : Ensures (number positive) Number.Sound := by
  refine .then fun c => ?_
  split
  · exact ensures_faultHere _
  · refine .then fun _ => .then fun d => ?_
    split
    · exact ensures_faultAhead _
    · exact ensures_afterWhole positive (by decide)
  · rename_i c _
    split
    · rename_i hc
      have hdigit : c.toNat - 48 < 2 ^ 64 := by
        have : c.toNat < 0xD800 ∨ 0xDFFF < c.toNat ∧ c.toNat < 0x110000 := c.valid
        omega
      exact .then fun _ => .then fun _ => ensures_wholeDigits positive _ hdigit
    · exact ensures_faultAhead _

end Reader

/-! ## Values -/

/-- A value as it is read: the keys of an object are distinct, and numbers are as
they are read. -/
inductive Sound : Json → Prop where
  | null : Sound .null
  | bool (b : Bool) : Sound (.bool b)
  | number {n : Number} : n.Sound → Sound (.number n)
  | string (s : String) : Sound (.string s)
  | array {items : List Json} : (∀ item ∈ items, Sound item) → Sound (.array items)
  | object {members : List (String × Json)} : (members.map Prod.fst).Nodup →
      (∀ m ∈ members, Sound m.2) → Sound (.object members)

/-- What is open holds only sound values. -/
inductive Open.Sound : Open → Prop
  | array {done : List Json} : (∀ item ∈ done, item.Sound) → Sound (.array done)
  | object {done : List (String × Json)} {key : String} : (done.map Prod.fst).Nodup →
      (∀ m ∈ done, m.2.Sound) → Sound (.object done key)

/-- Whether a value is done or more follows, there are only sound values. -/
def SoundSoFar (r : List Open ⊕ Json) : Prop := r.elim (fun stack => ∀ o ∈ stack, o.Sound) Sound

theorem mem_insertMember {key : String} {v : Json} {members : List (String × Json)}
    {m : String × Json} (h : m ∈ insertMember key v members) : m = (key, v) ∨ m ∈ members := by
  induction members with
  | nil => exact .inl (List.mem_singleton.mp h)
  | cons head members ih =>
    rw [insertMember] at h
    split at h
    · rename_i heq
      rcases List.mem_cons.mp h with rfl | h
      · exact .inl (by rw [← heq])
      · exact .inr (List.mem_cons_of_mem _ h)
    · rcases List.mem_cons.mp h with rfl | h
      · exact .inr List.mem_cons_self
      · exact (ih h).imp_right (List.mem_cons_of_mem _)

theorem nodup_insertMember {key : String} {v : Json} {members : List (String × Json)}
    (h : (members.map Prod.fst).Nodup) : ((insertMember key v members).map Prod.fst).Nodup := by
  induction members with
  | nil => exact List.nodup_singleton key
  | cons head members ih =>
    obtain ⟨hhead, hmembers⟩ := List.nodup_cons.mp h
    rw [insertMember]
    split
    · exact h
    · rename_i hne
      refine List.nodup_cons.mpr ⟨?_, ih hmembers⟩
      intro hmem
      obtain ⟨m, hm, hkey⟩ := List.mem_map.mp hmem
      rcases mem_insertMember hm with rfl | hm
      · exact hne hkey.symm
      · exact hhead (List.mem_map.mpr ⟨m, hm, hkey⟩)

section

variable {v : Json} {stack : List Open}

theorem Sound.insertMember {key : String} {members : List (String × Json)}
    (hmembers : ∀ m ∈ members, m.2.Sound) (hv : v.Sound) :
    ∀ m ∈ insertMember key v members, m.2.Sound := by
  intro m hm
  rcases mem_insertMember hm with rfl | hm
  · exact hv
  · exact hmembers m hm

namespace Reader

theorem ensures_close (fuel : Nat) (hv : v.Sound) (hstack : ∀ o ∈ stack, o.Sound) :
    Ensures (close fuel v stack) SoundSoFar := by
  induction fuel generalizing v stack with
  | zero => exact .pure hv
  | succ fuel ih =>
    cases stack with
    | nil => exact .pure hv
    | cons frame stack =>
      obtain ⟨hframe, hrest⟩ := List.forall_mem_cons.mp hstack
      cases hframe with
      | array hdone =>
        have hdone := List.forall_mem_cons.mpr ⟨hv, hdone⟩
        refine .then fun c => ?_
        split
        · refine .then fun _ => ih (.array fun item hitem => ?_) hrest
          exact hdone item (List.mem_reverse.mp hitem)
        · refine .then fun _ => .then fun c => ?_
          split
          · exact ensures_faultAhead _
          · exact .pure (List.forall_mem_cons.mpr ⟨.array hdone, hrest⟩)
          · exact ensures_faultAhead _
        · exact ensures_faultAhead _
        · exact ensures_faultAhead _
      | @object done key hkeys hdone =>
        have hdone : ∀ m ∈ insertMember key v done, m.2.Sound := Sound.insertMember hdone hv
        have hkeys : ((insertMember key v done).map Prod.fst).Nodup := nodup_insertMember hkeys
        refine .then fun c => ?_
        split
        · exact .then fun _ => ih (.object hkeys hdone) hrest
        · refine .then fun _ => .then fun c => ?_
          split
          · exact .then fun k => .pure (List.forall_mem_cons.mpr ⟨.object hkeys hdone, hrest⟩)
          · exact ensures_faultAhead _
          · exact ensures_faultAhead _
          · exact ensures_faultAhead _
        · exact ensures_faultAhead _
        · exact ensures_faultAhead _

theorem ensures_begin (limit : Option Nat) (hstack : ∀ o ∈ stack, o.Sound) :
    Ensures (begin limit stack) SoundSoFar := by
  refine .then fun c => ?_
  split
  · exact ensures_faultAhead _
  · exact .then fun _ => .then fun _ => .pure (.null : Sound _)
  · exact .then fun _ => .then fun _ => .pure (.bool true : Sound _)
  · exact .then fun _ => .then fun _ => .pure (.bool false : Sound _)
  · exact .then fun _ => .then fun s => .pure (.string s : Sound _)
  · exact .then fun _ => (ensures_number false).bind fun n hn => .pure (.number hn : Sound _)
  · refine .then fun _ => .then fun _ => .then fun c => ?_
    split
    · exact .then fun _ => .pure (.array (List.forall_mem_nil _) : Sound _)
    · exact .pure (List.forall_mem_cons.mpr ⟨.array (List.forall_mem_nil _), hstack⟩)
    · exact ensures_faultAhead _
  · refine .then fun _ => .then fun _ => .then fun c => ?_
    split
    · exact .then fun _ => .pure (.object .nil (List.forall_mem_nil _) : Sound (.object []))
    · refine .then fun k => .pure (List.forall_mem_cons.mpr ⟨?_, hstack⟩)
      exact .object .nil (List.forall_mem_nil _)
    · exact ensures_faultAhead _
    · exact ensures_faultAhead _
  · split
    · exact (ensures_number true).bind fun n hn => .pure (.number hn : Sound _)
    · exact ensures_faultAhead _

theorem ensures_values (limit : Option Nat) (fuel : Nat) (hstack : ∀ o ∈ stack, o.Sound) :
    Ensures (values limit fuel stack) Sound := by
  induction fuel generalizing stack with
  | zero => exact ensures_faultAhead _
  | succ fuel ih =>
    rw [values]
    refine (ensures_begin limit hstack).bind fun r hr => ?_
    split
    · exact ih hr
    · refine (ensures_close _ hr hstack).bind fun r hr => ?_
      split
      · exact ih hr
      · exact .pure hr

end Reader

/-- A value that is read is sound. -/
theorem sound_of_parse {limit : Option Nat} {text : String} (h : parse limit text = .ok v) :
    v.Sound := by
  have hwhole : Reader.Ensures (do let v ← Reader.value limit; Reader.finish; pure v) Sound :=
    (Reader.Ensures.then fun _ =>
      Reader.ensures_values limit _ (List.forall_mem_nil _)).bind fun v hv => .then fun _ => .pure hv
  unfold parse Reader.run at h
  split at h
  · rename_i a c hrun
    cases h
    exact hwhole _ _ _ hrun
  · cases h

end

end Playpen.Json
