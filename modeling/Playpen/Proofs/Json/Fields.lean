import Playpen.Proofs.Json.Reading

/-!
# The fields of a record

Facts about the grammar of records alone.  Any fields make a record
(`exists_isRecord`), and any choice of names one that gives just these
(`exists_gives`).  Where not every field can be read, one is the first that
cannot (`exists_first_fault`); so a record that gives a name twice repeats it
behind fields that can be read (`repeats_of_not_nodup`).
-/

namespace Playpen.Json

open Reader

variable {names done : List String} {field : String × List Char} {text : List Char}

/-! ## Weaker demands -/

theorem Gives.imp {Good Good' : String → List Char → Prop} {keys : List String}
    (h : Gives names Good keys text) (himp : ∀ key value, Good key value → Good' key value) :
    Gives names Good' keys text := by
  obtain ⟨fields, hrecord, hfits, hgiven⟩ := h
  exact ⟨fields, hrecord, fun f hf => ⟨fun hmem => himp _ _ ((hfits f hf).1 hmem), (hfits f hf).2⟩,
    hgiven⟩

/-- Only the keys that are given count. -/
theorem Gives.mem {Good : String → List Char → Prop} {keys : List String}
    (h : Gives names Good keys text) :
    Gives names (fun key value => key ∈ keys ∧ Good key value) keys text := by
  obtain ⟨fields, hrecord, hfits, rfl⟩ := h
  refine ⟨fields, hrecord, fun f hf => ⟨fun hmem => ⟨?_, (hfits f hf).1 hmem⟩, (hfits f hf).2⟩, rfl⟩
  exact List.mem_filter.mpr ⟨List.mem_map_of_mem hf, decide_eq_true hmem⟩

/-! ## The keys that are given -/

theorem exists_of_mem_given {key : String} {fields : List (String × List Char)}
    (h : key ∈ given names fields) : ∃ field ∈ fields, field.1 = key ∧ key ∈ names := by
  obtain ⟨hkey, hmem⟩ := List.mem_filter.mp h
  obtain ⟨field, hfield, rfl⟩ := List.mem_map.mp hkey
  exact ⟨field, hfield, rfl, of_decide_eq_true hmem⟩

theorem given_cons (field : String × List Char) (fields : List (String × List Char)) :
    given names (field :: fields) = given names [field] ++ given names fields := by
  unfold given
  rw [← List.filter_append, ← List.map_append]
  rfl

theorem given_of_mem (h : field.1 ∈ names) : given names [field] = [field.1] :=
  List.filter_cons_of_pos (by simpa using h)

theorem given_of_not_mem (h : field.1 ∉ names) : given names [field] = [] :=
  List.filter_cons_of_neg (by simpa using h)

theorem not_mem_of_nodup {fields : List (String × List Char)}
    (h : (done ++ given names (field :: fields)).Nodup) (hmem : field.1 ∈ names) :
    field.1 ∉ done := by
  rw [given_cons, given_of_mem hmem] at h
  exact fun hdone => (List.nodup_append.mp h).2.2 _ hdone _ List.mem_cons_self rfl

theorem nodup_append_given (hdone : done.Nodup) (hnew : field.1 ∈ names → field.1 ∉ done) :
    (done ++ given names [field]).Nodup := by
  by_cases hmem : field.1 ∈ names
  · rw [given_of_mem hmem, List.nodup_append]
    refine ⟨hdone, List.nodup_cons.mpr ⟨List.not_mem_nil, List.nodup_nil⟩, ?_⟩
    intro key hkey other hother
    rw [List.mem_singleton.mp hother]
    exact fun heq => hnew hmem (heq ▸ hkey)
  · rwa [given_of_not_mem hmem, List.append_nil]

/-! ## Repeats -/

/-- Of fields that are not all read there is a first one that is not: it repeats
an earlier one, or its text is at fault. -/
theorem exists_first_fault {Good Bad : String → List Char → Prop}
    {fields : List (String × List Char)} (hdone : done.Nodup)
    (hfits : ∀ f ∈ fields, Fits names (fun key value => Good key value ∨ Bad key value) f)
    (hfault : (done ++ given names fields).Nodup →
      ∃ f ∈ fields, f.1 ∈ names ∧ Bad f.1 f.2) :
    ∃ earlier field later, fields = earlier ++ field :: later ∧
      (∀ f ∈ earlier, Fits names Good f) ∧ field.1 ∈ names ∧
      (field.1 ∈ done ++ given names earlier ∨ Bad field.1 field.2) := by
  induction fields generalizing done with
  | nil =>
    obtain ⟨f, hf, -⟩ := hfault (by rwa [show given names [] = [] from rfl, List.append_nil])
    cases hf
  | cons f fields ih =>
    obtain ⟨hfit, hfits⟩ := List.forall_mem_cons.mp hfits
    by_cases hbad : f.1 ∈ names ∧ (f.1 ∈ done ∨ Bad f.1 f.2)
    · refine ⟨[], f, fields, rfl, fun _ h => (nomatch h), hbad.1, ?_⟩
      rw [show given names [] = [] from rfl, List.append_nil]
      exact hbad.2
    · have hnew : f.1 ∈ names → f.1 ∉ done := fun hmem h => hbad ⟨hmem, .inl h⟩
      have hgood : Fits names Good f :=
        ⟨fun hmem => (hfit.1 hmem).resolve_right fun h => hbad ⟨hmem, .inr h⟩, hfit.2⟩
      rw [given_cons, ← List.append_assoc] at hfault
      have hrest : (done ++ given names [f] ++ given names fields).Nodup →
          ∃ other ∈ fields, other.1 ∈ names ∧ Bad other.1 other.2 := by
        intro hnodup
        obtain ⟨other, hother, hmem, h⟩ := hfault hnodup
        rcases List.mem_cons.mp hother with rfl | hother
        · exact absurd ⟨hmem, .inr h⟩ hbad
        · exact ⟨other, hother, hmem, h⟩
      obtain ⟨earlier, field, later, rfl, hearlier, hmem, h⟩ :=
        ih (nodup_append_given hdone hnew) hfits hrest
      refine ⟨f :: earlier, field, later, rfl, List.forall_mem_cons.mpr ⟨hgood, hearlier⟩, hmem,
        ?_⟩
      rwa [given_cons, ← List.append_assoc]

theorem repeats_of_not_nodup {Good : String → List Char → Prop} {keys : List String}
    (h : Gives names Good keys text) (hkeys : ¬ keys.Nodup) : Repeats names Good text := by
  obtain ⟨fields, hrecord, hfits, rfl⟩ := h
  have hnone : ∀ f ∈ fields, Fits names (fun key value => Good key value ∨ False) f :=
    fun f hf => ⟨fun hmem => .inl ((hfits f hf).1 hmem), (hfits f hf).2⟩
  obtain ⟨earlier, field, later, rfl, hearlier, -, hfield⟩ :=
    exists_first_fault List.nodup_nil hnone fun hnodup => absurd hnodup hkeys
  exact ⟨earlier, field, later, hrecord, hearlier, hfield.resolve_right id⟩

/-! ## Texts of fields -/

theorem exists_head_of_listed {α : Type} {one : α → List Char → Prop} {a : α} {as : List α}
    (h : Listed one (a :: as) text) :
    ∃ before piece rest, text = before ++ (piece ++ rest) ∧ Blanks before ∧ one a piece ∧
      ∀ cs, EndsNumber cs → EndsNumber (rest ++ cs) := by
  cases h with
  | last hbefore hpiece hafter =>
    exact ⟨_, _, _, rfl, hbefore, hpiece, fun cs => endsNumber_of_blanks hafter⟩
  | @cons _ _ before piece after text hbefore hpiece hafter _ =>
    refine ⟨_, _, _, rfl, hbefore, hpiece, fun cs _ => ?_⟩
    rw [List.append_assoc]
    exact endsNumber_of_blanks hafter (endsNumber_cons (by decide))

theorem exists_more_of_listed {α : Type} {one : α → List Char → Prop} {a : α} {as : List α}
    (h : Listed one (a :: as) text) (has : as ≠ []) :
    ∃ before piece after text', text = before ++ (piece ++ (after ++ ',' :: text')) ∧
      Blanks before ∧ one a piece ∧ Blanks after ∧ Listed one as text' := by
  cases h with
  | last _ _ _ => exact absurd rfl has
  | cons hbefore hpiece hafter hmore => exact ⟨_, _, _, _, rfl, hbefore, hpiece, hafter, hmore⟩

/-- Every text may stand in a record under every key. -/
theorem exists_isRecord (fields : List (String × List Char)) : ∃ text, IsRecord fields text := by
  have hpiece : ∀ field : String × List Char, ∃ piece, IsField field piece := fun field =>
    ⟨_, _, ⟨spelled_escaped field.1.toList⟩, .intro Blanks.nil Blanks.nil⟩
  have hlisted : ∀ (field : String × List Char) (fields : List (String × List Char)),
      ∃ text, Listed IsField (field :: fields) text := by
    intro field fields
    induction fields generalizing field with
    | nil =>
      obtain ⟨piece, h⟩ := hpiece field
      exact ⟨_, .last Blanks.nil h Blanks.nil⟩
    | cons next fields ih =>
      obtain ⟨piece, h⟩ := hpiece field
      obtain ⟨text, hmore⟩ := ih next
      exact ⟨_, .cons Blanks.nil h Blanks.nil hmore⟩
  cases fields with
  | nil => exact ⟨_, .empty Blanks.nil⟩
  | cons field fields =>
    obtain ⟨text, h⟩ := hlisted field fields
    exact ⟨_, .filled h⟩

/-- Whatever names are chosen, there is a record that gives just these. -/
theorem exists_gives {Good : String → List Char → Prop} {keys : List String} (hkeys : keys ⊆ names)
    (hgood : ∀ key ∈ names, ∃ value, Good key value) : ∃ text, Gives names Good keys text := by
  have hfields : ∃ fields : List (String × List Char), fields.map Prod.fst = keys ∧
      ∀ field ∈ fields, Good field.1 field.2 := by
    induction keys with
    | nil => exact ⟨[], rfl, fun _ h => nomatch h⟩
    | cons key keys ih =>
      obtain ⟨hkey, hkeys⟩ := List.cons_subset.mp hkeys
      obtain ⟨value, hvalue⟩ := hgood key hkey
      obtain ⟨fields, rfl, hfields⟩ := ih hkeys
      exact ⟨(key, value) :: fields, rfl, List.forall_mem_cons.mpr ⟨hvalue, hfields⟩⟩
  obtain ⟨fields, rfl, hfields⟩ := hfields
  obtain ⟨text, htext⟩ := exists_isRecord fields
  refine ⟨text, fields, htext, fun field hfield => ⟨fun _ => hfields field hfield, fun h => ?_⟩, ?_⟩
  · exact absurd (hkeys (List.mem_map_of_mem hfield)) h
  · exact List.filter_eq_self.mpr fun key hkey => decide_eq_true (hkeys hkey)

theorem length_le_of_listed {fields : List (String × List Char)} (h : Listed IsField fields text) :
    fields.length ≤ text.length := by
  have hpiece : ∀ {field : String × List Char} {piece : List Char}, IsField field piece →
      1 ≤ piece.length := by
    rintro field piece ⟨key, -, ⟨_, _⟩⟩
    simp only [List.length_append, List.length_cons]
    omega
  induction h with
  | last _ h _ =>
    have := hpiece h
    simp only [List.length_append, List.length_cons, List.length_nil]
    omega
  | cons _ h _ _ ih =>
    have := hpiece h
    simp only [List.length_append, List.length_cons]
    omega

end Playpen.Json
