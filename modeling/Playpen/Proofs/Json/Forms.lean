import Playpen.Proofs.Json.Layout
import Playpen.Proofs.Json.Records
import Mathlib.Data.List.Nodup

/-!
# Records with all their fields

A record of which every field is given has two forms: an object, with the fields
in any order, and an array, which gives them in the order of declaration
(`Form`).  A shape whose fields are read reads both (`Shape.Fielded.reads_form`):
the object as it reads any object, and the array slot by slot, since the slot
that comes next is the one of the key that comes next.  Lists of values are read
in the same way, item by item (`reads_list`).
-/

namespace Playpen.Json

open Reader

/-- A record that gives the fields of these names and no others. -/
inductive Form (names : List String) (Good : String → List Char → Prop) : List Char → Prop
  | object {fields : List (String × List Char)} {text : List Char} (h : IsRecord fields text)
      (hnames : (fields.map Prod.fst).Perm names) (hgood : ∀ f ∈ fields, Good f.1 f.2) :
      Form names Good text
  | array {text : List Char} (h : Enclosed '[' ']' Good names text) : Form names Good text

section

variable {names : List String} {Good : String → List Char → Prop} {text : List Char}

theorem Form.begins (h : Form names Good text) : Begins text := by
  cases h with
  | object h _ _ => exact h.begins
  | array h => exact begins_of_brackets h

/-- A form with all the fields of a record is a record that gives just its names. -/
theorem gives_of_perm {fields : List (String × List Char)} (h : IsRecord fields text)
    (hnames : (fields.map Prod.fst).Perm names) (hgood : ∀ f ∈ fields, Good f.1 f.2) :
    Gives names Good (fields.map Prod.fst) text := by
  have hmem : ∀ key ∈ fields.map Prod.fst, key ∈ names := fun key => hnames.mem_iff.mp
  refine ⟨fields, h, fun f hf => ⟨fun _ => hgood f hf, fun hnot => ?_⟩, ?_⟩
  · exact absurd (hmem f.1 (List.mem_map_of_mem hf)) hnot
  · exact List.filter_eq_self.mpr fun key hkey => decide_eq_true (hmem key hkey)

section

variable {members ms : List (String × Json)}
  (hgood : ∀ m ∈ members, ∀ value, Written m.2 value → Good m.1 value)

include hgood

/-- The object of the members, in any order, is a form with their keys. -/
theorem Written.form (h : Written (.object ms) text) (hperm : ms.Perm members) :
    Form (members.map Prod.fst) Good text := by
  generalize hv : Json.object ms = v at h
  cases h with
  | @object parts _ h hparts =>
    obtain rfl := Json.object.inj hv
    refine .object h ?_ fun f hf => ?_
    · have hkeys := hperm.map Prod.fst
      rw [List.map_map] at hkeys ⊢
      exact hkeys
    · obtain ⟨p, hp, rfl⟩ := List.mem_map.mp hf
      exact hgood (p.1, p.2.1) (hperm.mem_iff.mp (List.mem_map_of_mem hp)) p.2.2 (hparts p hp)
  | _ => cases hv

/-- So is the array of their values. -/
theorem Written.form_of_array (h : Written (.array (members.map Prod.snd)) text) :
    Form (members.map Prod.fst) Good text := by
  refine .array ((h.items hgood).transfer ?_)
  rw [List.forall₂_map_right_iff, List.forall₂_same]
  exact fun _ _ _ => id

end

end

/-! ## Arrays -/

namespace Shape

variable {σ α : Type} {s : Shape σ α} {first : Bool} {state : σ} {slot : Slot σ} {c : Char}
  {cs text before after lead : List Char}

theorem leads_more (hlead : Parting first lead) (hbefore : Blanks before)
    (hblank : isBlank c = false) (hc : c ≠ ']') (cs : List Char) :
    Leads (more first) (lead ++ (before ++ c :: cs)) (pure true) (c :: cs) := by
  cases hlead with
  | brace =>
    refine (leads_peekToken_blanks_cons hbefore hblank cs).bind.trans ?_
    split
    · rename_i heq
      cases heq
    · rename_i heq
      cases heq
      exact absurd rfl hc
    · exact .refl _ _
    · exact .refl _ _
  | comma hblanks =>
    rw [List.append_assoc]
    refine (leads_peekToken_blanks_cons (c := ',') hblanks rfl _).bind.trans ?_
    refine (leads_skip ',' _).bind.trans ?_
    refine (leads_peekToken_blanks_cons hbefore hblank cs).bind.trans ?_
    split
    · rename_i heq
      cases heq
      exact absurd rfl hc
    · exact .refl _ _
    · rename_i heq
      cases heq

theorem leads_more_end (hbefore : Blanks before) (first : Bool) (cs : List Char) :
    Leads (more first) (before ++ ']' :: cs) (pure false) (']' :: cs) :=
  (leads_peekToken_blanks_cons (c := ']') hbefore rfl cs).bind

theorem leads_endArray (hbefore : Blanks before) (cs : List Char) :
    Leads endArray (before ++ ']' :: cs) (pure ()) cs :=
  (leads_peekToken_blanks_cons (c := ']') hbefore rfl cs).bind.trans (leads_skip ']' cs)

/-- A slot is the one that is found under its name. -/
theorem find?_eq_of_nodup (hkeys : s.keys.Nodup) (hslot : slot ∈ s.slots) :
    s.slots.find? (·.name = slot.name) = some slot := by
  obtain ⟨found, hfound⟩ := exists_slot (List.mem_map_of_mem (f := Slot.name) hslot)
  obtain ⟨hmem, hname⟩ := mem_of_find? hfound
  rw [hfound, List.inj_on_of_nodup_map hkeys hmem hslot hname]

/-- With every field given the record is complete. -/
theorem complete_eq (h : ∀ slot ∈ s.slots, slot.filled state = true) :
    s.complete state = .ok (s.finish state) := by
  have hnone : s.slots.find? (fun slot => slot.required && !slot.filled state) = none := by
    rw [List.find?_eq_none]
    intro slot hslot
    rw [h slot hslot, Bool.not_true, Bool.and_false]
    exact Bool.false_ne_true
  rw [complete, hnone]

/-- An array is read by what is behind its bracket. -/
theorem leads_read_array {a : α} {rest : List Char} (hbefore : Blanks before) (hafter : Blanks after)
    (h : Leads (s.readArray s.slots 0 s.start) rest (pure a) (after ++ ']' :: cs)) :
    Leads s.read (before ++ '[' :: rest) (pure a) cs := by
  refine (leads_wanted hbefore rfl rest).bind.trans ?_
  refine (leads_skip '[' rest).bind.trans ?_
  exact (h.enclosed (leads_endArray hafter cs)).placed

namespace Fielded

variable {Holds : List String → σ → Prop} {Good Bad : String → List Char → Prop}
  {done : List String} (hs : s.Fielded Holds Good Bad)
  (hkeys : s.keys.Nodup) (hbegins : ∀ key value, Good key value → Begins value)

include hs hkeys

/-- A slot reads what its key takes. -/
theorem exists_reads_slot (hholds : Holds done state) (hslot : slot ∈ s.slots)
    (hnew : slot.name ∉ done) {value : List Char} (hgood : Good slot.name value) :
    ∃ state', Reads (slot.read state) value state' ∧ Holds (done ++ [slot.name]) state' := by
  obtain ⟨found, state', hfind, hread, hholds'⟩ := hs.takes hholds hnew hgood
  rw [find?_eq_of_nodup hkeys hslot] at hfind
  cases hfind
  exact ⟨state', hread, hholds'⟩

include hbegins

/-- The slots that are left read the items that are left. -/
theorem exists_leads_readArray {slots : List (Slot σ)} (h : Listed Good (slots.map (·.name)) text)
    (hslots : slots ⊆ s.slots) (hholds : Holds done state)
    (hnodup : (done ++ slots.map (·.name)).Nodup) {i : Nat} (hlead : Parting (i = 0) lead) :
    ∃ state' after, Holds (done ++ slots.map (·.name)) state' ∧ Blanks after ∧
      ∀ cs, Leads (s.readArray slots i state) (lead ++ (text ++ ']' :: cs))
        (pure (s.finish state')) (after ++ ']' :: cs) := by
  induction slots generalizing text done state i lead with
  | nil => cases h
  | cons slot slots ih =>
    obtain ⟨hslot, hslots⟩ := List.cons_subset.mp hslots
    have hnew : slot.name ∉ done := fun hdone =>
      (List.nodup_append.mp hnodup).2.2 _ hdone _ List.mem_cons_self rfl
    have hitem : ∀ {value}, Good slot.name value → ∃ state₁, Holds (done ++ [slot.name]) state₁ ∧
        ∀ {before}, Blanks before → ∀ cs, EndsNumber cs →
          Leads (s.readArray (slot :: slots) i state) (lead ++ (before ++ (value ++ cs)))
            (s.readArray slots (i + 1) state₁) cs := by
      intro value hvalue
      obtain ⟨state₁, hread, hholds₁⟩ := hs.exists_reads_slot hkeys hholds hslot hnew hvalue
      obtain ⟨c, rest, rfl, hblank, hc⟩ := hbegins _ _ hvalue
      refine ⟨state₁, hholds₁, fun {before} hbefore cs hends => ?_⟩
      rw [readArray]
      refine (leads_more hlead hbefore hblank hc _).bind.trans ?_
      rw [if_pos rfl]
      exact (hread [] cs Blanks.nil hends).bind
    cases slots with
    | nil =>
      cases h with
      | @last _ before value after hbefore hvalue hafter =>
        obtain ⟨state₁, hholds₁, hread⟩ := hitem hvalue
        refine ⟨state₁, after, hholds₁, hafter, fun cs => ?_⟩
        have hends : EndsNumber (after ++ ']' :: cs) :=
          endsNumber_of_blanks hafter (endsNumber_cons (by decide))
        rw [List.append_assoc, List.append_assoc]
        exact hread hbefore _ hends
      | cons _ _ _ hmore => cases hmore
    | cons next slots =>
      obtain ⟨before, value, after, text', rfl, hbefore, hvalue, hafter, hmore⟩ :=
        exists_more_of_listed h (List.cons_ne_nil _ _)
      obtain ⟨state₁, hholds₁, hread⟩ := hitem hvalue
      rw [List.map_cons, ← List.singleton_append, ← List.append_assoc] at hnodup ⊢
      obtain ⟨state', after', hholds', hafter', hmore'⟩ := ih hmore hslots hholds₁ hnodup
        (i := i + 1) (.comma hafter)
      refine ⟨state', after', hholds', hafter', fun cs => ?_⟩
      have hends : EndsNumber (after ++ [','] ++ (text' ++ ']' :: cs)) := by
        rw [List.append_assoc]
        exact endsNumber_of_blanks hafter (endsNumber_cons (by decide))
      have htext : lead ++ (before ++ (value ++ (after ++ ',' :: text')) ++ ']' :: cs) =
          lead ++ (before ++ (value ++ (after ++ [','] ++ (text' ++ ']' :: cs)))) := by simp
      rw [htext]
      exact (hread hbefore _ hends).trans (hmore' cs)

/-- Both forms of a record are read, as what all the fields come to. -/
theorem reads_form (h : Form s.keys Good text) {a : α}
    (ha : ∀ done state, done.Perm s.keys → Holds done state → s.finish state = a) :
    Reads s.read text a := by
  cases h with
  | @object fields _ h hnames hgood =>
    obtain ⟨state, hholds, hread⟩ :=
      hs.exists_reads (gives_of_perm h hnames hgood) (hnames.nodup_iff.mpr hkeys)
    refine hread a ((complete_eq fun slot hslot => ?_).trans
      (congrArg Except.ok (ha _ state hnames hholds)))
    exact (hs.filled hholds hslot).mpr
      (hnames.mem_iff.mpr (List.mem_map_of_mem (f := Slot.name) hslot))
  | array h =>
    intro before cs hbefore _
    generalize hnames : s.keys = names at h
    cases h with
    | @empty blanks hblanks =>
      have hslots : s.slots = [] := List.map_eq_nil_iff.mp hnames
      have hfinish : s.finish s.start = a := ha [] s.start (hnames ▸ .nil) hs.start
      rw [List.cons_append, List.append_assoc]
      refine leads_read_array hbefore hblanks ?_
      rw [hslots, readArray, hfinish]
      exact .refl _ _
    | @filled _ text h =>
      subst hnames
      obtain ⟨state, after, hholds, hafter, hread⟩ := hs.exists_leads_readArray hkeys hbegins h
        (List.Subset.refl _) hs.start hkeys (i := 0) .brace
      rw [List.cons_append, List.append_assoc, ← ha _ state (.refl _) hholds]
      exact leads_read_array hbefore hafter (hread cs)

end Fielded

end Shape

/-! ## Lists and names -/

section

variable {α : Type} {text : List Char}

/-- The item has a text of which it is read. -/
def IsItem [Decodable α] (a : α) (piece : List Char) : Prop :=
  Begins piece ∧ Reads (Decodable.read : Reader α) piece a

theorem Listed.length_le {one : α → List Char → Prop} {as : List α} (h : Listed one as text)
    (hone : ∀ a piece, one a piece → piece ≠ []) : as.length ≤ text.length := by
  induction h with
  | last _ h _ =>
    have := List.length_pos_iff.mpr (hone _ _ h)
    simp only [List.length_append, List.length_cons, List.length_nil]
    omega
  | cons _ h _ _ ih =>
    have := List.length_pos_iff.mpr (hone _ _ h)
    simp only [List.length_append, List.length_cons]
    omega

/-- The items that are left are read. -/
theorem leads_items [Decodable α] {as : List α} (h : Listed IsItem as text) {first : Bool}
    {lead : List Char} (hlead : Shape.Parting first lead) {fuel : Nat} (hfuel : as.length ≤ fuel)
    (acc : List α) (cs : List Char) :
    Leads (items (fuel + 1) first acc) (lead ++ (text ++ ']' :: cs))
      (pure (acc.reverse ++ as)) (']' :: cs) := by
  have hitem : ∀ {a : α} {before piece first lead acc cs}, IsItem a piece → Blanks before →
      Shape.Parting first lead → EndsNumber cs → ∀ fuel,
      Leads (items (fuel + 1) first acc) (lead ++ (before ++ (piece ++ cs)))
        (items fuel false (a :: acc)) cs := by
    rintro a before _ first lead acc cs ⟨⟨c, rest, rfl, hblank, hc⟩, hread⟩ hbefore hlead hends fuel
    rw [items]
    refine (Shape.leads_more hlead hbefore hblank hc _).bind.trans ?_
    rw [if_pos rfl]
    exact (hread [] cs Blanks.nil hends).bind
  induction h generalizing first lead fuel acc with
  | @last a before piece after hbefore hpiece hafter =>
    obtain ⟨fuel, rfl⟩ := Nat.exists_eq_add_of_le' hfuel
    have hends : EndsNumber (after ++ ']' :: cs) :=
      endsNumber_of_blanks hafter (endsNumber_cons (by decide))
    have hend : Leads (items (fuel + 1) false (a :: acc)) (after ++ ']' :: cs)
        (pure (a :: acc).reverse) (']' :: cs) := by
      rw [items]
      exact (Shape.leads_more_end hafter false cs).bind
    rw [List.reverse_cons] at hend
    rw [List.append_assoc, List.append_assoc]
    exact (hitem hpiece hbefore hlead hends _).trans hend
  | @cons a as before piece after text hbefore hpiece hafter hmore ih =>
    obtain ⟨fuel, rfl⟩ := Nat.exists_eq_add_of_le' (Nat.le_trans (Nat.le_add_left 1 _) hfuel)
    have hends : EndsNumber (after ++ [','] ++ (text ++ ']' :: cs)) := by
      rw [List.append_assoc]
      exact endsNumber_of_blanks hafter (endsNumber_cons (by decide))
    have hrest := ih (.comma hafter) (Nat.le_of_succ_le_succ hfuel) (a :: acc)
    rw [List.reverse_cons, List.append_assoc acc.reverse] at hrest
    have htext : lead ++ (before ++ (piece ++ (after ++ ',' :: text)) ++ ']' :: cs) =
        lead ++ (before ++ (piece ++ (after ++ [','] ++ (text ++ ']' :: cs)))) := by simp
    rw [htext]
    exact (hitem hpiece hbefore hlead hends _).trans hrest

/-- A list is read item by item. -/
theorem reads_list [Decodable α] {as : List α} (h : Enclosed '[' ']' IsItem as text) :
    Reads (Reader.list : Reader (List α)) text as := by
  intro before cs hbefore _
  have hopen : ∀ {rest : List Char},
      Leads (items (rest.length + 1) true ([] : List α)) rest (pure as) (']' :: cs) →
      Leads Reader.list (before ++ '[' :: rest) (pure as) cs := by
    intro rest h
    have hbody : Leads (do items ((← remaining) + 1) true ([] : List α)) rest (pure as)
        (']' :: cs) := (leads_remaining rest).bind.trans h
    refine (leads_wanted hbefore rfl rest).bind.trans ?_
    refine (leads_skip '[' rest).bind.trans ?_
    exact (hbody.enclosed (Shape.leads_endArray Blanks.nil cs)).placed
  cases h with
  | @empty blanks hblanks =>
    rw [List.cons_append, List.append_assoc]
    refine hopen ?_
    rw [items]
    exact (Shape.leads_more_end hblanks true cs).bind
  | @filled _ text h =>
    rw [List.cons_append, List.append_assoc]
    refine hopen ?_
    have hlength := h.length_le fun a piece hpiece hnil => by
      obtain ⟨⟨c, rest, hcons, -, -⟩, -⟩ := hpiece
      rw [hnil] at hcons
      cases hcons
    refine leads_items h .brace ?_ [] cs
    simp only [List.length_append, List.length_cons]
    omega

/-- A name is read as what it names. -/
theorem reads_variant {ofName : String → Option α} {names : List String} {s : String} {a : α}
    (h : Literal s text) (hs : ofName s = some a) : Reads (Reader.variant ofName names) text a := by
  have hread := reads_string h
  cases h with
  | @intro text h =>
    intro before cs hbefore hends
    refine (leads_wanted hbefore rfl _).bind.trans ?_
    refine Leads.placed ((hread [] cs Blanks.nil hends).bind.trans ?_)
    dsimp only
    rw [hs]
    exact .refl _ _

end

end Playpen.Json
