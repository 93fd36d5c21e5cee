import Playpen.Proofs.Json.Reading
import Mathlib.Data.List.Forall2

/-!
# The layouts of a value

A value has many texts: blanks stand wherever they may, and strings are spelled
in any way.  `Written` says so of all of them at once.  Both layouts in which
values are written here are among them, the one without blanks
(`written_compact`) and the one over several lines (`written_prettyAt`): each is
a first part and rows of further ones (`rows`), and they differ in what stands
before a row.
-/

namespace Playpen.Json

open Reader

/-- The text is a form of the value. -/
inductive Written : Json → List Char → Prop
  | null : Written .null ['n', 'u', 'l', 'l']
  | trueWord : Written (.bool true) ['t', 'r', 'u', 'e']
  | falseWord : Written (.bool false) ['f', 'a', 'l', 's', 'e']
  | number (n : Number) : Written (.number n) n.text.toList
  | string {s : String} {text : List Char} (h : Literal s text) : Written (.string s) text
  | array {parts : List (Json × List Char)} {text : List Char}
      (h : Enclosed '[' ']' Eq (parts.map Prod.snd) text)
      (hparts : ∀ p ∈ parts, Written p.1 p.2) : Written (.array (parts.map Prod.fst)) text
  | object {parts : List (String × Json × List Char)} {text : List Char}
      (h : IsRecord (parts.map fun p => (p.1, p.2.2)) text)
      (hparts : ∀ p ∈ parts, Written p.2.1 p.2.2) :
      Written (.object (parts.map fun p => (p.1, p.2.1))) text

/-- The text begins as a value does: with neither a blank nor the end of an array. -/
def Begins (text : List Char) : Prop :=
  ∃ c rest, text = c :: rest ∧ isBlank c = false ∧ c ≠ ']'

theorem Literal.begins {s : String} {text : List Char} (h : Literal s text) : Begins text := by
  cases h with
  | intro _ => exact ⟨'"', _, rfl, rfl, by decide⟩

theorem IsRecord.begins {fields : List (String × List Char)} {text : List Char}
    (h : IsRecord fields text) : Begins text := by
  cases h with
  | empty _ => exact ⟨'\x7b', _, rfl, rfl, by decide⟩
  | filled _ => exact ⟨'\x7b', _, rfl, rfl, by decide⟩

theorem begins_of_brackets {α : Type} {one : α → List Char → Prop} {as : List α}
    {text : List Char} (h : Enclosed '[' ']' one as text) : Begins text := by
  cases h with
  | empty _ => exact ⟨'[', _, rfl, rfl, by decide⟩
  | filled _ => exact ⟨'[', _, rfl, rfl, by decide⟩

section

variable {α β : Type} {left right : Char} {one : α → List Char → Prop}
  {one' : β → List Char → Prop} {as : List α} {bs : List β} {text : List Char}

/-- The same parts, taken for something else. -/
theorem Listed.transfer (h : Listed one as text)
    (hparts : List.Forall₂ (fun a b => ∀ piece, one a piece → one' b piece) as bs) :
    Listed one' bs text := by
  induction h generalizing bs with
  | last hbefore hpiece hafter =>
    obtain ⟨b, bs, hb, hbs, rfl⟩ := List.forall₂_cons_left_iff.mp hparts
    rw [List.forall₂_nil_left_iff.mp hbs]
    exact .last hbefore (hb _ hpiece) hafter
  | cons hbefore hpiece hafter _ ih =>
    obtain ⟨b, bs, hb, hbs, rfl⟩ := List.forall₂_cons_left_iff.mp hparts
    exact .cons hbefore (hb _ hpiece) hafter (ih hbs)

theorem Enclosed.transfer (h : Enclosed left right one as text)
    (hparts : List.Forall₂ (fun a b => ∀ piece, one a piece → one' b piece) as bs) :
    Enclosed left right one' bs text := by
  cases h with
  | empty h =>
    rw [List.forall₂_nil_left_iff.mp hparts]
    exact .empty h
  | filled h => exact .filled (h.transfer hparts)

/-- The items of an array that is written. -/
theorem Written.items {f : α → Json} (h : Written (.array (as.map f)) text)
    (hone : ∀ a ∈ as, ∀ piece, Written (f a) piece → one a piece) : Enclosed '[' ']' one as text := by
  generalize hv : Json.array (as.map f) = v at h
  cases h with
  | @array parts _ h hparts =>
    refine h.transfer ?_
    have hvalues := Json.array.inj hv
    clear h hv
    induction parts generalizing as with
    | nil =>
      rw [List.map_eq_nil_iff.mp hvalues]
      exact .nil
    | cons p parts ih =>
      obtain ⟨a, as, rfl, ha, has⟩ := List.map_eq_cons_iff.mp hvalues
      obtain ⟨hone₁, hone₂⟩ := List.forall_mem_cons.mp hone
      obtain ⟨hp, hparts⟩ := List.forall_mem_cons.mp hparts
      refine .cons ?_ (ih hone₂ hparts has)
      rintro _ rfl
      exact hone₁ _ (ha ▸ hp)
  | _ => cases hv

end

/-- What holds of a value when it holds of its parts. -/
@[elab_as_elim] theorem induct {motive : Json → Prop} (null : motive .null)
    (bool : ∀ b, motive (.bool b)) (number : ∀ n, motive (.number n))
    (string : ∀ s, motive (.string s))
    (array : ∀ items, (∀ item ∈ items, motive item) → motive (.array items))
    (object : ∀ members, (∀ m ∈ members, motive m.2) → motive (.object members)) (v : Json) :
    motive v :=
  @Json.rec motive (fun items => ∀ item ∈ items, motive item)
    (fun members => ∀ m ∈ members, motive m.2) (fun m => motive m.2)
    null bool number string array object
    (fun _ h => nomatch h) (fun _ _ hitem hitems => List.forall_mem_cons.mpr ⟨hitem, hitems⟩)
    (fun _ h => nomatch h) (fun _ _ hm hmembers => List.forall_mem_cons.mpr ⟨hm, hmembers⟩)
    (fun _ _ hv => hv) v

/-! ## Rows -/

/-- The parts after the first one, each behind a comma and what leads it in. -/
def rows (lead : List Char) (pieces : List (List Char)) : List Char :=
  pieces.flatMap fun piece => ',' :: (lead ++ piece)

section

variable {α : Type} {one : α → List Char → Prop} {piece : α → List Char} {lead after : List Char}

theorem rows_cons (lead piece : List Char) (pieces : List (List Char)) :
    rows lead (piece :: pieces) = ',' :: (lead ++ (piece ++ rows lead pieces)) := by
  rw [rows, List.flatMap_cons, List.cons_append, List.append_assoc]
  rfl

/-- A first part and rows of further ones are a list of parts. -/
theorem listed_rows (hlead : Blanks lead) (hafter : Blanks after) {a : α} {as : List α}
    (h : ∀ b ∈ a :: as, one b (piece b)) :
    Listed one (a :: as) (lead ++ (piece a ++ (rows lead (as.map piece) ++ after))) := by
  induction as generalizing a with
  | nil => exact .last hlead (h a List.mem_cons_self) hafter
  | cons b as ih =>
    obtain ⟨ha, has⟩ := List.forall_mem_cons.mp h
    have hrest := ih has
    rw [List.map_cons, rows_cons, List.cons_append, List.append_assoc, List.append_assoc]
    exact Listed.cons hlead ha Blanks.nil hrest

theorem enclosed_rows {left right : Char} (hlead : Blanks lead) (hafter : Blanks after) {a : α}
    {as : List α} (h : ∀ b ∈ a :: as, one b (piece b)) :
    Enclosed left right one (a :: as)
      (left :: (lead ++ (piece a ++ (rows lead (as.map piece) ++ (after ++ [right]))))) := by
  have hlisted : Enclosed left right one (a :: as) _ := .filled (listed_rows hlead hafter h)
  simpa only [List.append_assoc] using hlisted

end

/-- The text of a member: its key, a colon and its value, with `gap` before it. -/
def memberText (gap : List Char) (field : String × List Char) : List Char :=
  (quote field.1).toList ++ ':' :: (gap ++ field.2)

theorem toList_quote (s : String) :
    (quote s).toList = '"' :: (s.toList.flatMap escapeChar ++ ['"']) := by
  rw [quote, String.toList_ofList]
  rfl

theorem literal_quote (s : String) : Literal s (quote s).toList := by
  rw [toList_quote]
  exact .intro (spelled_escaped s.toList)

theorem isField_memberText {gap : List Char} (hgap : Blanks gap) (field : String × List Char) :
    IsField field (memberText gap field) :=
  ⟨_, literal_quote field.1, Entry.intro Blanks.nil hgap⟩

section

variable {lead after gap : List Char} (hlead : Blanks lead) (hafter : Blanks after)
  {text : Json → List Char}

include hlead hafter

/-- An array whose items have texts of their own. -/
theorem written_items {item : Json} {items : List Json}
    (h : ∀ v ∈ item :: items, Written v (text v)) :
    Written (.array (item :: items))
      ('[' :: (lead ++ (text item ++ (rows lead (items.map text) ++ (after ++ [']']))))) := by
  have hwritten := @Written.array ((item :: items).map fun v => (v, text v))
    ('[' :: (lead ++ (text item ++ (rows lead (items.map text) ++ (after ++ [']'])))))
  rw [List.map_map, List.map_map, Function.comp_def, Function.comp_def, List.map_id',
    List.map_cons] at hwritten
  refine hwritten ?_ ?_
  · have hrows : Enclosed '[' ']' Eq (text item :: items.map text) _ :=
      enclosed_rows hlead hafter fun piece _ => (rfl : piece = id piece)
    rwa [List.map_id'] at hrows
  · intro p hp
    obtain ⟨v, hv, rfl⟩ := List.mem_map.mp hp
    exact h v hv

/-- An object whose members have texts of their own. -/
theorem written_members (hgap : Blanks gap) {m : String × Json} {members : List (String × Json)}
    (h : ∀ n ∈ m :: members, Written n.2 (text n.2)) :
    Written (.object (m :: members))
      ('\x7b' :: (lead ++ (memberText gap (m.1, text m.2) ++
        (rows lead (members.map fun n => memberText gap (n.1, text n.2)) ++
          (after ++ ['\x7d']))))) := by
  have hwritten := @Written.object ((m :: members).map fun n => (n.1, n.2, text n.2))
    ('\x7b' :: (lead ++ (memberText gap (m.1, text m.2) ++
      (rows lead (members.map fun n => memberText gap (n.1, text n.2)) ++ (after ++ ['\x7d'])))))
  rw [List.map_map, List.map_map, Function.comp_def, Function.comp_def, List.map_id',
    List.map_cons] at hwritten
  refine hwritten ?_ ?_
  · have hrows : Enclosed '\x7b' '\x7d' IsField
        ((m.1, text m.2) :: members.map fun n => (n.1, text n.2)) _ :=
      enclosed_rows hlead hafter fun field _ => isField_memberText hgap field
    rwa [List.map_map, Function.comp_def] at hrows
  · intro p hp
    obtain ⟨n, hn, rfl⟩ := List.mem_map.mp hp
    exact h n hn

end

/-! ## The layouts that are written -/

theorem toList_compactMoreItems (items : List Json) :
    (compactMoreItems items).toList = rows [] (items.map fun v => v.compact.toList) := by
  induction items with
  | nil => rfl
  | cons item items ih =>
    rw [compactMoreItems, String.toList_append, String.toList_append, ih, List.map_cons, rows_cons]
    simp

theorem toList_compactMoreMembers (members : List (String × Json)) :
    (compactMoreMembers members).toList =
      rows [] (members.map fun m => memberText [] (m.1, m.2.compact.toList)) := by
  induction members with
  | nil => rfl
  | cons m members ih =>
    rw [compactMoreMembers, String.toList_append, ih, List.map_cons, rows_cons, memberText]
    simp

theorem toList_prettyItems (level : Nat) (items : List Json) :
    (prettyItems level items).toList =
      rows (newline level).toList (items.map fun v => (prettyAt level v).toList) := by
  induction items with
  | nil => rfl
  | cons item items ih =>
    rw [prettyItems, String.toList_append, ih, List.map_cons, rows_cons]
    simp

theorem toList_prettyMembers (level : Nat) (members : List (String × Json)) :
    (prettyMembers level members).toList =
      rows (newline level).toList
        (members.map fun m => memberText [' '] (m.1, (prettyAt level m.2).toList)) := by
  induction members with
  | nil => rfl
  | cons m members ih =>
    rw [prettyMembers, String.toList_append, ih, List.map_cons, rows_cons, memberText]
    simp

theorem written_bool (b : Bool) : Written (.bool b) (compact (.bool b)).toList := by
  cases b with
  | true => exact .trueWord
  | false => exact .falseWord

theorem written_compact (v : Json) : Written v v.compact.toList := by
  induction v using induct with
  | null => exact .null
  | bool b => exact written_bool b
  | number n => exact .number n
  | string s => exact .string (literal_quote s)
  | array items ih =>
    cases items with
    | nil => exact @Written.array [] _ (.empty Blanks.nil) fun _ h => nomatch h
    | cons item items =>
      have h := written_items Blanks.nil Blanks.nil ih
      rw [compact, compactItems]
      simpa [toList_compactMoreItems] using h
  | object members ih =>
    cases members with
    | nil => exact @Written.object [] _ (.empty Blanks.nil) fun _ h => nomatch h
    | cons m members =>
      have h := @written_members [] [] [] Blanks.nil Blanks.nil (fun v => v.compact.toList)
        Blanks.nil m members ih
      rw [compact, compactMembers]
      simpa [toList_compactMoreMembers, memberText] using h

theorem blanks_newline (level : Nat) : Blanks (newline level).toList := by
  rw [newline, String.toList_append, Text.toList_pushn]
  intro c hc
  rcases List.mem_append.mp hc with hc | hc
  · rw [List.mem_singleton.mp hc]
    rfl
  · rw [List.eq_of_mem_replicate hc]
    rfl

theorem written_prettyAt (v : Json) (level : Nat) : Written v (prettyAt level v).toList := by
  induction v using induct generalizing level with
  | null => exact written_compact .null
  | bool b => exact written_compact (.bool b)
  | number n => exact written_compact (.number n)
  | string s => exact written_compact (.string s)
  | array items ih =>
    cases items with
    | nil => exact written_compact (.array [])
    | cons item items =>
      have h := written_items (blanks_newline (level + 1)) (blanks_newline level)
        fun v hv => ih v hv (level + 1)
      rw [prettyAt]
      simpa [toList_prettyItems] using h
  | object members ih =>
    cases members with
    | nil => exact written_compact (.object [])
    | cons m members =>
      have hgap : Blanks [' '] := List.forall_mem_singleton.mpr rfl
      have h := @written_members _ _ _ (blanks_newline (level + 1)) (blanks_newline level)
        (fun v => (prettyAt (level + 1) v).toList) hgap m members
        fun n hn => ih n hn (level + 1)
      rw [prettyAt]
      simpa [toList_prettyMembers, memberText] using h

end Playpen.Json
