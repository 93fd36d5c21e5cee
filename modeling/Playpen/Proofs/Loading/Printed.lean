import Playpen.Proofs.Display.Margin
import Playpen.Proofs.Naming.Addresses
import Playpen.Proofs.Naming.Binding
import Playpen.Proofs.Registry.Admission
import Mathlib.Data.List.ReduceOption

/-!
# Warnings, line by line

The name and the version of a dependency are written without blanks, so the
beginning of a warning tells which dependency it is about, and no warning about
one dependency looks like that of another or like a refusal.  What comes behind
is a message, which may be any text: it can go on over several lines, and one
of these may look like a warning of its own.  `countP_lines_unbound` counts the
lines with both taken into account.
-/

namespace Playpen

open Dependency (Askable Refuses Listing bindingIdentifier)
open Display (OneLine lines oneLine_append)

/-! ## Texts without blanks -/

/-- Where the first word ends is the same in a text and in what it begins. -/
theorem prefix_of_solid {x y x' y' : List Char} (hx : ' ' ∉ x) (hx' : ' ' ∉ x')
    (h : x ++ ' ' :: y <+: x' ++ ' ' :: y') : x = x' ∧ y <+: y' := by
  induction x generalizing x' with
  | nil =>
    cases x' with
    | nil => exact ⟨rfl, (List.cons_prefix_cons.mp h).2⟩
    | cons c x' =>
      obtain ⟨rfl, -⟩ := List.cons_prefix_cons.mp h
      exact absurd List.mem_cons_self hx'
  | cons c x ih =>
    obtain ⟨hc, hx⟩ := List.ne_and_not_mem_of_not_mem_cons hx
    cases x' with
    | nil => exact absurd (List.cons_prefix_cons.mp h).1.symm hc
    | cons c' x' =>
      obtain ⟨rfl, hrest⟩ := List.cons_prefix_cons.mp h
      obtain ⟨rfl, hy⟩ := ih hx (List.not_mem_of_not_mem_cons hx') hrest
      exact ⟨rfl, hy⟩

namespace Dependency

variable {d d' : Dependency}

/-- What a spec that can be read says of a dependency: no blanks, and no `@` in
the version. -/
structure Solid (d : Dependency) : Prop where
  name : ∀ c ∈ d.name.toList, Text.isWhiteSpace c = false
  version : ∀ c ∈ d.version.toList, Text.isWhiteSpace c = false
  at_not_mem : '@' ∉ d.version.toList

theorem solid_of_parseSpec {spec : String} (h : parseSpec spec = .ok d) : d.Solid := by
  obtain ⟨⟨hdivides, haskable⟩, -⟩ := exists_asks_of_ok (trims_iff.mpr rfl) h
  exact ⟨haskable.name_solid, haskable.version_solid, hdivides.not_mem⟩

/-- No text without blanks has a character that is one. -/
theorem not_mem_of_solid {cs : List Char} {c : Char} (h : ∀ c ∈ cs, Text.isWhiteSpace c = false)
    (hc : Text.isWhiteSpace c = true) : c ∉ cs := by
  intro hmem
  rw [h c hmem] at hc
  cases hc

theorem Solid.not_mem_label {c : Char} (h : d.Solid) (hc : Text.isWhiteSpace c = true) :
    c ∉ d.label := by
  rw [label, List.mem_append, List.mem_cons]
  rintro (hname | rfl | hversion)
  · exact not_mem_of_solid h.name hc hname
  · exact absurd hc (by decide)
  · exact not_mem_of_solid h.version hc hversion

theorem Solid.oneLine_name (h : d.Solid) : OneLine d.name := not_mem_of_solid h.name (by decide)

/-- Identifiers have no line feed, whatever characters the name has. -/
theorem oneLine_bindingIdentifier (name : String) : OneLine (bindingIdentifier name) := by
  have hgoes : Text.goesOn '\n' = false := by decide
  have hnone : ∀ d : Char, Text.goesOn d = true ∨ High d → d ≠ '\n' := by
    rintro d hd rfl
    rcases hd with hd | hd
    · rw [hgoes] at hd
      cases hd
    · exact absurd hd.1 (by decide)
  have hcamel : '\n' ∉ camelCase false false (unscoped name.toList) := by
    rcases camelCase_start false (unscoped name.toList) with ⟨-, hcamel⟩ | ⟨c, rest, hkept, hcamel⟩
    · rw [hcamel]
      exact List.not_mem_nil
    · have hc : isNameChar c = true := by
        have hmem : c ∈ (unscoped name.toList).filter isNameChar := hkept ▸ List.mem_cons_self
        exact (List.mem_filter.mp hmem).2
      rw [hcamel]
      rintro (_ | ⟨_, hmem⟩)
      · exact hnone _ (isNameChar_goesOn_or hc) rfl
      · exact hnone _ (camelCase_goesOn_or false rest _ hmem) rfl
  rw [OneLine, bindingIdentifier, String.toList_ofList]
  split
  · rintro (_ | ⟨_, hmem⟩)
    exact hcamel hmem
  · exact hcamel

end Dependency

namespace Terminal

/-! ## The pieces that are printed -/

/-- A warning but for the end of its line. -/
def warned (text : String) : String := paint .yellow "Warning:" ++ " " ++ text

/-- What is said about the loads, if there are any, but for the end of its line. -/
def announced (ds : List Dependency) : List String :=
  if ds.isEmpty then [] else [paint .dim s!"Loading {ds.length} dependencies..."]

/-- What begins the warning about a dependency that is listed and not bound. -/
def unboundHead (d : Dependency) : String :=
  warned (d.name ++ "@" ++ d.version ++ " is listed but not bound: ")

/-- The message of a load that failed. -/
def message? (l : Listing) : Option String :=
  match l.status with
  | .failed message => some message
  | .loading | .loaded => none

/-- The warning about a listing, if there is one, but for the end of its line. -/
def unbound? (l : Listing) : Option String := (message? l).map (unboundHead l.dependency ++ ·)

/-- The lines on which messages go on. -/
def continued (ls : List Listing) : List String :=
  (ls.filterMap message?).flatMap fun message => (lines message).tail

/-- Whether a line begins like the warning about `d`. -/
def speaksOf (d : Dependency) (l : String) : Bool := (unboundHead d).toList.isPrefixOf l.toList

theorem unbound_eq (l : Listing) : unbound l = ((unbound? l).map line).getD "" := by
  unfold unbound unbound? message?
  cases l.status with
  | failed message =>
    show warning (l.dependency.name ++ "@" ++ l.dependency.version ++
      " is listed but not bound: " ++ message) = line (unboundHead l.dependency ++ message)
    simp [warning, unboundHead, warned, String.append_assoc]
  | loading => rfl
  | loaded => rfl

/-- Nothing is printed for what is absent. -/
theorem join_reduceOption (texts : List (Option String)) :
    String.join (texts.map fun t => (t.map line).getD "") =
      String.join (texts.reduceOption.map line) := by
  induction texts with
  | nil => rfl
  | cons t texts ih =>
    rw [List.map_cons, String.join_cons, ih]
    cases t with
    | none => exact String.empty_append
    | some t => rw [List.reduceOption_cons_of_some, List.map_cons, String.join_cons]; rfl

theorem unboundAll_eq (ls : List Listing) :
    unboundAll ls = String.join ((ls.filterMap unbound?).map line) := by
  have hpieces : ls.map unbound = (ls.map unbound?).map fun t => (t.map line).getD "" := by
    rw [List.map_map]
    exact List.map_congr_left fun l _ => unbound_eq l
  rw [unboundAll, hpieces, join_reduceOption, List.reduceOption, List.filterMap_map]
  rfl

/-! ## Which dependency a line is about -/

variable {d d' : Dependency}

theorem toList_unboundHead (d : Dependency) : (unboundHead d).toList =
    (paint .yellow "Warning:" ++ " ").toList ++
      (d.label ++ ' ' :: "is listed but not bound: ".toList) := by
  simp [unboundHead, warned, Dependency.label]

theorem speaksOf_warned (d : Dependency) (text : String) : speaksOf d (warned text) = true ↔
    d.label ++ ' ' :: "is listed but not bound: ".toList <+: text.toList := by
  have hwarned : (warned text).toList = (paint .yellow "Warning:" ++ " ").toList ++ text.toList :=
    String.toList_append
  rw [speaksOf, List.isPrefixOf_iff_prefix, toList_unboundHead, hwarned,
    List.prefix_append_right_inj]

theorem oneLine_unboundHead (h : d.Solid) : OneLine (unboundHead d) := by
  have hlabel := h.not_mem_label (c := '\n') (by decide)
  have hfront : '\n' ∉ (paint .yellow "Warning:" ++ " ").toList := by decide
  have hback : '\n' ∉ "is listed but not bound: ".toList := by decide
  rw [OneLine, toList_unboundHead]
  simp only [List.mem_append, List.mem_cons, not_or]
  exact ⟨hfront, hlabel, by decide, hback⟩

/-- A warning is about the one dependency whose name and version it begins with. -/
theorem speaksOf_unbound (h : d.Solid) (h' : d'.Solid) (text : String) :
    speaksOf d (unboundHead d' ++ text) = true ↔ d.name = d'.name ∧ d.version = d'.version := by
  have hwarned : unboundHead d' ++ text =
      warned (d'.name ++ "@" ++ d'.version ++ " is listed but not bound: " ++ text) := by
    simp [unboundHead, warned, String.append_assoc]
  have hlabel : (d'.name ++ "@" ++ d'.version ++ " is listed but not bound: " ++ text).toList =
      d'.label ++ ' ' :: ("is listed but not bound: ".toList ++ text.toList) := by
    simp [Dependency.label]
  rw [hwarned, speaksOf_warned, hlabel]
  constructor
  · intro hprefix
    obtain ⟨hsame, -⟩ := prefix_of_solid (h.not_mem_label (by decide))
      (h'.not_mem_label (by decide)) hprefix
    exact Dependency.label_inj h.at_not_mem h'.at_not_mem hsame
  · rintro ⟨hname, hversion⟩
    rw [Dependency.label, Dependency.label, hname, hversion, List.prefix_append_right_inj]
    exact List.cons_prefix_cons.mpr ⟨rfl, List.prefix_append _ _⟩

theorem join_announced (ds : List Dependency) : String.join ((announced ds).map line) =
    if ds.isEmpty then "" else loading ds.length := by
  cases ds <;> rfl

theorem oneLine_of_mem_announced {ds : List Dependency} {t : String} (h : t ∈ announced ds) :
    OneLine t := by
  have hcount : OneLine (toString ds.length) := Decimal.oneLine_natText ds.length
  cases ds with
  | nil => cases h
  | cons d ds =>
    rw [List.mem_singleton.mp h]
    exact oneLine_paint .dim (oneLine_append (oneLine_append (by decide) hcount) (by decide))

/-- Warnings about listings begin in a colour. -/
theorem exists_unboundHead (d : Dependency) :
    ∃ rest, (unboundHead d).toList = '\x1b' :: '[' :: '3' :: rest := by
  rw [toList_unboundHead]
  exact ⟨_, rfl⟩

/-- What is announced is in another style. -/
theorem not_speaksOf_announced (d : Dependency) {ds : List Dependency} {t : String}
    (h : t ∈ announced ds) : speaksOf d t = false := by
  cases ds with
  | nil => cases h
  | cons d' ds =>
    obtain ⟨rest, hhead⟩ := exists_unboundHead d
    rw [List.mem_singleton.mp h, speaksOf, hhead, paint, String.append_assoc, String.toList_append]
    rfl

theorem not_speaksOf_empty (d : Dependency) : speaksOf d "" = false := by
  obtain ⟨rest, hhead⟩ := exists_unboundHead d
  rw [speaksOf, hhead]
  rfl

/-- Texts of one line are their own lines. -/
theorem flatMap_lines {texts : List String} (h : ∀ t ∈ texts, OneLine t) :
    texts.flatMap lines = texts := by
  rw [List.flatMap_congr fun t ht => Display.lines_of_oneLine (h t ht), List.flatMap_singleton']

/-! ## Refusals -/

section

variable {names : List String} {e : Dependency.Error}

/-- A refusal names the refused dependency, without blanks, and goes on otherwise
than a warning about a listing. -/
theorem exists_refusal_message (h : Refuses names d e) : ∃ rest,
    e.message.toList = ('\'' :: d.name.toList ++ ['\'']) ++ ' ' :: rest ∧
      ¬ "is listed but not bound: ".toList <+: rest := by
  cases h with
  | reserved hname =>
    refine ⟨"is reserved and cannot be used as a dependency name".toList, ?_, by decide⟩
    show ("'" ++ d.name ++ "' is reserved and cannot be used as a dependency name").toList = _
    simp
  | @taken listed hlisted hne hsame =>
    refine ⟨"would be bound as '".toList ++ (bindingIdentifier d.name ++ "', which '" ++ listed ++
      "' already uses").toList, ?_, ?_⟩
    · show ("'" ++ d.name ++ "' would be bound as '" ++ bindingIdentifier d.name ++ "', which '" ++
        listed ++ "' already uses").toList = _
      simp
    · intro hprefix
      exact absurd (List.cons_prefix_cons.mp hprefix).1 (by decide)

theorem oneLine_refusal (hnames : ∀ name ∈ names, OneLine name) (hd : OneLine d.name)
    (h : Refuses names d e) : OneLine (warned e.message) := by
  have hfront : OneLine (paint .yellow "Warning:" ++ " ") := by decide
  refine oneLine_append hfront ?_
  have happ {s t : String} (hs : OneLine s) (ht : OneLine t) : OneLine (s ++ t) :=
    oneLine_append hs ht
  cases h with
  | reserved hname =>
    show OneLine ("'" ++ d.name ++ "' is reserved and cannot be used as a dependency name")
    exact happ (happ (by decide) hd) (by decide)
  | @taken listed hlisted hne hsame =>
    show OneLine ("'" ++ d.name ++ "' would be bound as '" ++ bindingIdentifier d.name ++
      "', which '" ++ listed ++ "' already uses")
    exact happ (happ (happ (happ (happ (happ (by decide) hd) (by decide))
      (Dependency.oneLine_bindingIdentifier _)) (by decide)) (hnames _ hlisted)) (by decide)

/-- No refusal looks like a warning about a listing. -/
theorem not_speaksOf_refusal (hd : d.Solid) (hd' : d'.Solid) (h : Refuses names d' e) :
    speaksOf d (warned e.message) = false := by
  obtain ⟨rest, hmessage, hother⟩ := exists_refusal_message h
  rw [Bool.eq_false_iff, ne_eq, speaksOf_warned, hmessage]
  intro hprefix
  have hquoted : ' ' ∉ '\'' :: d'.name.toList ++ ['\''] := by
    have hname := Dependency.not_mem_of_solid hd'.name (c := ' ') (by decide)
    simp [hname]
  exact hother (prefix_of_solid (hd.not_mem_label (by decide)) hquoted hprefix).2

end

/-! ## Counting -/

theorem lines_unbound (h : d.Solid) (message : String) : ∃ first,
    lines (unboundHead d ++ message) = (unboundHead d ++ first) :: (lines message).tail := by
  obtain ⟨first, rest, hlines, hbefore⟩ := Display.exists_lines message
  exact ⟨first, by rw [hbefore _ (oneLine_unboundHead h), hlines, List.tail_cons]⟩

/-- The lines about `d` are its own warning, and those inside of messages that
look like one. -/
theorem countP_lines_unbound (hd : d.Solid) {ls : List Listing}
    (hall : ∀ l ∈ ls, l.dependency.Solid) :
    ((ls.filterMap unbound?).flatMap lines).countP (speaksOf d) =
      ls.countP (fun l => (message? l).isSome ∧ d.name = l.dependency.name ∧
        d.version = l.dependency.version) + (continued ls).countP (speaksOf d) := by
  induction ls with
  | nil => rfl
  | cons l ls ih =>
    obtain ⟨hl, hls⟩ := List.forall_mem_cons.mp hall
    unfold continued at ih ⊢
    cases hmessage : message? l with
    | none =>
      rw [List.filterMap_cons_none (by rw [unbound?, hmessage]; rfl),
        List.filterMap_cons_none hmessage, List.countP_cons_of_neg (by simp [hmessage]), ih hls]
    | some message =>
      obtain ⟨first, hlines⟩ := lines_unbound hl message
      rw [List.filterMap_cons_some (by rw [unbound?, hmessage]; rfl),
        List.filterMap_cons_some hmessage, List.flatMap_cons, List.flatMap_cons, hlines,
        List.countP_append, List.countP_append, List.countP_cons, List.countP_cons, ih hls]
      simp only [hmessage, speaksOf_unbound hd hl, Option.isSome_some, true_and,
        decide_eq_true_eq]
      omega

/-- Where names are listed once, a listing has one warning or none. -/
theorem countP_listings {l : Listing} {ls : List Listing}
    (hnames : (ls.map (·.dependency.name)).Nodup) (hl : l ∈ ls) :
    ls.countP (fun l' => (message? l').isSome ∧ l.dependency.name = l'.dependency.name ∧
        l.dependency.version = l'.dependency.version) =
      if (message? l).isSome then 1 else 0 := by
  induction ls with
  | nil => cases hl
  | cons l₀ ls ih =>
    rw [List.map_cons, List.nodup_cons] at hnames
    obtain ⟨hfirst, hnames⟩ := hnames
    rcases List.mem_cons.mp hl with rfl | hl
    · have hrest : ls.countP (fun l' => (message? l').isSome ∧
          l.dependency.name = l'.dependency.name ∧
            l.dependency.version = l'.dependency.version) = 0 := by
        rw [List.countP_eq_zero]
        intro l' hl' hsame
        exact hfirst ((of_decide_eq_true hsame).2.1 ▸ List.mem_map_of_mem hl')
      rw [List.countP_cons, hrest, Nat.zero_add]
      simp
    · have hother : l.dependency.name ≠ l₀.dependency.name := fun hsame =>
        hfirst (hsame ▸ List.mem_map_of_mem hl)
      rw [List.countP_cons_of_neg (by simp [hother]), ih hnames hl]

end Terminal

end Playpen
