import Playpen.Config
import Playpen.Proofs.Json.Records

/-!
# Partial configuration files

A file gives some of the fields of a configuration, in an order of its own, and
may hold anything else beside them, on each of its levels.  What it comes to is
the standard configuration with these fields over it (`overlay`), and a field
that is given twice is refused (`ofFile_overlay`).

What a file may say is laid down first, with the names of the fields and the
texts of their values, and without the shapes by which files are read.  A shape
is then shown to keep, from key to key, the draft that the keys so far come to
(`drafted`).  Where a field is given twice the fields before it may come from
several configurations, so there the shape is followed by no more than which
slots are filled.
-/

namespace Playpen

open Json (Blanks Literal IsRecord Fits Gives Repeats given Reads Refuses reads_slot refuses_slot
  repeats_of_not_nodup exists_of_mem_given exists_first_fault)

/-! ## What a file may say -/

namespace Limits

/-- The numbers are numbers of the machine. -/
structure InRange (l : Limits) : Prop where
  recursion : l.recursionLimit < 2 ^ 64
  stack : l.stackSizeLimit < 2 ^ 64
  loops : ∀ n, l.loopIterationLimit = some n → n < 2 ^ 64

def names : List String := ["recursion_limit", "stack_size_limit", "loop_iteration_limit"]

/-- The text that a field of the limits has under its key. -/
inductive Field (l : Limits) : String → List Char → Prop
  | recursion : Field l "recursion_limit" (Nat.toDigits 10 l.recursionLimit)
  | stack : Field l "stack_size_limit" (Nat.toDigits 10 l.stackSizeLimit)
  | endless (h : l.loopIterationLimit = none) : Field l "loop_iteration_limit" ['n', 'u', 'l', 'l']
  | loops {n : Nat} (h : l.loopIterationLimit = some n) :
      Field l "loop_iteration_limit" (Nat.toDigits 10 n)

/-- A text that a field of some limits has under the key. -/
def SomeField (key : String) (text : List Char) : Prop :=
  ∃ l : Limits, l.InRange ∧ l.Field key text

/-- The standard limits with those of `l` under the keys. -/
def overlay (l : Limits) (keys : List String) : Limits where
  recursionLimit :=
    if "recursion_limit" ∈ keys then l.recursionLimit else standard.recursionLimit
  stackSizeLimit :=
    if "stack_size_limit" ∈ keys then l.stackSizeLimit else standard.stackSizeLimit
  loopIterationLimit :=
    if "loop_iteration_limit" ∈ keys then l.loopIterationLimit else standard.loopIterationLimit

end Limits

namespace Dialect

def names : List String := ["jsx"]

/-- The text that the field of a dialect has under its key. -/
inductive Field (d : Dialect) : String → List Char → Prop
  | on (h : d.jsx = true) : Field d "jsx" ['t', 'r', 'u', 'e']
  | off (h : d.jsx = false) : Field d "jsx" ['f', 'a', 'l', 's', 'e']

/-- A text that the field of some dialect has under the key. -/
def SomeField (key : String) (text : List Char) : Prop := ∃ d : Dialect, d.Field key text

/-- The standard dialect with the field of `d` if its key is among the keys. -/
def overlay (d : Dialect) (keys : List String) : Dialect where
  jsx := if "jsx" ∈ keys then d.jsx else standard.jsx

end Dialect

namespace Config

/-- The numbers are numbers of the machine. -/
structure InRange (c : Config) : Prop where
  fetchTimeout : c.fetchTimeout < 2 ^ 64
  maxModules : c.maxModules < 2 ^ 64
  limits : c.limits.InRange

def names : List String :=
  ["cdn_base", "fetch_timeout_secs", "max_modules_per_dependency", "limits", "transpiler"]

/-- The texts that a field of the configuration has under its key, where the
records within give their fields under `limitKeys` and `dialectKeys`. -/
inductive Field (c : Config) (limitKeys dialectKeys : List String) : String → List Char → Prop
  | cdnBase {text : List Char} (h : Literal c.cdnBase text) :
      Field c limitKeys dialectKeys "cdn_base" text
  | fetchTimeout :
      Field c limitKeys dialectKeys "fetch_timeout_secs" (Nat.toDigits 10 c.fetchTimeout)
  | maxModules :
      Field c limitKeys dialectKeys "max_modules_per_dependency" (Nat.toDigits 10 c.maxModules)
  | limits {text : List Char} (h : Gives Limits.names c.limits.Field limitKeys text) :
      Field c limitKeys dialectKeys "limits" text
  | dialect {text : List Char} (h : Gives Dialect.names c.dialect.Field dialectKeys text) :
      Field c limitKeys dialectKeys "transpiler" text

/-- A text that a field of some configuration has under the key. -/
def SomeField (key : String) (text : List Char) : Prop :=
  ∃ (c : Config) (limitKeys dialectKeys : List String), c.InRange ∧ limitKeys.Nodup ∧
    dialectKeys.Nodup ∧ c.Field limitKeys dialectKeys key text

/-- The text of a record under the key gives a field of that record twice. -/
inductive RepeatsWithin : String → List Char → Prop
  | limits {text : List Char} (h : Repeats Limits.names Limits.SomeField text) :
      RepeatsWithin "limits" text
  | dialect {text : List Char} (h : Repeats Dialect.names Dialect.SomeField text) :
      RepeatsWithin "transpiler" text

/-- The text of a configuration gives a field twice, its own or one of a record
within.  What comes behind it does not matter. -/
inductive GivesTwice (text : List Char) : Prop
  | here (h : Repeats names SomeField text)
  | within {earlier later : List (String × List Char)} {field : String × List Char}
      (h : IsRecord (earlier ++ field :: later) text)
      (hfits : ∀ f ∈ earlier, Fits names SomeField f) (hfield : RepeatsWithin field.1 field.2)

/-- No key is given twice; the keys of a record count only where there is one. -/
structure Once (keys limitKeys dialectKeys : List String) : Prop where
  top : keys.Nodup
  limits : "limits" ∈ keys → limitKeys.Nodup
  dialect : "transpiler" ∈ keys → dialectKeys.Nodup

/-- The standard configuration with the fields of `c` under the keys, and in the
records within likewise. -/
def overlay (c : Config) (keys limitKeys dialectKeys : List String) : Config where
  cdnBase := if "cdn_base" ∈ keys then c.cdnBase else standard.cdnBase
  fetchTimeout := if "fetch_timeout_secs" ∈ keys then c.fetchTimeout else standard.fetchTimeout
  maxModules :=
    if "max_modules_per_dependency" ∈ keys then c.maxModules else standard.maxModules
  limits := if "limits" ∈ keys then c.limits.overlay limitKeys else standard.limits
  dialect := if "transpiler" ∈ keys then c.dialect.overlay dialectKeys else standard.dialect

end Config

/-! ## Drafts -/

/-- What is known under a key once the keys have been given. -/
def known {α : Type} (keys : List String) (key : String) (a : α) : Option α :=
  if key ∈ keys then some a else none

section

variable {α β : Type} {keys : List String} {key other : String} {a : α}

theorem isSome_known : (known keys key a).isSome = true ↔ key ∈ keys := by
  simp [known]

@[simp] theorem known_concat_self : known (keys ++ [key]) key a = some a :=
  if_pos (List.mem_append_right keys List.mem_cons_self)

@[simp] theorem known_concat_of_ne (h : key ≠ other) :
    known (keys ++ [other]) key a = known keys key a := by
  simp [known, h]

theorem elim_known (b : β) (f : α → β) :
    (known keys key a).elim b f = if key ∈ keys then f a else b := by
  unfold known
  split
  · rfl
  · rfl

theorem getD_known (b : α) : (known keys key a).getD b = if key ∈ keys then a else b := by
  unfold known
  split
  · rfl
  · rfl

end

namespace Limits

variable {l : Limits} {keys : List String} {text : List Char}

/-- What is known of the limits once the keys have been given. -/
def drafted (l : Limits) (keys : List String) : Draft where
  recursion := known keys "recursion_limit" ⟨l.recursionLimit⟩
  stack := known keys "stack_size_limit" ⟨l.stackSizeLimit⟩
  loops := known keys "loop_iteration_limit" (l.loopIterationLimit.map (⟨·⟩))

theorem finish_drafted (l : Limits) (keys : List String) :
    shape.finish (l.drafted keys) = l.overlay keys := by
  simp [drafted, shape, overlay, elim_known, Function.comp_def]

theorem fielded (hl : l.InRange) :
    shape.Fielded (fun keys draft => draft = l.drafted keys) l.Field fun _ _ => False where
  start := rfl
  filled := by
    rintro done state slot rfl hslot
    simp only [shape, List.mem_cons, List.not_mem_nil, or_false] at hslot
    rcases hslot with rfl | rfl | rfl
    all_goals exact isSome_known
  takes := by
    rintro done state key value rfl hnew hfield
    cases hfield with
    | recursion =>
      exact ⟨_, _, rfl, reads_slot (Json.reads_word hl.recursion) _, by simp [drafted]⟩
    | stack =>
      exact ⟨_, _, rfl, reads_slot (Json.reads_word hl.stack) _, by simp [drafted]⟩
    | endless h =>
      exact ⟨_, _, rfl, reads_slot Json.reads_none _, by simp [drafted, h]⟩
    | loops h =>
      exact ⟨_, _, rfl, reads_slot (Json.reads_some_word (hl.loops _ h)) _, by simp [drafted, h]⟩
  bars h := nomatch h

/-- Limits of which no field is given twice are read. -/
theorem reads (hl : l.InRange) (h : Gives names l.Field keys text) (hkeys : keys.Nodup) :
    Reads (Json.Decodable.read : Json.Reader Limits) text (l.overlay keys) := by
  obtain ⟨state, rfl, hread⟩ := (fielded hl).exists_reads h hkeys
  exact hread _ (congrArg Except.ok (finish_drafted l keys))

theorem tracks_iff {draft : Draft} : shape.Tracks keys draft ↔
    (draft.recursion.isSome = true ↔ "recursion_limit" ∈ keys) ∧
    (draft.stack.isSome = true ↔ "stack_size_limit" ∈ keys) ∧
    (draft.loops.isSome = true ↔ "loop_iteration_limit" ∈ keys) := by
  simp [Json.Shape.Tracks, shape, Json.Slot.of]

theorem fielded_some : shape.Fielded shape.Tracks SomeField fun _ _ => False where
  start := tracks_iff.mpr (by simp [shape])
  filled htracks hslot := htracks _ hslot
  takes := by
    rintro done state key value htracks hnew ⟨l, hl, hfield⟩
    cases hfield with
    | recursion =>
      exact ⟨_, _, rfl, reads_slot (Json.reads_word hl.recursion) state, by simp_all [tracks_iff]⟩
    | stack =>
      exact ⟨_, _, rfl, reads_slot (Json.reads_word hl.stack) state, by simp_all [tracks_iff]⟩
    | endless _ =>
      exact ⟨_, _, rfl, reads_slot Json.reads_none state, by simp_all [tracks_iff]⟩
    | loops h =>
      exact ⟨_, _, rfl, reads_slot (Json.reads_some_word (hl.loops _ h)) state,
        by simp_all [tracks_iff]⟩
  bars h := nomatch h

end Limits

namespace Dialect

variable {d : Dialect} {keys : List String} {text : List Char}

theorem fielded (d : Dialect) :
    shape.Fielded (fun keys draft => draft = known keys "jsx" d.jsx) d.Field fun _ _ => False where
  start := rfl
  filled := by
    rintro done state slot rfl hslot
    rw [List.mem_singleton.mp hslot]
    exact isSome_known
  takes := by
    rintro done state key value rfl hnew hfield
    cases hfield with
    | on h =>
      exact ⟨_, _, rfl, reads_slot Json.reads_true _, by rw [known_concat_self, h]⟩
    | off h =>
      exact ⟨_, _, rfl, reads_slot Json.reads_false _, by rw [known_concat_self, h]⟩
  bars h := nomatch h

/-- A dialect whose field is not given twice is read. -/
theorem reads (h : Gives names d.Field keys text) (hkeys : keys.Nodup) :
    Reads (Json.Decodable.read : Json.Reader Dialect) text (d.overlay keys) := by
  obtain ⟨state, rfl, hread⟩ := (fielded d).exists_reads h hkeys
  exact hread _ (congrArg (Except.ok ∘ Dialect.mk) (getD_known standard.jsx))

theorem tracks_iff {draft : Option Bool} :
    shape.Tracks keys draft ↔ (draft.isSome = true ↔ "jsx" ∈ keys) := by
  simp [Json.Shape.Tracks, shape, Json.Slot.of]

theorem fielded_some : shape.Fielded shape.Tracks SomeField fun _ _ => False where
  start := tracks_iff.mpr (by simp [shape])
  filled htracks hslot := htracks _ hslot
  takes := by
    rintro done state key value htracks hnew ⟨d, hfield⟩
    cases hfield with
    | on _ =>
      exact ⟨_, _, rfl, reads_slot Json.reads_true state, by simp_all [tracks_iff]⟩
    | off _ =>
      exact ⟨_, _, rfl, reads_slot Json.reads_false state, by simp_all [tracks_iff]⟩
  bars h := nomatch h

end Dialect

namespace Config

variable {c : Config} {keys limitKeys dialectKeys : List String} {key : String}
  {text : List Char}

/-- What is known of the configuration once the keys have been given. -/
def drafted (c : Config) (limitKeys dialectKeys keys : List String) : Draft where
  cdnBase := known keys "cdn_base" c.cdnBase
  fetchTimeout := known keys "fetch_timeout_secs" ⟨c.fetchTimeout⟩
  maxModules := known keys "max_modules_per_dependency" ⟨c.maxModules⟩
  limits := known keys "limits" (c.limits.overlay limitKeys)
  dialect := known keys "transpiler" (c.dialect.overlay dialectKeys)

theorem finish_drafted (c : Config) (limitKeys dialectKeys keys : List String) :
    shape.finish (c.drafted limitKeys dialectKeys keys) =
      c.overlay keys limitKeys dialectKeys := by
  unfold drafted shape overlay
  simp only [elim_known, getD_known]

theorem fielded (hc : c.InRange) (honce : Once keys limitKeys dialectKeys) :
    shape.Fielded (fun done draft => draft = c.drafted limitKeys dialectKeys done)
      (fun key text => key ∈ keys ∧ c.Field limitKeys dialectKeys key text)
      fun _ _ => False where
  start := rfl
  filled := by
    rintro done state slot rfl hslot
    simp only [shape, List.mem_cons, List.not_mem_nil, or_false] at hslot
    rcases hslot with rfl | rfl | rfl | rfl | rfl
    all_goals exact isSome_known
  takes := by
    rintro done state key value rfl hnew ⟨hmem, hfield⟩
    cases hfield with
    | cdnBase h =>
      exact ⟨_, _, rfl, reads_slot (Json.reads_string h) _, by simp [drafted]⟩
    | fetchTimeout =>
      exact ⟨_, _, rfl, reads_slot (Json.reads_word hc.fetchTimeout) _, by simp [drafted]⟩
    | maxModules =>
      exact ⟨_, _, rfl, reads_slot (Json.reads_word hc.maxModules) _, by simp [drafted]⟩
    | limits h =>
      have hread := Limits.reads hc.limits h (honce.limits hmem)
      exact ⟨_, _, rfl, reads_slot hread _, by simp [drafted]⟩
    | dialect h =>
      have hread := Dialect.reads h (honce.dialect hmem)
      exact ⟨_, _, rfl, reads_slot hread _, by simp [drafted]⟩
  bars h := nomatch h

/-- A configuration of which no field is given twice is read. -/
theorem reads (hc : c.InRange) (honce : Once keys limitKeys dialectKeys)
    (h : Gives names (c.Field limitKeys dialectKeys) keys text) :
    Reads (Json.Decodable.read : Json.Reader Config) text
      (c.overlay keys limitKeys dialectKeys) := by
  obtain ⟨state, rfl, hread⟩ := (fielded hc honce).exists_reads h.mem honce.top
  exact hread _ (congrArg Except.ok (finish_drafted c limitKeys dialectKeys keys))

theorem tracks_iff {draft : Draft} : shape.Tracks keys draft ↔
    (draft.cdnBase.isSome = true ↔ "cdn_base" ∈ keys) ∧
    (draft.fetchTimeout.isSome = true ↔ "fetch_timeout_secs" ∈ keys) ∧
    (draft.maxModules.isSome = true ↔ "max_modules_per_dependency" ∈ keys) ∧
    (draft.limits.isSome = true ↔ "limits" ∈ keys) ∧
    (draft.dialect.isSome = true ↔ "transpiler" ∈ keys) := by
  simp [Json.Shape.Tracks, shape, Json.Slot.of]

theorem fielded_some : shape.Fielded shape.Tracks SomeField RepeatsWithin where
  start := tracks_iff.mpr (by simp [shape])
  filled htracks hslot := htracks _ hslot
  takes := by
    rintro done state key value htracks hnew ⟨c, _, _, hc, hlimits, hdialect, hfield⟩
    cases hfield with
    | cdnBase h =>
      exact ⟨_, _, rfl, reads_slot (Json.reads_string h) state, by simp_all [tracks_iff]⟩
    | fetchTimeout =>
      exact ⟨_, _, rfl, reads_slot (Json.reads_word hc.fetchTimeout) state,
        by simp_all [tracks_iff]⟩
    | maxModules =>
      exact ⟨_, _, rfl, reads_slot (Json.reads_word hc.maxModules) state,
        by simp_all [tracks_iff]⟩
    | limits h =>
      exact ⟨_, _, rfl, reads_slot (Limits.reads hc.limits h hlimits) state,
        by simp_all [tracks_iff]⟩
    | dialect h =>
      exact ⟨_, _, rfl, reads_slot (Dialect.reads h hdialect) state, by simp_all [tracks_iff]⟩
  bars := by
    rintro key value hrepeats
    cases hrepeats with
    | limits h => exact ⟨_, rfl, refuses_slot (Limits.fielded_some.refuses_of_repeats h)⟩
    | dialect h => exact ⟨_, rfl, refuses_slot (Dialect.fielded_some.refuses_of_repeats h)⟩

/-- A configuration in which a field is given twice, on some level, is refused. -/
theorem GivesTwice.refuses (h : GivesTwice text) :
    Refuses (Json.Decodable.read : Json.Reader Config) text := by
  cases h with
  | here h => exact fielded_some.refuses_of_repeats h
  | within h hfits hfield =>
    have hmem : ∀ {key value}, RepeatsWithin key value → key ∈ names := by
      rintro key value (_ | _)
      all_goals decide
    exact fielded_some.refuses h hfits (hmem hfield) (.inr hfield)

/-! ## Fields given twice -/

theorem Field.limits_of_key (h : c.Field limitKeys dialectKeys key text)
    (hkey : key = "limits") : Gives Limits.names c.limits.Field limitKeys text := by
  cases h with
  | limits h => exact h
  | cdnBase _ => exact absurd hkey (by decide)
  | fetchTimeout => exact absurd hkey (by decide)
  | maxModules => exact absurd hkey (by decide)
  | dialect _ => exact absurd hkey (by decide)

theorem Field.dialect_of_key (h : c.Field limitKeys dialectKeys key text)
    (hkey : key = "transpiler") : Gives Dialect.names c.dialect.Field dialectKeys text := by
  cases h with
  | dialect h => exact h
  | cdnBase _ => exact absurd hkey (by decide)
  | fetchTimeout => exact absurd hkey (by decide)
  | maxModules => exact absurd hkey (by decide)
  | limits _ => exact absurd hkey (by decide)

theorem Field.repeatsWithin (h : c.Field limitKeys dialectKeys key text) (hc : c.InRange) :
    key = "limits" ∧ ¬ limitKeys.Nodup ∨ key = "transpiler" ∧ ¬ dialectKeys.Nodup →
      RepeatsWithin key text := by
  rintro (⟨rfl, hkeys⟩ | ⟨rfl, hkeys⟩)
  · have hsome : Gives Limits.names Limits.SomeField limitKeys text :=
      (h.limits_of_key rfl).imp fun _ _ hfield => ⟨c.limits, hc.limits, hfield⟩
    exact .limits (repeats_of_not_nodup hsome hkeys)
  · have hsome : Gives Dialect.names Dialect.SomeField dialectKeys text :=
      (h.dialect_of_key rfl).imp fun _ _ hfield => ⟨c.dialect, hfield⟩
    exact .dialect (repeats_of_not_nodup hsome hkeys)

/-- A text of a field is one that can be read, or a key is repeated in it. -/
theorem Field.someField_or (h : c.Field limitKeys dialectKeys key text) (hc : c.InRange) :
    SomeField key text ∨ RepeatsWithin key text := by
  by_cases hrepeats : key = "limits" ∧ ¬ limitKeys.Nodup ∨ key = "transpiler" ∧ ¬ dialectKeys.Nodup
  · exact .inr (h.repeatsWithin hc hrepeats)
  · left
    cases h with
    | cdnBase h => exact ⟨c, [], [], hc, List.nodup_nil, List.nodup_nil, .cdnBase h⟩
    | fetchTimeout => exact ⟨c, [], [], hc, List.nodup_nil, List.nodup_nil, .fetchTimeout⟩
    | maxModules => exact ⟨c, [], [], hc, List.nodup_nil, List.nodup_nil, .maxModules⟩
    | limits h =>
      have hkeys : limitKeys.Nodup := Classical.byContradiction fun h => hrepeats (.inl ⟨rfl, h⟩)
      exact ⟨c, limitKeys, [], hc, hkeys, List.nodup_nil, .limits h⟩
    | dialect h =>
      have hkeys : dialectKeys.Nodup := Classical.byContradiction fun h => hrepeats (.inr ⟨rfl, h⟩)
      exact ⟨c, [], dialectKeys, hc, List.nodup_nil, hkeys, .dialect h⟩

/-- What gives fields of one configuration, and not each once, gives a field
twice. -/
theorem givesTwice_of_not_once (hc : c.InRange)
    (h : Gives names (c.Field limitKeys dialectKeys) keys text)
    (hkeys : ¬ Once keys limitKeys dialectKeys) : GivesTwice text := by
  obtain ⟨fields, hrecord, hfits, rfl⟩ := h
  have hfault : (given names fields).Nodup →
      ∃ f ∈ fields, f.1 ∈ names ∧ RepeatsWithin f.1 f.2 := by
    intro hnodup
    have hwithin : ∃ key ∈ given names fields,
        key = "limits" ∧ ¬ limitKeys.Nodup ∨ key = "transpiler" ∧ ¬ dialectKeys.Nodup := by
      by_contra hnone
      refine hkeys ⟨hnodup, fun hmem => ?_, fun hmem => ?_⟩
      · exact Classical.byContradiction fun h => hnone ⟨_, hmem, .inl ⟨rfl, h⟩⟩
      · exact Classical.byContradiction fun h => hnone ⟨_, hmem, .inr ⟨rfl, h⟩⟩
    obtain ⟨key, hkey, hrepeats⟩ := hwithin
    obtain ⟨field, hfield, rfl, hmem⟩ := exists_of_mem_given hkey
    exact ⟨field, hfield, hmem, ((hfits field hfield).1 hmem).repeatsWithin hc hrepeats⟩
  obtain ⟨earlier, field, later, rfl, hearlier, -, hfield⟩ := exists_first_fault List.nodup_nil
    (fun f hf => ⟨fun hmem => ((hfits f hf).1 hmem).someField_or hc, (hfits f hf).2⟩) hfault
  rcases hfield with hgiven | hwithin
  · exact .here ⟨earlier, field, later, hrecord, hearlier, hgiven⟩
  · exact .within hrecord hearlier hwithin

/-! ## Files -/

/-- Every field has a text. -/
theorem exists_field (c : Config) (hlimitKeys : limitKeys ⊆ Limits.names)
    (hdialectKeys : dialectKeys ⊆ Dialect.names) :
    ∀ key ∈ names, ∃ text, c.Field limitKeys dialectKeys key text := by
  have hlimits : ∀ key ∈ Limits.names, ∃ text, c.limits.Field key text := by
    intro key hkey
    simp only [Limits.names, List.mem_cons, List.not_mem_nil, or_false] at hkey
    rcases hkey with rfl | rfl | rfl
    · exact ⟨_, .recursion⟩
    · exact ⟨_, .stack⟩
    · cases hloops : c.limits.loopIterationLimit with
      | none => exact ⟨_, .endless hloops⟩
      | some n => exact ⟨_, .loops hloops⟩
  have hdialect : ∀ key ∈ Dialect.names, ∃ text, c.dialect.Field key text := by
    intro key hkey
    rw [List.mem_singleton.mp hkey]
    cases hjsx : c.dialect.jsx with
    | true => exact ⟨_, .on hjsx⟩
    | false => exact ⟨_, .off hjsx⟩
  intro key hkey
  simp only [names, List.mem_cons, List.not_mem_nil, or_false] at hkey
  rcases hkey with rfl | rfl | rfl | rfl | rfl
  · exact ⟨_, .cdnBase ⟨Json.spelled_escaped c.cdnBase.toList⟩⟩
  · exact ⟨_, .fetchTimeout⟩
  · exact ⟨_, .maxModules⟩
  · obtain ⟨text, h⟩ := Json.exists_gives hlimitKeys hlimits
    exact ⟨text, .limits h⟩
  · obtain ⟨text, h⟩ := Json.exists_gives hdialectKeys hdialect
    exact ⟨text, .dialect h⟩

/-- For every choice of fields there is a file that gives just these.  A file that
gives fields of `c`, in whatever order and whatever else it holds, is read as the
standard configuration with these fields of `c` if it gives each once; if not, it
gives a field twice.  And a file that gives a field twice on some level is refused
for it, whatever comes the second time and later. -/
theorem ofFile_overlay (c : Config) (hc : c.InRange) :
    (∀ keys limitKeys dialectKeys, keys ⊆ names → limitKeys ⊆ Limits.names →
      dialectKeys ⊆ Dialect.names →
      ∃ text, Gives names (c.Field limitKeys dialectKeys) keys text) ∧
    (∀ keys limitKeys dialectKeys text,
      Gives names (c.Field limitKeys dialectKeys) keys text →
      (Once keys limitKeys dialectKeys → ∀ before after, Blanks before → Blanks after →
        ofFile (.text (String.ofList (before ++ (text ++ after)))) =
          .ok (c.overlay keys limitKeys dialectKeys)) ∧
      (¬ Once keys limitKeys dialectKeys → GivesTwice text)) ∧
    ∀ text before after, GivesTwice text → Blanks before → Blanks after →
      ∃ (key : String) (place : Option Json.Place),
        ofFile (.text (String.ofList (before ++ (text ++ after)))) =
          .error (.malformed
            (Json.Fault.message ⟨.mismatch s!"duplicate field `{key}`", place⟩)) := by
  refine ⟨fun keys limitKeys dialectKeys hkeys hlimitKeys hdialectKeys => ?_,
    fun keys limitKeys dialectKeys text h => ⟨fun honce before after hbefore hafter => ?_,
      givesTwice_of_not_once hc h⟩,
    fun text before after h hbefore hafter => ?_⟩
  · exact Json.exists_gives hkeys (exists_field c hlimitKeys hdialectKeys)
  · have hrun := (reads hc honce h).run_eq hbefore hafter
    unfold ofFile File.read Json.decode
    dsimp only
    rw [hrun]
  · obtain ⟨⟨problem, place⟩, hrun, key, rfl⟩ := h.refuses.run_eq hbefore hafter
    refine ⟨key, place, ?_⟩
    unfold ofFile File.read Json.decode
    dsimp only
    rw [hrun]

/-- The standard configuration with a bound for loops. -/
def bounded : Config :=
  { standard with limits := { Limits.standard with loopIterationLimit := some 1000 } }

/-- A file that gives one of the limits and an unknown key beside it, and a file
that gives a limit twice. -/
theorem ofFile_overlay_loops :
    ofFile (.text "\x7b\"limits\":\x7b\"loop_iteration_limit\":1000,\"x\":[null]\x7d\x7d\n") =
      .ok bounded ∧
    ∃ (key : String) (place : Option Json.Place),
      ofFile (.text ("\x7b\"limits\":\x7b\"loop_iteration_limit\":1000," ++
        "\"loop_iteration_limit\":[\x7d\x7d")) =
        .error (.malformed
          (Json.Fault.message ⟨.mismatch s!"duplicate field `{key}`", place⟩)) := by
  have hbounded : bounded.InRange :=
    ⟨by decide, by decide, by decide, by decide, by rintro n ⟨⟩; decide⟩
  have hfield : ∀ field : String × List Char, Json.IsField field _ := fun field =>
    ⟨_, ⟨Json.spelled_escaped field.1.toList⟩, .intro Blanks.nil Blanks.nil⟩
  have hnull : Json.IsValue ['[', 'n', 'u', 'l', 'l', ']'] :=
    .array (.filled (.last Blanks.nil rfl Blanks.nil))
      (List.forall_mem_singleton.mpr .nullWord)
  have hloops : bounded.limits.Field "loop_iteration_limit" (Nat.toDigits 10 1000) := .loops rfl
  have hlimits : Gives Limits.names bounded.limits.Field ["loop_iteration_limit"] _ :=
    ⟨[("loop_iteration_limit", Nat.toDigits 10 1000), ("x", ['[', 'n', 'u', 'l', 'l', ']'])],
      .filled (.cons Blanks.nil (hfield _) Blanks.nil (.last Blanks.nil (hfield _) Blanks.nil)),
      List.forall_mem_cons.mpr ⟨⟨fun _ => hloops, fun h => absurd (by decide) h⟩,
        List.forall_mem_singleton.mpr ⟨fun h => absurd h (by decide), fun _ => hnull⟩⟩, rfl⟩
  have hconfig : Gives names (bounded.Field ["loop_iteration_limit"] []) ["limits"] _ :=
    ⟨[("limits", _)], .filled (.last Blanks.nil (hfield _) Blanks.nil),
      List.forall_mem_singleton.mpr ⟨fun _ => .limits hlimits, fun h => absurd (by decide) h⟩,
      rfl⟩
  have htwice : Repeats Limits.names Limits.SomeField _ :=
    ⟨[("loop_iteration_limit", Nat.toDigits 10 1000)], ("loop_iteration_limit", ['[']), [],
      .filled (.cons Blanks.nil (hfield _) Blanks.nil (.last Blanks.nil (hfield _) Blanks.nil)),
      List.forall_mem_singleton.mpr
        ⟨fun _ => ⟨bounded.limits, hbounded.limits, hloops⟩, fun h => absurd (by decide) h⟩,
      List.mem_cons_self⟩
  obtain ⟨-, hreads, hrefuses⟩ := ofFile_overlay bounded hbounded
  constructor
  · have honce : Once ["limits"] ["loop_iteration_limit"] [] :=
      ⟨by decide, fun _ => by decide, fun _ => by decide⟩
    have hfile := (hreads _ _ _ _ hconfig).1 honce [] ['\n'] Blanks.nil
      (List.forall_mem_singleton.mpr rfl)
    refine Eq.trans (congrArg (fun s => ofFile (.text s)) ?_) (hfile.trans (congrArg Except.ok ?_))
    · decide +kernel
    · decide +kernel
  · have hgives : GivesTwice _ :=
      @GivesTwice.within _ [] [] ("limits", _) (.filled (.last Blanks.nil (hfield _) Blanks.nil))
        (fun _ h => nomatch h) (.limits htwice)
    obtain ⟨key, place, hfile⟩ := hrefuses _ [] [] hgives Blanks.nil Blanks.nil
    refine ⟨key, place, Eq.trans (congrArg (fun s => ofFile (.text s)) ?_) hfile⟩
    decide +kernel

end Config

end Playpen
