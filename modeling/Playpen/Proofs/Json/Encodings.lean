import Playpen.Dependency.Basic
import Playpen.Log.Entry
import Playpen.Proofs.Config.Overlay
import Playpen.Proofs.Json.Forms

/-!
# Encodings lose nothing

A dependency, a configuration with the records in it, a log entry with its kind,
and the entries of a run are decoded as what they were before they were encoded
(`encodings_recover`).  Besides the encoding itself there are the other texts of
the same value: a record is also given by its fields in any order or by the
array of its fields, on each level, and a string by any spelling of it.

For each type these texts are laid down first (`IsText`).  What is written is one
of them, and all of them are read.
-/

namespace Playpen

open Json (Blanks Begins Literal Written Form Enclosed Reads reads_slot)

namespace Json

section

variable {α : Type} [Decodable α]

/-- The value is decoded from its encoding, in both layouts and without a text,
and from every other of its texts, with blanks around it. -/
structure Recovers (encode : α → Json) (IsText : α → List Char → Prop) (a : α) : Prop where
  value : Decodable.ofValue (encode a) = .ok a
  compact : decode α (encode a).compact = .ok a
  pretty : decode α (encode a).pretty = .ok a
  texts {before text after : List Char} : Blanks before → IsText a text → Blanks after →
    decode α (String.ofList (before ++ (text ++ after))) = .ok a

/-- The encoding is an object, and among the texts of the value are those of this
object with its members in any order and those of the array of their values. -/
structure RecoversRecord (encode : α → Json) (IsText : α → List Char → Prop) (a : α) : Prop
    extends Recovers encode IsText a where
  shapes : ∃ members, encode a = .object members ∧
    (∀ ms text, ms.Perm members → Written (.object ms) text → IsText a text) ∧
    ∀ text, Written (.array (members.map Prod.snd)) text → IsText a text

variable {encode : α → Json} {IsText : α → List Char → Prop} {a : α}

theorem Recovers.decode_eq (h : Recovers encode IsText a) {s : String} (hs : IsText a s.toList) :
    decode α s = .ok a := by
  have htexts := h.texts Blanks.nil hs Blanks.nil
  rwa [List.nil_append, List.append_nil, String.ofList_toList] at htexts

theorem decode_eq {s : String} (h : Reads (Decodable.read : Reader α) s.toList a) :
    decode α s = .ok a := by
  have hrun := h.run_eq Blanks.nil Blanks.nil
  rwa [List.nil_append, List.append_nil, String.ofList_toList] at hrun

theorem recovers (hvalue : Decodable.ofValue (encode a) = .ok a)
    (hwritten : ∀ text, Written (encode a) text → IsText a text)
    (hread : ∀ text, IsText a text → Reads (Decodable.read : Reader α) text a) :
    Recovers encode IsText a where
  value := hvalue
  compact := decode_eq (hread _ (hwritten _ (written_compact _)))
  pretty := decode_eq (hread _ (hwritten _ (written_prettyAt _ 0)))
  texts hbefore htext hafter := (hread _ htext).run_eq hbefore hafter

theorem recoversRecord {Good : String → List Char → Prop} {members : List (String × Json)}
    (hvalue : Decodable.ofValue (encode a) = .ok a) (hencode : encode a = .object members)
    (hgood : ∀ m ∈ members, ∀ value, Written m.2 value → Good m.1 value)
    (hform : ∀ text, Form (members.map Prod.fst) Good text → IsText a text)
    (hread : ∀ text, IsText a text → Reads (Decodable.read : Reader α) text a) :
    RecoversRecord encode IsText a where
  toRecovers := recovers hvalue (fun _ h => hform _ ((hencode ▸ h).form hgood (.refl _))) hread
  shapes := ⟨members, hencode, fun _ _ hperm h => hform _ (h.form hgood hperm),
    fun _ h => hform _ (h.form_of_array hgood)⟩

end

/-! ## Texts of scalars -/

section

variable {text : List Char}

theorem Written.literal {s : String} (h : Written (.string s) text) : Literal s text := by
  cases h with
  | string h => exact h

theorem Written.eq_toDigits {n : Nat} (h : Written (.nat n) text) : text = Nat.toDigits 10 n := by
  cases h with
  | number _ => exact toList_natural n

theorem Written.eq_null (h : Written .null text) : text = ['n', 'u', 'l', 'l'] := by
  cases h with
  | null => rfl

theorem Written.eq_bool {b : Bool} (h : Written (.bool b) text) :
    text = if b then ['t', 'r', 'u', 'e'] else ['f', 'a', 'l', 's', 'e'] := by
  cases h with
  | trueWord => rfl
  | falseWord => rfl

theorem begins_toDigits (n : Nat) : Begins (Nat.toDigits 10 n) := by
  obtain ⟨c, rest, hdigits, hc⟩ := exists_toDigits n
  exact ⟨c, rest, hdigits, isBlank_of_isDigit hc, ne_of_isDigit hc (by decide)⟩

end

/-! ## Values without a text -/

theorem ofValue_nat {name : String} (n : Nat) :
    (Decodable.ofValue (nat n) : Except String (Word name)) = .ok ⟨n⟩ := by
  have hword : (Number.int n).toWord name = .ok ⟨n⟩ := by
    rw [Number.toWord, if_pos (Int.natCast_nonneg n), Int.toNat_natCast]
  exact hword

theorem ofValue_string (s : String) : Decodable.ofValue (.string s) = .ok s := rfl

/-- A member fills the slot of its key. -/
theorem Shape.ofMembers_cons {σ α β : Type} [Decodable β] (s : Shape σ α) (key : String)
    {name : String} {required : Bool} {get : σ → Option β} {set : σ → β → σ} {value : Json} {b : β}
    {rest : List (String × Json)} {state : σ}
    (hfind : s.slots.find? (·.name = key) = some (.of name required get set))
    (hvalue : Decodable.ofValue value = .ok b) :
    s.ofMembers ((key, value) :: rest) state = s.ofMembers rest (set state b) := by
  rw [ofMembers, hfind]
  show (do s.ofMembers rest (← (Decodable.ofValue value).map (set state))) = _
  rw [hvalue]
  rfl

end Json

variable {key : String} {text : List Char} {keys : List String}

/-! ## Dependencies -/

namespace Dependency

variable {d : Dependency}

def names : List String := ["name", "version", "description", "url"]

/-- The texts that a field of the dependency has under its key. -/
inductive Field (d : Dependency) : String → List Char → Prop
  | name {text : List Char} (h : Literal d.name text) : Field d "name" text
  | version {text : List Char} (h : Literal d.version text) : Field d "version" text
  | description {text : List Char} (h : Literal d.description text) : Field d "description" text
  | url {text : List Char} (h : Literal d.url text) : Field d "url" text

/-- The texts of a dependency with all its fields. -/
def IsText (d : Dependency) : List Char → Prop := Form names d.Field

theorem Field.begins (h : d.Field key text) : Begins text := by
  cases h with
  | name h => exact h.begins
  | version h => exact h.begins
  | description h => exact h.begins
  | url h => exact h.begins

theorem field_of_written {members : List (String × Json)} (h : d.toJson = .object members) :
    ∀ m ∈ members, ∀ value, Written m.2 value → d.Field m.1 value := by
  obtain rfl := Json.object.inj h
  simp only [List.forall_mem_cons]
  exact ⟨fun _ h => .name h.literal, fun _ h => .version h.literal,
    fun _ h => .description h.literal, fun _ h => .url h.literal, fun _ h => nomatch h⟩

/-- What is known of the dependency once the keys have been given. -/
def drafted (d : Dependency) (keys : List String) : Draft where
  name := known keys "name" d.name
  version := known keys "version" d.version
  description := known keys "description" d.description
  url := known keys "url" d.url

theorem finish_drafted (h : keys.Perm names) : shape.finish (d.drafted keys) = d := by
  simp [drafted, shape, known, h.mem_iff, names]

theorem fielded (d : Dependency) :
    shape.Fielded (fun keys draft => draft = d.drafted keys) d.Field fun _ _ => False where
  start := rfl
  filled := by
    rintro done state slot rfl hslot
    simp only [shape, List.mem_cons, List.not_mem_nil, or_false] at hslot
    rcases hslot with rfl | rfl | rfl | rfl
    all_goals exact isSome_known
  takes := by
    rintro done state key value rfl hnew hfield
    cases hfield with
    | name h => exact ⟨_, _, rfl, reads_slot (Json.reads_string h) _, by simp [drafted]⟩
    | version h => exact ⟨_, _, rfl, reads_slot (Json.reads_string h) _, by simp [drafted]⟩
    | description h => exact ⟨_, _, rfl, reads_slot (Json.reads_string h) _, by simp [drafted]⟩
    | url h => exact ⟨_, _, rfl, reads_slot (Json.reads_string h) _, by simp [drafted]⟩
  bars h := nomatch h

theorem reads (h : d.IsText text) :
    Reads (Json.Decodable.read : Json.Reader Dependency) text d :=
  d.fielded.reads_form (by decide) (fun _ _ => Field.begins) h
    fun _ _ hkeys hdraft => hdraft ▸ finish_drafted hkeys

theorem recovers (d : Dependency) : Json.RecoversRecord toJson IsText d :=
  Json.recoversRecord rfl rfl (field_of_written rfl) (fun _ => id) fun _ => reads

end Dependency

/-! ## Configurations -/

namespace Limits

variable {l : Limits}

/-- The texts of limits with all their fields. -/
def IsText (l : Limits) : List Char → Prop := Form names l.Field

theorem Field.begins (h : l.Field key text) : Begins text := by
  cases h with
  | recursion => exact Json.begins_toDigits _
  | stack => exact Json.begins_toDigits _
  | endless _ => exact ⟨'n', _, rfl, rfl, by decide⟩
  | loops _ => exact Json.begins_toDigits _

theorem field_of_written {members : List (String × Json)} (h : l.toJson = .object members) :
    ∀ m ∈ members, ∀ value, Written m.2 value → l.Field m.1 value := by
  obtain rfl := Json.object.inj h
  simp only [List.forall_mem_cons]
  refine ⟨?_, ?_, ?_, fun _ h => nomatch h⟩
  · intro value h
    rw [h.eq_toDigits]
    exact .recursion
  · intro value h
    rw [h.eq_toDigits]
    exact .stack
  · intro value h
    cases hloops : l.loopIterationLimit with
    | none =>
      rw [hloops] at h
      rw [h.eq_null]
      exact .endless hloops
    | some n =>
      rw [hloops] at h
      rw [h.eq_toDigits]
      exact .loops hloops

theorem overlay_of_perm (h : keys.Perm names) : l.overlay keys = l := by
  simp [overlay, h.mem_iff, names]

theorem reads_text (hl : l.InRange) (h : l.IsText text) :
    Reads (Json.Decodable.read : Json.Reader Limits) text l :=
  (fielded hl).reads_form (by decide) (fun _ _ => Field.begins) h fun _ _ hkeys hdraft =>
    hdraft ▸ (finish_drafted l _).trans (overlay_of_perm hkeys)

theorem ofValue_toJson (l : Limits) : Json.Decodable.ofValue l.toJson = .ok l := by
  have hloops : Json.Decodable.ofValue (l.loopIterationLimit.elim .null .nat) =
      .ok (l.loopIterationLimit.map (⟨·⟩ : Nat → Json.Word "u64")) := by
    cases l.loopIterationLimit with
    | none => rfl
    | some n => exact congrArg (Except.map some) (Json.ofValue_nat n)
  refine (Json.Shape.ofMembers_cons shape "recursion_limit" rfl (Json.ofValue_nat _)).trans ?_
  refine (Json.Shape.ofMembers_cons shape "stack_size_limit" rfl (Json.ofValue_nat _)).trans ?_
  refine (Json.Shape.ofMembers_cons shape "loop_iteration_limit" rfl hloops).trans ?_
  obtain ⟨recursion, stack, loops⟩ := l
  cases loops with
  | none => rfl
  | some n => rfl

theorem recovers (hl : l.InRange) : Json.RecoversRecord toJson IsText l :=
  Json.recoversRecord (ofValue_toJson l) rfl (field_of_written rfl) (fun _ => id) fun _ => reads_text hl

end Limits

namespace Dialect

variable {d : Dialect}

/-- The texts of a dialect with its field. -/
def IsText (d : Dialect) : List Char → Prop := Form names d.Field

theorem Field.begins (h : d.Field key text) : Begins text := by
  cases h with
  | on _ => exact ⟨'t', _, rfl, rfl, by decide⟩
  | off _ => exact ⟨'f', _, rfl, rfl, by decide⟩

theorem field_of_written {members : List (String × Json)} (h : d.toJson = .object members) :
    ∀ m ∈ members, ∀ value, Written m.2 value → d.Field m.1 value := by
  obtain rfl := Json.object.inj h
  refine List.forall_mem_singleton.mpr fun value h => ?_
  rw [h.eq_bool]
  cases hjsx : d.jsx with
  | true => exact .on hjsx
  | false => exact .off hjsx

theorem reads_text (h : d.IsText text) :
    Reads (Json.Decodable.read : Json.Reader Dialect) text d :=
  d.fielded.reads_form (by decide) (fun _ _ => Field.begins) h fun _ _ hkeys hdraft => by
    have hmem : "jsx" ∈ names := List.mem_cons_self
    rw [hdraft, known, if_pos (hkeys.mem_iff.mpr hmem)]
    rfl

theorem ofValue_toJson (d : Dialect) : Json.Decodable.ofValue d.toJson = .ok d := rfl

theorem recovers (d : Dialect) : Json.RecoversRecord toJson IsText d :=
  Json.recoversRecord (ofValue_toJson d) rfl (field_of_written rfl) (fun _ => id) fun _ => reads_text

end Dialect

namespace Config

variable {c : Config}

/-- The texts that a field of the configuration has under its key, where the
records within have all their fields. -/
inductive Part (c : Config) : String → List Char → Prop
  | cdnBase {text : List Char} (h : Literal c.cdnBase text) : Part c "cdn_base" text
  | fetchTimeout : Part c "fetch_timeout_secs" (Nat.toDigits 10 c.fetchTimeout)
  | maxModules : Part c "max_modules_per_dependency" (Nat.toDigits 10 c.maxModules)
  | limits {text : List Char} (h : c.limits.IsText text) : Part c "limits" text
  | dialect {text : List Char} (h : c.dialect.IsText text) : Part c "transpiler" text

/-- The texts of a configuration with all its fields. -/
def IsText (c : Config) : List Char → Prop := Form names c.Part

theorem Part.begins (h : c.Part key text) : Begins text := by
  cases h with
  | cdnBase h => exact h.begins
  | fetchTimeout => exact Json.begins_toDigits _
  | maxModules => exact Json.begins_toDigits _
  | limits h => exact Form.begins h
  | dialect h => exact Form.begins h

theorem field_of_written {members : List (String × Json)} (h : c.toJson = .object members) :
    ∀ m ∈ members, ∀ value, Written m.2 value → c.Part m.1 value := by
  obtain rfl := Json.object.inj h
  simp only [List.forall_mem_cons]
  refine ⟨fun _ h => .cdnBase h.literal, ?_, ?_,
    fun _ h => .limits (h.form (Limits.field_of_written rfl) (.refl _)),
    fun _ h => .dialect (h.form (Dialect.field_of_written rfl) (.refl _)), fun _ h => nomatch h⟩
  · intro value h
    rw [h.eq_toDigits]
    exact .fetchTimeout
  · intro value h
    rw [h.eq_toDigits]
    exact .maxModules

/-- What is known of the configuration once the keys have been given. -/
def gathered (c : Config) (keys : List String) : Draft where
  cdnBase := known keys "cdn_base" c.cdnBase
  fetchTimeout := known keys "fetch_timeout_secs" ⟨c.fetchTimeout⟩
  maxModules := known keys "max_modules_per_dependency" ⟨c.maxModules⟩
  limits := known keys "limits" c.limits
  dialect := known keys "transpiler" c.dialect

theorem finish_gathered (h : keys.Perm names) : shape.finish (c.gathered keys) = c := by
  simp [gathered, shape, known, h.mem_iff, names]

theorem fielded_part (hc : c.InRange) :
    shape.Fielded (fun keys draft => draft = c.gathered keys) c.Part fun _ _ => False where
  start := rfl
  filled := by
    rintro done state slot rfl hslot
    simp only [shape, List.mem_cons, List.not_mem_nil, or_false] at hslot
    rcases hslot with rfl | rfl | rfl | rfl | rfl
    all_goals exact isSome_known
  takes := by
    rintro done state key value rfl hnew hfield
    cases hfield with
    | cdnBase h => exact ⟨_, _, rfl, reads_slot (Json.reads_string h) _, by simp [gathered]⟩
    | fetchTimeout =>
      exact ⟨_, _, rfl, reads_slot (Json.reads_word hc.fetchTimeout) _, by simp [gathered]⟩
    | maxModules =>
      exact ⟨_, _, rfl, reads_slot (Json.reads_word hc.maxModules) _, by simp [gathered]⟩
    | limits h =>
      exact ⟨_, _, rfl, reads_slot (Limits.reads_text hc.limits h) _, by simp [gathered]⟩
    | dialect h => exact ⟨_, _, rfl, reads_slot (Dialect.reads_text h) _, by simp [gathered]⟩
  bars h := nomatch h

theorem reads_text (hc : c.InRange) (h : c.IsText text) :
    Reads (Json.Decodable.read : Json.Reader Config) text c :=
  (fielded_part hc).reads_form (by decide) (fun _ _ => Part.begins) h
    fun _ _ hkeys hdraft => hdraft ▸ finish_gathered hkeys

theorem ofValue_toJson (c : Config) : Json.Decodable.ofValue c.toJson = .ok c := by
  refine (Json.Shape.ofMembers_cons shape "cdn_base" rfl (Json.ofValue_string c.cdnBase)).trans ?_
  refine (Json.Shape.ofMembers_cons shape "fetch_timeout_secs" rfl (Json.ofValue_nat _)).trans ?_
  refine (Json.Shape.ofMembers_cons shape "max_modules_per_dependency" rfl (Json.ofValue_nat _)).trans ?_
  refine (Json.Shape.ofMembers_cons shape "limits" rfl (Limits.ofValue_toJson c.limits)).trans ?_
  exact Json.Shape.ofMembers_cons shape "transpiler" rfl (Dialect.ofValue_toJson c.dialect)

theorem recovers (hc : c.InRange) : Json.RecoversRecord toJson IsText c :=
  Json.recoversRecord (ofValue_toJson c) rfl (field_of_written rfl) (fun _ => id) fun _ => reads_text hc

end Config

/-! ## Logs -/

namespace Log

namespace Kind

variable {k : Kind}

def toJson (k : Kind) : Json := .string k.name

/-- The texts of a kind. -/
def IsText (k : Kind) : List Char → Prop := Literal k.name

theorem ofName?_name (k : Kind) : ofName? k.name = some k := by
  cases k with
  | log => rfl
  | warn => rfl
  | error => rfl

theorem reads (h : k.IsText text) : Reads (Json.Decodable.read : Json.Reader Kind) text k :=
  Json.reads_variant h (ofName?_name k)

theorem ofValue_toJson (k : Kind) : Json.Decodable.ofValue k.toJson = .ok k := by
  cases k with
  | log => rfl
  | warn => rfl
  | error => rfl

theorem recovers (k : Kind) : Json.Recovers toJson IsText k :=
  Json.recovers (ofValue_toJson k) (fun _ => Written.literal) fun _ => reads

end Kind

namespace Entry

variable {e : Entry}

def names : List String := ["kind", "content", "sequence"]

/-- The sequence number is a number of the machine. -/
def InRange (e : Entry) : Prop := e.sequence < 2 ^ 64

/-- The texts that a field of the entry has under its key. -/
inductive Field (e : Entry) : String → List Char → Prop
  | kind {text : List Char} (h : e.kind.IsText text) : Field e "kind" text
  | content {text : List Char} (h : Literal e.content text) : Field e "content" text
  | sequence : Field e "sequence" (Nat.toDigits 10 e.sequence)

/-- The texts of an entry with all its fields. -/
def IsText (e : Entry) : List Char → Prop := Form names e.Field

theorem Field.begins (h : e.Field key text) : Begins text := by
  cases h with
  | kind h => exact Literal.begins h
  | content h => exact h.begins
  | sequence => exact Json.begins_toDigits _

theorem field_of_written {members : List (String × Json)} (h : e.toJson = .object members) :
    ∀ m ∈ members, ∀ value, Written m.2 value → e.Field m.1 value := by
  obtain rfl := Json.object.inj h
  simp only [List.forall_mem_cons]
  refine ⟨fun _ h => .kind h.literal, fun _ h => .content h.literal, ?_, fun _ h => nomatch h⟩
  intro value h
  rw [h.eq_toDigits]
  exact .sequence

/-- What is known of the entry once the keys have been given. -/
def drafted (e : Entry) (keys : List String) : Draft where
  kind := known keys "kind" e.kind
  content := known keys "content" e.content
  sequence := known keys "sequence" ⟨e.sequence⟩

theorem finish_drafted (h : keys.Perm names) : shape.finish (e.drafted keys) = e := by
  simp [drafted, shape, known, h.mem_iff, names]

theorem fielded (he : e.InRange) :
    shape.Fielded (fun keys draft => draft = e.drafted keys) e.Field fun _ _ => False where
  start := rfl
  filled := by
    rintro done state slot rfl hslot
    simp only [shape, List.mem_cons, List.not_mem_nil, or_false] at hslot
    rcases hslot with rfl | rfl | rfl
    all_goals exact isSome_known
  takes := by
    rintro done state key value rfl hnew hfield
    cases hfield with
    | kind h => exact ⟨_, _, rfl, reads_slot (Kind.reads h) _, by simp [drafted]⟩
    | content h => exact ⟨_, _, rfl, reads_slot (Json.reads_string h) _, by simp [drafted]⟩
    | sequence => exact ⟨_, _, rfl, reads_slot (Json.reads_word he) _, by simp [drafted]⟩
  bars h := nomatch h

theorem reads (he : e.InRange) (h : e.IsText text) :
    Reads (Json.Decodable.read : Json.Reader Entry) text e :=
  (fielded he).reads_form (by decide) (fun _ _ => Field.begins) h
    fun _ _ hkeys hdraft => hdraft ▸ finish_drafted hkeys

theorem ofValue_toJson (e : Entry) : Json.Decodable.ofValue e.toJson = .ok e := by
  refine (Json.Shape.ofMembers_cons shape "kind" rfl (Kind.ofValue_toJson e.kind)).trans ?_
  refine (Json.Shape.ofMembers_cons shape "content" rfl (Json.ofValue_string e.content)).trans ?_
  exact Json.Shape.ofMembers_cons shape "sequence" rfl (Json.ofValue_nat e.sequence)

theorem recovers (he : e.InRange) : Json.RecoversRecord toJson IsText e :=
  Json.recoversRecord (ofValue_toJson e) rfl (field_of_written rfl) (fun _ => id) fun _ => reads he

end Entry

namespace Transcript

variable {t : Transcript}

/-- The sequence numbers are numbers of the machine. -/
def InRange (t : Transcript) : Prop := ∀ e ∈ t.entries, e.InRange

/-- The texts of a transcript: it has none of its own, but is the list of its
entries. -/
def IsText (t : Transcript) : List Char → Prop := Enclosed '[' ']' Entry.IsText t.entries

theorem isText_of_written (h : Written t.toJson text) : t.IsText text :=
  Written.items h fun _ _ _ h => h.form (Entry.field_of_written rfl) (.refl _)

theorem reads (ht : t.InRange) (h : t.IsText text) :
    Reads (Json.Decodable.read : Json.Reader Transcript) text t := by
  have hitems : Enclosed '[' ']' Json.IsItem t.entries text :=
    Enclosed.transfer h (List.forall₂_same.mpr fun e he _ htext =>
      ⟨Form.begins htext, Entry.reads (ht e he) htext⟩)
  intro before cs hbefore hends
  exact (Json.reads_list hitems before cs hbefore hends).bind

theorem ofValue_toJson (t : Transcript) : Json.Decodable.ofValue t.toJson = .ok t := by
  have hitems : (t.entries.map Entry.toJson).mapM Json.Decodable.ofValue =
      (.ok t.entries : Except String (List Entry)) := by
    induction t.entries with
    | nil => rfl
    | cons e entries ih =>
      rw [List.map_cons, List.mapM_cons, Entry.ofValue_toJson, ih]
      rfl
  show (do return (⟨← (t.entries.map Entry.toJson).mapM Json.Decodable.ofValue⟩ : Transcript)) = _
  rw [hitems]
  rfl

theorem recovers (ht : t.InRange) : Json.Recovers toJson IsText t :=
  Json.recovers (ofValue_toJson t) (fun _ => isText_of_written) fun _ => reads ht

end Transcript

end Log

/-! ## All of them -/

/-- Every value is decoded as itself, from its encoding and from all of its
texts.  Those of a record are the object of its fields in any order and the array
of their values, those of a kind the spellings of its name, and those of a
transcript, which has no fields of its own, the lists of texts of its entries. -/
theorem encodings_recover :
    (∀ d, Json.RecoversRecord Dependency.toJson Dependency.IsText d) ∧
    (∀ c : Config, c.InRange → Json.RecoversRecord Config.toJson Config.IsText c) ∧
    (∀ l : Limits, l.InRange → Json.RecoversRecord Limits.toJson Limits.IsText l) ∧
    (∀ d, Json.RecoversRecord Dialect.toJson Dialect.IsText d) ∧
    (∀ k, Json.Recovers Log.Kind.toJson Log.Kind.IsText k) ∧
    (∀ e : Log.Entry, e.InRange → Json.RecoversRecord Log.Entry.toJson Log.Entry.IsText e) ∧
    (∀ t : Log.Transcript, t.InRange →
      Json.Recovers Log.Transcript.toJson Log.Transcript.IsText t) :=
  ⟨Dependency.recovers, fun _ => Config.recovers, fun _ => Limits.recovers, Dialect.recovers,
    Log.Kind.recovers, fun _ => Log.Entry.recovers, fun _ => Log.Transcript.recovers⟩

/-- A configuration with the largest numbers, from an object out of order and
from an array, and two entries whose content looks like an entry. -/
theorem encodings_recover_extremes :
    let limits : Limits := ⟨2 ^ 64 - 1, 0, some (2 ^ 64 - 1)⟩
    let config : Config := ⟨"\\\"\x7f", 2 ^ 64 - 1, 2 ^ 64 - 1, limits, ⟨true⟩⟩
    let entry : Log.Entry := ⟨.warn, "\x7b\"kind\": \"log\"\x7d\n", 2 ^ 64 - 1⟩
    (limits.InRange ∧ config.InRange ∧ entry.InRange) ∧
    Json.decode Config (Json.object [
      ("transpiler", config.dialect.toJson), ("limits", limits.toJson),
      ("max_modules_per_dependency", .nat (2 ^ 64 - 1)), ("fetch_timeout_secs", .nat (2 ^ 64 - 1)),
      ("cdn_base", .string "\\\"\x7f")]).pretty = .ok config ∧
    Json.decode Limits (Json.array [.nat (2 ^ 64 - 1), .nat 0, .nat (2 ^ 64 - 1)]).compact =
      .ok limits ∧
    Json.decode Log.Entry entry.toJson.compact = .ok entry ∧
    Json.decode Log.Transcript (Log.Transcript.toJson ⟨[entry, entry]⟩).compact =
      .ok ⟨[entry, entry]⟩ := by
  intro limits config entry
  have hlimits : limits.InRange := ⟨by decide, by decide, by rintro n ⟨⟩; decide⟩
  have hconfig : config.InRange := ⟨by decide, by decide, hlimits⟩
  have hentry : entry.InRange := show 2 ^ 64 - 1 < 2 ^ 64 by decide
  obtain ⟨-, hconfigs, hlimitss, -, -, hentries, htranscripts⟩ := encodings_recover
  refine ⟨⟨hlimits, hconfig, hentry⟩, ?_, ?_, (hentries entry hentry).compact, ?_⟩
  · obtain ⟨members, hmembers, hobject, -⟩ := (hconfigs config hconfig).shapes
    obtain rfl := Json.object.inj hmembers
    have htext := hobject _ _ (List.reverse_perm _) (Json.written_prettyAt _ 0)
    exact (hconfigs config hconfig).decode_eq htext
  · obtain ⟨members, hmembers, -, harray⟩ := (hlimitss limits hlimits).shapes
    obtain rfl := Json.object.inj hmembers
    have htext := harray _ (Json.written_compact _)
    exact (hlimitss limits hlimits).decode_eq htext
  · exact (htranscripts ⟨[entry, entry]⟩ (by simp [Log.Transcript.InRange, hentry])).compact

end Playpen
