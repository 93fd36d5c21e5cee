import Playpen.Report
import Playpen.Proofs.Json.Encodings
import Playpen.Proofs.Json.RoundTrip

/-!
# Reports are read back

A report is one JSON object, and whoever parses it finds in it how the run ended,
the entries of its log in their order, and the dependencies with the states of
their loads (`text_recovers`).  Nothing is asked of the texts in them.

The entries carry their segments along, and among these are the values that the
lines of an entry hold.  Such a value has been read before, so it is sound and
its text is read again, though its doubles may come out as other ones.
-/

namespace Playpen

open Json (Like)

namespace Json

variable {v w : Json}

/-- The members of an object that is like another one. -/
theorem Like.members {members : List (String × Json)} (h : Like (.object members) w) :
    ∃ members', w = .object members' ∧
      List.Forall₂ (fun m m' => m'.1 = m.1 ∧ Like m.2 m'.2) members members' := by
  cases h with
  | @object _ members' hkeys hvalues =>
    refine ⟨members', rfl, ?_⟩
    induction members generalizing members' with
    | nil =>
      rw [List.map_eq_nil_iff.mp hkeys]
      exact .nil
    | cons m members ih =>
      obtain ⟨m', members', rfl, hkey, hkeys⟩ := List.map_eq_cons_iff.mp hkeys
      obtain ⟨hvalue, hvalues⟩ := List.forall₂_cons.mp hvalues
      exact .cons ⟨hkey, hvalue⟩ (ih hkeys hvalues)

theorem Like.items {items : List Json} (h : Like (.array items) w) :
    ∃ items', w = .array items' ∧ List.Forall₂ Like items items' := by
  cases h with
  | array h => exact ⟨_, rfl, h⟩

end Json

/-! ## Reports are sound -/

namespace Display

/-- A tree is sound, since it has been read. -/
theorem sound_of_treeOf? {line : String} {v : Json} (h : treeOf? line = some v) : v.Sound := by
  unfold treeOf? at h
  split at h
  · cases h
    exact Json.sound_of_parse ‹_›
  · cases h
    exact Json.sound_of_parse ‹_›
  · cases h

theorem Segment.sound_value (line : String) : (classify line).value.Sound := by
  unfold classify
  split
  · exact sound_of_treeOf? ‹_›
  split
  · exact .bool true
  split
  · exact .bool false
  split
  · exact .string line
  split
  · exact .string line
  · exact .string line

end Display

namespace Dependency

theorem plain_toJson (d : Dependency) : d.toJson.Plain := by
  refine .object (by simp) ?_
  simp only [List.forall_mem_cons]
  exact ⟨.string _, .string _, .string _, .string _, List.forall_mem_nil _⟩

theorem Status.plain_toJson (s : Status) : s.toJson.Plain := by
  cases s with
  | loading => exact .object (by decide) (List.forall_mem_singleton.mpr (.string _))
  | loaded => exact .object (by decide) (List.forall_mem_singleton.mpr (.string _))
  | failed message =>
    refine .object (by simp) ?_
    simp only [List.forall_mem_cons]
    exact ⟨.string _, .string _, List.forall_mem_nil _⟩

theorem Listing.plain_toJson (l : Listing) : l.toJson.Plain := by
  refine .object (by simp) ?_
  simp only [List.forall_mem_cons]
  exact ⟨l.dependency.plain_toJson, l.status.plain_toJson, List.forall_mem_nil _⟩

theorem plain_listings (dependencies : List Listing) :
    (Json.array (dependencies.map Listing.toJson)).Plain := by
  refine .array fun v hv => ?_
  obtain ⟨l, -, rfl⟩ := List.mem_map.mp hv
  exact l.plain_toJson

end Dependency

namespace Report

open Dependency (Listing Status)
open Log (Entry Transcript)

theorem sound_entry {e : Entry} (he : e.InRange) : (entry e).Sound := by
  have hrange : e.sequence < 2 ^ 64 := he
  have hsegments : (Json.array (e.segments.map segment)).Sound := by
    refine .array fun v hv => ?_
    obtain ⟨s, hs, rfl⟩ := List.mem_map.mp hv
    obtain ⟨line, -, rfl⟩ := List.mem_map.mp hs
    refine .object (by simp) ?_
    simp only [List.forall_mem_cons]
    exact ⟨.string _, Display.Segment.sound_value line, List.forall_mem_nil _⟩
  refine .object (by simp) ?_
  simp only [List.forall_mem_cons]
  exact ⟨.string _, .string _, .number (.int (by omega) (by omega)), hsegments, List.forall_mem_nil _⟩

theorem sound_document {o : Execution.Outcome} (ho : o.log.InRange) (dependencies : List Listing) :
    (document o dependencies).Sound := by
  have hentries : (Json.array (o.log.entries.map entry)).Sound := by
    refine .array fun v hv => ?_
    obtain ⟨e, he, rfl⟩ := List.mem_map.mp hv
    exact sound_entry (ho e he)
  refine .object (by simp) ?_
  simp only [List.forall_mem_cons]
  exact ⟨.string _, hentries, (Dependency.plain_listings dependencies).sound, List.forall_mem_nil _⟩

/-! ## What is found in a report -/

/-- How a run ended, its entries, and the dependencies with the states of their
loads. -/
structure Contents where
  status : String
  entries : List Entry
  dependencies : List (Dependency × Status)

/-- The state of a load, from its own object. -/
def loadState? (v : Json) : Option Status :=
  match v.member? "state", v.member? "error" with
  | some (.string "loading"), none => some .loading
  | some (.string "loaded"), none => some .loaded
  | some (.string "failed"), some (.string message) => some (.failed message)
  | _, _ => none

/-- A dependency and the state of its load. -/
def listing? (v : Json) : Option (Dependency × Status) := do
  let dependency ← v.member? "dependency"
  let status ← v.member? "status"
  return (← (Json.Decodable.ofValue dependency).toOption, ← loadState? status)

/-- What is found in the value of a report. -/
def contents? (v : Json) : Option Contents := do
  let .string status ← v.member? "status" | none
  let .array entries ← v.member? "entries" | none
  let .array dependencies ← v.member? "dependencies" | none
  return ⟨status, ← (entries.mapM Json.Decodable.ofValue).toOption, ← dependencies.mapM listing?⟩

theorem loadState?_toJson (s : Status) : loadState? s.toJson = some s := by
  cases s with
  | loading => rfl
  | loaded => rfl
  | failed message => rfl

theorem listing?_toJson (l : Listing) : listing? l.toJson = some (l.dependency, l.status) := by
  have hdependency : Json.Decodable.ofValue l.dependency.toJson = .ok l.dependency :=
    (Dependency.recovers l.dependency).value
  have hfound : listing? l.toJson = do
    let dependency ← (Json.Decodable.ofValue l.dependency.toJson).toOption
    return (dependency, ← loadState? l.status.toJson) := rfl
  rw [hfound, hdependency, loadState?_toJson]
  rfl

/-- An entry is found in what is like its object: its segments are passed over. -/
theorem ofValue_of_like {e : Entry} {v : Json} (h : Like (entry e) v) :
    Json.Decodable.ofValue v = .ok e := by
  obtain ⟨members, rfl, hmembers⟩ := h.members
  simp only [List.forall₂_cons_left_iff, List.forall₂_nil_left_iff] at hmembers
  obtain ⟨⟨_, kind⟩, _, ⟨rfl, hkind⟩, ⟨⟨_, content⟩, _, ⟨rfl, hcontent⟩,
    ⟨⟨_, sequence⟩, _, ⟨rfl, hsequence⟩, ⟨⟨_, segments⟩, _, ⟨rfl, -⟩, rfl, rfl⟩, rfl⟩, rfl⟩, rfl⟩ :=
    hmembers
  cases hkind
  cases hcontent
  cases hsequence
  refine (Entry.shape.ofMembers_cons "kind" rfl (Log.Kind.ofValue_toJson e.kind)).trans ?_
  refine (Entry.shape.ofMembers_cons "content" rfl (Json.ofValue_string e.content)).trans ?_
  exact Entry.shape.ofMembers_cons "sequence" rfl (Json.ofValue_nat e.sequence)

theorem mapM_ofValue_of_like {entries : List Entry} {items : List Json}
    (h : List.Forall₂ Like (entries.map entry) items) :
    items.mapM Json.Decodable.ofValue = (.ok entries : Except String (List Entry)) := by
  induction entries generalizing items with
  | nil =>
    rw [List.forall₂_nil_left_iff.mp h]
    rfl
  | cons e entries ih =>
    obtain ⟨v, items, hv, hitems, rfl⟩ := List.forall₂_cons_left_iff.mp h
    rw [List.mapM_cons, ofValue_of_like hv, ih hitems]
    rfl

theorem mapM_listing?_toJson (dependencies : List Listing) :
    (dependencies.map Listing.toJson).mapM listing? =
      some (dependencies.map fun l => (l.dependency, l.status)) := by
  induction dependencies with
  | nil => rfl
  | cons l dependencies ih =>
    rw [List.map_cons, List.mapM_cons, listing?_toJson, ih]
    rfl

/-- What a report is about is found in whatever is like its document. -/
theorem contents?_of_like {o : Execution.Outcome} {dependencies : List Listing} {v : Json}
    (h : Like (document o dependencies) v) :
    (∃ members, v = .object members) ∧ contents? v =
      some ⟨status o, o.log.entries, dependencies.map fun l => (l.dependency, l.status)⟩ := by
  obtain ⟨members, rfl, hmembers⟩ := h.members
  refine ⟨⟨members, rfl⟩, ?_⟩
  simp only [List.forall₂_cons_left_iff, List.forall₂_nil_left_iff] at hmembers
  obtain ⟨⟨_, ending⟩, _, ⟨rfl, hending⟩, ⟨⟨_, entries⟩, _, ⟨rfl, hentries⟩,
    ⟨⟨_, listed⟩, _, ⟨rfl, hlisted⟩, rfl, rfl⟩, rfl⟩, rfl⟩ := hmembers
  cases hending
  obtain ⟨items, rfl, hitems⟩ := hentries.items
  obtain rfl : listed = .array (dependencies.map Listing.toJson) :=
    (Dependency.plain_listings dependencies).eq_of_like hlisted
  have hfound : contents? (.object [("status", .string (status o)), ("entries", .array items),
      ("dependencies", .array (dependencies.map Listing.toJson))]) = do
    return ⟨status o, ← (items.mapM Json.Decodable.ofValue).toOption,
      ← (dependencies.map Listing.toJson).mapM listing?⟩ := rfl
  rw [hfound, mapM_ofValue_of_like hitems, mapM_listing?_toJson]
  rfl

/-- A report is one JSON object, in which the end of the run is found, every
entry in its place, and every dependency with the state of its load.  As the
lines of an entry do, a report nests to any depth, so the reader sets no limit. -/
theorem text_recovers (o : Execution.Outcome) (dependencies : List Listing) (ho : o.log.InRange) :
    ∃ members, Json.parse none (text o dependencies) = .ok (.object members) ∧
      contents? (.object members) =
        some ⟨status o, o.log.entries, dependencies.map fun l => (l.dependency, l.status)⟩ := by
  obtain ⟨v, hlike, hparse⟩ := (Json.written_prettyAt (document o dependencies) 0).exists_parse
    (sound_document ho dependencies)
  obtain ⟨⟨members, rfl⟩, hcontents⟩ := contents?_of_like hlike
  have hnewline : Json.Blanks ['\n'] := List.forall_mem_singleton.mpr rfl
  have htext : text o dependencies =
      String.ofList ([] ++ ((Json.prettyAt 0 (document o dependencies)).toList ++ ['\n'])) := by
    rw [List.nil_append, String.ofList_append, String.ofList_toList]
    rfl
  rw [htext]
  exact ⟨members, hparse [] ['\n'] Json.Blanks.nil hnewline, hcontents⟩

/-- Entries and an error that look like parts of a report, and a line that holds
a double. -/
theorem text_recovers_lookalikes :
    let o : Execution.Outcome := .failed ⟨[
      ⟨.log, "\x7b\"kind\": \"warn\", \"kind\": [1.5e308, -0.0]\x7d\n\\ \u0001\u2028", 2 ^ 64 - 1⟩,
      ⟨.error, "\"], \"status\": \"completed\"", 0⟩]⟩
    let dependencies : List Listing :=
      [⟨.ofName "a" "1", 0, .failed "\"\x7d, \"state\": \"loaded\""⟩, ⟨.ofName "b" "2", 1, .loading⟩]
    o.log.InRange ∧ ∃ members, Json.parse none (text o dependencies) = .ok (.object members) ∧
      contents? (.object members) =
        some ⟨"failed", o.log.entries, dependencies.map fun l => (l.dependency, l.status)⟩ := by
  intro o dependencies
  have ho : o.log.InRange := by
    refine List.forall_mem_cons.mpr ⟨?_, List.forall_mem_singleton.mpr ?_⟩
    · show 2 ^ 64 - 1 < 2 ^ 64
      decide
    · show 0 < 2 ^ 64
      decide
  exact ⟨ho, text_recovers o dependencies ho⟩

end Report

end Playpen
