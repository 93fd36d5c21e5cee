import Playpen.Display.Segment
import Playpen.Proofs.Json.RoundTrip

/-!
# Lines that are trees

A line is shown as a tree exactly if it holds one object or array and nothing
else, and then its text is the compact text of the value.  That text is a line of
which the same tree is shown.  Any other line is its own text.
-/

namespace Playpen.Display

variable {line : String} {v : Json}

/-- The values that are shown as trees. -/
def IsContainer : Json → Prop
  | .array _ | .object _ => True
  | _ => False

theorem treeOf?_of_ok (hv : IsContainer v) (h : Json.parse none line = .ok v) :
    treeOf? line = some v := by
  unfold treeOf?
  rw [h]
  cases v with
  | array items => rfl
  | object members => rfl
  | null => cases hv
  | bool b => cases hv
  | number n => cases hv
  | string s => cases hv

theorem treeOf?_of_error {f : Json.Fault} (h : Json.parse none line = .error f) :
    treeOf? line = none := by
  unfold treeOf?
  rw [h]

theorem classify_of_some (h : treeOf? line = some v) : classify line = .tree v := by
  unfold classify
  rw [h]

/-- A line that is no tree is its own text. -/
theorem classify_of_none (h : treeOf? line = none) :
    (∀ v, classify line ≠ .tree v) ∧ (classify line).content = line := by
  unfold classify
  rw [h]
  dsimp only
  split
  · rename_i htrue
    exact ⟨fun v hv => (nomatch hv), htrue.symm⟩
  split
  · rename_i hfalse
    exact ⟨fun v hv => (nomatch hv), hfalse.symm⟩
  split
  · exact ⟨fun v hv => (nomatch hv), rfl⟩
  split
  · exact ⟨fun v hv => (nomatch hv), rfl⟩
  · exact ⟨fun v hv => (nomatch hv), rfl⟩

theorem content_classify (h : ∀ v, classify line ≠ .tree v) : (classify line).content = line := by
  cases htree : treeOf? line with
  | none => exact (classify_of_none htree).2
  | some v => exact absurd (classify_of_some htree) (h v)

/-- The compact text of a container is shown as the tree it was written for,
whose text it is.  Blanks around it change nothing, and anything else behind it
makes it a line that is no tree.  A line that is no tree is its own text. -/
theorem classify_written (hplain : v.Plain) (hv : IsContainer v) :
    (classify v.compact = .tree v ∧ (classify v.compact).content = v.compact) ∧
    (∀ before after : String, (∀ c ∈ before.toList, Json.Reader.isBlank c = true) →
      (∀ c ∈ after.toList, Json.Reader.isBlank c = true) →
      classify (before ++ v.compact ++ after) = .tree v) ∧
    (∀ before after : String, (∀ c ∈ before.toList, Json.Reader.isBlank c = true) →
      (∃ c ∈ after.toList, Json.Reader.isBlank c = false) →
      ∀ w, classify (before ++ v.compact ++ after) ≠ .tree w) ∧
    ∀ line, (∀ w, classify line ≠ .tree w) → (classify line).content = line := by
  have hblanks : ∀ before after : String, (∀ c ∈ before.toList, Json.Reader.isBlank c = true) →
      (∀ c ∈ after.toList, Json.Reader.isBlank c = true) →
      classify (before ++ v.compact ++ after) = .tree v :=
    fun _ _ hbefore hafter =>
      classify_of_some (treeOf?_of_ok hv (hplain.parse_blanks hbefore hafter))
  have hwritten : classify v.compact = .tree v := by
    have h := hblanks "" "" (fun c hc => nomatch hc) (fun c hc => nomatch hc)
    rwa [String.empty_append, String.append_empty] at h
  refine ⟨⟨hwritten, by rw [hwritten]; rfl⟩, hblanks, ?_, fun line => content_classify⟩
  intro before after hbefore hafter
  have hdelimits : Json.Delimits after.toList v := by
    rintro n rfl
    cases hv
  obtain ⟨f, hf⟩ := hplain.parse_trailing hbefore hdelimits hafter
  exact (classify_of_none (treeOf?_of_error hf)).1

/-- An object with the least and the greatest number, and a text of which every
character is escaped. -/
def extremes : Json :=
  .object [("least", .number (.int (-2 ^ 63))),
    ("more", .array [.number (.int (2 ^ 64 - 1)), .string "\"\\\n\u0001", .object []])]

theorem plain_extremes : extremes.Plain := by
  refine .object (by decide) (List.forall_mem_cons.mpr ⟨.int (by decide) (by decide), ?_⟩)
  refine List.forall_mem_cons.mpr ⟨.array ?_, List.forall_mem_nil _⟩
  refine List.forall_mem_cons.mpr ⟨.int (by decide) (by decide), ?_⟩
  refine List.forall_mem_cons.mpr ⟨.string _, ?_⟩
  refine List.forall_mem_cons.mpr ⟨.object (by decide) (List.forall_mem_nil _), ?_⟩
  exact List.forall_mem_nil _

theorem classify_written_extremes :
    classify (" " ++ extremes.compact ++ "\n") = .tree extremes ∧
    ∀ w, classify ("" ++ extremes.compact ++ " x") ≠ .tree w := by
  obtain ⟨-, hblanks, htrailing, -⟩ := classify_written plain_extremes trivial
  have hempty : ∀ c ∈ "".toList, Json.Reader.isBlank c = true := List.all_eq_true.mp (by decide)
  have hspace : ∀ c ∈ " ".toList, Json.Reader.isBlank c = true := List.all_eq_true.mp (by decide)
  have hline : ∀ c ∈ "\n".toList, Json.Reader.isBlank c = true := List.all_eq_true.mp (by decide)
  exact ⟨hblanks " " "\n" hspace hline, htrailing "" " x" hempty ⟨'x', by decide, by decide⟩⟩

end Playpen.Display
