import Playpen.Proofs.Text.Pieces
import Playpen.Proofs.Url.Reference

/-!
# Where references lead

A reference without a scheme stays on the origin of its base, whatever else it
holds, unless it begins with two slashes (`readRelative_origin`).  Then it names
an authority of its own, and that it is one that can be read is all that is
asked of it (`readAuthority_ok_iff`).

Tabs and line breaks do not count for the beginning, and a backslash is a slash:
`flattened` is a reference as its reader sees it.
-/

namespace Playpen.Url

/-- The schemes by which modules are fetched. -/
def IsWeb (u : Url) : Prop := u.scheme = "http" ∨ u.scheme = "https"

instance (u : Url) : Decidable u.IsWeb := inferInstanceAs (Decidable (_ ∨ _))

/-- Scheme, host and port. -/
structure Origin where
  scheme : String
  host : Option Host
  port : Option Nat
  deriving DecidableEq

def origin (u : Url) : Origin := ⟨u.scheme, u.host, u.port⟩

section

variable {u b : Url} {s scheme : String} {cs : List Char}

theorem IsWeb.isSpecial (h : u.IsWeb) : isSpecial u.scheme = true := by
  rcases h with h | h
  · rw [h]
    decide
  · rw [h]
    decide

theorem IsWeb.ne_file (h : u.IsWeb) : u.scheme ≠ "file" := by
  rcases h with h | h
  · rw [h]
    decide
  · rw [h]
    decide

theorem IsWeb.of_scheme_eq (h : u.IsWeb) (hscheme : u.scheme = b.scheme) : b.IsWeb := by
  rwa [IsWeb, ← hscheme]

theorem IsWeb.of_origin_eq (h : b.IsWeb) (horigin : u.origin = b.origin) : u.IsWeb :=
  h.of_scheme_eq (congrArg Origin.scheme horigin).symm

/-! ## Paths of web URLs

A URL of the web has its path in segments, so that references can be resolved
against it. -/

theorem readAuthority_kept (h : readAuthority scheme cs = .ok u) :
    u.scheme = scheme ∧ u.isBase = true := by
  unfold readAuthority at h
  dsimp only at h
  split at h
  · cases h
  · obtain ⟨⟨host, port⟩, -, h⟩ := bind_eq_ok.mp h
    cases h
    exact ⟨rfl, rfl⟩

theorem scheme_readFileAuthority (h : readFileAuthority cs = .ok u) : u.scheme = "file" := by
  unfold readFileAuthority at h
  obtain ⟨⟨host, tail⟩, -, h⟩ := bind_eq_ok.mp h
  dsimp only at h
  split at h
  · cases h
    split
    · rfl
    · rfl
  · cases h
    rfl

theorem scheme_readFile {base : Option Url} (hbase : ∀ b, base = some b → b.scheme = "file")
    (h : readFile base cs = .ok u) : u.scheme = "file" := by
  unfold readFile at h
  split at h
  · split at h
    · split at h
      · split at h
        · exact scheme_readFileAuthority h
        · cases h
          rfl
      · cases h
        rfl
    · split at h
      · rename_i b
        split at h
        · cases h
          exact hbase b rfl
        · split at h
          · cases h
            exact hbase b rfl
          · split at h
            · cases h
              rfl
            · cases h
              rfl
      · cases h
        rfl
  · split at h
    · rename_i b
      cases h
      exact hbase b rfl
    · cases h
      rfl

theorem readRelative_kept (hbase : b.isBase = true) (h : readRelative b cs = .ok u) :
    u.scheme = b.scheme ∧ u.isBase = true := by
  unfold readRelative at h
  dsimp only at h
  split at h
  · cases h
    exact ⟨rfl, hbase⟩
  · cases h
    exact ⟨rfl, hbase⟩
  · cases h
    exact ⟨rfl, hbase⟩
  · split at h
    · split at h
      · split at h
        · split at h
          · exact readAuthority_kept h
          · exact readAuthority_kept h
        · cases h
          exact ⟨rfl, rfl⟩
      · cases h
        exact ⟨rfl, rfl⟩
    · cases h
      exact ⟨rfl, rfl⟩

theorem scheme_readRelative (h : readRelative b cs = .ok u) : u.scheme = b.scheme := by
  unfold readRelative at h
  dsimp only at h
  split at h
  · cases h
    rfl
  · cases h
    rfl
  · cases h
    rfl
  · split at h
    · split at h
      · split at h
        · split at h
          · exact (readAuthority_kept h).1
          · exact (readAuthority_kept h).1
        · cases h
          rfl
      · cases h
        rfl
    · cases h
      rfl

theorem isBase_readAfterScheme {base : Option Url}
    (hbase : ∀ b, base = some b → b.IsWeb → b.isBase = true)
    (h : readAfterScheme base scheme cs = .ok u) (hweb : u.IsWeb) : u.isBase = true := by
  unfold readAfterScheme at h
  split at h
  · refine absurd (scheme_readFile ?_ h) hweb.ne_file
    intro b hb
    simpa using (Option.filter_eq_some_iff.mp hb).2
  · split at h
    · dsimp only at h
      split at h
      · rename_i b
        split at h
        · have hb : b.isBase = true := hbase b rfl (hweb.of_scheme_eq (scheme_readRelative h))
          exact (readRelative_kept hb h).2
        · exact (readAuthority_kept h).2
      · exact (readAuthority_kept h).2
    · rename_i hplain
      split at h
      · exact (readAuthority_kept h).2
      · cases h
        rfl
      · cases h
        exact absurd hweb.isSpecial hplain

theorem isBase_resolve {base : Option Url}
    (hbase : ∀ b, base = some b → b.IsWeb → b.isBase = true)
    (h : resolve base s = .ok u) (hweb : u.IsWeb) : u.isBase = true := by
  unfold resolve at h
  dsimp only at h
  split at h
  · exact isBase_readAfterScheme hbase h hweb
  · split at h
    · cases h
    · rename_i b
      split at h
      · cases h
        exact hbase b rfl hweb
      · split at h
        · cases h
        · rename_i hopaque
          split at h
          · rename_i hfile
            refine absurd (scheme_readFile ?_ h) hweb.ne_file
            rintro b' ⟨⟩
            exact hfile
          · exact (readRelative_kept (by simpa using hopaque) h).2

theorem IsRead.isBase (h : u.IsRead) (hweb : u.IsWeb) : u.isBase = true := by
  induction h with
  | parse h =>
    refine isBase_resolve ?_ h hweb
    intro b hb
    cases hb
  | join _ h ih =>
    refine isBase_resolve ?_ h hweb
    rintro b ⟨⟩
    exact ih

/-! ## References without a scheme -/

/-- A reference that names an authority. -/
def LeavesBase : List Char → Prop
  | a :: b :: _ => isSlash true a = true ∧ isSlash true b = true
  | _ => False

/-- What follows the slashes at the start.  Two slashes are the mark of an
authority; where a backslash is one of them, further ones are passed over. -/
def behindSlashes : List Char → List Char
  | a :: b :: rest => if a = '/' ∧ b = '/' then rest else rest.dropWhile (isSlash true)
  | cs => cs

/-- What stands before the first separator. -/
def authorityText (cs : List Char) : List Char := (cut (fun c => isSlash true c || isTail c) cs).1

/-- A host can be read, and a port if there is one. -/
def ValidAuthority (scheme : String) (authority : List Char) : Prop :=
  ∃ hostport, readHostPort scheme (readLogin (cutLogin authority).1) (cutLogin authority).2 =
    .ok hostport

theorem readHostPort_nil (hspecial : Url.isSpecial scheme = true) (login : String × String) :
    readHostPort scheme login [] = .error .emptyHost := by
  simp [readHostPort, cutHost, hspecial]
  rfl

/-- Of what stands behind two slashes only the authority can be wrong. -/
theorem readAuthority_ok_iff (hspecial : Url.isSpecial scheme = true) :
    (∃ u, readAuthority scheme cs = .ok u) ↔ ValidAuthority scheme (authorityText cs) := by
  unfold readAuthority ValidAuthority authorityText
  rw [hspecial]
  dsimp only
  constructor
  · rintro ⟨u, h⟩
    split at h
    · cases h
    · obtain ⟨hostport, hread, -⟩ := bind_eq_ok.mp h
      exact ⟨hostport, hread⟩
  · rintro ⟨hostport, hread⟩
    split
    · rename_i hempty
      rw [List.isEmpty_iff.mp hempty.2.1, readHostPort_nil hspecial] at hread
      cases hread
    · rw [hread]
      exact ⟨_, rfl⟩

/-- A reference that names no authority stays on the origin of its base. -/
theorem readRelative_origin (hspecial : Url.isSpecial b.scheme = true) (h : ¬ LeavesBase cs) :
    ∃ u, readRelative b cs = .ok u ∧ u.origin = b.origin := by
  unfold readRelative
  rw [hspecial]
  dsimp only
  split
  · exact ⟨_, rfl, rfl⟩
  · exact ⟨_, rfl, rfl⟩
  · exact ⟨_, rfl, rfl⟩
  · split
    · rename_i hfirst
      split
      · split
        · rename_i hsecond
          exact absurd ⟨hfirst, hsecond⟩ h
        · exact ⟨_, rfl, rfl⟩
      · exact ⟨_, rfl, rfl⟩
    · exact ⟨_, rfl, rfl⟩

theorem readRelative_leaves (hspecial : Url.isSpecial b.scheme = true) (h : LeavesBase cs) :
    readRelative b cs = readAuthority b.scheme (behindSlashes cs) := by
  match cs, h with
  | a :: d :: rest, ⟨hfirst, hsecond⟩ =>
    unfold readRelative
    rw [hspecial]
    dsimp only
    split
    · rename_i heq
      cases heq
    · rename_i heq
      cases heq
      exact absurd hfirst (by decide)
    · rename_i heq
      cases heq
      exact absurd hfirst (by decide)
    · rename_i heq
      cases heq
      rw [if_pos hfirst]
      dsimp only
      rw [if_pos hsecond, behindSlashes]
      split
      · rfl
      · rfl

/-! ## How a reference begins -/

/-- A reference as its reader sees it: tabs and line breaks do not count, and a
backslash is a slash. -/
def flattened (s : String) : List Char :=
  (s.toList.filter fun c => c ≠ '\t' && c ≠ '\n' && c ≠ '\r').map
    fun c => if c = '\\' then '/' else c

/-- A reference that begins with two slashes. -/
def BeginsWithTwoSlashes (s : String) : Prop := ['/', '/'] <+: flattened s

theorem slashed_eq_slash_iff {c : Char} :
    (if c = '\\' then '/' else c) = '/' ↔ isSlash true c = true := by
  unfold isSlash
  split
  · rename_i h
    simp [h]
  · rename_i h
    simp [h]

theorem isSlash_of_le_space {c : Char} (h : c.toNat ≤ 0x20) : isSlash true c = false := by
  have hne : ∀ d : Char, 0x20 < d.toNat → c ≠ d := by
    rintro d hd rfl
    omega
  simp [isSlash, hne '/' (by decide), hne '\\' (by decide)]

theorem leavesBase_iff {rest : List Char} (hrest : ∀ c ∈ rest, isSlash true c = false) :
    ['/', '/'] <+: (cs ++ rest).map (fun c => if c = '\\' then '/' else c) ↔ LeavesBase cs := by
  have hslash : ∀ c, '/' = (if c = '\\' then '/' else c) ↔ isSlash true c = true :=
    fun c => eq_comm.trans slashed_eq_slash_iff
  match cs with
  | [] =>
    cases rest with
    | nil => simp [LeavesBase]
    | cons c rest => simp [LeavesBase, hslash, hrest c List.mem_cons_self]
  | [c] =>
    cases rest with
    | nil => simp [LeavesBase]
    | cons d rest => simp [LeavesBase, hslash, hrest d List.mem_cons_self]
  | c :: d :: more => simp [LeavesBase, hslash]

/-- What is dropped around a reference that begins with a visible character does
not count for its beginning. -/
theorem cleaned_of_visible {c : Char} {rest : List Char} (h : s.toList = c :: rest)
    (hc : 0x20 < c.toNat) :
    (∃ more, cleaned s = c :: more) ∧ (LeavesBase (cleaned s) ↔ BeginsWithTwoSlashes s) := by
  obtain ⟨before, after, hsplit, hbefore, hafter⟩ := Text.exists_trimBy (·.toNat ≤ 0x20) s.toList
  have hfirst : before = [] := by
    cases before with
    | nil => rfl
    | cons d before =>
      rw [h, List.cons_append, List.cons_append] at hsplit
      obtain ⟨rfl, -⟩ := List.cons.inj hsplit
      have := hbefore c List.mem_cons_self
      simp at this
      omega
  have hkeeps : (c ≠ '\t' && c ≠ '\n' && c ≠ '\r') = true := by
    have : ∀ d : Char, d.toNat ≤ 0x20 → c ≠ d := by
      rintro d hd rfl
      omega
    simp [this '\t' (by decide), this '\n' (by decide), this '\r' (by decide)]
  rw [hfirst, List.nil_append] at hsplit
  constructor
  · cases htrim : Text.trimBy (·.toNat ≤ 0x20) s.toList with
    | nil =>
      rw [htrim, h, List.nil_append] at hsplit
      have := hafter c (hsplit ▸ List.mem_cons_self)
      simp at this
      omega
    | cons d more =>
      rw [htrim, h, List.cons_append] at hsplit
      obtain ⟨rfl, -⟩ := List.cons.inj hsplit
      rw [cleaned, htrim, List.filter_cons, if_pos hkeeps]
      exact ⟨_, rfl⟩
  · unfold BeginsWithTwoSlashes flattened
    rw [hsplit, List.filter_append]
    refine (leavesBase_iff ?_).symm
    intro d hd
    have hlow := hafter d (List.mem_filter.mp hd).1
    exact isSlash_of_le_space (by simpa using hlow)

end

end Playpen.Url
