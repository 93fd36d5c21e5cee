import Playpen.Proofs.Loading.Basic
import Playpen.Proofs.Registry.Admission
import Playpen.Proofs.Walk.Pursuit

/-!
# Refused or failed

A dependency that cannot be used is either refused by the registry, and then it
is not listed, or its load fails, and then its listing says so.  The errors are
split accordingly: those of a walk, of a fetch and of a trial are never
refusals, and what `begin` answers always is one.
-/

namespace Playpen.Dependency

/-! ## Which errors are refusals -/

/-- The errors of a dependency that is not listed. -/
def Error.IsRefusal : Error → Prop
  | .reservedName _ | .bindingConflict _ _ _ => True
  | _ => False

variable {r : Registry} {d : Dependency} {e : Error}

/-! ## The errors of a walk -/

/-- A network that fails as a client does: a fetch does not come through, or
it is answered with a status that is no success. -/
def FailsFetching (network : String → Reply) : Prop :=
  ∀ url e, network url = .answered (.error e) →
    (∃ message, e = .fetch url message) ∨ ∃ code, e = .status url code

theorem FailsFetching.not_isRefusal {network : String → Reply} (h : FailsFetching network)
    {url : String} (he : network url = .answered (.error e)) : ¬ e.IsRefusal := by
  rcases h url e he with ⟨message, rfl⟩ | ⟨code, rfl⟩ <;> exact id

theorem resolveSpecifier_error {referrer : Url} {specifier : String}
    (h : resolveSpecifier referrer specifier = .error e) :
    e = .unresolvable specifier referrer.text := by
  unfold resolveSpecifier at h
  dsimp only at h
  split at h
  · split at h
    · cases h
    · cases h
      rfl
  · split at h
    · -- a path
      split at h
      · cases h
      · cases h
        rfl
    · split at h
      · cases h
        rfl
      · -- a bare name
        split at h
        · cases h
        · cases h
          rfl

theorem scanImports_error {url source : String} (h : scanImports url source = .error e) :
    ∃ message, e = .malformed url message := by
  unfold scanImports at h
  split at h
  · cases h
    exact ⟨_, rfl⟩
  · dsimp only at h
    split at h
    · cases h
    · cases h
      exact ⟨_, rfl⟩

theorem moduleUrl_error {cdnBase : String} (h : d.moduleUrl cdnBase = .error e) :
    ∃ message, e = .invalidUrl (d.moduleAddress cdnBase) message := by
  unfold moduleUrl at h
  dsimp only at h
  split at h
  · cases h
  · cases h
    exact ⟨_, rfl⟩

namespace Walk

theorem meet_error {name : String} {limit : Nat} {referrer : Url} :
    ∀ {specifiers : List String} {acc : List String × List Url},
      meet name limit referrer specifiers acc = .error e → ¬ e.IsRefusal
  | [], acc, h => by
      rw [meet] at h
      cases h
  | s :: rest, (seen, next), h => by
      rw [meet] at h
      rcases bind_eq_error.mp h with herror | ⟨u, -, h⟩
      · rw [resolveSpecifier_error herror]
        exact id
      · split at h
        · exact meet_error h
        · split at h
          · cases h
            exact id
          · exact meet_error h

theorem descend_error :
    ∀ {depth : List (Url × String)} {w : Walk} {next : List Url},
      w.descend depth next = .error e → ¬ e.IsRefusal
  | [], w, next, h => by
      rw [descend] at h
      cases h
  | (url, text) :: rest, w, next, h => by
      rw [descend] at h
      rcases bind_eq_error.mp h with herror | ⟨specifiers, -, h⟩
      · obtain ⟨message, rfl⟩ := scanImports_error herror
        exact id
      · rcases bind_eq_error.mp h with herror | ⟨met, -, h⟩
        · exact meet_error herror
        · exact descend_error h

/-- What a walk ends with is the client's error, or its own about a module. -/
theorem advance_failed {network : String → Reply} (hnetwork : FailsFetching network) {fuel : Nat}
    {w : Walk} (h : (w.advance network fuel).2 = .failed e) : ¬ e.IsRefusal := by
  induction fuel generalizing w with
  | zero =>
    rw [advance] at h
    cases h
  | succ fuel ih =>
    by_cases hempty : w.frontier = []
    · rw [advance_empty hempty] at h
      cases h
    · rw [advance_succ hempty] at h
      cases hask : ask network w.frontier with
      | mk new result =>
        rw [hask] at h
        cases result with
        | error e' =>
          cases h
          obtain ⟨m, -, hm⟩ := ask_error hask
          exact hnetwork.not_isRefusal hm
        | ok wanted =>
          simp only at h
          split at h
          · cases h
          · cases hdescend : w.descend (pages wanted) [] with
            | error e' =>
              rw [hdescend] at h
              cases h
              exact descend_error hdescend
            | ok w' =>
              rw [hdescend] at h
              exact ih h

end Walk

/-! ## The errors of a load -/

namespace Load

variable {network : String → Reply} {l l' : Load}

/-- A load that waits holds on to its dependency and its ticket. -/
theorem resume_waiting (h : (l.resume network).2 = .waiting l') :
    l'.ticket = l.ticket ∧ ∃ w, l'.walk = .ok w := by
  unfold resume at h
  split at h
  · cases h
  · rename_i w hw
    split at h <;> cases h
    exact ⟨rfl, _, rfl⟩

theorem resume_fetched (hnetwork : FailsFetching network)
    (hwalk : ∀ e, l.walk = .error e → ¬ e.IsRefusal)
    (h : (l.resume network).2 = .fetched (.error e)) : ¬ e.IsRefusal := by
  unfold resume at h
  split at h
  · rename_i e' he'
    cases h
    exact hwalk e he'
  · rename_i w hw
    split at h <;> cases h
    rename_i asked hresume
    exact Walk.advance_failed hnetwork (congrArg Prod.snd hresume)

theorem tried_error {limits : Limits} {name : String} {b : Bundle}
    (h : tried limits name b = .error e) : ∃ message, e = .evaluation name message := by
  unfold tried at h
  split at h <;> cases h
  · exact ⟨_, rfl⟩
  · exact ⟨_, rfl⟩

theorem settle_result_error {limits : Limits} {fetched : Except Error Bundle}
    (hfetched : ∀ e, fetched = .error e → ¬ e.IsRefusal)
    (h : (l.settle limits r fetched).result = .error e) : ¬ e.IsRefusal := by
  unfold settle finish at h
  split at h
  · split at h <;> cases h
  · rename_i e' he'
    cases h
    rcases bind_eq_error.mp he' with herror | ⟨b, -, htried⟩
    · exact hfetched e herror
    · obtain ⟨message, rfl⟩ := tried_error htried
      exact id

end Load

end Playpen.Dependency
