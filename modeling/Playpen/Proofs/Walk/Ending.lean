import Playpen.Proofs.Walk.Pursuit
import Mathlib.Data.List.Infix

/-!
# The last round of a walk

A walk goes on by rounds, and each but the last is alike: the depth is asked for,
all of it comes, and the walk descends.  Whatever else there is to say of where
a walk stands is about its last round, which is one of four (`Walk.Ends`), and
about the walk that begins it, which is in agreement with its history like any
other (`Walk.Follows.advance_ends`, `pursue_ends`).

The rounds are counted on the way.  `Walk.tally` is `advance` with a counter.
-/

namespace Playpen.Dependency

/-! ## Rounds -/

/-- How many rounds the walk begins when it goes on: one, unless its depth has
been asked for before, or there is none. -/
def Walk.begins (w : Walk) : Nat :=
  if w.frontier.isEmpty || w.frontier.any (·.asked) then 0 else 1

/-- Goes on like `advance`, and counts the rounds that are begun. -/
def Walk.tally (network : String → Reply) : Nat → Walk → Nat × List String × Progress
  | 0, w => (0, [], .waiting w)
  | fuel + 1, w =>
    if w.frontier.isEmpty then (0, [], .finished w.bundle)
    else
      match Walk.ask network w.frontier with
      | (new, .error e) => (w.begins, new, .failed e)
      | (new, .ok wanted) =>
        if wanted.any (·.text.isNone) then (w.begins, new, .waiting { w with frontier := wanted })
        else
          match w.descend (pages wanted) [] with
          | .error e => (w.begins, new, .failed e)
          | .ok w' =>
            let (more, asked, p) := Walk.tally network fuel w'
            (w.begins + more, new ++ asked, p)

/-- Counting changes nothing. -/
theorem Walk.tally_snd (network : String → Reply) (fuel : Nat) (w : Walk) :
    (w.tally network fuel).2 = w.advance network fuel := by
  induction fuel generalizing w with
  | zero => rfl
  | succ fuel ih =>
    by_cases hempty : w.frontier = []
    · rw [Walk.advance_empty hempty, Walk.tally, if_pos (by rw [hempty]; rfl)]
    · rw [Walk.advance_succ hempty, Walk.tally, if_neg (by simpa using hempty)]
      cases hask : Walk.ask network w.frontier with
      | mk new result =>
        cases result with
        | error e => rfl
        | ok wanted =>
          cases hcome : wanted.any (·.text.isNone) with
          | true => simp only [hcome, if_true]
          | false =>
            simp only [hcome, Bool.false_eq_true, if_false]
            cases w.descend (pages wanted) [] with
            | error e => rfl
            | ok w' =>
              dsimp only
              rw [← ih w']

/-- How many addresses there is room for. -/
def Walk.room (w : Walk) : Nat := max w.limit 1 - w.seen.length

/-- How a walk ends in the round that begins at `w`: what is newly asked for,
and how the walk then stands. -/
inductive Walk.Ends (network : String → Reply) (w : Walk) : List String → Progress → Prop where
  /-- Nothing is ahead. -/
  | finished : w.frontier = [] → Ends network w [] (.finished w.bundle)
  /-- A module of the depth fails to come. -/
  | unreachable {new : List String} {e : Error} : w.frontier ≠ [] →
      Walk.ask network w.frontier = (new, .error e) → Ends network w new (.failed e)
  /-- A module of the depth is yet to come. -/
  | kept {new : List String} {wanted : List Wanted} :
      Walk.ask network w.frontier = (new, .ok wanted) → wanted.any (·.text.isNone) = true →
      Ends network w new (.waiting { w with frontier := wanted })
  /-- All of the depth has come, and one of its modules does not do. -/
  | rejected {new : List String} {wanted : List Wanted} {e : Error} : w.frontier ≠ [] →
      Walk.ask network w.frontier = (new, .ok wanted) → wanted.any (·.text.isNone) = false →
      w.descend (pages wanted) [] = .error e → Ends network w new (.failed e)

variable {name : String} {entry : Url} {limit : Nat} {before : List (String → Reply)}
  {network : String → Reply} {w w' : Walk} {requests : List (Nat × String)}
  {modules : List (Url × String)} {ahead : List Url}

theorem Walk.descend_name {depth : List (Url × String)} {next : List Url}
    (h : w.descend depth next = .ok w') : w'.name = w.name := by
  induction depth generalizing w next with
  | nil =>
    rw [Walk.descend] at h
    cases h
    rfl
  | cons m rest ih =>
    rw [Walk.descend] at h
    obtain ⟨specifiers, -, h⟩ := bind_eq_ok.mp h
    obtain ⟨⟨seen', next'⟩, -, h⟩ := bind_eq_ok.mp h
    have hrest := ih h
    exact hrest

theorem Walk.Tracks.seen_length (h : w.Tracks entry limit modules ahead) :
    w.seen.length = modules.length + ahead.length := by
  rw [h.seen_eq]
  simp [met]

theorem Walk.Tracks.seen_le (h : w.Tracks entry limit modules ahead) :
    w.seen.length ≤ max limit 1 := by
  rw [h.seen_eq, List.length_map]
  exact h.explored.size

/-- A depth that is not empty takes up room. -/
theorem Walk.Tracks.room_le {depth : List (Url × String)}
    (h : w.Tracks entry limit modules (depth.map Prod.fst))
    (hdescend : w.descend depth [] = .ok w') : w'.room + w'.begins ≤ w.room := by
  obtain ⟨h', -, -⟩ := h.nextDepth hdescend
  have hlength := h.seen_length
  have hlength' := h'.seen_length
  have hle := h'.seen_le
  rw [List.length_append] at hlength'
  rw [List.length_map] at hlength hlength'
  unfold Walk.room Walk.begins
  rw [h.limit_eq, h'.limit_eq]
  cases hfrontier : w'.frontier with
  | nil =>
    simp
    omega
  | cons m rest =>
    rw [hfrontier, List.length_cons] at hlength'
    split <;> omega

/-- How a walk that goes on comes to stand: some walk begins its last round.
That walk is in agreement with the history, too, and the rounds before have taken
up room. -/
theorem Walk.Follows.advance_ends {fuel : Nat}
    (h : w.Follows entry limit before (before ++ [network]) requests modules)
    (hfuel : w.roundsLeft ≤ fuel) :
    ∃ (w' : Walk) (modules' : List (Url × String)) (requests' : List (Nat × String))
      (new : List String),
      w'.Follows entry limit before (before ++ [network]) requests' modules' ∧
      w'.name = w.name ∧
      w'.Ends network new (w.advance network fuel).2 ∧
      requests ++ (w.advance network fuel).1.map (before.length, ·) =
        requests' ++ new.map (before.length, ·) ∧
      (w.tally network fuel).1 + w'.room ≤ w.room + w.begins := by
  induction fuel generalizing w requests modules with
  | zero =>
    unfold Walk.roundsLeft at hfuel
    split at hfuel <;> omega
  | succ fuel ih =>
    by_cases hempty : w.frontier = []
    · refine ⟨w, modules, requests, [], h, rfl, ?_, ?_, ?_⟩
      · rw [Walk.advance_empty hempty]
        exact .finished hempty
      · rw [Walk.advance_empty hempty]
      · rw [Walk.tally, if_pos (by rw [hempty]; rfl)]
        omega
    · have htally : ∀ n, n = w.begins → n + w.room ≤ w.room + w.begins := by omega
      rw [Walk.advance_succ hempty, Walk.tally, if_neg (by simpa using hempty)]
      cases hask : Walk.ask network w.frontier with
      | mk new result =>
        cases result with
        | error e =>
          exact ⟨w, modules, requests, new, h, rfl, .unreachable hempty hask, rfl, htally _ rfl⟩
        | ok wanted =>
          obtain ⟨hafter, hasked⟩ := h.ask hask
          cases hcome : wanted.any (·.text.isNone) with
          | true =>
            simp only [hcome, if_true]
            exact ⟨w, modules, requests, new, h, rfl, .kept hask hcome, rfl, htally _ rfl⟩
          | false =>
            simp only [hcome, Bool.false_eq_true, if_false]
            cases hdescend : w.descend (pages wanted) [] with
            | error e =>
              exact ⟨w, modules, requests, new, h, rfl, .rejected hempty hask hcome hdescend, rfl,
                htally _ rfl⟩
            | ok w₁ =>
              have hdescend' := hdescend
              rw [← Walk.descend_frontier w wanted] at hdescend'
              obtain ⟨hnext, hleft⟩ := hafter.descend hasked hcome hdescend' before
              have hfewer : w₁.roundsLeft ≤ fuel := by
                unfold Walk.roundsLeft at hfuel
                rw [if_neg hempty, h.tracks.limit_eq] at hfuel
                exact Nat.le_of_lt_succ (Nat.lt_of_lt_of_le hleft hfuel)
              obtain ⟨w', modules', requests', last, hfollows, hname, hends, hrequests, hcount⟩ :=
                ih hnext hfewer
              have htracks := hafter.tracks
              rw [← pages_urls hcome] at htracks
              have hroom := htracks.room_le hdescend'
              refine ⟨w', modules', requests', last, hfollows, ?_, hends, ?_, ?_⟩
              · rw [hname, Walk.descend_name hdescend]
              · rw [← hrequests, List.map_append, ← List.append_assoc]
              · change w.begins + (w₁.tally network fuel).1 + w'.room ≤ w.room + w.begins
                have : Walk.room { w with frontier := wanted } = w.room := rfl
                omega

/-! ## What the last round leaves -/

/-- Asking for a depth asks for modules that nobody has asked for yet, in order,
up to one that fails. -/
theorem ask_new (network : String → Reply) : ∀ frontier : List Wanted,
    (Walk.ask network frontier).1 <+: (frontier.filter (!·.asked)).map (·.url.text)
  | [] => List.prefix_rfl
  | m :: rest => by
      have hhead : ((m :: rest).filter (!·.asked)).map (·.url.text) =
          (if m.asked then [] else [m.url.text]) ++
            (rest.filter (!·.asked)).map (·.url.text) := by
        cases hasked : m.asked <;> simp [hasked]
      have hrest : (if m.asked then [] else [m.url.text]) ++ (Walk.ask network rest).1 <+:
          (if m.asked then [] else [m.url.text]) ++
            (rest.filter (!·.asked)).map (·.url.text) :=
        (List.prefix_append_right_inj _).mpr (ask_new network rest)
      rw [hhead, Walk.ask]
      split
      · exact hrest
      · split
        · exact hrest
        · exact hrest
        · exact List.prefix_append _ _

/-- Before it is asked, a walk agrees with one more moment. -/
theorem Walk.Follows.now (h : w.Follows entry limit before before requests modules)
    (network : String → Reply) :
    w.Follows entry limit before (before ++ [network]) requests modules :=
  ⟨h.tracks, h.requested, h.uniform, h.heard, fun m hm => (h.answered m hm).snoc network⟩

section

variable {new : List String} {p : Progress}
  (h : w.Follows entry limit before (before ++ [network]) requests modules)

include h

/-- A walk that is left waiting has asked for all of its depth, and agrees with
the history once more. -/
theorem Walk.Ends.waiting (hends : w.Ends network new (.waiting w')) :
    w'.Follows entry limit (before ++ [network]) (before ++ [network])
        (requests ++ new.map (before.length, ·)) modules ∧
      w'.name = w.name ∧ w'.room = w.room ∧ w'.begins = 0 ∧
      ∃ m ∈ w'.frontier, m.asked = true ∧ m.text = none := by
  cases hends with
  | @kept _ wanted hask hcome =>
    obtain ⟨hafter, hasked⟩ := h.ask hask
    obtain ⟨m, hm, hnone⟩ := List.any_eq_true.mp hcome
    refine ⟨hafter, rfl, rfl, ?_, m, hm, hasked m hm, Option.isNone_iff_eq_none.mp hnone⟩
    have hany : wanted.any (·.asked) = true := List.any_eq_true.mpr ⟨m, hm, hasked m hm⟩
    simp [Walk.begins, hany]

/-- What has been asked for is an initial part of what has been met, however the
round ends. -/
theorem Walk.Ends.requested (hends : w.Ends network new p) :
    (requests ++ new.map (before.length, ·)).map Prod.snd <+:
      (met modules (w.frontier.map (·.url))).map Url.text := by
  have hmet : (met modules (w.frontier.map (·.url))).map Url.text =
      modules.map (·.1.text) ++ w.frontier.map (·.url.text) := by
    simp [met, Function.comp_def]
  -- all of the depth has been asked for once it comes, or is waited for
  have hall : ∀ {wanted : List Wanted}, Walk.ask network w.frontier = (new, .ok wanted) →
      (requests ++ new.map (before.length, ·)).map Prod.snd <+:
        (met modules (w.frontier.map (·.url))).map Url.text := by
    intro wanted hask
    obtain ⟨rfl, -, -⟩ := ask_ok hask
    obtain ⟨hafter, hasked⟩ := h.ask hask
    have hurls : (w.frontier.map (Wanted.poll network)).map (·.url.text) =
        w.frontier.map (·.url.text) := by
      simp
    rw [hmet, hafter.requested, List.filter_eq_self.mpr hasked, hurls]
  cases hends with
  | finished hempty =>
    rw [hmet, List.map_nil, List.append_nil, h.requested, hempty]
    exact List.prefix_rfl
  | unreachable _ hask =>
    have hnew : new <+: (w.frontier.filter (!·.asked)).map (·.url.text) := by
      have hpast := ask_new network w.frontier
      rwa [hask] at hpast
    have hsnd : (new.map (before.length, ·)).map Prod.snd = new := by
      rw [List.map_map]
      exact List.map_id new
    rw [hmet, List.map_append, h.requested, hsnd, List.append_assoc, List.prefix_append_right_inj]
    rcases h.uniform with hasked | hfresh
    · have hnone : w.frontier.filter (!·.asked) = [] :=
        List.filter_eq_nil_iff.mpr (by simpa using hasked)
      rw [hnone, List.map_nil, List.prefix_nil] at hnew
      rw [hnew, List.append_nil, List.filter_eq_self.mpr hasked]
    · have hnone : w.frontier.filter (·.asked) = [] :=
        List.filter_eq_nil_iff.mpr (by simpa using hfresh)
      rw [List.filter_eq_self.mpr (by simpa using hfresh)] at hnew
      rw [hnone, List.map_nil, List.nil_append]
      exact hnew
  | kept hask _ => exact hall hask
  | rejected _ hask _ _ => exact hall hask

end

/-! ## The last round of a pursuit -/

theorem Pursuit.next_of_over {p : Pursuit} (h : ∀ w, p.progress ≠ .waiting w)
    (network : String → Reply) :
    (p.next network).progress = p.progress ∧ (p.next network).requests = p.requests := by
  unfold Pursuit.next
  split
  · rename_i w hw
    exact absurd hw (h w)
  · exact ⟨rfl, rfl⟩
  · exact ⟨rfl, rfl⟩

/-- A pursuit stands as the last round of its walk has ended, at the last moment
or before. -/
theorem pursue_ends (name : String) (entry : Url) (limit : Nat) {moments : List (String → Reply)}
    (hmoments : moments ≠ []) :
    ∃ (before : List (String → Reply)) (network : String → Reply) (w : Walk)
      (modules : List (Url × String)) (requests : List (Nat × String)) (new : List String),
      before ++ [network] <+: moments ∧ w.name = name ∧
      w.Follows entry limit before (before ++ [network]) requests modules ∧
      w.Ends network new (pursue (Walk.start name entry limit) moments).progress ∧
      (pursue (Walk.start name entry limit) moments).requests =
        requests ++ new.map (before.length, ·) ∧
      ∀ w', (pursue (Walk.start name entry limit) moments).progress = .waiting w' →
        before ++ [network] = moments := by
  induction moments using List.reverseRecOn with
  | nil => exact absurd rfl hmoments
  | append_singleton moments network ih =>
    have hwaiting : ∀ w, (pursue (Walk.start name entry limit) moments).progress = .waiting w →
        w.name = name ∧ ∃ modules, w.Follows entry limit moments moments
          (pursue (Walk.start name entry limit) moments).requests modules := by
      intro w hw
      by_cases hfirst : moments = []
      · subst hfirst
        cases hw
        exact ⟨rfl, [], Walk.Follows.start name entry limit⟩
      · obtain ⟨before, last, w₀, modules, requests, new, -, hname, hfollows, hends, hrequests,
          hlast⟩ := ih hfirst
        rw [hw] at hends
        obtain ⟨hfollows', hname', -⟩ := hends.waiting hfollows
        rw [hlast w hw] at hfollows'
        rw [hrequests]
        exact ⟨hname'.trans hname, modules, hfollows'⟩
    rw [pursue_snoc]
    obtain ⟨hreplies, -⟩ := pursue_agrees name entry limit moments
    by_cases hover : ∀ w, (pursue (Walk.start name entry limit) moments).progress ≠ .waiting w
    · -- nothing happens any more
      have hfirst : moments ≠ [] := by
        rintro rfl
        exact hover _ rfl
      obtain ⟨before, last, w, modules, requests, new, hpast, hname, hfollows, hends, hrequests,
        -⟩ := ih hfirst
      obtain ⟨hprogress, hsame⟩ := Pursuit.next_of_over hover network
      rw [hprogress, hsame]
      exact ⟨before, last, w, modules, requests, new, hpast.trans (List.prefix_append _ _), hname,
        hfollows, hends, hrequests, fun w' hw' => absurd hw' (hover w')⟩
    · obtain ⟨w, hprogress⟩ := not_forall_not.mp hover
      obtain ⟨hname, modules, hfollows⟩ := hwaiting w hprogress
      obtain ⟨w', modules', requests', new, hfollows', hname', hends, hrequests, -⟩ :=
        (hfollows.now network).advance_ends w.roundsLeft_le_rounds
      refine ⟨moments, network, w', modules', requests', new, List.prefix_rfl, hname'.trans hname,
        hfollows', ?_, ?_, fun _ _ => rfl⟩
      · simp only [Pursuit.next, hprogress]
        exact hends
      · simp only [Pursuit.next, hprogress, hreplies]
        exact hrequests

end Playpen.Dependency
