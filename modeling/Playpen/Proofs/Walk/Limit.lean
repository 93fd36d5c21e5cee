import Playpen.Proofs.Walk.Ending
import Playpen.Proofs.Walk.Reachable
import Playpen.Proofs.Walk.Worklist

/-!
# The limit of a walk

A walk takes up room: it may meet as many addresses as its limit says, and one
in any case, its entry.  Every round that is begun takes up some, and so does
every request, so there is an end to both, however large the graph
(`Walk.Follows.roundsBegun_le`, `pursue_requests`).  A walk that is not over
waits for an answer, so a network that answers everything sooner or later brings
it to an end (`pursue_over`).

The limit is exact.  Whatever stops a walk is in the graph below its entry
(`Obstacle`): an answer that is an error, a module that cannot be read, a
specifier that stands for nothing, or more addresses than there is room for.
Where the first three are nowhere, the walk fails exactly if there are too many.
-/

namespace Playpen.Dependency

variable {name : String} {entry : Url} {limit : Nat} {before replies : List (String → Reply)}
  {w : Walk} {requests : List (Nat × String)} {modules : List (Url × String)} {ahead : List Url}

/-! ## Rounds -/

/-- How many rounds a walk begins while the network says one thing after the
other. -/
def roundsBegun (w : Walk) : List (String → Reply) → Nat
  | [] => 0
  | network :: moments =>
    match w.tally network w.rounds with
    | (n, _, .waiting w') => n + roundsBegun w' moments
    | (n, _, _) => n

/-- A walk begins no more rounds than there is room for addresses, and the one it
is about to begin. -/
theorem Walk.Follows.roundsBegun_le {moments : List (String → Reply)}
    (h : w.Follows entry limit before before requests modules) :
    roundsBegun w moments ≤ w.room + w.begins := by
  induction moments generalizing w before requests modules with
  | nil => exact Nat.zero_le _
  | cons network moments ih =>
    obtain ⟨w₀, modules', requests', new, hfollows, -, hends, -, hcount⟩ :=
      (h.now network).advance_ends w.roundsLeft_le_rounds
    rw [← Walk.tally_snd] at hends
    rw [roundsBegun]
    split
    · rename_i n new' w' htally
      rw [htally] at hends hcount
      obtain ⟨hfollows', -, hroom, hbegins, -⟩ := hends.waiting hfollows
      have hlater := ih hfollows'
      dsimp only at hcount
      omega
    · rename_i n new' p htally
      rw [htally] at hcount
      dsimp only at hcount
      omega

theorem Walk.room_start (name : String) (entry : Url) (limit : Nat) :
    (Walk.start name entry limit).room + (Walk.start name entry limit).begins = max limit 1 := by
  show max limit 1 - 1 + 1 = max limit 1
  omega

/-! ## Requests -/

theorem pursue_requests (name : String) (entry : Url) (limit : Nat)
    (moments : List (String → Reply)) :
    ((pursue (Walk.start name entry limit) moments).requests.map Prod.snd).Nodup ∧
    (pursue (Walk.start name entry limit) moments).requests.length ≤ max limit 1 := by
  by_cases hmoments : moments = []
  · subst hmoments
    exact ⟨List.nodup_nil, Nat.zero_le _⟩
  · obtain ⟨before, network, w, modules, requests, new, -, -, hfollows, hends, hrequests, -⟩ :=
      pursue_ends name entry limit hmoments
    have hpast := hends.requested hfollows
    rw [← hrequests] at hpast
    have hexp := hfollows.tracks.explored
    refine ⟨hexp.distinct.sublist hpast.sublist, ?_⟩
    have hlength := hpast.length_le
    rw [List.length_map, List.length_map] at hlength
    exact hlength.trans hexp.size

/-! ## The end -/

/-- A walk that is not over waits for the answer to a request it has made. -/
theorem pursue_unanswered {moments : List (String → Reply)} (hmoments : moments ≠ []) {w : Walk}
    (hw : (pursue (Walk.start name entry limit) moments).progress = .waiting w) :
    ∃ request ∈ (pursue (Walk.start name entry limit) moments).requests,
      answerTo moments request = none := by
  obtain ⟨before, network, w₀, modules, requests, new, -, -, hfollows, hends, hrequests, hlast⟩ :=
    pursue_ends name entry limit hmoments
  rw [hw] at hends
  obtain ⟨hfollows', -, -, -, m, hm, hasked, hnone⟩ := hends.waiting hfollows
  rw [hlast w hw] at hfollows'
  rw [hrequests]
  rcases hfollows'.heard m hm with ⟨hfresh, -⟩ | ⟨-, k, -, hmem, hanswer⟩
  · rw [hasked] at hfresh
    cases hfresh
  · rw [hnone] at hanswer
    exact ⟨_, hmem, hanswer⟩

/-- The first moments of a network that goes on forever. -/
def firstMoments (stream : Nat → String → Reply) (n : Nat) : List (String → Reply) :=
  (List.range n).map stream

theorem firstMoments_succ (stream : Nat → String → Reply) (n : Nat) :
    firstMoments stream (n + 1) = firstMoments stream n ++ [stream n] := by
  simp [firstMoments, List.range_succ]

theorem Pursuit.requests_next (p : Pursuit) (network : String → Reply) :
    p.requests <+: (p.next network).requests := by
  unfold Pursuit.next
  split
  · exact List.prefix_append _ _
  · exact List.prefix_rfl
  · exact List.prefix_rfl

theorem requests_firstMoments (w : Walk) (stream : Nat → String → Reply) {n n' : Nat}
    (h : n ≤ n') : (pursue w (firstMoments stream n)).requests <+:
      (pursue w (firstMoments stream n')).requests := by
  induction n', h using Nat.le_induction with
  | base => exact List.prefix_rfl
  | succ n' _ ih =>
    rw [firstMoments_succ, pursue_snoc]
    exact ih.trans (Pursuit.requests_next _ _)

/-- A network answers in the end: whatever it is asked and when, some moment from
then on has an answer. -/
def AnswersInTime (stream : Nat → String → Reply) : Prop :=
  ∀ k url, ∃ j, k ≤ j ∧ stream j url ≠ .waiting

theorem AnswersInTime.answerTo {stream : Nat → String → Reply} (h : AnswersInTime stream)
    (request : Nat × String) :
    ∃ N, ∀ n, N ≤ n → answerTo (firstMoments stream n) request ≠ none := by
  obtain ⟨j, hj, hanswer⟩ := h request.1 request.2
  refine ⟨j + 1, fun n hn hnone => ?_⟩
  have hmem : stream j ∈ (firstMoments stream n).drop request.1 := by
    apply List.mem_iff_getElem?.mpr
    refine ⟨j - request.1, ?_⟩
    have hindex : request.1 + (j - request.1) = j := by omega
    rw [List.getElem?_drop, hindex]
    simp [firstMoments, List.getElem?_range (show j < n by omega)]
  have hwaiting := List.findSome?_eq_none_iff.mp hnone _ hmem
  cases hreply : stream j request.2 with
  | waiting => exact hanswer hreply
  | answered r =>
    rw [hreply] at hwaiting
    cases hwaiting

theorem AnswersInTime.answersAll {stream : Nat → String → Reply} (h : AnswersInTime stream)
    (requests : List (Nat × String)) :
    ∃ N, ∀ n, N ≤ n → ∀ r ∈ requests, Dependency.answerTo (firstMoments stream n) r ≠ none := by
  induction requests with
  | nil => exact ⟨0, fun _ _ r hr => absurd hr List.not_mem_nil⟩
  | cons request rest ih =>
    obtain ⟨N, hN⟩ := h.answerTo request
    obtain ⟨N', hN'⟩ := ih
    refine ⟨max N N', fun n hn => List.forall_mem_cons.mpr ⟨hN n (by omega), hN' n (by omega)⟩⟩

/-- A walk that never ends comes to ask for more than it has: what it has asked
for is answered in the end, and then it waits for something else. -/
theorem requests_grow {stream : Nat → String → Reply} (hanswers : AnswersInTime stream)
    (hwaiting : ∀ n, ∃ w, (pursue (Walk.start name entry limit)
      (firstMoments stream n)).progress = .waiting w) (n : Nat) :
    ∃ n', (pursue (Walk.start name entry limit) (firstMoments stream n)).requests.length <
      (pursue (Walk.start name entry limit) (firstMoments stream n')).requests.length := by
  obtain ⟨N, hN⟩ := hanswers.answersAll
    (pursue (Walk.start name entry limit) (firstMoments stream n)).requests
  obtain ⟨w, hw⟩ := hwaiting (max (n + 1) N)
  have hmoments : firstMoments stream (max (n + 1) N) ≠ [] := by
    simp [firstMoments]
  obtain ⟨request, hrequest, hnone⟩ := pursue_unanswered hmoments hw
  have hn : n ≤ max (n + 1) N := by omega
  obtain ⟨further, hfurther⟩ := requests_firstMoments (Walk.start name entry limit) stream hn
  refine ⟨max (n + 1) N, ?_⟩
  rw [← hfurther] at hrequest ⊢
  rcases List.mem_append.mp hrequest with hold | hnew
  · exact absurd hnone (hN _ (Nat.le_max_right (n + 1) N) request hold)
  · have hpos := List.length_pos_of_mem hnew
    rw [List.length_append]
    omega

/-- Every walk comes to an end if every request is answered in the end: there is
no room for ever more requests. -/
theorem pursue_over (name : String) (entry : Url) (limit : Nat) {stream : Nat → String → Reply}
    (hanswers : AnswersInTime stream) :
    ∃ n, ∀ w, (pursue (Walk.start name entry limit) (firstMoments stream n)).progress ≠
      .waiting w := by
  by_contra hnever
  have hwaiting : ∀ n, ∃ w, (pursue (Walk.start name entry limit)
      (firstMoments stream n)).progress = .waiting w := by
    intro n
    by_contra hover
    exact hnever ⟨n, fun w hw => hover ⟨w, hw⟩⟩
  have hmore : ∀ k, ∃ n, k ≤ (pursue (Walk.start name entry limit)
      (firstMoments stream n)).requests.length := by
    intro k
    induction k with
    | zero => exact ⟨0, Nat.zero_le _⟩
    | succ k ih =>
      obtain ⟨n, hn⟩ := ih
      obtain ⟨n', hn'⟩ := requests_grow hanswers hwaiting n
      exact ⟨n', by omega⟩
  obtain ⟨n, hn⟩ := hmore (max limit 1 + 1)
  have hroom := (pursue_requests name entry limit (firstMoments stream n)).2
  omega

/-! ## What stops a walk -/

section

variable {network : String → Except Error String}

/-- Something in the graph below the entry that stops a walk with the error
`e`. -/
inductive Obstacle (network : String → Except Error String) (name : String) (limit : Nat)
    (entry : Url) : Error → Prop where
  /-- A module that cannot be fetched. -/
  | unanswered {u : Url} {e : Error} : Reachable network entry u → network u.text = .error e →
      Obstacle network name limit entry e
  /-- A module that cannot be read. -/
  | malformed {u : Url} {text : String} {e : Error} : Reachable network entry u →
      network u.text = .ok text → scanImports u.text text = .error e →
      Obstacle network name limit entry e
  /-- A specifier that stands for nothing. -/
  | unresolvable {u : Url} {text s : String} {specifiers : List String} {e : Error} :
      Reachable network entry u → network u.text = .ok text →
      scanImports u.text text = .ok specifiers → s ∈ specifiers → resolveSpecifier u s = .error e →
      Obstacle network name limit entry e
  /-- More addresses than there is room for. -/
  | crowded : (max limit 1 : Nat) < (addresses network entry).encard →
      Obstacle network name limit entry (.tooManyModules name limit)

/-- Meeting the imports of a module stops at a specifier that stands for nothing,
or at a new address for which there is no room. -/
theorem meet_stops {referrer : Url} {e : Error} :
    ∀ {specifiers : List String} {seen : List String} {next : List Url},
      Walk.meet name limit referrer specifiers (seen, next) = .error e →
      (∃ s ∈ specifiers, resolveSpecifier referrer s = .error e) ∨
        e = .tooManyModules name limit ∧ ∃ found : List Url, found ≠ [] ∧
          (∀ u ∈ found, ∃ s ∈ specifiers, resolveSpecifier referrer s = .ok u) ∧
          (seen.Nodup → (seen ++ found.map Url.text).Nodup) ∧
          limit < seen.length + found.length
  | [], seen, next, h => by
      rw [Walk.meet] at h
      cases h
  | s :: rest, seen, next, h => by
      have hlater : ∀ {u : Url}, (∃ s' ∈ rest, resolveSpecifier referrer s' = .ok u) →
          ∃ s' ∈ s :: rest, resolveSpecifier referrer s' = .ok u := by
        rintro u ⟨s', hs', hres⟩
        exact ⟨s', List.mem_cons_of_mem s hs', hres⟩
      rw [Walk.meet] at h
      rcases bind_eq_error.mp h with herror | ⟨u, hu, h⟩
      · exact Or.inl ⟨s, List.mem_cons_self, herror⟩
      · split at h
        · -- met before
          rcases meet_stops h with ⟨s', hs', herror⟩ | ⟨he, found, hne, horigin, hnodup, hroom⟩
          · exact Or.inl ⟨s', List.mem_cons_of_mem s hs', herror⟩
          · exact Or.inr ⟨he, found, hne, fun v hv => hlater (horigin v hv), hnodup, hroom⟩
        · rename_i hnew
          have hmem : u.text ∉ seen := fun hmem => hnew (List.contains_iff_mem.mpr hmem)
          have hsnoc : seen.Nodup → (seen ++ [u.text]).Nodup := by
            intro hseen
            refine List.nodup_append.mpr ⟨hseen, by simp, ?_⟩
            rintro a ha b hb rfl
            rw [List.mem_singleton.mp hb] at ha
            exact hmem ha
          split at h
          · rename_i hfull
            cases h
            refine Or.inr ⟨rfl, [u], by simp, ?_, hsnoc, hfull⟩
            intro v hv
            rw [List.mem_singleton.mp hv]
            exact ⟨s, List.mem_cons_self, hu⟩
          · rcases meet_stops h with ⟨s', hs', herror⟩ | ⟨he, found, -, horigin, hnodup, hroom⟩
            · exact Or.inl ⟨s', List.mem_cons_of_mem s hs', herror⟩
            · refine Or.inr ⟨he, u :: found, by simp, ?_, ?_, ?_⟩
              · intro v hv
                rcases List.mem_cons.mp hv with rfl | hv
                · exact ⟨s, List.mem_cons_self, hu⟩
                · exact hlater (horigin v hv)
              · intro hseen
                rw [List.map_cons, List.append_cons]
                exact hnodup (hsnoc hseen)
              · rw [List.length_append] at hroom
                simp at hroom ⊢
                omega

/-- What a descent stops at is an obstacle. -/
theorem Walk.Tracks.descend_obstacle {e : Error} :
    ∀ {pages : List (Url × String)} {w : Walk} {modules : List (Url × String)} {next : List Url},
      w.Tracks entry limit modules (pages.map Prod.fst ++ next) →
      (∀ m ∈ modules ++ pages, network m.1.text = .ok m.2) →
      w.descend pages next = .error e → Obstacle network w.name limit entry e
  | [], w, modules, next, _, _, h => by
      rw [Walk.descend] at h
      cases h
  | m :: pages, w, modules, next, htracks, hfetched, h => by
      have hbefore : ∀ m' ∈ modules, network m'.1.text = .ok m'.2 :=
        fun m' hm' => hfetched m' (List.mem_append_left _ hm')
      have hanswer : network m.1.text = .ok m.2 := hfetched m (by simp)
      have hreach := htracks.explored.reachable hbefore
      have hm : Reachable network entry m.1 := hreach m.1 (by simp [met])
      rw [Walk.descend] at h
      rcases bind_eq_error.mp h with herror | ⟨specifiers, hscan, h⟩
      · exact .malformed hm hanswer herror
      · rcases bind_eq_error.mp h with herror | ⟨⟨seen', next'⟩, hmeet, h⟩
        · rcases meet_stops herror with ⟨s, hs, hres⟩ | ⟨rfl, found, hne, horigin, hnodup, hroom⟩
          · exact .unresolvable hm hanswer hscan hs hres
          · have himports : ∀ u ∈ found, Imports m u := by
              intro u hu
              obtain ⟨s, hs, hres⟩ := horigin u hu
              exact ⟨specifiers, hscan, s, hs, hres⟩
            rw [htracks.seen_eq, ← List.map_append] at hnodup
            rw [htracks.seen_eq, List.length_map, htracks.limit_eq] at hroom
            rw [htracks.limit_eq]
            exact .crowded (htracks.explored.crowded hbefore hanswer himports hne
              (hnodup htracks.explored.distinct) hroom)
        · obtain ⟨found, rfl, -, hstep⟩ := htracks.visit hscan hmeet
          refine hstep.descend_obstacle ?_ h
          simpa using hfetched

/-- All that a network reveals is its own answers. -/
theorem Answered.fetched {m : Url × String} (h : Answered replies requests m)
    (hreplies : ∀ moment ∈ replies, Reveals network moment) : network m.1.text = .ok m.2 := by
  obtain ⟨k, -, hanswer⟩ := h
  obtain ⟨moment, hmoment, hreply⟩ := List.exists_of_findSome?_eq_some hanswer
  cases hreply' : moment m.1.text with
  | waiting =>
    rw [hreply'] at hreply
    cases hreply
  | answered r =>
    rw [hreply'] at hreply
    cases hreply
    exact (hreplies moment (List.mem_of_mem_drop hmoment)).answered hreply'

/-- A round that fails does so at an obstacle. -/
theorem Walk.Ends.obstacle {moment : String → Reply} {new : List String} {e : Error}
    (hends : w.Ends moment new (.failed e))
    (h : w.Follows entry limit before (before ++ [moment]) requests modules)
    (hreveals : ∀ m ∈ before ++ [moment], Reveals network m) :
    Obstacle network w.name limit entry e := by
  cases hends with
  | unreachable _ hask =>
    obtain ⟨m, hm, herror⟩ := ask_error hask
    have hreach := h.tracks.explored.reachable fun m hm => (h.answered m hm).fetched hreveals
    have hmoment : Reveals network moment := hreveals moment (by simp)
    refine .unanswered (hreach m.url ?_) (hmoment.answered herror)
    exact List.mem_append_right _ (List.mem_map_of_mem hm)
  | @rejected _ wanted _ _ hask hcome hdescend =>
    obtain ⟨hafter, -⟩ := h.ask hask
    have htracks := hafter.tracks
    rw [← pages_urls hcome, ← List.append_nil ((pages wanted).map Prod.fst)] at htracks
    rw [← Walk.descend_frontier w wanted] at hdescend
    refine htracks.descend_obstacle ?_ hdescend
    intro m hm
    rcases List.mem_append.mp hm with hold | hnew
    · exact (hafter.answered m hold).fetched hreveals
    · exact (hafter.answered_pages m hnew).fetched hreveals

variable {moments : List (String → Reply)} (hmoments : ∀ moment ∈ moments, Reveals network moment)

include hmoments

/-- A walk that has failed has met an obstacle. -/
theorem pursue_obstacle {e : Error}
    (h : (pursue (Walk.start name entry limit) moments).progress = .failed e) :
    Obstacle network name limit entry e := by
  have hfirst : moments ≠ [] := by
    rintro rfl
    cases h
  obtain ⟨before, moment, w, modules, requests, new, hpast, hname, hfollows, hends, -, -⟩ :=
    pursue_ends name entry limit hfirst
  rw [h] at hends
  rw [← hname]
  exact hends.obstacle hfollows fun m hm => hmoments m (hpast.subset hm)

/-- A walk that has finished had room for all there is below its entry. -/
theorem addresses_of_finished (hentry : entry.IsRead) {b : Bundle}
    (h : (pursue (Walk.start name entry limit) moments).progress = .finished b) :
    (addresses network entry).encard ≤ (max limit 1 : Nat) := by
  have hfirst : moments ≠ [] := by
    rintro rfl
    cases h
  obtain ⟨before, moment, w, modules, requests, new, hpast, -, hfollows, hends, -, -⟩ :=
    pursue_ends name entry limit hfirst
  rw [h] at hends
  cases hends with
  | finished hempty =>
    have hfetched : ∀ m ∈ modules, network m.1.text = .ok m.2 := fun m hm =>
      (hfollows.answered m hm).fetched fun m' hm' => hmoments m' (hpast.subset hm')
    have hexp := hfollows.tracks.explored
    rw [hempty, List.map_nil] at hexp
    calc (addresses network entry).encard
        ≤ ((met modules []).map Url.text).length := by
          apply addresses_le_length
          rintro address ⟨u, hu, rfl⟩
          exact hexp.covers hentry hfetched hu
      _ ≤ (max limit 1 : Nat) := by
          rw [List.length_map]
          exact_mod_cast hexp.size

end

/-! ## A chain of modules -/

/-- A file of a site on the local host. -/
def localUrl (file : String) : Url :=
  { scheme := "http", host := some (.ipv6 [0, 0, 0, 0, 0, 0, 0, 1]), path := .segments [file] }

/-- Three modules; each imports the next one, and the second the first as well. -/
def chain (url : String) : Except Error String :=
  .ok <|
    if url = (localUrl "a.js").text then "import './b.js';"
    else if url = (localUrl "b.js").text then "export * from '/c.js'; import '/a.js';"
    else ""

/-- What the pages of the chain import are pages of it. -/
theorem chain_page {file : String} (hfile : file ∈ ["a.js", "b.js", "c.js"]) :
    ∃ text specifiers, chain (localUrl file).text = .ok text ∧
      scanImports (localUrl file).text text = .ok specifiers ∧
      ∀ s ∈ specifiers, ∃ file' ∈ ["a.js", "b.js", "c.js"],
        resolveSpecifier (localUrl file) s = .ok (localUrl file') := by
  simp only [List.mem_cons, List.not_mem_nil, or_false] at hfile
  rcases hfile with rfl | rfl | rfl
  · exact ⟨"import './b.js';", ["./b.js"], by decide +kernel, by decide +kernel, by decide +kernel⟩
  · exact ⟨"export * from '/c.js'; import '/a.js';", ["/c.js", "/a.js"], by decide +kernel,
      by decide +kernel, by decide +kernel⟩
  · exact ⟨"", [], by decide +kernel, by decide +kernel, by decide +kernel⟩

theorem reachable_chain {u : Url} (hu : Reachable chain (localUrl "a.js") u) :
    ∃ file ∈ ["a.js", "b.js", "c.js"], u = localUrl file := by
  induction hu with
  | entry => exact ⟨"a.js", by simp, rfl⟩
  | imported _ hanswer himports ih =>
    obtain ⟨file, hfile, rfl⟩ := ih
    obtain ⟨text, specifiers, hanswer', hscan, hall⟩ := chain_page hfile
    rw [hanswer'] at hanswer
    cases hanswer
    obtain ⟨specifiers', hscan', s, hs, hresolved⟩ := himports
    rw [hscan] at hscan'
    cases hscan'
    obtain ⟨file', hfile', hresolved'⟩ := hall s hs
    rw [hresolved'] at hresolved
    cases hresolved
    exact ⟨file', hfile', rfl⟩

theorem loads_chain {u : Url} (hu : Reachable chain (localUrl "a.js") u) : Loads chain u := by
  obtain ⟨file, hfile, rfl⟩ := reachable_chain hu
  obtain ⟨text, specifiers, hanswer, hscan, hall⟩ := chain_page hfile
  refine ⟨text, specifiers, hanswer, hscan, fun s hs => ?_⟩
  obtain ⟨file', -, hresolved⟩ := hall s hs
  exact ⟨localUrl file', hresolved⟩

/-! ## The limit -/

/-- What loads is no obstacle, so where all of it does the graph is too large. -/
theorem Obstacle.eq_tooManyModules {network : String → Except Error String} {e : Error}
    (h : Obstacle network name limit entry e)
    (hloads : ∀ u, Reachable network entry u → Loads network u) :
    e = .tooManyModules name limit ∧ (max limit 1 : Nat) < (addresses network entry).encard := by
  cases h with
  | unanswered hu herror =>
    obtain ⟨text, _, hanswer, -⟩ := hloads _ hu
    rw [herror] at hanswer
    cases hanswer
  | malformed hu hanswer herror =>
    obtain ⟨text, specifiers, hanswer', hscan, -⟩ := hloads _ hu
    rw [hanswer] at hanswer'
    cases hanswer'
    rw [herror] at hscan
    cases hscan
  | unresolvable hu hanswer hscan hs herror =>
    obtain ⟨text, specifiers, hanswer', hscan', hall⟩ := hloads _ hu
    rw [hanswer] at hanswer'
    cases hanswer'
    rw [hscan] at hscan'
    cases hscan'
    obtain ⟨v, hv⟩ := hall _ hs
    rw [herror] at hv
    cases hv
  | crowded hcrowded => exact ⟨rfl, hcrowded⟩

/-- A walk ends on every network, and its limit is exact.

If every request is answered sooner or later, the walk is over after some moment,
and at any moment it has begun at most as many rounds as there is room for, the
entry included, and has requested at most as many addresses, each once.

Where the network is one function from addresses to answers, of which some come
later than others, and all that is below the entry loads, a walk that is over has
failed, for too many modules, exactly if more addresses are below the entry than
there is room for, and has finished otherwise. -/
theorem pursue_limited (hentry : entry.IsRead) (name : String) (limit : Nat) :
    (∀ stream, AnswersInTime stream → ∃ n, ∀ w,
      (pursue (Walk.start name entry limit) (firstMoments stream n)).progress ≠ .waiting w) ∧
    ∀ moments : List (String → Reply),
      roundsBegun (Walk.start name entry limit) moments ≤ max limit 1 ∧
      ((pursue (Walk.start name entry limit) moments).requests.map Prod.snd).Nodup ∧
      (pursue (Walk.start name entry limit) moments).requests.length ≤ max limit 1 ∧
      ∀ network : String → Except Error String,
        (∀ moment ∈ moments, Reveals network moment) →
        (∀ u, Reachable network entry u → Loads network u) →
        (∀ w, (pursue (Walk.start name entry limit) moments).progress ≠ .waiting w) →
        ((pursue (Walk.start name entry limit) moments).progress =
            .failed (.tooManyModules name limit) ↔
          (max limit 1 : Nat) < (addresses network entry).encard) ∧
        ((∃ b, (pursue (Walk.start name entry limit) moments).progress = .finished b) ↔
          (addresses network entry).encard ≤ (max limit 1 : Nat)) := by
  refine ⟨fun stream hanswers => pursue_over name entry limit hanswers, ?_⟩
  intro moments
  have hrounds : roundsBegun (Walk.start name entry limit) moments ≤ max limit 1 := by
    rw [← Walk.room_start name entry limit]
    exact (Walk.Follows.start name entry limit).roundsBegun_le
  obtain ⟨hnodup, hlength⟩ := pursue_requests name entry limit moments
  refine ⟨hrounds, hnodup, hlength, ?_⟩
  intro network hmoments hloads hover
  cases hprogress : (pursue (Walk.start name entry limit) moments).progress with
  | waiting w => exact absurd hprogress (hover w)
  | finished b =>
    have hroom := addresses_of_finished hmoments hentry hprogress
    refine ⟨⟨fun h => ?_, fun hcrowded => absurd hcrowded hroom.not_gt⟩, fun _ => hroom,
      fun _ => ⟨b, rfl⟩⟩
    cases h
  | failed e =>
    obtain ⟨rfl, hcrowded⟩ := (pursue_obstacle hmoments hprogress).eq_tooManyModules hloads
    refine ⟨⟨fun _ => hcrowded, fun _ => rfl⟩, fun ⟨b, hb⟩ => ?_,
      fun hroom => absurd hcrowded hroom.not_gt⟩
    cases hb

/-- The limits 2 and 3 together tell that three modules are below the first. -/
theorem pursue_limited_chain : (addresses chain (localUrl "a.js")).encard = 3 := by
  have hentry : (localUrl "a.js").IsRead := .parse (s := "http://[::1]/a.js") (by decide +kernel)
  have hloads : ∀ u, Reachable chain (localUrl "a.js") u → Loads chain u :=
    fun _ => loads_chain
  have hmoments : ∀ moment ∈ [fun url => Reply.answered (chain url)], Reveals chain moment := by
    intro moment hmoment url
    rw [List.mem_singleton.mp hmoment]
    exact Or.inr rfl
  have htwo : (pursue (Walk.start "a" (localUrl "a.js") 2)
      [fun url => .answered (chain url)]).progress = .failed (.tooManyModules "a" 2) := by
    have hfailed : (match (pursue (Walk.start "a" (localUrl "a.js") 2)
        [fun url => .answered (chain url)]).progress with
      | .failed e => some e
      | _ => none) = some (.tooManyModules "a" 2) := by
      decide +kernel
    split at hfailed
    · rename_i e he
      rw [he, Option.some.inj hfailed]
    · cases hfailed
  have hthree : ∃ b, (pursue (Walk.start "a" (localUrl "a.js") 3)
      [fun url => .answered (chain url)]).progress = .finished b := by
    have hfinished : (match (pursue (Walk.start "a" (localUrl "a.js") 3)
        [fun url => .answered (chain url)]).progress with
      | .finished b => some b.urls
      | _ => none) = some (["a.js", "b.js", "c.js"].map fun file => (localUrl file).text) := by
      decide +kernel
    split at hfinished
    · rename_i b hb
      exact ⟨b, hb⟩
    · cases hfinished
  obtain ⟨-, -, -, hlimit⟩ := (pursue_limited hentry "a" 2).2 [fun url => .answered (chain url)]
  obtain ⟨-, -, -, hlimit'⟩ := (pursue_limited hentry "a" 3).2 [fun url => .answered (chain url)]
  have hmore := (hlimit chain hmoments hloads fun w hw => by rw [htwo] at hw; cases hw).1.mp htwo
  have hroom := (hlimit' chain hmoments hloads fun w hw => by
    obtain ⟨b, hb⟩ := hthree
    rw [hb] at hw
    cases hw).2.mp hthree
  have hsucc := Order.add_one_le_of_lt hmore
  exact le_antisymm hroom hsucc

end Playpen.Dependency
