import Playpen.Proofs.Walk.Exploration
import Mathlib.Data.List.Induction

/-!
# Walks followed to their end

A walk may have to wait for the network, and is then resumed, each time with
whatever the network says by then.  A `Pursuit` keeps the whole history: the
replies of every moment, and every request with the moment at which it was
made.  The answer to a request is the first reply after it that is one.

`Follows` joins the graph explored so far to that history.  Asking for a depth
and descending into the next one both keep it, so it holds whenever a walk is
left waiting, and a walk that finishes has gathered exactly what it asked for.
-/

namespace Playpen.Dependency

/-! ## Requests and answers -/

def Reply.answer? : Reply → Option (Except Error String)
  | .waiting => none
  | .answered r => some r

/-- The answer to a request made at a moment: the first that comes from then
on. -/
def answerTo (replies : List (String → Reply)) (request : Nat × String) :
    Option (Except Error String) :=
  (replies.drop request.1).findSome? fun network => (network request.2).answer?

theorem answerTo_snoc {replies : List (String → Reply)} {request : Nat × String}
    (h : request.1 ≤ replies.length) (network : String → Reply) :
    answerTo (replies ++ [network]) request =
      (answerTo replies request).or (network request.2).answer? := by
  unfold answerTo
  rw [List.drop_append_of_le_length h, List.findSome?_append]
  simp

/-- An answer that has come stays the answer. -/
theorem answerTo_snoc_of_some {replies : List (String → Reply)} {request : Nat × String}
    {r : Except Error String} (h : answerTo replies request = some r)
    (network : String → Reply) : answerTo (replies ++ [network]) request = some r := by
  by_cases hle : request.1 ≤ replies.length
  · rw [answerTo_snoc hle, h]
    rfl
  · unfold answerTo at h
    rw [List.drop_eq_nil_of_le (by omega)] at h
    cases h

/-! ## Asking for one depth -/

/-- A wanted module after the network has been asked for it. -/
def Wanted.poll (network : String → Reply) (m : Wanted) : Wanted :=
  match m.text with
  | some _ => m
  | none =>
    match network m.url.text with
    | .answered (.ok text) => { m with asked := true, text := some text }
    | _ => { m with asked := true }

@[simp] theorem Wanted.url_poll (network : String → Reply) (m : Wanted) :
    (m.poll network).url = m.url := by
  unfold Wanted.poll
  split
  · rfl
  · split <;> rfl

/-- Asking that succeeds asks for all modules of the depth that were not asked
for yet, in order, and hears no error. -/
theorem ask_ok {network : String → Reply} :
    ∀ {frontier wanted : List Wanted} {new : List String},
      Walk.ask network frontier = (new, .ok wanted) →
      wanted = frontier.map (Wanted.poll network) ∧
      new = (frontier.filter (!·.asked)).map (·.url.text) ∧
      ∀ m ∈ frontier, m.text = none → ∀ e, network m.url.text ≠ .answered (.error e)
  | [], wanted, new, h => by
      rw [Walk.ask] at h
      cases h
      exact ⟨rfl, rfl, fun m hm => absurd hm List.not_mem_nil⟩
  | m :: rest, wanted, new, h => by
      -- whatever `m` becomes, the rest is asked for in the same way
      have hrest : ∀ {m' : Wanted},
          ((if m.asked then [] else [m.url.text]) ++ (Walk.ask network rest).1,
            (Walk.ask network rest).2.map (m' :: ·)) = (new, Except.ok wanted) →
          m' = m.poll network →
          (m.text = none → ∀ e, network m.url.text ≠ .answered (.error e)) →
          wanted = (m :: rest).map (Wanted.poll network) ∧
          new = ((m :: rest).filter (!·.asked)).map (·.url.text) ∧
          ∀ n ∈ m :: rest, n.text = none → ∀ e, network n.url.text ≠ .answered (.error e) := by
        intro m' heq hm' hok
        obtain ⟨hnew, hwanted⟩ := Prod.mk.inj heq
        cases hask : Walk.ask network rest with
        | mk new' result =>
          rw [hask] at hnew hwanted
          cases result with
          | error e => cases hwanted
          | ok wanted' =>
            obtain ⟨rfl, rfl, hall⟩ := ask_ok hask
            cases hwanted
            refine ⟨by rw [hm']; rfl, ?_, ?_⟩
            · rw [← hnew]
              cases hasked : m.asked <;> simp [hasked]
            · intro n hn
              rcases List.mem_cons.mp hn with rfl | hn
              · exact hok
              · exact hall n hn
      rw [Walk.ask] at h
      split at h
      · rename_i text htext
        exact hrest h (by simp [Wanted.poll, htext]) (by simp [htext])
      · rename_i htext
        split at h
        · rename_i hreply
          exact hrest h (by simp [Wanted.poll, htext, hreply]) (by simp [hreply])
        · rename_i text hreply
          exact hrest h (by simp [Wanted.poll, htext, hreply]) (by simp [hreply])
        · cases h

/-- Asking for a depth fails only where the network fails for one of its
modules. -/
theorem ask_error {network : String → Reply} :
    ∀ {frontier : List Wanted} {new : List String} {e : Error},
      Walk.ask network frontier = (new, .error e) →
      ∃ m ∈ frontier, network m.url.text = .answered (.error e)
  | [], new, e, h => by
      rw [Walk.ask] at h
      cases h
  | m :: rest, new, e, h => by
      have hrest : ∀ {m' : Wanted},
          ((if m.asked then [] else [m.url.text]) ++ (Walk.ask network rest).1,
            (Walk.ask network rest).2.map (m' :: ·)) = (new, Except.error e) →
          ∃ n ∈ m :: rest, network n.url.text = .answered (.error e) := by
        intro m' heq
        obtain ⟨-, hresult⟩ := Prod.mk.inj heq
        cases hask : Walk.ask network rest with
        | mk new' result =>
          rw [hask] at hresult
          cases result with
          | ok wanted => cases hresult
          | error e' =>
            cases hresult
            obtain ⟨n, hn, herror⟩ := ask_error hask
            exact ⟨n, List.mem_cons_of_mem m hn, herror⟩
      rw [Walk.ask] at h
      split at h
      · exact hrest h
      · split at h
        · exact hrest h
        · exact hrest h
        · rename_i e' hreply
          cases h
          exact ⟨m, List.mem_cons_self, hreply⟩

/-! ## The history of a walk -/

/-- What a wanted module says of itself agrees with the history: it has not
been asked for, or its text is what the answer to its request has brought. -/
def Wanted.Heard (replies : List (String → Reply)) (requests : List (Nat × String))
    (m : Wanted) : Prop :=
  (m.asked = false ∧ m.text = none) ∨
    (m.asked = true ∧ ∃ k, k ≤ replies.length ∧ (k, m.url.text) ∈ requests ∧
      answerTo replies (k, m.url.text) = m.text.map .ok)

/-- The text of a module is the answer to a request for it. -/
def Answered (replies : List (String → Reply)) (requests : List (Nat × String))
    (m : Url × String) : Prop :=
  ∃ k, (k, m.1.text) ∈ requests ∧ answerTo replies (k, m.1.text) = some (.ok m.2)

/-- The walk `w` agrees with a history of requests and replies.  While a walk
goes on, the modules it has taken in are answered by all `replies`, the ones
it waits for only by those `before` the present moment; between two moments
the lists are the same. -/
structure Walk.Follows (w : Walk) (entry : Url) (limit : Nat)
    (before replies : List (String → Reply)) (requests : List (Nat × String))
    (modules : List (Url × String)) : Prop where
  tracks : w.Tracks entry limit modules (w.frontier.map (·.url))
  requested : requests.map Prod.snd =
    modules.map (·.1.text) ++ (w.frontier.filter (·.asked)).map (·.url.text)
  uniform : (∀ m ∈ w.frontier, m.asked = true) ∨ ∀ m ∈ w.frontier, m.asked = false
  heard : ∀ m ∈ w.frontier, m.Heard before requests
  answered : ∀ m ∈ modules, Answered replies requests m

theorem Walk.Follows.start (name : String) (entry : Url) (limit : Nat) :
    (Walk.start name entry limit).Follows entry limit [] [] [] [] where
  tracks := Walk.Tracks.start name entry limit
  requested := rfl
  uniform := Or.inr (by simp [Walk.start])
  heard := by simp [Walk.start, Wanted.Heard]
  answered m hm := absurd hm List.not_mem_nil

theorem Answered.mono {replies : List (String → Reply)} {requests requests' : List (Nat × String)}
    {m : Url × String} (h : Answered replies requests m) (hsub : requests ⊆ requests') :
    Answered replies requests' m := by
  obtain ⟨k, hmem, hans⟩ := h
  exact ⟨k, hsub hmem, hans⟩

theorem Answered.snoc {replies : List (String → Reply)} {requests : List (Nat × String)}
    {m : Url × String} (h : Answered replies requests m) (network : String → Reply) :
    Answered (replies ++ [network]) requests m := by
  obtain ⟨k, hmem, hans⟩ := h
  exact ⟨k, hmem, answerTo_snoc_of_some hans network⟩

section

variable {w w' : Walk} {entry : Url} {limit : Nat} {before : List (String → Reply)}
  {network : String → Reply} {requests : List (Nat × String)} {modules : List (Url × String)}

/-- A module that has been polled agrees with the history one moment later. -/
theorem Wanted.Heard.poll {m : Wanted} {new : List (Nat × String)}
    (h : m.Heard before requests)
    (hnew : m.asked = false → (before.length, m.url.text) ∈ new)
    (hok : m.text = none → ∀ e, network m.url.text ≠ .answered (.error e)) :
    (m.poll network).Heard (before ++ [network]) (requests ++ new) ∧
      (m.poll network).asked = true := by
  -- a request whose answer is still to come is answered by the network of this moment
  have hnow : ∀ k, k ≤ before.length → (k, m.url.text) ∈ requests ++ new → m.text = none →
      answerTo before (k, m.url.text) = none →
      (m.poll network).Heard (before ++ [network]) (requests ++ new) ∧
        (m.poll network).asked = true := by
    intro k hk hmem htext hnone
    have hans : answerTo (before ++ [network]) (k, m.url.text)
        = (network m.url.text).answer? := by
      rw [answerTo_snoc hk, hnone]
      rfl
    have hpoll : (m.poll network).asked = true ∧
        (network m.url.text).answer? = (m.poll network).text.map .ok := by
      unfold Wanted.poll
      rw [htext]
      cases hreply : network m.url.text with
      | waiting => simp [Reply.answer?]
      | answered r =>
        cases r with
        | error e => exact absurd hreply (hok htext e)
        | ok text => simp [Reply.answer?]
    refine ⟨Or.inr ⟨hpoll.1, k, ?_, ?_, ?_⟩, hpoll.1⟩
    · rw [List.length_append]
      omega
    · rw [Wanted.url_poll]
      exact hmem
    · rw [Wanted.url_poll, hans, hpoll.2]
  rcases h with ⟨hasked, htext⟩ | ⟨hasked, k, hk, hmem, hans⟩
  · refine hnow before.length (Nat.le_refl _) (List.mem_append_right _ (hnew hasked)) htext ?_
    simp [answerTo]
  · cases htext : m.text with
    | none =>
      rw [htext] at hans
      exact hnow k hk (List.mem_append_left _ hmem) htext hans
    | some text =>
      have hpoll : m.poll network = m := by simp [Wanted.poll, htext]
      rw [hpoll]
      refine ⟨Or.inr ⟨hasked, k, ?_, List.mem_append_left _ hmem, ?_⟩, hasked⟩
      · rw [List.length_append]
        omega
      · rw [htext] at hans ⊢
        exact answerTo_snoc_of_some hans network

/-- Asking for a depth keeps a walk in agreement, one moment later. -/
theorem Walk.Follows.ask {wanted : List Wanted} {new : List String}
    (h : w.Follows entry limit before (before ++ [network]) requests modules)
    (hask : Walk.ask network w.frontier = (new, .ok wanted)) :
    Walk.Follows { w with frontier := wanted } entry limit (before ++ [network])
        (before ++ [network]) (requests ++ new.map (before.length, ·)) modules ∧
      ∀ m ∈ wanted, m.asked = true := by
  obtain ⟨rfl, rfl, hok⟩ := ask_ok hask
  have hpolled : ∀ m ∈ w.frontier,
      (m.poll network).Heard (before ++ [network]) (requests ++
        ((w.frontier.filter (!·.asked)).map (·.url.text)).map (before.length, ·)) ∧
      (m.poll network).asked = true := by
    intro m hm
    refine (h.heard m hm).poll ?_ (hok m hm)
    intro hasked
    refine List.mem_map.mpr ⟨m.url.text, List.mem_map.mpr ⟨m, ?_, rfl⟩, rfl⟩
    exact List.mem_filter.mpr ⟨hm, by simp [hasked]⟩
  have hasked : ∀ m ∈ w.frontier.map (Wanted.poll network), m.asked = true := by
    intro m hm
    obtain ⟨m', hm', rfl⟩ := List.mem_map.mp hm
    exact (hpolled m' hm').2
  have hurls : (w.frontier.map (Wanted.poll network)).map (·.url) = w.frontier.map (·.url) := by
    rw [List.map_map]
    exact List.map_congr_left fun m _ => Wanted.url_poll network m
  refine ⟨{ tracks := ?_, requested := ?_, uniform := Or.inl hasked, heard := ?_
            answered := ?_ }, hasked⟩
  · show Walk.Tracks _ entry limit modules ((w.frontier.map (Wanted.poll network)).map (·.url))
    rw [hurls]
    exact ⟨h.tracks.explored, h.tracks.limit_eq, h.tracks.entry_eq, h.tracks.sources_eq,
      h.tracks.seen_eq⟩
  · -- either all of the depth is new, or none of it
    rw [List.filter_eq_self.mpr hasked, List.map_append, h.requested, List.append_assoc]
    congr 1
    rw [List.map_map, List.map_map, List.map_map]
    rcases h.uniform with hall | hnone
    · rw [List.filter_eq_self.mpr hall, List.filter_eq_nil_iff.mpr (by simpa using hall)]
      simp [Function.comp_def]
    · rw [List.filter_eq_nil_iff.mpr (by simpa using hnone),
        List.filter_eq_self.mpr (by simpa using hnone)]
      simp [Function.comp_def]
  · intro m hm
    obtain ⟨m', hm', rfl⟩ := List.mem_map.mp hm
    exact (hpolled m' hm').1
  · intro m hm
    exact (h.answered m hm).mono (List.subset_append_left _ _)

/-- The modules of a depth, once all of them have come. -/
def pages (wanted : List Wanted) : List (Url × String) :=
  wanted.filterMap fun m => m.text.map (m.url, ·)

theorem pages_urls {wanted : List Wanted} (h : wanted.any (·.text.isNone) = false) :
    (pages wanted).map Prod.fst = wanted.map (·.url) := by
  induction wanted with
  | nil => rfl
  | cons m rest ih =>
    rw [List.any_cons, Bool.or_eq_false_iff] at h
    obtain ⟨text, htext⟩ := Option.isSome_iff_exists.mp (Option.isNone_eq_false_iff.mp h.1)
    have hcons : pages (m :: rest) = (m.url, text) :: pages rest := by
      simp [pages, htext]
    rw [hcons, List.map_cons, List.map_cons, ih h.2]

/-- A bound on the rounds a walk has left: every depth but the last meets an
address, for which there is room below the limit. -/
def Walk.roundsLeft (w : Walk) : Nat :=
  (w.limit - w.seen.length) + if w.frontier = [] then 1 else 2

/-- Descending from a depth leaves one that nobody has asked for, and fewer
rounds to go. -/
theorem Walk.Tracks.nextDepth {depth : List (Url × String)}
    (h : w.Tracks entry limit modules (depth.map Prod.fst))
    (hdescend : w.descend depth [] = .ok w') :
    w'.Tracks entry limit (modules ++ depth) (w'.frontier.map (·.url)) ∧
      (∀ m ∈ w'.frontier, m.asked = false ∧ m.text = none) ∧
      w'.roundsLeft < (limit - w.seen.length) + 2 := by
  have hseen := h.seen_eq
  rw [← List.append_nil (depth.map Prod.fst)] at h
  obtain ⟨found, htracks, hfrontier, hroom⟩ := h.descend hdescend
  rw [List.nil_append] at htracks hfrontier
  have hurls : w'.frontier.map (·.url) = found := by
    rw [hfrontier, List.map_map]
    exact List.map_id found
  rw [hurls]
  refine ⟨htracks, ?_, ?_⟩
  · intro m hm
    rw [hfrontier] at hm
    obtain ⟨u, -, rfl⟩ := List.mem_map.mp hm
    exact ⟨rfl, rfl⟩
  · have hlength : w'.seen.length = w.seen.length + found.length := by
      rw [htracks.seen_eq, hseen]
      simp [met]
      omega
    unfold Walk.roundsLeft
    rw [htracks.limit_eq]
    by_cases hfound : found = []
    · rw [hfrontier, hfound, List.map_nil, if_pos rfl]
      omega
    · have := List.length_pos_iff.mpr hfound
      have := hroom hfound
      rw [hfrontier, if_neg (by simpa using hfound)]
      omega

/-- What has come of a depth is the answer to requests for it. -/
theorem Walk.Follows.answered_pages {replies : List (String → Reply)}
    (h : w.Follows entry limit replies replies requests modules) :
    ∀ m ∈ pages w.frontier, Answered replies requests m := by
  intro m hm
  obtain ⟨m', hm', hpage⟩ := List.mem_filterMap.mp hm
  obtain ⟨text, htext, rfl⟩ := Option.map_eq_some_iff.mp hpage
  rcases h.heard m' hm' with ⟨-, hnone⟩ | ⟨-, k, -, hmem, hans⟩
  · rw [htext] at hnone
    cases hnone
  · rw [htext] at hans
    exact ⟨k, hmem, hans⟩

/-- Descending keeps a walk in agreement: the depth it had asked for joins the
modules taken in, and nothing of the next one has been asked for. -/
theorem Walk.Follows.descend {replies : List (String → Reply)}
    (h : w.Follows entry limit replies replies requests modules)
    (hasked : ∀ m ∈ w.frontier, m.asked = true)
    (hcome : w.frontier.any (·.text.isNone) = false)
    (hdescend : w.descend (pages w.frontier) [] = .ok w') (before' : List (String → Reply)) :
    w'.Follows entry limit before' replies requests (modules ++ pages w.frontier) ∧
      w'.roundsLeft < (limit - w.seen.length) + 2 := by
  have htracks := h.tracks
  rw [← pages_urls hcome] at htracks
  obtain ⟨htracks', hfresh, hleft⟩ := htracks.nextDepth hdescend
  refine ⟨{ tracks := htracks', requested := ?_
            uniform := Or.inr fun m hm => (hfresh m hm).1
            heard := fun m hm => Or.inl (hfresh m hm), answered := ?_ }, hleft⟩
  · have hnone : w'.frontier.filter (·.asked) = [] :=
      List.filter_eq_nil_iff.mpr (by simpa using fun m hm => (hfresh m hm).1)
    have hurls : (pages w.frontier).map (·.1.text) = w.frontier.map (·.url.text) := by
      have := congrArg (List.map Url.text) (pages_urls hcome)
      simpa [List.map_map, Function.comp_def] using this
    rw [h.requested, hnone, List.filter_eq_self.mpr hasked, List.map_append, hurls]
    simp
  · intro m hm
    rcases List.mem_append.mp hm with hold | hnew
    · exact h.answered m hold
    · exact h.answered_pages m hnew

end

/-! ## Going on as far as the network lets it -/

/-- The bundle `b` holds exactly `modules`, an explored graph with nothing
ahead. -/
structure Bundle.Gathers (b : Bundle) (entry : Url) (limit : Nat)
    (modules : List (Url × String)) : Prop where
  entry_eq : b.entry = entry.text
  sources_eq : b.sources.entries = modules.map fun m => (m.1.text, m.2)
  explored : Explored entry limit modules []

theorem Bundle.Gathers.urls_eq {b : Bundle} {entry : Url} {limit : Nat}
    {modules : List (Url × String)} (h : b.Gathers entry limit modules) :
    b.urls = (met modules []).map Url.text := by
  unfold Bundle.urls Table.keys
  rw [h.sources_eq, List.map_map, met, List.append_nil, List.map_map]
  rfl

/-- How a walk stands agrees with a history.  A walk is left waiting only
where an answer is missing. -/
def Progress.Agrees (entry : Url) (limit : Nat) (replies : List (String → Reply))
    (requests : List (Nat × String)) : Progress → Prop
  | .waiting w => (∃ modules, w.Follows entry limit replies replies requests modules) ∧
      ∃ m ∈ w.frontier, m.text = none
  | .failed _ => True
  | .finished b => ∃ modules, b.Gathers entry limit modules ∧ requests.map Prod.snd = b.urls ∧
      ∀ m ∈ modules, Answered replies requests m

theorem Walk.roundsLeft_le_rounds (w : Walk) : w.roundsLeft ≤ w.rounds := by
  unfold Walk.roundsLeft Walk.rounds
  split <;> omega

theorem Walk.descend_frontier (w : Walk) (frontier : List Wanted)
    (pages : List (Url × String)) (next : List Url) :
    Walk.descend { w with frontier := frontier } pages next = w.descend pages next := by
  induction pages generalizing w next with
  | nil => rfl
  | cons m rest ih =>
    rw [Walk.descend, Walk.descend]
    congr 1
    funext specifiers
    congr 1
    funext met
    exact ih { w with bundle := w.bundle.insert m.1.text m.2, seen := met.1 } met.2

theorem Walk.advance_empty {network : String → Reply} {fuel : Nat} {w : Walk}
    (h : w.frontier = []) : Walk.advance network (fuel + 1) w = ([], .finished w.bundle) := by
  rw [Walk.advance, if_pos (by rw [h]; rfl)]

theorem Walk.advance_succ {network : String → Reply} {fuel : Nat} {w : Walk}
    (h : w.frontier ≠ []) : Walk.advance network (fuel + 1) w =
      match Walk.ask network w.frontier with
      | (new, .error e) => (new, .failed e)
      | (new, .ok wanted) =>
        if wanted.any (·.text.isNone) then (new, .waiting { w with frontier := wanted })
        else match w.descend (pages wanted) [] with
          | .error e => (new, .failed e)
          | .ok w' =>
            (new ++ (Walk.advance network fuel w').1, (Walk.advance network fuel w').2) := by
  rw [Walk.advance, if_neg (by simpa using h)]
  rfl

/-- Rounds keep the agreement, and there are always enough of them: the
induction is on the rounds allowed, and a depth that is descended from leaves
fewer to go. -/
theorem Walk.Follows.advance {entry : Url} {limit : Nat} {before : List (String → Reply)}
    {network : String → Reply} {fuel : Nat} {w : Walk} {requests : List (Nat × String)}
    {modules : List (Url × String)}
    (h : w.Follows entry limit before (before ++ [network]) requests modules)
    (hfuel : w.roundsLeft ≤ fuel) :
    (Walk.advance network fuel w).2.Agrees entry limit (before ++ [network])
      (requests ++ (Walk.advance network fuel w).1.map (before.length, ·)) := by
  induction fuel generalizing w requests modules with
  | zero =>
    unfold Walk.roundsLeft at hfuel
    split at hfuel <;> omega
  | succ fuel ih =>
    by_cases hempty : w.frontier = []
    · -- nothing is ahead: the walk is over
      rw [Walk.advance_empty hempty, List.map_nil, List.append_nil]
      have htracks := h.tracks
      have hrequested := h.requested
      rw [hempty] at htracks hrequested
      have hgathers : w.bundle.Gathers entry limit modules :=
        ⟨htracks.entry_eq, htracks.sources_eq, htracks.explored⟩
      refine ⟨modules, hgathers, ?_, h.answered⟩
      rw [hgathers.urls_eq, hrequested]
      simp [met]
    · rw [Walk.advance_succ hempty]
      cases hask : Walk.ask network w.frontier with
      | mk new result =>
        cases result with
        | error e => trivial
        | ok wanted =>
          obtain ⟨hafter, hasked⟩ := h.ask hask
          cases hcome : wanted.any (·.text.isNone) with
          | true =>
            obtain ⟨m, hm, hnone⟩ := List.any_eq_true.mp hcome
            simp only [hcome, if_true]
            exact ⟨⟨modules, hafter⟩, m, hm, Option.isNone_iff_eq_none.mp hnone⟩
          | false =>
            simp only [hcome, Bool.false_eq_true, if_false]
            cases hdescend : w.descend (pages wanted) [] with
            | error e => trivial
            | ok w' =>
              have hdescend' := hdescend
              rw [← Walk.descend_frontier w wanted] at hdescend'
              obtain ⟨hnext, hleft⟩ := hafter.descend hasked hcome hdescend' before
              have hfewer : w'.roundsLeft ≤ fuel := by
                unfold Walk.roundsLeft at hfuel
                rw [if_neg hempty, h.tracks.limit_eq] at hfuel
                exact Nat.le_of_lt_succ (Nat.lt_of_lt_of_le hleft hfuel)
              have hrest := ih hnext hfewer
              rw [List.append_assoc, ← List.map_append] at hrest
              exact hrest

theorem Walk.Follows.resume {entry : Url} {limit : Nat} {replies : List (String → Reply)}
    {w : Walk} {requests : List (Nat × String)} {modules : List (Url × String)}
    (h : w.Follows entry limit replies replies requests modules) (network : String → Reply) :
    (w.resume network).2.Agrees entry limit (replies ++ [network])
      (requests ++ (w.resume network).1.map (replies.length, ·)) := by
  refine Walk.Follows.advance ⟨h.tracks, h.requested, h.uniform, h.heard, ?_⟩
    w.roundsLeft_le_rounds
  intro m hm
  exact (h.answered m hm).snoc network

/-! ## Following a walk over time -/

/-- A walk, what the network has said at every moment so far, and what was
requested, each request with its moment. -/
structure Pursuit where
  replies : List (String → Reply)
  requests : List (Nat × String)
  progress : Progress

/-- One moment: a walk that waits is resumed. -/
def Pursuit.next (p : Pursuit) (network : String → Reply) : Pursuit :=
  match p.progress with
  | .waiting w =>
    ⟨p.replies ++ [network], p.requests ++ (w.resume network).1.map (p.replies.length, ·),
      (w.resume network).2⟩
  | .failed _ | .finished _ => { p with replies := p.replies ++ [network] }

/-- Follows a walk while the network says one thing after the other. -/
def pursue (w : Walk) (networks : List (String → Reply)) : Pursuit :=
  networks.foldl Pursuit.next ⟨[], [], .waiting w⟩

theorem pursue_snoc (w : Walk) (networks : List (String → Reply)) (network : String → Reply) :
    pursue w (networks ++ [network]) = (pursue w networks).next network := by
  unfold pursue
  rw [List.foldl_append]
  rfl

theorem Progress.Agrees.next {entry : Url} {limit : Nat} {p : Pursuit}
    (h : p.progress.Agrees entry limit p.replies p.requests) (network : String → Reply) :
    (p.next network).progress.Agrees entry limit (p.next network).replies
      (p.next network).requests := by
  obtain ⟨replies, requests, progress⟩ := p
  cases progress with
  | waiting w =>
    obtain ⟨⟨modules, hfollows⟩, -⟩ := h
    exact hfollows.resume network
  | failed e => trivial
  | finished b =>
    obtain ⟨modules, hgathers, hrequests, hanswered⟩ := h
    exact ⟨modules, hgathers, hrequests, fun m hm => (hanswered m hm).snoc network⟩

theorem pursue_agrees (name : String) (entry : Url) (limit : Nat)
    (networks : List (String → Reply)) :
    (pursue (Walk.start name entry limit) networks).replies = networks ∧
    (pursue (Walk.start name entry limit) networks).progress.Agrees entry limit networks
      (pursue (Walk.start name entry limit) networks).requests := by
  induction networks using List.reverseRecOn with
  | nil =>
    exact ⟨rfl, ⟨[], Walk.Follows.start name entry limit⟩, _, List.mem_singleton_self _, rfl⟩
  | append_singleton networks network ih =>
    obtain ⟨hreplies, hagrees⟩ := ih
    rw [pursue_snoc]
    have hnext : ((pursue (Walk.start name entry limit) networks).next network).replies
        = networks ++ [network] := by
      conv_rhs => rw [← hreplies]
      unfold Pursuit.next
      split <;> rfl
    refine ⟨hnext, ?_⟩
    rw [← hnext]
    apply Progress.Agrees.next
    rw [hreplies]
    exact hagrees

/-- A walk that finishes, whatever the network has said and however long it
has taken over it, has gathered a closed and minimal graph: the entry first,
every import of a module inside, and every other module imported by an earlier
one.  It has requested what it holds, each address once, and holds the answers
to these requests. -/
theorem finished_bundle {name : String} {entry : Url} {limit : Nat}
    {networks : List (String → Reply)} {b : Bundle}
    (h : (pursue (Walk.start name entry limit) networks).progress = .finished b) :
    b.urls.Nodup ∧ b.urls.head? = some entry.text ∧ b.entry = entry.text ∧
    (pursue (Walk.start name entry limit) networks).requests.map Prod.snd = b.urls ∧
    ∃ modules : List (Url × String),
      b.sources.entries = modules.map (fun m => (m.1.text, m.2)) ∧
      modules.head?.map Prod.fst = some entry ∧
      (∀ m ∈ modules, ImportsWithin m b.urls) ∧
      (∀ i m, modules[i + 1]? = some m →
        ∃ j m', j ≤ i ∧ modules[j]? = some m' ∧ Imports m' m.1) ∧
      ∀ m ∈ modules, ∃ k,
        (k, m.1.text) ∈ (pursue (Walk.start name entry limit) networks).requests ∧
        answerTo networks (k, m.1.text) = some (.ok m.2) := by
  obtain ⟨-, hagrees⟩ := pursue_agrees name entry limit networks
  rw [h] at hagrees
  obtain ⟨modules, hgathers, hrequests, hanswered⟩ := hagrees
  have hexp := hgathers.explored
  have hmet : met modules [] = modules.map Prod.fst := by simp [met]
  have hurls : b.urls = (modules.map Prod.fst).map Url.text := by
    rw [hgathers.urls_eq, hmet]
  refine ⟨Table.keys_nodup _, ?_, hgathers.entry_eq, hrequests, modules, hgathers.sources_eq,
    ?_, ?_, ?_, hanswered⟩
  · rw [hgathers.urls_eq, List.head?_map, hexp.first]
    rfl
  · rw [← List.head?_map, ← hmet]
    exact hexp.first
  · intro m hm
    rw [hgathers.urls_eq]
    exact hexp.closed m hm
  · intro i m hm
    apply hexp.minimal i
    rw [hmet, List.getElem?_map, hm]
    rfl

/-- A file of a small site. -/
def circleUrl (file : String) : Url :=
  { scheme := "https", host := some (.domain "cdn.test"), path := .segments [file] }

/-- Three modules of which two import each other, and both the third. -/
def circle (url : String) : Reply :=
  .answered <| .ok <|
    if url = (circleUrl "a.js").text then "import './b.js'; import '/c.js';"
    else if url = (circleUrl "b.js").text then "import './a.js'; export * from './c.js';"
    else ""

/-- One module of the circle is slow to come. -/
def slowCircle (url : String) : Reply :=
  if url = (circleUrl "b.js").text then .waiting else circle url

/-- A walk through the circle that has to wait once. -/
def circlePursuit : Pursuit :=
  pursue (Walk.start "a" (circleUrl "a.js") 3) [slowCircle, circle]

theorem finished_bundle_circle :
    ∃ b, circlePursuit.progress = .finished b ∧
      b.urls = ["a.js", "b.js", "c.js"].map (fun file => (circleUrl file).text) ∧
      circlePursuit.requests.map Prod.snd = b.urls := by
  have hurls : (match circlePursuit.progress with
      | .finished b => some b.urls
      | _ => none) = some (["a.js", "b.js", "c.js"].map (fun file => (circleUrl file).text)) := by
    decide +kernel
  cases h : circlePursuit.progress with
  | finished b =>
    rw [h] at hurls
    obtain ⟨-, -, -, hrequests, -⟩ := finished_bundle h
    exact ⟨b, rfl, Option.some.inj hurls, hrequests⟩
  | waiting w =>
    rw [h] at hurls
    cases hurls
  | failed e =>
    rw [h] at hurls
    cases hurls

end Playpen.Dependency
