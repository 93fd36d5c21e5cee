import Playpen.Proofs.Walk.Pursuit

/-!
# Walks and plain searches

A walk fetches a whole depth at once and goes on when all of it has come.  The
plain program for the same task, `search`, keeps one queue: it fetches the
module at the front, and puts at the end whatever that is the first to import.

Where the network is one function from addresses to answers, and only the time
at which an answer comes is open, both come to the same bundle or both fail.
The proof never compares two runs.  `Walk.ahead` is what the plain search would
come to if it took over where the walk stands, and a walk that goes on does not
change it: taking in a depth is taking its modules from the front of the queue,
one after the other (`search_of_descend`), and whatever stops a walk stops the
search somewhere in that depth (`search_of_unreachable`).
-/

namespace Playpen.Dependency

/-! ## The plain program -/

/-- A plain search under way: the addresses it has still to fetch, all it has
met, and what it has fetched. -/
structure Search where
  queue : List Url
  seen : List String
  bundle : Bundle

/-- Puts addresses that have not been met at the end of the queue, as long as
there is room. -/
def enqueue (name : String) (limit : Nat) :
    List Url → List String × List Url → Except Error (List String × List Url)
  | [], acc => .ok acc
  | u :: rest, (seen, queue) =>
    if u.text ∈ seen then enqueue name limit rest (seen, queue)
    else if limit < seen.length + 1 then .error (.tooManyModules name limit)
    else enqueue name limit rest (seen ++ [u.text], queue ++ [u])

/-- Fetches the module at an address, and puts what it imports into the
queue. -/
def Search.visit (network : String → Except Error String) (name : String) (limit : Nat) (u : Url)
    (s : Search) : Except Error Search := do
  let text ← network u.text
  let specifiers ← scanImports u.text text
  let imported ← specifiers.mapM (resolveSpecifier u)
  let (seen, queue) ← enqueue name limit imported (s.seen, s.queue)
  return ⟨queue, seen, s.bundle.insert u.text text⟩

theorem enqueue_ok {name : String} {limit : Nat} :
    ∀ {us : List Url} {seen seen' : List String} {queue queue' : List Url},
      enqueue name limit us (seen, queue) = .ok (seen', queue') →
      ∃ found, seen' = seen ++ found.map Url.text ∧ queue' = queue ++ found ∧
        (found ≠ [] → seen'.length ≤ limit)
  | [], seen, seen', queue, queue', h => by
      rw [enqueue] at h
      cases h
      exact ⟨[], by simp, by simp, fun h => absurd rfl h⟩
  | u :: rest, seen, seen', queue, queue', h => by
      rw [enqueue] at h
      split at h
      · exact enqueue_ok h
      · split at h
        · cases h
        · rename_i hroom
          obtain ⟨found, rfl, rfl, hlimit⟩ := enqueue_ok h
          refine ⟨u :: found, by simp, by simp, ?_⟩
          intro _
          cases found with
          | nil =>
            simp
            omega
          | cons v more => exact hlimit (by simp)

/-- A visit leaves the queue as it was, with something more at its end, for
which there was room. -/
theorem Search.visit_ok {network : String → Except Error String} {name : String} {limit : Nat}
    {u : Url} {s s' : Search} (h : s.visit network name limit u = .ok s') :
    ∃ found, s'.seen = s.seen ++ found.map Url.text ∧ s'.queue = s.queue ++ found ∧
      (found ≠ [] → s'.seen.length ≤ limit) := by
  unfold visit at h
  obtain ⟨text, -, h⟩ := bind_eq_ok.mp h
  obtain ⟨specifiers, -, h⟩ := bind_eq_ok.mp h
  obtain ⟨imported, -, h⟩ := bind_eq_ok.mp h
  obtain ⟨⟨seen', queue'⟩, henqueue, h⟩ := bind_eq_ok.mp h
  cases h
  exact enqueue_ok henqueue

/-- How much a search has left to do: what waits in the queue, and what there is
room for. -/
def Search.measure (limit : Nat) (s : Search) : Nat := (limit - s.seen.length) + s.queue.length

theorem Search.measure_visit {network : String → Except Error String} {name : String}
    {limit : Nat} {u : Url} {rest : List Url} {s s' : Search} (hqueue : s.queue = u :: rest)
    (h : Search.visit network name limit u { s with queue := rest } = .ok s') :
    s'.measure limit < s.measure limit := by
  obtain ⟨found, hseen, hrest, hroom⟩ := visit_ok h
  unfold Search.measure
  rw [hseen, hrest, hqueue]
  by_cases hfound : found = []
  · subst hfound
    simp
  · have hle := hroom hfound
    rw [hseen] at hle
    simp at hle ⊢
    omega

/-- Fetches one module after the other, until the queue is empty. -/
def search (network : String → Except Error String) (name : String) (limit : Nat) (s : Search) :
    Except Error Bundle :=
  match _hqueue : s.queue with
  | [] => .ok s.bundle
  | u :: rest =>
    match _hvisit : Search.visit network name limit u { s with queue := rest } with
    | .error e => .error e
    | .ok s' => search network name limit s'
termination_by s.measure limit
decreasing_by exact Search.measure_visit _hqueue _hvisit

section

variable {network : String → Except Error String} {name : String} {limit : Nat}

theorem search_nil (seen : List String) (b : Bundle) :
    search network name limit ⟨[], seen, b⟩ = .ok b := by
  rw [search]

theorem search_cons (u : Url) (rest : List Url) (seen : List String) (b : Bundle) :
    search network name limit ⟨u :: rest, seen, b⟩ =
      (Search.visit network name limit u ⟨rest, seen, b⟩).bind (search network name limit) := by
  rw [search]
  dsimp only
  split
  · rename_i e hvisit
    rw [hvisit]
    rfl
  · rename_i s' hvisit
    rw [hvisit]
    rfl

/-- A search does not come to its end while something in its queue cannot be
fetched. -/
theorem search_of_unreachable {u : Url} {e : Error} (hu : network u.text = .error e) {s : Search}
    (hmem : u ∈ s.queue) : ∃ e', search network name limit s = .error e' := by
  fun_induction search network name limit s with
  | case1 s hqueue =>
    rw [hqueue] at hmem
    exact absurd hmem List.not_mem_nil
  | case2 s v rest hqueue e' hvisit => exact ⟨e', rfl⟩
  | case3 s v rest hqueue s' hvisit ih =>
    apply ih
    obtain ⟨found, -, hrest, -⟩ := Search.visit_ok hvisit
    rw [hrest]
    apply List.mem_append_left
    rw [hqueue] at hmem
    rcases List.mem_cons.mp hmem with rfl | hmem
    · -- the visit would have failed
      rw [Search.visit, hu] at hvisit
      cases hvisit
    · exact hmem

/-! ## One module -/

/-- Meeting specifiers one by one is resolving them all and putting the
addresses into the queue. -/
theorem meet_eq_ok_iff {referrer : Url} {r : List String × List Url} :
    ∀ {specifiers : List String} {seen : List String} {next : List Url},
      Walk.meet name limit referrer specifiers (seen, next) = .ok r ↔
        ∃ imported, specifiers.mapM (resolveSpecifier referrer) = .ok imported ∧
          enqueue name limit imported (seen, next) = .ok r
  | [], seen, next => by
      rw [Walk.meet, List.mapM_nil]
      constructor
      · intro h
        exact ⟨[], rfl, h⟩
      · rintro ⟨imported, hnil, h⟩
        cases hnil
        exact h
  | s :: rest, seen, next => by
      rw [Walk.meet, List.mapM_cons, bind_eq_ok]
      have hone : ∀ u, (if seen.contains u.text then Walk.meet name limit referrer rest (seen, next)
          else if seen.length + 1 > limit then .error (.tooManyModules name limit)
          else Walk.meet name limit referrer rest (seen ++ [u.text], next ++ [u])) = .ok r ↔
          ∃ imported, rest.mapM (resolveSpecifier referrer) = .ok imported ∧
            enqueue name limit (u :: imported) (seen, next) = .ok r := by
        intro u
        by_cases hseen : u.text ∈ seen
        · simp only [enqueue, List.contains_iff_mem, hseen, if_true]
          exact meet_eq_ok_iff
        · by_cases hroom : limit < seen.length + 1
          · simp [enqueue, hseen, hroom]
          · simp only [enqueue, List.contains_iff_mem, hseen, if_false, gt_iff_lt, hroom]
            exact meet_eq_ok_iff
      constructor
      · rintro ⟨u, hu, h⟩
        obtain ⟨imported, hrest, henqueue⟩ := (hone u).mp h
        refine ⟨u :: imported, ?_, henqueue⟩
        rw [hu, hrest]
        rfl
      · rintro ⟨imported, hall, henqueue⟩
        obtain ⟨u, hu, hall⟩ := bind_eq_ok.mp hall
        obtain ⟨more, hrest, hall⟩ := bind_eq_ok.mp hall
        cases hall
        exact ⟨u, hu, (hone u).mpr ⟨more, hrest, henqueue⟩⟩

/-- What is in the queue already stays in front. -/
theorem enqueue_behind (front : List Url) :
    ∀ (us : List Url) (seen : List String) (next : List Url),
      enqueue name limit us (seen, front ++ next) =
        (enqueue name limit us (seen, next)).map fun r => (r.1, front ++ r.2)
  | [], seen, next => rfl
  | u :: rest, seen, next => by
      rw [enqueue, enqueue]
      split
      · exact enqueue_behind front rest seen next
      · split
        · rfl
        · rw [List.append_assoc]
          exact enqueue_behind front rest (seen ++ [u.text]) (next ++ [u])

/-- Taking the module `m` from the front of a queue is what a walk does with a
module of its depth. -/
theorem visit_eq_ok_iff {m : Url × String} (hm : network m.1.text = .ok m.2)
    {front next : List Url} {seen : List String} {b : Bundle} {s : Search} :
    Search.visit network name limit m.1 ⟨front ++ next, seen, b⟩ = .ok s ↔
      ∃ specifiers seen' next', scanImports m.1.text m.2 = .ok specifiers ∧
        Walk.meet name limit m.1 specifiers (seen, next) = .ok (seen', next') ∧
        s = ⟨front ++ next', seen', b.insert m.1.text m.2⟩ := by
  unfold Search.visit
  rw [hm, bind_eq_ok]
  constructor
  · rintro ⟨text, htext, h⟩
    cases htext
    obtain ⟨specifiers, hscan, h⟩ := bind_eq_ok.mp h
    obtain ⟨imported, hall, h⟩ := bind_eq_ok.mp h
    obtain ⟨⟨seen', queue⟩, henqueue, h⟩ := bind_eq_ok.mp h
    rw [enqueue_behind] at henqueue
    cases hnext : enqueue name limit imported (seen, next) with
    | error e =>
      rw [hnext] at henqueue
      cases henqueue
    | ok r =>
      obtain ⟨seen'', next'⟩ := r
      rw [hnext] at henqueue
      cases henqueue
      cases h
      exact ⟨specifiers, seen'', next', hscan, meet_eq_ok_iff.mpr ⟨imported, hall, hnext⟩, rfl⟩
  · rintro ⟨specifiers, seen', next', hscan, hmeet, rfl⟩
    obtain ⟨imported, hall, hnext⟩ := meet_eq_ok_iff.mp hmeet
    refine ⟨m.2, rfl, bind_eq_ok.mpr ⟨specifiers, hscan, bind_eq_ok.mpr ⟨imported, hall, ?_⟩⟩⟩
    rw [enqueue_behind, hnext]
    rfl

end

/-! ## One depth -/

variable {network : String → Except Error String} {w w' : Walk}

/-- What the plain search would come to from where the walk stands. -/
def Walk.ahead (network : String → Except Error String) (w : Walk) : Except Error Bundle :=
  search network w.name w.limit ⟨w.frontier.map (·.url), w.seen, w.bundle⟩

/-- Descending from a depth is taking its modules from the front of the queue,
one after the other. -/
theorem search_of_descend :
    ∀ {depth : List (Url × String)} {w w' : Walk} {next : List Url},
      (∀ m ∈ depth, network m.1.text = .ok m.2) → w.descend depth next = .ok w' →
      search network w.name w.limit ⟨depth.map Prod.fst ++ next, w.seen, w.bundle⟩ =
        w'.ahead network
  | [], w, w', next, _, h => by
      rw [Walk.descend] at h
      cases h
      show _ = search network w.name w.limit ⟨(next.map _).map _, w.seen, w.bundle⟩
      rw [List.map_map]
      exact congrArg (fun q => search network w.name w.limit ⟨q, w.seen, w.bundle⟩)
        (List.map_id next).symm
  | m :: depth, w, w', next, hfetched, h => by
      rw [Walk.descend] at h
      obtain ⟨specifiers, hscan, h⟩ := bind_eq_ok.mp h
      obtain ⟨⟨seen', next'⟩, hmeet, h⟩ := bind_eq_ok.mp h
      have hvisit : Search.visit network w.name w.limit m.1
          ⟨depth.map Prod.fst ++ next, w.seen, w.bundle⟩ =
            .ok ⟨depth.map Prod.fst ++ next', seen', w.bundle.insert m.1.text m.2⟩ :=
        (visit_eq_ok_iff (hfetched m List.mem_cons_self)).mpr
          ⟨specifiers, seen', next', hscan, hmeet, rfl⟩
      rw [List.map_cons, List.cons_append, search_cons, hvisit]
      exact search_of_descend (fun m' hm' => hfetched m' (List.mem_cons_of_mem m hm')) h

/-- Where a walk cannot descend, taking the modules of the depth from the queue
fails, too. -/
theorem search_of_descend_error :
    ∀ {depth : List (Url × String)} {w : Walk} {next : List Url} {e : Error},
      (∀ m ∈ depth, network m.1.text = .ok m.2) → w.descend depth next = .error e →
      ∃ e', search network w.name w.limit ⟨depth.map Prod.fst ++ next, w.seen, w.bundle⟩ =
        .error e'
  | [], w, next, e, _, h => by
      rw [Walk.descend] at h
      cases h
  | m :: depth, w, next, e, hfetched, h => by
      rw [List.map_cons, List.cons_append, search_cons]
      cases hvisit : Search.visit network w.name w.limit m.1
          ⟨depth.map Prod.fst ++ next, w.seen, w.bundle⟩ with
      | error e' => exact ⟨e', rfl⟩
      | ok s =>
        obtain ⟨specifiers, seen', next', hscan, hmeet, rfl⟩ :=
          (visit_eq_ok_iff (hfetched m List.mem_cons_self)).mp hvisit
        rw [Walk.descend, hscan] at h
        simp only [bind, Except.bind, hmeet] at h
        exact search_of_descend_error
          (fun m' hm' => hfetched m' (List.mem_cons_of_mem m hm')) h

/-! ## Whole walks -/

/-- At this moment, some of the network's answers have come. -/
def Reveals (network : String → Except Error String) (moment : String → Reply) : Prop :=
  ∀ url, moment url = .waiting ∨ moment url = .answered (network url)

/-- The texts that have come are the network's. -/
def Walk.Reads (network : String → Except Error String) (w : Walk) : Prop :=
  ∀ m ∈ w.frontier, ∀ text, m.text = some text → network m.url.text = .ok text

theorem Reveals.answered {moment : String → Reply} (h : Reveals network moment) {url : String}
    {r : Except Error String} (hanswer : moment url = .answered r) : network url = r := by
  rcases h url with hwaiting | hanswered
  · rw [hwaiting] at hanswer
    cases hanswer
  · rw [hanswered] at hanswer
    cases hanswer
    rfl

theorem Wanted.text_poll (moment : String → Reply) (m : Wanted) :
    (m.poll moment).text = m.text.or ((moment m.url.text).answer?.bind Except.toOption) := by
  unfold Wanted.poll
  cases htext : m.text with
  | some text => simp [htext]
  | none =>
    cases hreply : moment m.url.text with
    | waiting => simp [Reply.answer?]
    | answered r => cases r <;> simp [Reply.answer?, Except.toOption]

theorem Walk.Reads.poll {moment : String → Reply} (hmoment : Reveals network moment)
    (h : w.Reads network) :
    Walk.Reads network { w with frontier := w.frontier.map (Wanted.poll moment) } := by
  intro m hm text htext
  obtain ⟨m', hm', rfl⟩ := List.mem_map.mp hm
  rw [Wanted.url_poll]
  rw [Wanted.text_poll] at htext
  rcases Option.or_eq_some_iff.mp htext with hold | ⟨-, hnew⟩
  · exact h m' hm' text hold
  · rcases hmoment m'.url.text with hreply | hreply
    · rw [hreply] at hnew
      cases hnew
    · rw [hreply] at hnew
      cases hanswer : network m'.url.text with
      | error e =>
        rw [hanswer] at hnew
        cases hnew
      | ok text' =>
        rw [hanswer] at hnew
        cases hnew
        rfl

/-- A module that has been polled and has no text is one the moment keeps
waiting, or has an error for. -/
theorem Wanted.waiting_of_poll {moment : String → Reply} {m : Wanted}
    (hok : m.text = none → ∀ e, moment m.url.text ≠ .answered (.error e))
    (h : (m.poll moment).text = none) : moment m.url.text = .waiting := by
  rw [Wanted.text_poll, Option.or_eq_none_iff] at h
  obtain ⟨htext, hnone⟩ := h
  cases hreply : moment m.url.text with
  | waiting => rfl
  | answered r =>
    cases r with
    | error e => exact absurd hreply (hok htext e)
    | ok text =>
      rw [hreply] at hnone
      cases hnone

/-- Once all of a depth has come, its modules are the network's. -/
theorem Walk.Reads.pages (h : w.Reads network) :
    ∀ m ∈ pages w.frontier, network m.1.text = .ok m.2 := by
  intro m hm
  obtain ⟨m', hm', hpage⟩ := List.mem_filterMap.mp hm
  obtain ⟨text, htext, rfl⟩ := Option.map_eq_some_iff.mp hpage
  exact h m' hm' text htext

/-- How a walk stands agrees with the outcome `plain` of the plain search.  A
walk is left waiting only where something it asks for is kept back. -/
def Progress.Matches (network : String → Except Error String) (plain : Except Error Bundle)
    (kept : String → Prop) : Progress → Prop
  | .waiting w => w.Reads network ∧ w.ahead network = plain ∧ ∃ m ∈ w.frontier, kept m.url.text
  | .failed _ => ∃ e, plain = .error e
  | .finished b => plain = .ok b

theorem urls_poll (moment : String → Reply) (frontier : List Wanted) :
    (frontier.map (Wanted.poll moment)).map (·.url) = frontier.map (·.url) := by
  rw [List.map_map]
  exact List.map_congr_left fun m _ => Wanted.url_poll moment m

/-- What lies ahead does not depend on what has come so far. -/
theorem Walk.ahead_poll (w : Walk) (network : String → Except Error String)
    (moment : String → Reply) :
    Walk.ahead network { w with frontier := w.frontier.map (Wanted.poll moment) } =
      w.ahead network := by
  unfold Walk.ahead
  rw [urls_poll]

/-- When all of a frontier has come, its pages are the queue. -/
theorem Walk.ahead_pages (w : Walk) (network : String → Except Error String)
    {moment : String → Reply}
    (hcome : (w.frontier.map (Wanted.poll moment)).any (·.text.isNone) = false) :
    w.ahead network = search network w.name w.limit
      ⟨(pages (w.frontier.map (Wanted.poll moment))).map Prod.fst ++ [], w.seen, w.bundle⟩ := by
  rw [Walk.ahead, List.append_nil, pages_urls hcome, urls_poll]

/-- Going on leaves what is ahead of a walk as it is.  The induction is on the
rounds allowed, of which there are always enough. -/
theorem Walk.Tracks.advance_matches {entry : Url} {limit fuel : Nat} {moment : String → Reply}
    {modules : List (Url × String)} {w : Walk} (hmoment : Reveals network moment)
    (htracks : w.Tracks entry limit modules (w.frontier.map (·.url))) (hreads : w.Reads network)
    (hfuel : w.roundsLeft ≤ fuel) :
    (Walk.advance moment fuel w).2.Matches network (w.ahead network) (moment · = .waiting) := by
  induction fuel generalizing w modules with
  | zero =>
    unfold Walk.roundsLeft at hfuel
    split at hfuel <;> omega
  | succ fuel ih =>
    by_cases hempty : w.frontier = []
    · rw [Walk.advance_empty hempty]
      show w.ahead network = .ok w.bundle
      rw [Walk.ahead, hempty, List.map_nil, search_nil]
    · rw [Walk.advance_succ hempty]
      cases hask : Walk.ask moment w.frontier with
      | mk new result =>
        cases result with
        | error e =>
          obtain ⟨m, hm, herror⟩ := ask_error hask
          exact search_of_unreachable (hmoment.answered herror) (List.mem_map_of_mem hm)
        | ok wanted =>
          obtain ⟨rfl, -, hok⟩ := ask_ok hask
          have hpolled := hreads.poll hmoment
          have hurls := urls_poll moment w.frontier
          cases hcome : (w.frontier.map (Wanted.poll moment)).any (·.text.isNone) with
          | true =>
            obtain ⟨m, hm, hnone⟩ := List.any_eq_true.mp hcome
            obtain ⟨m', hm', rfl⟩ := List.mem_map.mp hm
            simp only [hcome, if_true]
            refine ⟨hpolled, w.ahead_poll network moment, _, hm, ?_⟩
            rw [Wanted.url_poll]
            exact Wanted.waiting_of_poll (hok m' hm') (Option.isNone_iff_eq_none.mp hnone)
          | false =>
            have hqueue := w.ahead_pages network hcome
            simp only [hcome, Bool.false_eq_true, if_false]
            cases hdescend : w.descend (pages (w.frontier.map (Wanted.poll moment))) [] with
            | error e =>
              show ∃ e', w.ahead network = .error e'
              rw [hqueue]
              exact search_of_descend_error hpolled.pages hdescend
            | ok w' =>
              rw [← hurls, ← pages_urls hcome] at htracks
              obtain ⟨htracks', hfresh, hleft⟩ := htracks.nextDepth hdescend
              have hreads' : w'.Reads network := by
                intro m hm text htext
                rw [(hfresh m hm).2] at htext
                cases htext
              have hfewer : w'.roundsLeft ≤ fuel := by
                unfold Walk.roundsLeft at hfuel
                rw [if_neg hempty, htracks.limit_eq] at hfuel
                exact Nat.le_of_lt_succ (Nat.lt_of_lt_of_le hleft hfuel)
              rw [hqueue, search_of_descend hpolled.pages hdescend]
              exact ih htracks' hreads' hfewer

/-- A search that begins at an entry. -/
def Search.start (entry : Url) : Search := ⟨[entry], [entry.text], Bundle.ofEntry entry.text⟩

theorem Walk.ahead_start (network : String → Except Error String) (name : String) (entry : Url)
    (limit : Nat) :
    (Walk.start name entry limit).ahead network =
      search network name limit (Search.start entry) := rfl

/-- The last of these moments keeps the answer for an address back. -/
def KeptBack (moments : List (String → Reply)) (url : String) : Prop :=
  ∀ last, moments.getLast? = some last → last url = .waiting

theorem pursue_matches {name : String} {entry : Url} {limit : Nat}
    {moments : List (String → Reply)} (hmoments : ∀ moment ∈ moments, Reveals network moment) :
    (pursue (Walk.start name entry limit) moments).progress.Matches network
      (search network name limit (Search.start entry)) (KeptBack moments) := by
  induction moments using List.reverseRecOn with
  | nil =>
    refine ⟨?_, Walk.ahead_start network name entry limit, ⟨entry, false, none⟩,
      List.mem_singleton_self _, ?_⟩
    · intro m hm text htext
      rw [List.mem_singleton.mp hm] at htext
      cases htext
    · intro last hlast
      cases hlast
  | append_singleton moments moment ih =>
    have hbefore := ih fun m hm => hmoments m (List.mem_append_left _ hm)
    have hmoment : Reveals network moment := hmoments moment (by simp)
    have hkept : KeptBack (moments ++ [moment]) = (moment · = .waiting) := by
      funext url
      simp [KeptBack]
    obtain ⟨-, hagrees⟩ := pursue_agrees name entry limit moments
    rw [pursue_snoc, hkept]
    cases hprogress : (pursue (Walk.start name entry limit) moments).progress with
    | waiting w =>
      rw [hprogress] at hbefore hagrees
      obtain ⟨hreads, hahead, -⟩ := hbefore
      obtain ⟨⟨modules, hfollows⟩, -⟩ := hagrees
      simp only [Pursuit.next, hprogress]
      rw [← hahead]
      exact hfollows.tracks.advance_matches hmoment hreads w.roundsLeft_le_rounds
    | failed e =>
      rw [hprogress] at hbefore
      simp only [Pursuit.next, hprogress]
      exact hbefore
    | finished b =>
      rw [hprogress] at hbefore
      simp only [Pursuit.next, hprogress]
      exact hbefore

/-- Whatever a network says, and in whatever order its answers come, a walk that
is over has finished with a bundle exactly if the plain search returns that
bundle, and has failed exactly if the search fails.  A walk that is not over
waits for an answer that has not come yet. -/
theorem pursue_eq_search (network : String → Except Error String) (name : String) (entry : Url)
    (limit : Nat) {moments : List (String → Reply)}
    (hmoments : ∀ moment ∈ moments, Reveals network moment) :
    let plain := search network name limit (Search.start entry)
    let progress := (pursue (Walk.start name entry limit) moments).progress
    ((∀ w, progress ≠ .waiting w) →
      (∀ b, progress = .finished b ↔ plain = .ok b) ∧
      ((∃ e, progress = .failed e) ↔ ∃ e, plain = .error e)) ∧
    ∀ w, progress = .waiting w → ∃ m ∈ w.frontier, KeptBack moments m.url.text := by
  intro plain progress
  have hmatches : progress.Matches network plain (KeptBack moments) := pursue_matches hmoments
  cases hprogress : progress with
  | waiting w =>
    rw [hprogress] at hmatches
    obtain ⟨-, -, hkept⟩ := hmatches
    refine ⟨fun hover => absurd rfl (hover w), ?_⟩
    intro w' hw
    cases hw
    exact hkept
  | failed e =>
    rw [hprogress] at hmatches
    obtain ⟨e', hplain⟩ := hmatches
    refine ⟨fun _ => ⟨?_, ?_⟩, ?_⟩
    · intro b
      simp [hplain]
    · simp [hplain]
    · intro w hw
      cases hw
  | finished b =>
    rw [hprogress] at hmatches
    have hplain : plain = .ok b := hmatches
    refine ⟨fun _ => ⟨?_, ?_⟩, ?_⟩
    · intro b'
      simp [hplain]
    · simp [hplain]
    · intro w hw
      cases hw

/-- What the site of three modules answers in the end. -/
def circleAnswer (url : String) : Except Error String :=
  (circle url).answer?.getD (.error (.fetch url "no answer"))

/-- The plain search finds the three modules of the circle in the order of the
walk that has to wait for one of them. -/
theorem pursue_eq_search_circle :
    ∃ b, search circleAnswer "a" 3 (Search.start (circleUrl "a.js")) = .ok b ∧
      b.urls = ["a.js", "b.js", "c.js"].map (fun file => (circleUrl file).text) := by
  have hmoments : ∀ moment ∈ [slowCircle, circle], Reveals circleAnswer moment := by
    intro moment hmoment url
    rcases List.mem_pair.mp hmoment with rfl | rfl
    · by_cases hslow : url = (circleUrl "b.js").text
      · exact Or.inl (if_pos hslow)
      · exact Or.inr (if_neg hslow)
    · exact Or.inr rfl
  have hurls : (match circlePursuit.progress with
      | .finished b => some b.urls
      | _ => none) = some (["a.js", "b.js", "c.js"].map fun file => (circleUrl file).text) := by
    decide +kernel
  obtain ⟨hover, -⟩ := pursue_eq_search circleAnswer "a" (circleUrl "a.js") 3 hmoments
  cases hprogress : circlePursuit.progress with
  | finished b =>
    have hfinished : (pursue (Walk.start "a" (circleUrl "a.js") 3)
        [slowCircle, circle]).progress = .finished b := hprogress
    rw [hfinished] at hover
    obtain ⟨hsame, -⟩ := hover fun w hw => by cases hw
    rw [hprogress] at hurls
    exact ⟨b, (hsame b).mp rfl, Option.some.inj hurls⟩
  | waiting w =>
    rw [hprogress] at hurls
    cases hurls
  | failed e =>
    rw [hprogress] at hurls
    cases hurls

end Playpen.Dependency
