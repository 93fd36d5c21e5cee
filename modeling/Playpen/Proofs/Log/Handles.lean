import Playpen.Log.Handle
import Playpen.Proofs.Runs.Outcome
import Mathlib.Data.List.Induction

/-!
# Buffers behind handles

A client makes buffers, clones handles to them, and does what it likes through any of them.  What was
pushed to a buffer can be read off the actions alone: the calls through any of its handles since the
last reset through any of them.  The recorder of the buffer holds just these after every action, so
its counter is their number, and an answer that fitted when it was given fits ever after.
-/

namespace Playpen.Log

/-! ## Recorders -/

theorem Transcript.entries_ofCalls_snoc (calls : List Call) (kind : Kind) (content : String) :
    (ofCalls (calls ++ [(kind, content)])).entries =
      (ofCalls calls).entries ++ [⟨kind, content, calls.length⟩] := by
  simp [ofCalls]

namespace Recorder

/-- What a recorder is after calls: their entries, numbered, and how many there
are. -/
def ofCalls (calls : List Call) : Recorder :=
  ⟨(Transcript.ofCalls calls).entries.toArray, UInt64.ofNat calls.length⟩

variable {calls : List Call}

theorem size_ofCalls (calls : List Call) : (ofCalls calls).size = calls.length := by
  simp [ofCalls, size]

theorem snapshot_ofCalls (calls : List Call) : (ofCalls calls).snapshot = .ofCalls calls := rfl

theorem isEmpty_ofCalls (calls : List Call) : (ofCalls calls).isEmpty = calls.isEmpty := by
  rw [isEmpty, size_ofCalls]
  cases calls <;> rfl

/-- The next number is the number of entries, as long as the entries fit. -/
theorem push_ofCalls (h : calls.length < capacity) (kind : Kind) (content : String) :
    (ofCalls calls).push kind content =
      some (UInt64.ofNat calls.length, ofCalls (calls ++ [(kind, content)])) := by
  have hsize : (ofCalls calls).entries.size = calls.length := size_ofCalls calls
  have hword : (UInt64.ofNat calls.length).toNat = calls.length :=
    UInt64.toNat_ofNat_of_lt' (Nat.lt_trans h (by decide))
  have hnext : UInt64.ofNat calls.length + 1 = UInt64.ofNat (calls.length + 1) :=
    (UInt64.ofNat_add calls.length 1).symm
  rw [push, hsize, if_pos h]
  simp only [ofCalls, hword, hnext, Transcript.entries_ofCalls_snoc, List.push_toArray,
    List.length_append, List.length_singleton]

theorem push_ofCalls_full (h : capacity ≤ calls.length) (kind : Kind) (content : String) :
    (ofCalls calls).push kind content = none := by
  have hsize : (ofCalls calls).entries.size = calls.length := size_ofCalls calls
  rw [push, hsize, if_neg (Nat.not_lt.mpr h)]

end Recorder

/-- The recorder behind the buffer of a run, which only the run can reach. -/
def Buffer.recorder (b : Buffer) : Recorder := ⟨b.entries, UInt64.ofNat b.size⟩

section

variable (b : Buffer)

theorem Buffer.recorder_eq : b.recorder = .ofCalls b.calls := by
  have hentries : b.entries.toList = (Transcript.ofCalls b.calls).entries :=
    congrArg Transcript.entries b.snapshot_eq
  have hlength : b.calls.length = b.size := by simp [calls, size]
  rw [recorder, Recorder.ofCalls, ← hentries, hlength, Array.toArray_toList]

theorem Buffer.push_recorder (h : b.size < Recorder.capacity) (kind : Kind) (content : String) :
    b.recorder.push kind content =
      some (UInt64.ofNat b.size, (b.push kind content).recorder) := by
  have hlength : b.calls.length = b.size := by simp [calls, size]
  rw [b.recorder_eq, Recorder.push_ofCalls (by rwa [hlength]), hlength, recorder_eq, calls_push]

theorem Buffer.snapshot_recorder : b.recorder.snapshot = b.snapshot := rfl

end

/-! ## Clients -/

/-- Whoever works with buffers: the handles that it has, and the results that it
has frozen, in the order in which it came by them. -/
structure Client where
  memory : Memory
  handles : List Handle
  frozen : List Transcript

/-- What a client does, with its handles and results by number. -/
inductive Action where
  | create
  | clone (i : Nat)
  | push (i : Nat) (kind : Kind) (content : String)
  | reset (i : Nat)
  | size (i : Nat)
  | isEmpty (i : Nat)
  | snapshot (i : Nat)
  /-- Looks at a frozen result. -/
  | look (r : Nat)

/-- What a client gets. -/
inductive Answer where
  | handle (i : Nat)
  | number (n : Nat)
  | flag (b : Bool)
  | done
  | result (r : Nat)
  | entries (t : Transcript)

namespace Client

def new : Client := ⟨.empty, [], []⟩

/-- One action.  It comes to nothing if the client does not have what it names, or
if there is no room. -/
def step (s : Client) : Action → Option (Answer × Client)
  | .create =>
    let (h, memory) := s.memory.create
    some (.handle s.handles.length, { s with memory := memory, handles := s.handles ++ [h] })
  | .clone i => do
    let h ← s.handles[i]?
    return (.handle s.handles.length, { s with handles := s.handles ++ [h.clone] })
  | .push i kind content => do
    let (sequence, memory) ← s.memory.push (← s.handles[i]?) kind content
    return (.number sequence.toNat, { s with memory := memory })
  | .reset i => do
    let memory ← s.memory.reset (← s.handles[i]?)
    return (.done, { s with memory := memory })
  | .size i => do
    return (.number (← s.memory.size (← s.handles[i]?)), s)
  | .isEmpty i => do
    return (.flag (← s.memory.isEmpty (← s.handles[i]?)), s)
  | .snapshot i => do
    let t ← s.memory.snapshot (← s.handles[i]?)
    return (.result s.frozen.length, { s with frozen := s.frozen ++ [t] })
  | .look r => do
    return (.entries (← s.frozen[r]?), s)

/-- One more action, behind the answers so far. -/
def proceed : List Answer × Client → Action → Option (List Answer × Client)
  | (answers, s), a => (step s a).map fun (answer, s') => (answers ++ [answer], s')

/-- One action after the other, with the answers in order. -/
def run (actions : List Action) : Option (List Answer × Client) := actions.foldlM proceed ([], new)

end Client

/-! ## What was pushed -/

namespace Action

/-- Whether the action resets a buffer, which these handles lead to. -/
def resets (through : Nat → Bool) : Action → Bool
  | reset i => through i
  | _ => false

/-- The call that the action pushes through one of these handles, if it does. -/
def call? (through : Nat → Bool) : Action → Option Call
  | push i kind content => if through i then some (kind, content) else none
  | _ => none

/-- Neither pushes nor resets anything. -/
def isQuiet : Action → Bool
  | push _ _ _ | reset _ => false
  | _ => true

/-- The handle that the action uses. -/
def handle? : Action → Option Nat
  | create | look _ => none
  | clone i | push i _ _ | reset i | size i | isEmpty i | snapshot i => some i

/-- The calls that are pushed through these handles after the last reset through
one of them. -/
def pushed (through : Nat → Bool) (actions : List Action) : List Call :=
  (actions.reverse.takeWhile fun a => !a.resets through).reverse.filterMap (call? through)

variable {through other : Nat → Bool}

theorem pushed_snoc (through : Nat → Bool) (actions : List Action) (a : Action) :
    pushed through (actions ++ [a]) =
      if a.resets through then [] else pushed through actions ++ (a.call? through).toList := by
  rw [pushed, List.reverse_append, List.reverse_singleton, List.singleton_append,
    List.takeWhile_cons]
  cases a.resets through with
  | true => rfl
  | false =>
    rw [if_pos (by rfl), if_neg Bool.false_ne_true, List.reverse_cons, List.filterMap_append]
    cases hcall : a.call? through <;> simp [pushed, hcall]

/-- It matters only through which handles the actions go. -/
theorem pushed_congr {actions : List Action}
    (h : ∀ a ∈ actions, ∀ i, a.handle? = some i → through i = other i) :
    pushed through actions = pushed other actions := by
  induction actions using List.reverseRecOn with
  | nil => rfl
  | append_singleton actions a ih =>
    have hactions := ih fun b hb => h b (List.mem_append_left _ hb)
    have ha := h a (List.mem_append_right _ List.mem_cons_self)
    have hresets : a.resets through = a.resets other := by
      cases a with
      | reset i => exact ha i rfl
      | _ => rfl
    have hcall : a.call? through = a.call? other := by
      cases a with
      | push i kind content => rw [call?, call?, ha i rfl]
      | _ => rfl
    rw [pushed_snoc, pushed_snoc, hactions, hresets, hcall]

theorem pushed_of_none {actions : List Action}
    (h : ∀ a ∈ actions, ∀ i, a.handle? = some i → through i = false) :
    pushed through actions = [] := by
  have hcall : call? (fun _ => false) = fun _ => none := by
    funext a
    cases a <;> rfl
  rw [@pushed_congr _ (fun _ => false) _ h, pushed, hcall]
  exact List.filterMap_none _

end Action

namespace Client

/-- The calls that were pushed to the buffer of a handle since its last reset,
through whichever of the client's handles. -/
def pushed (s : Client) (h : Handle) (actions : List Action) : List Call :=
  Action.pushed (fun i => s.handles[i]? = some h) actions

/-- What the answer to an action has to be, for a client that has been through
others before it, and may have been through more behind it. -/
def Fits (s : Client) (before : List Action) (a : Action) (answer : Answer) : Prop :=
  match a with
  | .create =>
    ∃ i h, answer = .handle i ∧ s.handles[i]? = some h ∧ ∀ j < i, s.handles[j]? ≠ some h
  | .clone i => ∃ j h, answer = .handle j ∧ i < j ∧ s.handles[i]? = some h ∧ s.handles[j]? = some h
  | .push i _ _ => ∃ h, s.handles[i]? = some h ∧ answer = .number (s.pushed h before).length
  | .reset _ => answer = .done
  | .size i => ∃ h, s.handles[i]? = some h ∧ answer = .number (s.pushed h before).length
  | .isEmpty i => ∃ h, s.handles[i]? = some h ∧ answer = .flag (s.pushed h before).isEmpty
  | .snapshot i => ∃ h r, s.handles[i]? = some h ∧ answer = .result r ∧
      s.frozen[r]? = some (.ofCalls (s.pushed h before))
  | .look r => ∃ t, s.frozen[r]? = some t ∧ answer = .entries t

/-- The client does not have the handle or the result that the action names. -/
def Lacks (s : Client) : Action → Prop
  | .create => False
  | .clone i | .push i _ _ | .reset i | .size i | .isEmpty i | .snapshot i => s.handles[i]? = none
  | .look r => s.frozen[r]? = none

/-- The action pushes, and the buffer has no room. -/
def Overfills (s : Client) (before : List Action) : Action → Prop
  | .push i _ _ => ∃ h, s.handles[i]? = some h ∧ (s.pushed h before).length = Recorder.capacity
  | _ => False

/-! ## What the recorders hold -/

/-- After actions, the recorder of each buffer holds what was pushed to it since its
last reset, and the handles that were used are there. -/
structure Tracks (s : Client) (actions : List Action) : Prop where
  placed : ∀ h ∈ s.handles, h.place < s.memory.recorders.size
  recorded : ∀ place, place < s.memory.recorders.size →
    s.memory.recorders[place]? = some (.ofCalls (s.pushed ⟨place⟩ actions))
  room : ∀ place, (s.pushed ⟨place⟩ actions).length ≤ Recorder.capacity
  used : ∀ a ∈ actions, ∀ i, a.handle? = some i → i < s.handles.length

variable {s s' : Client} {actions : List Action} {a : Action} {h : Handle} {i : Nat}

theorem Tracks.recorder? (hs : s.Tracks actions) (hi : s.handles[i]? = some h) :
    s.memory.recorder? h = some (.ofCalls (s.pushed h actions)) :=
  hs.recorded h.place (hs.placed h (List.mem_of_getElem? hi))

theorem pushed_snoc (s : Client) (h : Handle) (actions : List Action) (a : Action) :
    s.pushed h (actions ++ [a]) =
      if a.resets fun i => s.handles[i]? = some h then []
      else s.pushed h actions ++ (a.call? fun i => s.handles[i]? = some h).toList :=
  Action.pushed_snoc _ _ _

/-- Handles that are made later do not count for what was pushed before. -/
theorem pushed_of_prefix (hused : ∀ a ∈ actions, ∀ i, a.handle? = some i → i < s.handles.length)
    (hgrown : s.handles <+: s'.handles) (h : Handle) : s'.pushed h actions = s.pushed h actions := by
  refine Action.pushed_congr fun a ha i hi => ?_
  obtain ⟨more, hmore⟩ := hgrown
  rw [← hmore, List.getElem?_append_left (hused a ha i hi)]

theorem lt_of_handle? (hi : s.handles[i]? = some h) (ha : a.handle? = some i) :
    ∀ j, a.handle? = some j → j < s.handles.length := by
  intro j hj
  rw [ha, Option.some.injEq] at hj
  rw [← hj]
  exact (List.getElem?_eq_some_iff.mp hi).1

theorem Tracks.used_snoc (hs : s.Tracks actions)
    (ha : ∀ i, a.handle? = some i → i < s.handles.length) :
    ∀ b ∈ actions ++ [a], ∀ i, b.handle? = some i → i < s.handles.length := by
  intro b hb
  rcases List.mem_append.mp hb with hb | hb
  · exact hs.used b hb
  · rw [List.mem_singleton.mp hb]
    exact ha

/-- An action through other handles changes nothing for this one. -/
theorem pushed_snoc_other (hother : ∀ i, a.handle? = some i → s.handles[i]? ≠ some h) :
    s.pushed h (actions ++ [a]) = s.pushed h actions := by
  rw [pushed_snoc]
  cases a with
  | push i kind content => simp [Action.resets, Action.call?, hother i rfl]
  | reset i => simp [Action.resets, Action.call?, hother i rfl]
  | _ => simp [Action.resets, Action.call?]

theorem pushed_snoc_push (hi : s.handles[i]? = some h) (kind : Kind) (content : String) :
    s.pushed h (actions ++ [.push i kind content]) = s.pushed h actions ++ [(kind, content)] := by
  rw [pushed_snoc]
  simp [Action.resets, Action.call?, hi]

theorem pushed_snoc_reset (hi : s.handles[i]? = some h) :
    s.pushed h (actions ++ [.reset i]) = [] := by
  rw [pushed_snoc]
  simp [Action.resets, hi]

theorem pushed_snoc_quiet (hquiet : a.isQuiet = true) :
    s.pushed h (actions ++ [a]) = s.pushed h actions := by
  rw [pushed_snoc]
  cases a with
  | push i kind content => cases hquiet
  | reset i => cases hquiet
  | _ => simp [Action.resets, Action.call?]

theorem Tracks.pushed_of_le (hs : s.Tracks actions) (hplace : s.memory.recorders.size ≤ h.place) :
    s.pushed h actions = [] := by
  refine Action.pushed_of_none fun a _ i _ => decide_eq_false fun hi => ?_
  exact Nat.not_lt.mpr hplace (hs.placed h (List.mem_of_getElem? hi))

/-! ## What a memory gives -/

section

variable (hs : s.Tracks actions) (hi : s.handles[i]? = some h)

include hs hi

theorem Tracks.push_eq (hroom : (s.pushed h actions).length < Recorder.capacity) (kind : Kind)
    (content : String) : s.memory.push h kind content =
      some (UInt64.ofNat (s.pushed h actions).length,
        s.memory.put h (.ofCalls (s.pushed h actions ++ [(kind, content)]))) := by
  simp only [Memory.push, hs.recorder? hi, Recorder.push_ofCalls hroom, Option.bind_eq_bind,
    Option.bind_some]
  rfl

theorem Tracks.push_eq_none_iff (kind : Kind) (content : String) :
    s.memory.push h kind content = none ↔ (s.pushed h actions).length = Recorder.capacity := by
  by_cases hroom : (s.pushed h actions).length < Recorder.capacity
  · rw [hs.push_eq hi hroom]
    exact iff_of_false (fun hnone => by cases hnone) (Nat.ne_of_lt hroom)
  · have hfull := Nat.le_of_not_lt hroom
    simp only [Memory.push, hs.recorder? hi, Recorder.push_ofCalls_full hfull, Option.bind_eq_bind,
      Option.bind_some, Option.bind_none, true_iff]
    exact Nat.le_antisymm (hs.room h.place) hfull

theorem Tracks.reset_eq : s.memory.reset h = some (s.memory.put h (.ofCalls [])) := by
  simp only [Memory.reset, hs.recorder? hi, Option.bind_eq_bind, Option.bind_some]
  rfl

theorem Tracks.size_eq : s.memory.size h = some (s.pushed h actions).length := by
  rw [Memory.size, hs.recorder? hi, Option.map_some, Recorder.size_ofCalls]

theorem Tracks.isEmpty_eq : s.memory.isEmpty h = some (s.pushed h actions).isEmpty := by
  rw [Memory.isEmpty, hs.recorder? hi, Option.map_some, Recorder.isEmpty_ofCalls]

theorem Tracks.snapshot_eq : s.memory.snapshot h = some (.ofCalls (s.pushed h actions)) := by
  rw [Memory.snapshot, hs.recorder? hi, Option.map_some, Recorder.snapshot_ofCalls]

end

/-! ## One action -/

section

variable (hs : s.Tracks actions)

include hs

/-- A recorder is put back as what it is after the action. -/
theorem Tracks.put (hi : s.handles[i]? = some h) (ha : a.handle? = some i)
    (hroom : (s.pushed h (actions ++ [a])).length ≤ Recorder.capacity) :
    Tracks { s with memory := s.memory.put h (.ofCalls (s.pushed h (actions ++ [a]))) }
      (actions ++ [a]) := by
  have hother : ∀ place, place ≠ h.place →
      s.pushed ⟨place⟩ (actions ++ [a]) = s.pushed ⟨place⟩ actions := by
    intro place hne
    refine pushed_snoc_other fun j hj heq => hne ?_
    rw [ha, Option.some.injEq] at hj
    rw [← hj, hi, Option.some.injEq] at heq
    rw [heq]
  have hplaced := hs.placed h (List.mem_of_getElem? hi)
  refine ⟨?_, ?_, ?_, ?_⟩
  · intro h' hh'
    simpa [Memory.put] using hs.placed h' hh'
  · intro place hplace
    show (s.memory.recorders.setIfInBounds h.place _)[place]? =
      some (.ofCalls (s.pushed ⟨place⟩ (actions ++ [a])))
    rw [Array.getElem?_setIfInBounds]
    by_cases heq : h.place = place
    · subst heq
      rw [if_pos rfl, if_pos hplaced]
    · -- Other places keep their recorders, and nothing was pushed to their buffers.
      rw [if_neg heq, hother place (Ne.symm heq)]
      exact hs.recorded place (by simpa [Memory.put] using hplace)
  · intro place
    show (s.pushed ⟨place⟩ (actions ++ [a])).length ≤ Recorder.capacity
    by_cases heq : h.place = place
    · subst heq
      exact hroom
    · rw [hother place (Ne.symm heq)]
      exact hs.room place
  · exact hs.used_snoc (lt_of_handle? hi ha)

theorem Tracks.of_push {kind : Kind} {content : String} {sequence : UInt64} {memory : Memory}
    (hi : s.handles[i]? = some h) (hpush : s.memory.push h kind content = some (sequence, memory)) :
    Tracks { s with memory := memory } (actions ++ [.push i kind content]) ∧
      sequence.toNat = (s.pushed h actions).length := by
  have hroom : (s.pushed h actions).length < Recorder.capacity := by
    refine Nat.lt_of_le_of_ne (hs.room h.place) fun hfull => ?_
    rw [(hs.push_eq_none_iff hi kind content).mpr hfull] at hpush
    cases hpush
  rw [hs.push_eq hi hroom] at hpush
  cases hpush
  have hput := hs.put (a := .push i kind content) hi rfl
  rw [pushed_snoc_push hi, List.length_append] at hput
  exact ⟨hput hroom, UInt64.toNat_ofNat_of_lt' (Nat.lt_trans hroom (by decide))⟩

theorem Tracks.of_reset {memory : Memory} (hi : s.handles[i]? = some h)
    (hreset : s.memory.reset h = some memory) :
    Tracks { s with memory := memory } (actions ++ [.reset i]) := by
  rw [hs.reset_eq hi] at hreset
  cases hreset
  have hput := hs.put (a := .reset i) hi rfl
  rw [pushed_snoc_reset hi] at hput
  exact hput (Nat.zero_le _)

/-- The client comes by a handle, in a memory that holds what was pushed. -/
theorem Tracks.take (hquiet : a.isQuiet = true) (ha : ∀ i, a.handle? = some i → i < s.handles.length)
    {memory : Memory} (hsize : s.memory.recorders.size ≤ memory.recorders.size)
    (hplace : h.place < memory.recorders.size)
    (hrecorded : ∀ place, place < memory.recorders.size →
      memory.recorders[place]? = some (.ofCalls (s.pushed ⟨place⟩ actions))) :
    Tracks { s with memory := memory, handles := s.handles ++ [h] } (actions ++ [a]) := by
  have hpushed : ∀ h', pushed { s with memory := memory, handles := s.handles ++ [h] } h'
      (actions ++ [a]) = s.pushed h' actions := by
    intro h'
    rw [pushed_snoc_quiet hquiet]
    exact pushed_of_prefix hs.used (List.prefix_append _ _) h'
  refine ⟨?_, ?_, ?_, ?_⟩
  · intro h' hh'
    rcases List.mem_append.mp hh' with hh' | hh'
    · exact Nat.lt_of_lt_of_le (hs.placed h' hh') hsize
    · rw [List.mem_singleton.mp hh']
      exact hplace
  · intro place hlt
    rw [hpushed]
    exact hrecorded place hlt
  · intro place
    rw [hpushed]
    exact hs.room place
  · intro b hb i hi
    rw [List.length_append]
    exact Nat.lt_add_right 1 (hs.used_snoc ha b hb i hi)

/-- The client looks at what it has, and may freeze it. -/
theorem Tracks.glance (hquiet : a.isQuiet = true)
    (ha : ∀ i, a.handle? = some i → i < s.handles.length) (frozen : List Transcript) :
    Tracks { s with frozen := frozen } (actions ++ [a]) := by
  have hpushed : ∀ h', pushed { s with frozen := frozen } h' (actions ++ [a]) = s.pushed h' actions :=
    fun h' => pushed_snoc_quiet hquiet
  refine ⟨hs.placed, ?_, ?_, hs.used_snoc ha⟩
  · intro place hlt
    rw [hpushed]
    exact hs.recorded place hlt
  · intro place
    rw [hpushed]
    exact hs.room place

/-- A new buffer has a place of its own, and nothing was pushed to it. -/
theorem Tracks.recorded_create (place : Nat) (hlt : place < s.memory.create.2.recorders.size) :
    s.memory.create.2.recorders[place]? = some (.ofCalls (s.pushed ⟨place⟩ actions)) := by
  show (s.memory.recorders.push .empty)[place]? = _
  rw [Array.getElem?_push]
  split
  · rename_i heq
    rw [hs.pushed_of_le (Nat.le_of_eq heq.symm)]
    rfl
  · rename_i hne
    have hold : place < s.memory.recorders.size + 1 := by simpa [Memory.create] using hlt
    exact hs.recorded place (by omega)

end

/-- One client goes on where the other stops. -/
def Grows (s s' : Client) : Prop := s.handles <+: s'.handles ∧ s.frozen <+: s'.frozen

theorem getElem?_of_prefix {α : Type} {xs ys : List α} {x : α} (h : xs <+: ys) (hx : xs[i]? = some x) :
    ys[i]? = some x := by
  obtain ⟨hi, rfl⟩ := List.getElem?_eq_some_iff.mp hx
  exact List.prefix_iff_getElem?.mp h i hi

/-- An answer goes on to fit, whatever the client does later. -/
theorem Fits.mono {answer : Answer} (hfits : s.Fits actions a answer) (hgrown : s.Grows s')
    (hused : ∀ b ∈ actions, ∀ i, b.handle? = some i → i < s.handles.length) :
    s'.Fits actions a answer := by
  have hpushed : ∀ h, s'.pushed h actions = s.pushed h actions := pushed_of_prefix hused hgrown.1
  cases a with
  | create =>
    obtain ⟨i, h, rfl, hi, hnew⟩ := hfits
    refine ⟨i, h, rfl, getElem?_of_prefix hgrown.1 hi, fun j hj heq => hnew j hj ?_⟩
    have hlength := (List.getElem?_eq_some_iff.mp hi).1
    obtain ⟨more, hmore⟩ := hgrown.1
    rwa [← hmore, List.getElem?_append_left (Nat.lt_trans hj hlength)] at heq
  | clone i =>
    obtain ⟨j, h, rfl, hlt, hi, hj⟩ := hfits
    exact ⟨j, h, rfl, hlt, getElem?_of_prefix hgrown.1 hi, getElem?_of_prefix hgrown.1 hj⟩
  | push i kind content =>
    obtain ⟨h, hi, rfl⟩ := hfits
    exact ⟨h, getElem?_of_prefix hgrown.1 hi, by rw [hpushed]⟩
  | reset i => exact hfits
  | size i =>
    obtain ⟨h, hi, rfl⟩ := hfits
    exact ⟨h, getElem?_of_prefix hgrown.1 hi, by rw [hpushed]⟩
  | isEmpty i =>
    obtain ⟨h, hi, rfl⟩ := hfits
    exact ⟨h, getElem?_of_prefix hgrown.1 hi, by rw [hpushed]⟩
  | snapshot i =>
    obtain ⟨h, r, hi, rfl, hr⟩ := hfits
    exact ⟨h, r, getElem?_of_prefix hgrown.1 hi, rfl, by rw [hpushed, getElem?_of_prefix hgrown.2 hr]⟩
  | look r =>
    obtain ⟨t, ht, rfl⟩ := hfits
    exact ⟨t, getElem?_of_prefix hgrown.2 ht, rfl⟩

/-- One action changes what is recorded as it should, and its answer fits. -/
theorem Tracks.of_step {answer : Answer} (hs : s.Tracks actions) (h : step s a = some (answer, s')) :
    s'.Tracks (actions ++ [a]) ∧ s.Grows s' ∧ s'.Fits actions a answer := by
  have hsame : s.Grows s := ⟨List.prefix_rfl, List.prefix_rfl⟩
  cases a with
  | create =>
    cases h
    refine ⟨hs.take rfl (fun i hi => by cases hi) ?_ ?_ hs.recorded_create,
      ⟨List.prefix_append _ _, List.prefix_rfl⟩, s.handles.length, _, rfl,
      List.getElem?_concat_length, fun j hj heq => ?_⟩
    · simp
    · simp
    · -- All handles so far lead to places that had been given out before.
      rw [List.getElem?_append_left hj] at heq
      exact Nat.lt_irrefl _ (hs.placed _ (List.mem_of_getElem? heq))
  | clone i =>
    simp only [Client.step, Option.bind_eq_bind] at h
    obtain ⟨h₀, hi, h⟩ := Option.bind_eq_some_iff.mp h
    cases h
    have hgrown : s.handles <+: s.handles ++ [h₀] := List.prefix_append _ _
    have hplaced := hs.placed h₀ (List.mem_of_getElem? hi)
    exact ⟨hs.take rfl (lt_of_handle? hi rfl) (Nat.le_refl _) hplaced hs.recorded,
      ⟨hgrown, List.prefix_rfl⟩, s.handles.length, h₀, rfl, (List.getElem?_eq_some_iff.mp hi).1,
      getElem?_of_prefix hgrown hi, List.getElem?_concat_length⟩
  | push i kind content =>
    simp only [Client.step, Option.bind_eq_bind] at h
    obtain ⟨h₀, hi, h⟩ := Option.bind_eq_some_iff.mp h
    obtain ⟨⟨sequence, memory⟩, hpush, h⟩ := Option.bind_eq_some_iff.mp h
    cases h
    obtain ⟨hpushed, hnumber⟩ := hs.of_push hi hpush
    exact ⟨hpushed, hsame, h₀, hi, congrArg Answer.number hnumber⟩
  | reset i =>
    simp only [Client.step, Option.bind_eq_bind] at h
    obtain ⟨h₀, hi, h⟩ := Option.bind_eq_some_iff.mp h
    obtain ⟨memory, hreset, h⟩ := Option.bind_eq_some_iff.mp h
    cases h
    exact ⟨hs.of_reset hi hreset, hsame, rfl⟩
  | size i =>
    simp only [Client.step, Option.bind_eq_bind] at h
    obtain ⟨h₀, hi, h⟩ := Option.bind_eq_some_iff.mp h
    obtain ⟨n, hn, h⟩ := Option.bind_eq_some_iff.mp h
    rw [hs.size_eq hi] at hn
    cases hn
    cases h
    exact ⟨hs.glance rfl (lt_of_handle? hi rfl) s.frozen, hsame, h₀, hi, rfl⟩
  | isEmpty i =>
    simp only [Client.step, Option.bind_eq_bind] at h
    obtain ⟨h₀, hi, h⟩ := Option.bind_eq_some_iff.mp h
    obtain ⟨b, hb, h⟩ := Option.bind_eq_some_iff.mp h
    rw [hs.isEmpty_eq hi] at hb
    cases hb
    cases h
    exact ⟨hs.glance rfl (lt_of_handle? hi rfl) s.frozen, hsame, h₀, hi, rfl⟩
  | snapshot i =>
    simp only [Client.step, Option.bind_eq_bind] at h
    obtain ⟨h₀, hi, h⟩ := Option.bind_eq_some_iff.mp h
    obtain ⟨t, ht, h⟩ := Option.bind_eq_some_iff.mp h
    rw [hs.snapshot_eq hi] at ht
    cases ht
    cases h
    exact ⟨hs.glance rfl (lt_of_handle? hi rfl) _,
      ⟨List.prefix_rfl, List.prefix_append _ _⟩, h₀, s.frozen.length, hi, rfl,
      List.getElem?_concat_length⟩
  | look r =>
    simp only [Client.step, Option.bind_eq_bind] at h
    obtain ⟨t, ht, h⟩ := Option.bind_eq_some_iff.mp h
    cases h
    exact ⟨hs.glance rfl (fun j hj => by cases hj) s.frozen, hsame, t, ht, rfl⟩

/-- An action comes to nothing only if the client does not have what it names, or
the buffer is full. -/
theorem Tracks.step_eq_none_iff (hs : s.Tracks actions) :
    step s a = none ↔ s.Lacks a ∨ s.Overfills actions a := by
  cases a with
  | create => exact iff_of_false (fun hnone => by cases hnone) (fun h => h.elim id id)
  | look r => cases hr : s.frozen[r]? <;> simp [Client.step, Lacks, Overfills, hr]
  | clone i => cases hi : s.handles[i]? <;> simp [Client.step, Lacks, Overfills, hi]
  | push i kind content =>
    cases hi : s.handles[i]? with
    | none => simp [Client.step, Lacks, hi]
    | some h =>
      have hfull := hs.push_eq_none_iff hi kind content
      cases hpush : s.memory.push h kind content with
      | none =>
        rw [hpush, eq_self_iff_true, true_iff] at hfull
        simp [Client.step, Lacks, Overfills, hi, hpush, hfull]
      | some r =>
        rw [hpush] at hfull
        have hroom := hfull.not.mp (by simp)
        simp [Client.step, Lacks, Overfills, hi, hpush, hroom]
  | reset i =>
    cases hi : s.handles[i]? with
    | none => simp [Client.step, Lacks, hi]
    | some h => simp [Client.step, Lacks, Overfills, hi, hs.reset_eq hi]
  | size i =>
    cases hi : s.handles[i]? with
    | none => simp [Client.step, Lacks, hi]
    | some h => simp [Client.step, Lacks, Overfills, hi, hs.size_eq hi]
  | isEmpty i =>
    cases hi : s.handles[i]? with
    | none => simp [Client.step, Lacks, hi]
    | some h => simp [Client.step, Lacks, Overfills, hi, hs.isEmpty_eq hi]
  | snapshot i =>
    cases hi : s.handles[i]? with
    | none => simp [Client.step, Lacks, hi]
    | some h => simp [Client.step, Lacks, Overfills, hi, hs.snapshot_eq hi]

/-! ## A whole run -/

theorem run_append (before after : List Action) :
    run (before ++ after) = (run before).bind fun r => after.foldlM proceed r := by
  rw [run, List.foldlM_append]
  rfl

theorem run_snoc (actions : List Action) (a : Action) :
    run (actions ++ [a]) = (run actions).bind fun r => proceed r a := by
  rw [run_append]
  refine congrArg _ (funext fun r => ?_)
  rw [List.foldlM_cons]
  cases hproceed : proceed r a <;> rfl

theorem run_snoc_eq_some {answers : List Answer} (h : run (actions ++ [a]) = some (answers, s')) :
    ∃ earlier s answer, run actions = some (earlier, s) ∧ step s a = some (answer, s') ∧
      answers = earlier ++ [answer] := by
  rw [run_snoc] at h
  obtain ⟨⟨earlier, s⟩, hrun, hproceed⟩ := Option.bind_eq_some_iff.mp h
  obtain ⟨⟨answer, s'⟩, hstep, heq⟩ := Option.map_eq_some_iff.mp hproceed
  cases heq
  exact ⟨earlier, s, answer, hrun, hstep, rfl⟩

theorem tracks_new : Tracks new [] where
  placed _ hh := nomatch hh
  recorded _ hplace := nomatch hplace
  room _ := Nat.zero_le _
  used _ ha := nomatch ha

/-- Everything that a client went through is recorded as it should be, and all
answers fit, also the earliest ones. -/
theorem run_tracks {answers : List Answer} (h : run actions = some (answers, s)) :
    s.Tracks actions ∧ answers.length = actions.length ∧
      ∀ before a after, actions = before ++ a :: after →
        ∃ answer, answers[before.length]? = some answer ∧ s.Fits before a answer := by
  induction actions using List.reverseRecOn generalizing answers s with
  | nil =>
    cases h
    exact ⟨tracks_new, rfl, fun before a after heq => by simp at heq⟩
  | append_singleton actions b ih =>
    obtain ⟨earlier, s₀, last, hrun, hstep, rfl⟩ := run_snoc_eq_some h
    obtain ⟨htracks₀, hlength, hfits₀⟩ := ih hrun
    obtain ⟨htracks, hgrown, hlast⟩ := htracks₀.of_step hstep
    refine ⟨htracks, by simp [hlength], fun before a after heq => ?_⟩
    -- The last answer fits by its step; an earlier one fitted before it, and goes on to.
    rcases List.eq_nil_or_concat after with rfl | ⟨after, c, rfl⟩
    · obtain ⟨rfl, hb⟩ := List.append_inj' heq rfl
      cases hb
      exact ⟨last, by rw [← hlength]; exact List.getElem?_concat_length, hlast⟩
    · have hsplit : actions ++ [b] = (before ++ a :: after) ++ [c] := by simp [heq]
      obtain ⟨rfl, -⟩ := List.append_inj' hsplit rfl
      obtain ⟨answer, hanswer, hfits⟩ := hfits₀ before a after rfl
      refine ⟨answer, getElem?_of_prefix (List.prefix_append _ _) hanswer, hfits.mono hgrown ?_⟩
      exact fun d hd => htracks₀.used d (List.mem_append_left _ hd)

/-- A run comes to nothing only at an action that does. -/
theorem run_eq_none_iff : run actions = none ↔
    ∃ before a after answers s, actions = before ++ a :: after ∧ run before = some (answers, s) ∧
      step s a = none := by
  constructor
  · intro hnone
    induction actions using List.reverseRecOn with
    | nil => cases hnone
    | append_singleton actions b ih =>
      cases hrun : run actions with
      | none =>
        obtain ⟨before, a, after, answers, s, rfl, hbefore, hstep⟩ := ih hrun
        exact ⟨before, a, after ++ [b], answers, s, by simp, hbefore, hstep⟩
      | some r =>
        obtain ⟨answers, s⟩ := r
        rw [run_snoc, hrun, Option.bind_some, proceed, Option.map_eq_none_iff] at hnone
        exact ⟨actions, b, [], answers, s, rfl, hrun, hnone⟩
  · rintro ⟨before, a, after, answers, s, rfl, hbefore, hstep⟩
    have hproceed : proceed (answers, s) a = none := by rw [proceed, hstep, Option.map_none]
    rw [run_append, hbefore, Option.bind_some, List.foldlM_cons, hproceed]
    rfl

/-- Whatever clients do, with any handles and in whatever order: each buffer holds
what was pushed to it since its last reset, numbered in order, and every answer fits
what went before it, also the frozen results, at the end of everything.  Only actions
that name nothing, or find no room, come to nothing. -/
theorem run_shared (actions : List Action) :
    (run actions = none ↔ ∃ before a after answers s, actions = before ++ a :: after ∧
      run before = some (answers, s) ∧ (s.Lacks a ∨ s.Overfills before a)) ∧
    ∀ answers s, run actions = some (answers, s) →
      (∀ h ∈ s.handles,
        s.memory.snapshot h = some (.ofCalls (s.pushed h actions)) ∧
        s.memory.size h = some (s.pushed h actions).length) ∧
      answers.length = actions.length ∧
      ∀ before a after, actions = before ++ a :: after →
        ∃ answer, answers[before.length]? = some answer ∧ s.Fits before a answer := by
  constructor
  · rw [run_eq_none_iff]
    constructor
    · rintro ⟨before, a, after, answers, s, heq, hbefore, hstep⟩
      obtain ⟨hs, -⟩ := run_tracks hbefore
      exact ⟨before, a, after, answers, s, heq, hbefore, hs.step_eq_none_iff.mp hstep⟩
    · rintro ⟨before, a, after, answers, s, heq, hbefore, hcause⟩
      obtain ⟨hs, -⟩ := run_tracks hbefore
      exact ⟨before, a, after, answers, s, heq, hbefore, hs.step_eq_none_iff.mpr hcause⟩
  · intro answers s hrun
    obtain ⟨hs, hlength, hfits⟩ := run_tracks hrun
    refine ⟨fun h hh => ?_, hlength, hfits⟩
    obtain ⟨i, hi⟩ := List.getElem?_of_mem hh
    exact ⟨hs.snapshot_eq hi, hs.size_eq hi⟩

/-- A buffer that is reset through its second handle, and another buffer: the result
that was frozen before stays, and the numbers start again. -/
theorem run_shared_twice :
    ∃ actions answers s, actions = [.create, .clone 0, .push 1 .log "a", .push 0 .warn "b",
        .snapshot 1, .create, .push 2 .log "d", .reset 1, .push 0 .error "c", .size 1] ∧
      run actions = some (answers, s) ∧
      (∀ h ∈ s.handles, s.memory.snapshot h = some (.ofCalls (s.pushed h actions))) ∧
      s.handles.map (s.pushed · actions) = [[(.error, "c")], [(.error, "c")], [(.log, "d")]] ∧
      s.frozen = [⟨[⟨.log, "a", 0⟩, ⟨.warn, "b", 1⟩]⟩] := by
  refine ⟨_, _, _, rfl, rfl, fun h hh => ?_, by decide, by decide⟩
  exact (((run_shared _).2 _ _ rfl).1 h hh).1

end Client

end Playpen.Log
