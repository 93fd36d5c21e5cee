import Playpen.Engine.Source
import Playpen.Proofs.Naming.Tokens

/-!
# A parameter list made of names

The engine reads the names of a function's parameters from one text, in which
they stand with commas between them.  It takes identifiers for what they are
and stumbles over everything else.
-/

namespace Playpen.Script

open Playpen.Dependency (IsIdentifier)
open Playpen.Text (goesOn)
open Parse

/-! ## One parameter -/

section

variable {s s' : ParseState} {w v : String} {rest : List Char} {c : Char} {e : Complaint} {n k : Nat}

theorem isStrictWord_of_not_mem (h : w ∉ Dependency.reservedWords) (f : Flags) :
    isStrictWord f w = false := by
  have hall : ∀ v ∈ strictWords, v ∈ Dependency.reservedWords := by decide +kernel
  have hnot : strictWords.contains w = false := by
    rw [List.contains_eq_mem, decide_eq_false_iff_not]
    exact fun hmem => h (hall w hmem)
  rw [isStrictWord, hnot, Bool.and_false]

theorem isBindable_of_not_mem (h : w ∉ Dependency.reservedWords) (m : Lexer.Mode) (f : Flags) :
    isBindable m f w = true := by
  have hall : ∀ v ∈ "await" :: "yield" :: reservedWords, v ∈ Dependency.reservedWords := by
    decide +kernel
  have hnot : ∀ v ∈ "await" :: "yield" :: reservedWords, w ≠ v := by
    rintro v hv rfl
    exact h (hall w hv)
  rw [List.forall_mem_cons, List.forall_mem_cons] at hnot
  obtain ⟨hawait, hyield, hreserved⟩ := hnot
  have hnotReserved : isReserved w = false := by
    rw [isReserved, List.contains_eq_mem, decide_eq_false_iff_not]
    exact fun hmem => hreserved w hmem rfl
  rw [isBindable, hnotReserved, isStrictWord_of_not_mem h, beq_eq_false_iff_ne.mpr hawait,
    beq_eq_false_iff_ne.mpr hyield]
  simp

theorem bind_run {α β : Type} {x : Parse α} {f : α → Parse β} {a : α} (h : x s = .ok a s') :
    (x >>= f) s = f a s' := by
  show EStateM.bind x f s = _
  rw [EStateM.bind, h]

theorem advance_ok (h : (setToken s s.token.stop).badTokens = []) :
    advance s = .ok () (setToken s s.token.stop) := by
  show checkToken (setToken s s.token.stop) = _
  exact checkToken_ok h

theorem advance_stray (h : Reading s.token.stop (c :: rest) s) (hc : Stray c) :
    ∃ e s', advance s = .error e s' := by
  obtain ⟨e, he⟩ := h.stray hc
  exact ⟨e, _, he⟩

theorem bindingName_ok (context : String) (h : At (.word w) rest s)
    (hw : w ∉ Dependency.reservedWords) (hnext : (setToken s s.token.stop).badTokens = []) :
    bindingName context s = .ok w (setToken s s.token.stop) := by
  simp [bindingName, bindable?, token, flags, refuseStrict, bind, EStateM.bind, pure, EStateM.pure,
    h.kind, isBindable_of_not_mem hw, isStrictWord_of_not_mem hw, advance_ok hnext]

/-- Whatever the word, the engine does not get behind it. -/
theorem bindingName_stray (context : String) (h : At (.word w) (c :: rest) s) (hc : Stray c) :
    ∃ e s', bindingName context s = .error e s' := by
  obtain ⟨e, s', he⟩ := advance_stray h.reading hc
  by_cases hw : isBindable s.mode s.flags w = true
  · by_cases hstrict : isStrictWord s.flags w = true
    · simp [bindingName, bindable?, token, flags, refuseStrict, bind, EStateM.bind, h.kind, hw,
        hstrict, h.reading.refuse]
    · refine ⟨e, s', ?_⟩
      simp [bindingName, bindable?, token, flags, refuseStrict, bind, EStateM.bind, pure,
        EStateM.pure, h.kind, hw, hstrict, he]
  · by_cases hreserved : isReserved w = true
    · simp [bindingName, bindable?, bind, EStateM.bind, h.kind, hw, token, hreserved, unexpected]
    · simp [bindingName, bindable?, bind, EStateM.bind, h.kind, hw, token, hreserved, complain,
        complainAs, h.reading.refuse]

theorem eat_of_not_isOp {o : String} (h : s.token.isOp o = false) : eat o s = .ok false s := by
  simp [eat, isOp, bind, EStateM.bind, pure, EStateM.pure, h]

theorem eat_of_isOp {o : String} (h : s.token.isOp o = true) (ha : advance s = .ok () s') :
    eat o s = .ok true s' := by
  simp [eat, isOp, bind, EStateM.bind, pure, EStateM.pure, h, ha]

theorem eat_error {o : String} (h : s.token.isOp o = true) (ha : advance s = .error e s') :
    eat o s = .error e s' := by
  simp [eat, isOp, bind, EStateM.bind, h, ha]

theorem At.isOp_word (h : At (.word w) rest s) (o : String) : s.token.isOp o = false := by
  rw [Token.isOp, h.kind]

theorem At.isOp_comma (h : At (.op ",") rest s) (o : String) : s.token.isOp o = ("," == o) := by
  rw [Token.isOp, h.kind]

theorem At.isOp_stop (h : At .stop rest s) (o : String) : s.token.isOp o = false := by
  rw [Token.isOp, h.kind]

theorem parameter_ok (h : At (.word w) rest s)
    (hname : bindingName "binding identifier" s = .ok v s') (hend : s'.token.isOp "=" = false) :
    Function.parameter (grammar (n + 1)) s = .ok (some (.ident v, false)) s' := by
  simp [Function.parameter, bind, EStateM.bind, pure, EStateM.pure, isTyped, isOp,
    isWord, token, h.isOp_word, eat_of_not_isOp, h.reading.typed, grammar, Target.binding, hname, hend]

theorem parameter_error (h : At (.word w) rest s)
    (hname : bindingName "binding identifier" s = .error e s') :
    Function.parameter (grammar (n + 1)) s = .error e s' := by
  simp [Function.parameter, bind, EStateM.bind, pure, EStateM.pure, isTyped, isOp,
    isWord, token, h.isOp_word, eat_of_not_isOp, h.reading.typed, grammar, Target.binding, hname]

/-! ## Parameters, one after the other -/

/-- What stands behind the first name of a list. -/
def behind (names : List String) : List Char := names.flatMap fun name => ',' :: name.toList

/-- A parameter and the comma behind it. -/
theorem go_cons (h : At (.word w) (',' :: (v.toList ++ rest)) s)
    (hw : w ∉ Dependency.reservedWords) (hv : IsIdentifier v) (hrest : Ends rest) :
    ∃ s', At (.word v) rest s' ∧
      Engine.Source.formals.go (grammar (n + 1)) (k + 1) s =
        match Engine.Source.formals.go (grammar (n + 1)) k s' with
        | .ok ps s'' => .ok (.ident w :: ps) s''
        | .error e s'' => .error e s'' := by
  have hcomma := h.reading.comma
  have hword := hcomma.reading.word hv hrest
  have hparam := parameter_ok (n := n) h (bindingName_ok _ h hw hcomma.reading.badTokens)
    (hcomma.isOp_comma _)
  have heat := eat_of_isOp (hcomma.isOp_comma ",") (advance_ok hword.reading.badTokens)
  refine ⟨_, hword, ?_⟩
  simp [Engine.Source.formals.go, bind, EStateM.bind, pure, EStateM.pure, token, Token.isStop,
    h.kind, h.isOp_word, hparam, heat]
  cases Engine.Source.formals.go (grammar (n + 1)) k _ <;> rfl

theorem go_last (h : At (.word w) [] s) (hw : w ∉ Dependency.reservedWords) :
    ∃ s', Engine.Source.formals.go (grammar (n + 1)) (k + 1) s = .ok [.ident w] s' ∧
      s'.regexes = [] := by
  have hstop := h.reading.done
  have hparam := parameter_ok (n := n) h (bindingName_ok _ h hw hstop.reading.badTokens)
    (hstop.isOp_stop _)
  refine ⟨setToken s s.token.stop, ?_, hstop.reading.regexes⟩
  simp [Engine.Source.formals.go, bind, EStateM.bind, pure, EStateM.pure, token, Token.isStop,
    h.kind, h.isOp_word, hparam, eat_of_not_isOp (hstop.isOp_stop _)]

theorem ends_behind (names : List String) : Ends (behind names) := by
  cases names with
  | nil => exact ends_nil
  | cons name names => exact ends_comma _

/-- A list of identifiers is read name by name. -/
theorem go_names :
    ∀ {names : List String} {w : String} {s : ParseState} {k : Nat}, At (.word w) (behind names) s →
      w ∉ Dependency.reservedWords →
      (∀ v ∈ names, IsIdentifier v ∧ v ∉ Dependency.reservedWords) → names.length < k →
      ∃ s', Engine.Source.formals.go (grammar (n + 1)) k s = .ok ((w :: names).map .ident) s' ∧
        s'.regexes = []
  | [], w, s, k + 1, h, hw, _, _ => go_last h hw
  | v :: names, w, s, k + 1, h, hw, hall, hlen => by
      obtain ⟨⟨hv, hvfree⟩, hnames⟩ := List.forall_mem_cons.mp hall
      obtain ⟨s₁, hat, hstep⟩ := go_cons (n := n) (k := k) h hw hv (ends_behind names)
      obtain ⟨s₂, hgo, hregexes⟩ := go_names hat hvfree hnames (Nat.lt_of_succ_lt_succ hlen)
      refine ⟨s₂, ?_, hregexes⟩
      rw [hstep, hgo]
      rfl

/-! ## Where the list is no list of names -/

/-- A name that begins, or goes on behind an identifier, with a character that
no token begins with. -/
def Stumbles (name : String) : Prop :=
  (∃ c rest, name.toList = c :: rest ∧ Stray c) ∨
    ∃ word c rest, name.toList = String.toList word ++ c :: rest ∧ IsIdentifier word ∧ Stray c ∧
      goesOn c = false

theorem ends_stray (hc : Stray c) (hgoes : goesOn c = false) : Ends (c :: rest) := by
  rintro _ ⟨⟩
  exact ⟨(isNamePart_eq hc.off).trans hgoes, ne_of_high hc.high (by decide)⟩

theorem go_word_stray (h : At (.word w) (c :: rest) s) (hc : Stray c) :
    ∃ e s', Engine.Source.formals.go (grammar (n + 1)) (k + 1) s = .error e s' := by
  obtain ⟨e, s', hname⟩ := bindingName_stray "binding identifier" h hc
  have hparam := parameter_error (n := n) h hname
  simp [Engine.Source.formals.go, bind, EStateM.bind, token, Token.isStop, h.kind, h.isOp_word,
    hparam]

theorem go_comma_stray (h : At (.word w) (',' :: c :: rest) s) (hw : w ∉ Dependency.reservedWords)
    (hc : Stray c) : ∃ e s', Engine.Source.formals.go (grammar (n + 1)) (k + 1) s = .error e s' := by
  have hcomma := h.reading.comma
  have hparam := parameter_ok (n := n) h (bindingName_ok _ h hw hcomma.reading.badTokens)
    (hcomma.isOp_comma _)
  obtain ⟨e, s', hadvance⟩ := advance_stray hcomma.reading hc
  have heat := eat_error (hcomma.isOp_comma ",") hadvance
  simp [Engine.Source.formals.go, bind, EStateM.bind, token, Token.isStop, h.kind, h.isOp_word,
    hparam, heat]

/-- The engine stumbles over the first name that is none. -/
theorem go_stumbles {names : List String} (h : At (.word w) (behind names) s)
    (hw : w ∉ Dependency.reservedWords)
    (hall : ∀ v ∈ names, (IsIdentifier v ∨ Stumbles v) ∧ v ∉ Dependency.reservedWords)
    (hsome : ∃ v ∈ names, Stumbles v) (hlen : names.length < k) :
    ∃ e s', Engine.Source.formals.go (grammar (n + 1)) k s = .error e s' := by
  induction names generalizing w s k with
  | nil =>
    obtain ⟨v, hv, -⟩ := hsome
    cases hv
  | cons v names ih =>
    rw [List.length_cons] at hlen
    obtain ⟨k, rfl⟩ : ∃ l, k = l + 2 := ⟨k - 2, by omega⟩
    obtain ⟨⟨hv, hvfree⟩, hnames⟩ := List.forall_mem_cons.mp hall
    have hahead : behind (v :: names) = ',' :: (v.toList ++ behind names) := rfl
    rw [hahead] at h
    by_cases hstumble : Stumbles v
    · rcases hstumble with ⟨c, rest, hcs, hc⟩ | ⟨word, c, rest, hcs, hword, hc, hgoes⟩
      · rw [hcs] at h
        exact go_comma_stray h hw hc
      · rw [hcs, List.append_assoc] at h
        obtain ⟨s₁, hat, hstep⟩ := go_cons (n := n) (k := k + 1) h hw hword (ends_stray hc hgoes)
        obtain ⟨e, s', hgo⟩ := go_word_stray (n := n) (k := k) hat hc
        exact ⟨e, s', by rw [hstep, hgo]⟩
    · obtain ⟨s₁, hat, hstep⟩ := go_cons (n := n) (k := k + 1) h hw
        (hv.resolve_right hstumble) (ends_behind names)
      have hlater : ∃ u ∈ names, Stumbles u := by
        obtain ⟨u, hu, hstumbles⟩ := hsome
        rcases List.mem_cons.mp hu with rfl | hu
        · exact absurd hstumbles hstumble
        · exact ⟨u, hu, hstumbles⟩
      obtain ⟨e, s', hgo⟩ := ih hat hvfree hnames hlater (Nat.lt_of_succ_lt_succ hlen)
      exact ⟨e, s', by rw [hstep, hgo]⟩

end

/-! ## The text of a list -/

section

variable {w : String} {names : List String}

theorem toList_intercalate (w : String) (names : List String) :
    (",".intercalate (w :: names)).toList = w.toList ++ behind names := by
  rw [String.toList_intercalate]
  induction names generalizing w with
  | nil => simp [behind]
  | cons v names ih =>
    rw [List.map_cons, List.map_cons, List.intercalate_cons_cons, ← List.map_cons, ih v]
    show _ = w.toList ++ (',' :: (v.toList ++ behind names))
    simp

theorem length_le_behind (names : List String) : names.length ≤ (behind names).length := by
  induction names with
  | nil => exact Nat.le_refl 0
  | cons v names ih =>
    show names.length + 1 ≤ (',' :: (v.toList ++ behind names)).length
    rw [List.length_cons, List.length_append]
    omega

/-- The engine begins with the first name. -/
theorem startState_at (hw : IsIdentifier w) (names : List String) :
    At (.word w) (behind names)
      (startState (Engine.Source.mode false) false (",".intercalate (w :: names))) := by
  obtain ⟨c, cs, hcs, hc, -⟩ := id hw
  have hahead : Ahead (",".intercalate (w :: names)).toList.toArray 0 (w.toList ++ behind names) := by
    rw [toList_intercalate]
    exact Ahead.start _
  have hget : (",".intercalate (w :: names)).toList.toArray[0]? = some c := by
    rw [hahead.get?, hcs]
    rfl
  have hmark : c ≠ Char.ofNat 0xFEFF := by
    rintro rfl
    exact absurd (solid_of_startsName hc) (by decide)
  have hhash : c ≠ '#' := by
    rintro rfl
    exact absurd hc (by decide)
  have hbang : Lexer.standsAt (",".intercalate (w :: names)).toList.toArray 0 ['#', '!'] = false := by
    rw [Lexer.standsAt, hget]
    simp [hhash]
  have hnomark : ((",".intercalate (w :: names)).toList.toArray[0]? == some (Char.ofNat 0xFEFF)) =
      false := by
    rw [hget]
    simpa using hmark
  rw [startState]
  simp only [hnomark, hbang, Bool.false_and, if_false, Bool.false_eq_true]
  exact Reading.word ⟨rfl, rfl, rfl, rfl, hahead⟩ hw (ends_behind names)

/-- Reading parameters is going through the names with room for all of them. -/
theorem formals_eq {s : ParseState} (h : At (.word w) (behind names) s) :
    ∃ n k, names.length < k ∧
      Engine.Source.formals s = Engine.Source.formals.go (grammar (n + 1)) k s := by
  have hlength := h.reading.ahead.length_eq
  have hle := length_le_behind names
  obtain ⟨n, hn⟩ : ∃ n, 16 * s.src.size + 50 = n + 1 :=
    Nat.exists_eq_succ_of_ne_zero (by omega)
  refine ⟨n, s.src.size + 1, by omega, ?_⟩
  have hget : (get : Parse ParseState) s = .ok s s := rfl
  -- step by step, lest the grammar be unfolded
  rw [Engine.Source.formals, bind_run (checkToken_ok h.reading.badTokens), bind_run hget, hn]
  exact bind_run hget

theorem read_eq (hw : IsIdentifier w) (names : List String) (change : Flags → Flags) :
    ∃ s n k, At (.word w) (behind names) s ∧ names.length < k ∧
      Engine.Source.read (Engine.Source.mode false) false change (",".intercalate (w :: names))
          Engine.Source.formals =
        match Engine.Source.formals.go (grammar (n + 1)) k s with
        | .ok ps s =>
          match Engine.Source.regexFault? s with
          | some text => .error text
          | none => .ok (ps, s)
        | .error c s =>
          .error ((Engine.Source.regexFault? s).getD (Engine.Source.complaintText s.src c)) := by
  have hstart := startState_at hw names
  rw [Engine.Source.read]
  generalize startState (Engine.Source.mode false) false (",".intercalate (w :: names)) = s
    at hstart
  have hat : At (.word w) (behind names) { s with flags := change s.flags } :=
    ⟨hstart.kind, hstart.reading.typed, hstart.reading.script, hstart.reading.badTokens,
      hstart.reading.regexes, hstart.reading.ahead⟩
  obtain ⟨n, k, hk, hformals⟩ := formals_eq hat
  refine ⟨_, n, k, hat, hk, ?_⟩
  rw [← hformals]
  cases Engine.Source.formals _ <;> rfl

/-- A list of identifiers that are not reserved is taken for these names. -/
theorem read_names (hw : IsIdentifier w ∧ w ∉ Dependency.reservedWords)
    (hall : ∀ v ∈ names, IsIdentifier v ∧ v ∉ Dependency.reservedWords) (change : Flags → Flags) :
    ∃ ρ, Engine.Source.read (Engine.Source.mode false) false change (",".intercalate (w :: names))
      Engine.Source.formals = .ok ((w :: names).map .ident, ρ) := by
  obtain ⟨s, n, k, hat, hk, hread⟩ := read_eq hw.1 names change
  obtain ⟨s', hgo, hregexes⟩ := go_names (n := n) hat hw.2 hall hk
  refine ⟨s', ?_⟩
  rw [hread, hgo]
  simp [Engine.Source.regexFault?, hregexes]

theorem read_stumbles (hw : IsIdentifier w ∧ w ∉ Dependency.reservedWords)
    (hall : ∀ v ∈ names, (IsIdentifier v ∨ Stumbles v) ∧ v ∉ Dependency.reservedWords)
    (hsome : ∃ v ∈ names, Stumbles v) (change : Flags → Flags) :
    ∃ text, Engine.Source.read (Engine.Source.mode false) false change
      (",".intercalate (w :: names)) Engine.Source.formals = .error text := by
  obtain ⟨s, n, k, hat, hk, hread⟩ := read_eq hw.1 names change
  obtain ⟨e, s', hgo⟩ := go_stumbles (n := n) hat hw.2 hall hsome hk
  refine ⟨(Engine.Source.regexFault? s').getD (Engine.Source.complaintText s'.src e), ?_⟩
  rw [hread, hgo]

end

end Playpen.Script
