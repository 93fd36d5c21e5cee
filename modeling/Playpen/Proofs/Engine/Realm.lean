import Playpen.Engine.Realm

/-!
# What the realm has at its places

The built-in objects are laid out one after another, each at its own place.  What
is laid out later leaves the functions that are there as they are: an object is
given its kind when it is put at its place, and all else that is done to it goes
to its properties and its prototype (`Spares`).  So in the realm as a whole each
place has the function that was put there.  Two of them are functions that the
engine calls by their places: `String` (`realm_string`) and `JSON.stringify`
(`realm_jsonStringify`).
-/

namespace Playpen.Engine

open Builtin

/-! ## What a step of laying out spares -/

namespace Layout

/-- The kind of the object at a place. -/
def kindAt (l : Layout) (r : Ref) : Option Kind := l.heap[r]?.map Obj.kind

/-- The object at a place keeps its kind, and all functions stay. -/
structure Keeps (r : Ref) (l l' : Layout) : Prop where
  kind : ∀ {k : Kind}, l.kindAt r = some k → l'.kindAt r = some k
  natives : ∀ {i : Nat} {f : Behaviour}, l.natives[i]? = some f → l'.natives[i]? = some f

theorem Keeps.refl (r : Ref) (l : Layout) : Keeps r l l := ⟨id, id⟩

theorem Keeps.trans {r : Ref} {l l' l'' : Layout} (h : Keeps r l l') (h' : Keeps r l' l'') :
    Keeps r l l'' := ⟨h'.kind ∘ h.kind, h'.natives ∘ h.natives⟩

theorem kindAt_modifyObj (l : Layout) (r r' : Ref) (f : Obj → Obj) :
    (Build.modifyObj r' f l).2.kindAt r =
      if r' = r then (l.heap[r]?.map f).map Obj.kind else l.kindAt r := by
  show ((l.heap.modify r' f)[r]?).map Obj.kind = _
  rw [Array.getElem?_modify]
  split
  · rfl
  · rfl

/-- The function at a place has a behaviour. -/
def Holds (l : Layout) (r : Ref) (f : Behaviour) : Prop :=
  ∃ i constructs captures,
    l.kindAt r = some (.native (.listed i) constructs captures) ∧ l.natives[i]? = some f

theorem Holds.keep {l l' : Layout} {r : Ref} {f : Behaviour} (h : l.Holds r f) (hkeeps : Keeps r l l') :
    l'.Holds r f := by
  obtain ⟨i, constructs, captures, hkind, hnative⟩ := h
  exact ⟨i, constructs, captures, hkeeps.kind hkind, hkeeps.natives hnative⟩

end Layout

/-- What is laid out leaves the function at a place as it is. -/
def Spares (r : Ref) {α : Type} (b : Build α) : Prop := ∀ l : Layout, Layout.Keeps r l (b l).2

namespace Spares

variable {r : Ref} {α β : Type}

@[simp] theorem pure (a : α) : Spares r (Pure.pure a : Build α) := Layout.Keeps.refl r

theorem bind {x : Build α} {f : α → Build β} (hx : Spares r x) (hf : ∀ a, Spares r (f a)) :
    Spares r (x >>= f) := fun l => (hx l).trans (hf (x l).1 (x l).2)

theorem forM {f : α → Build Unit} (hf : ∀ a, Spares r (f a)) (xs : List α) :
    Spares r (xs.forM f) := by
  induction xs with
  | nil => exact pure ()
  | cons a xs ih => exact bind (hf a) fun _ => ih

theorem forIn {f : α → β → Build (ForInStep β)} (hf : ∀ a b, Spares r (f a b)) (xs : List α)
    (b : β) : Spares r (ForIn.forIn xs b f) := by
  induction xs generalizing b with
  | nil => exact pure b
  | cons a xs ih =>
    rw [List.forIn_cons]
    refine bind (hf a b) fun step => ?_
    cases step with
    | done b => exact pure b
    | yield b => exact ih b

theorem modifyObj {f : Obj → Obj} (r' : Ref) (h : ∀ o, (f o).kind = o.kind) :
    Spares r (Build.modifyObj r' f) := by
  refine fun l => ⟨?_, id⟩
  intro k hk
  rw [Layout.kindAt_modifyObj]
  split
  · rw [Option.map_map, show Obj.kind ∘ f = Obj.kind from funext h]
    exact hk
  · exact hk

@[simp] theorem modifyObj_of_ne {r' : Ref} (h : r' ≠ r) (f : Obj → Obj) :
    Spares r (Build.modifyObj r' f) := by
  refine fun l => ⟨?_, id⟩
  intro k hk
  rw [Layout.kindAt_modifyObj, if_neg h]
  exact hk

@[simp] theorem setProto (r' : Ref) (p : Option Ref) : Spares r (Build.setProto r' p) :=
  modifyObj r' fun _ => rfl

@[simp] theorem prototype (r' parent : Ref) : Spares r (Build.prototype r' parent) := setProto r' _

@[simp] theorem define (r' : Ref) (k : PropKey) (s : Slot) : Spares r (Build.define r' k s) :=
  modifyObj r' fun _ => rfl

@[simp] theorem hidden (r' : Ref) (name : String) (v : Value) : Spares r (Build.hidden r' name v) :=
  define r' _ _

@[simp] theorem constant (r' : Ref) (name : String) (v : Value) : Spares r (Build.constant r' name v) :=
  define r' _ _

@[simp] theorem tag (r' : Ref) (name : String) : Spares r (Build.tag r' name) := define r' _ _

@[simp] theorem setKind {r' : Ref} (h : r' ≠ r) (k : Kind) : Spares r (Build.setKind r' k) :=
  modifyObj_of_ne h _

@[simp] theorem alloc (o : Obj) : Spares r (Build.alloc o) := by
  refine fun l => ⟨?_, id⟩
  intro k hk
  show ((l.heap.push o)[r]?).map Obj.kind = some k
  obtain ⟨o', ho', rfl⟩ := Option.map_eq_some_iff.mp hk
  have hlt : r < l.heap.size := (Array.getElem?_eq_some_iff.mp ho').1
  rw [Array.getElem?_push, if_neg (Nat.ne_of_lt hlt), ho']
  rfl

@[simp] theorem behave (f : Behaviour) : Spares r (Build.behave f) := by
  refine fun l => ⟨id, ?_⟩
  intro i g hg
  show (l.natives.push f)[i]? = some g
  have hlt : i < l.natives.size := (Array.getElem?_eq_some_iff.mp hg).1
  rw [Array.getElem?_push, if_neg (Nat.ne_of_lt hlt), hg]

@[simp] theorem function (name : String) (length : Nat) (f : Behaviour) :
    Spares r (Build.function name length f) := bind (behave f) fun _ => alloc _

@[simp] theorem functionAt {r' : Ref} (h : r' ≠ r) (name : String) (length : Nat) (f : Behaviour) :
    Spares r (Build.functionAt r' name length f) :=
  bind (behave f) fun _ => modifyObj_of_ne h _

@[simp] theorem method (r' : Ref) (name : String) (length : Nat) (f : Behaviour) :
    Spares r (Build.method r' name length f) := bind (function _ _ _) fun _ => hidden _ _ _

@[simp] theorem symbolMethod (r' : Ref) (symbol : Nat) (name : String) (length : Nat) (f : Behaviour) :
    Spares r (Build.symbolMethod r' symbol name length f) :=
  bind (function _ _ _) fun _ => define _ _ _

@[simp] theorem getterAt (r' : Ref) (k : PropKey) (name : String) (f : Behaviour) :
    Spares r (Build.getterAt r' k name f) := bind (function _ _ _) fun _ => define _ _ _

@[simp] theorem getter (r' : Ref) (name : String) (f : Behaviour) : Spares r (Build.getter r' name f) :=
  getterAt _ _ _ _

@[simp] theorem species (r' : Ref) : Spares r (Build.species r') := getterAt _ _ _ _

@[simp] theorem constructor {r' : Ref} (h : r' ≠ r) (proto : Ref) (name : String) (length : Nat)
    (f : Behaviour) : Spares r (Build.constructor r' proto name length f) :=
  bind (behave f) fun _ => bind (modifyObj_of_ne h _) fun _ =>
    bind (constant _ _ _) fun _ => hidden _ _ _

@[simp] theorem newConstructor {r' : Ref} (h : r' ≠ r) (proto : Ref) (name : String) (length : Nat)
    (f : Behaviour) : Spares r (Build.newConstructor r' proto name length f) :=
  constructor h _ _ _ _

end Spares

theorem Layout.Holds.push {l : Layout} {r : Ref} {f : Behaviour} (h : l.Holds r f) (o : Obj) :
    Layout.Holds ⟨l.heap.push o, l.natives⟩ r f := h.keep (Spares.alloc o l)

/-- What is laid out puts a function at a place. -/
def Puts (r : Ref) (f : Behaviour) {α : Type} (b : Build α) : Prop :=
  ∀ l : Layout, (l.kindAt r).isSome → (b l).2.Holds r f

namespace Puts

variable {r : Ref} {f : Behaviour} {α β : Type}

theorem bind {x : Build α} {y : α → Build β} (hx : Puts r f x) (hy : ∀ a, Spares r (y a)) :
    Puts r f (x >>= y) := fun l hl => (hx l hl).keep (hy (x l).1 (x l).2)

theorem spared {x : Build α} {y : α → Build β} (hx : Spares r x) (hy : ∀ a, Puts r f (y a)) :
    Puts r f (x >>= y) := by
  intro l hl
  obtain ⟨k, hk⟩ := Option.isSome_iff_exists.mp hl
  exact hy (x l).1 (x l).2 (Option.isSome_iff_exists.mpr ⟨k, (hx l).kind hk⟩)

/-- A function object is put together with its function. -/
theorem functionObj (name : String) (length : Nat) (constructs : Bool) (proto : Ref) :
    Puts r f (do
      let n ← Build.behave f
      Build.modifyObj r fun _ => Build.functionObj name length (.native n constructs #[]) proto) := by
  intro l hl
  obtain ⟨o, ho, -⟩ := Option.map_eq_some_iff.mp (Option.isSome_iff_exists.mp hl).choose_spec
  refine ⟨l.natives.size, constructs, #[], ?_, Array.getElem?_push_size⟩
  show (Build.modifyObj r _ ⟨l.heap, _⟩).2.kindAt r = _
  rw [Layout.kindAt_modifyObj, if_pos rfl, ho]
  rfl

theorem functionAt (name : String) (length : Nat) : Puts r f (Build.functionAt r name length f) :=
  functionObj name length false _

theorem constructor (proto : Ref) (name : String) (length : Nat) :
    Puts r f (Build.constructor r proto name length f) := by
  have hrest : Spares r (do
      Build.constant r "prototype" (.object proto)
      Build.hidden proto "constructor" (.object r)) :=
    Spares.bind (Spares.constant _ _ _) fun _ => Spares.hidden _ _ _
  have hput := functionObj (r := r) (f := f) name length true Intrinsic.functionPrototype
  have hboth := bind hput fun _ : Unit => hrest
  exact hboth

end Puts

/-! ## The layers of the realm -/

namespace Realm

variable {r : Ref}

@[simp] theorem errorConstructor_ne (k : ErrorKind) :
    Errors.constructorOf k ≠ Intrinsic.string ∧
      Errors.constructorOf k ≠ Intrinsic.jsonStringify := by
  cases k
  all_goals decide

@[simp] theorem typedArrayConstructor_ne (t : ElementType) :
    TypedArrays.constructorOf t ≠ Intrinsic.string ∧
      TypedArrays.constructorOf t ≠ Intrinsic.jsonStringify := by
  cases t
  all_goals decide

/-- No layer but their own puts anything where `String` and `JSON.stringify` are. -/
theorem spares_layers (hr : r = Intrinsic.string ∨ r = Intrinsic.jsonStringify) :
    Spares r Functions.build ∧ Spares r Objects.build ∧ Spares r Errors.build ∧
    Spares r Arrays.build ∧ Spares r Numbers.buildNumber ∧ Spares r Numbers.buildBoolean ∧
    Spares r Numbers.buildBigint ∧ Spares r Symbols.build ∧ Spares r Regexes.build ∧
    Spares r Collections.buildMap ∧ Spares r Collections.buildSet ∧ Spares r Collections.buildWeak ∧
    Spares r Iterators.build ∧ Spares r Promises.build ∧ Spares r Reflection.build ∧
    Spares r Mathematics.build ∧ Spares r Dates.build ∧ Spares r Bytes.build ∧
    Spares r Bytes.buildView ∧ Spares r TypedArrays.build ∧ Spares r Globals.build := by
  refine ⟨?_, ?_, ?_, ?_, ?_, ?_, ?_, ?_, ?_, ?_, ?_, ?_, ?_, ?_, ?_, ?_, ?_, ?_, ?_, ?_, ?_⟩
  all_goals first
    | unfold Functions.build Functions.build.kind | unfold Objects.build | unfold Errors.build
    | unfold Arrays.build | unfold Numbers.buildNumber | unfold Numbers.buildBoolean
    | unfold Numbers.buildBigint | unfold Symbols.build | unfold Regexes.build
    | unfold Collections.buildMap | unfold Collections.buildSet | unfold Collections.buildWeak
    | unfold Iterators.build Iterators.build.link | unfold Promises.build | unfold Reflection.build
    | unfold Mathematics.build | unfold Dates.build | unfold Bytes.build | unfold Bytes.buildView
    | unfold TypedArrays.build TypedArrays.buildCommon | unfold Globals.build
  all_goals dsimp only
  -- a layer is made of steps, in a row, repeated or left out; simp knows what a step spares
  all_goals repeat' with_reducible first
    | refine Spares.bind ?_ fun _ => ?_
    | refine Spares.forM (fun _ => ?_) _
    | refine Spares.forIn (fun _ _ => ?_) _ _
    | split
  all_goals rcases hr with rfl | rfl
  all_goals simp +decide

theorem spares_texts : Spares Intrinsic.jsonStringify Texts.build := by
  unfold Texts.build
  repeat' with_reducible refine Spares.bind ?_ fun _ => ?_
  all_goals simp +decide

theorem spares_json : Spares Intrinsic.string JsonText.build := by
  unfold JsonText.build
  repeat' with_reducible refine Spares.bind ?_ fun _ => ?_
  all_goals simp +decide

theorem puts_texts : Puts Intrinsic.string Texts.construct Texts.build := by
  unfold Texts.build
  refine .bind (.constructor _ _ _) fun _ => ?_
  repeat' with_reducible refine Spares.bind ?_ fun _ => ?_
  all_goals simp +decide

theorem puts_json : Puts Intrinsic.jsonStringify JsonText.stringify JsonText.build := by
  unfold JsonText.build
  refine .spared (by simp) fun _ => .spared (by simp) fun _ => .bind (.functionAt _ _) fun _ => ?_
  repeat' with_reducible refine Spares.bind ?_ fun _ => ?_
  all_goals simp

/-- There is an object at every place before the first layer. -/
theorem isSome_ground (hr : r < Intrinsic.count) : (ground.kindAt r).isSome := by
  simp [ground, Layout.kindAt, hr]

/-- `String` is at its place. -/
theorem realm_string : layout.Holds Intrinsic.string Texts.construct := by
  have hputs : Puts Intrinsic.string Texts.construct build := by
    unfold build
    repeat' with_reducible first
      | refine Puts.bind puts_texts fun _ => ?_
      | refine Puts.spared ?_ fun _ => ?_
      | refine Spares.bind ?_ fun _ => ?_
    all_goals simp +decide [spares_layers, spares_json]
  exact hputs ground (isSome_ground (by decide))

/-- `JSON.stringify` is at its place. -/
theorem realm_jsonStringify : layout.Holds Intrinsic.jsonStringify JsonText.stringify := by
  have hputs : Puts Intrinsic.jsonStringify JsonText.stringify build := by
    unfold build
    repeat' with_reducible first
      | refine Puts.bind puts_json fun _ => ?_
      | refine Puts.spared ?_ fun _ => ?_
      | refine Spares.bind ?_ fun _ => ?_
    all_goals simp +decide [spares_layers, spares_texts]
  exact hputs ground (isSome_ground (by decide))

end Realm

end Playpen.Engine
