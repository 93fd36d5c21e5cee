import Playpen.Script.Tree

/-!
# Declared names

Which names the statements of a function, a block or a module declare, and in what way.
-/

namespace Playpen.Script.Names


/-- How deep statements and patterns are looked into. -/
def depth : Nat := 100000

/-- Names that a target declares. -/
def ofPattern : Nat → Pattern → List String
  | 0, _ => []
  | n + 1, p =>
    match p with
    | .ident name => [name]
    | .array items => items.flatMap (ofPattern n)
    | .object fields => fields.flatMap (ofPattern n)
    | .withDefault p _ => ofPattern n p
    | .rest p => ofPattern n p
    | .field _ _ p => ofPattern n p
    | .initial p _ => ofPattern n p
    | .target _ => []
    | .hole => []

def ofPatterns (ps : List Pattern) : List String := ps.flatMap (ofPattern depth)

/-- A statement without comments and exports around it. -/
def bare : Nat → Stmt → Stmt
  | 0, s => s
  | n + 1, s =>
    match s with
    | .commented _ s => bare n s
    | .exportDecl s => bare n s
    | .exportDefaultDecl s => bare n s
    | s => s

def stripped (s : Stmt) : Stmt := bare 10 s

/-- Names that `var` declares anywhere in a statement. -/
def vars : Nat → Stmt → List String
  | 0, _ => []
  | n + 1, s =>
    match stripped s with
    | .declare .var ps => ofPatterns ps
    | .block ss => ss.flatMap (vars n)
    | .cond _ a => vars n a
    | .condElse _ a b => vars n a ++ vars n b
    | .loop i _ _ b => vars n i ++ vars n b
    | .forIn h _ b => vars n h ++ vars n b
    | .forOf _ h _ b => vars n h ++ vars n b
    | .while _ b => vars n b
    | .doWhile b _ => vars n b
    | .tryCatch a _ b => a.flatMap (vars n) ++ b.flatMap (vars n)
    | .tryFinally a b => a.flatMap (vars n) ++ b.flatMap (vars n)
    | .tryCatchFinally a _ b c => a.flatMap (vars n) ++ b.flatMap (vars n) ++ c.flatMap (vars n)
    | .switch _ cases => cases.flatMap (vars n)
    | .case _ ss => ss.flatMap (vars n)
    | .labelled _ b => vars n b
    | .with _ b => vars n b
    | _ => []

/-- A statement without labels. -/
def unlabelled : Nat → Stmt → Stmt
  | 0, s => s
  | n + 1, s =>
    match stripped s with
    | .labelled _ b => unlabelled n b
    | s => s

/-- Functions that statements declare directly. -/
def functions (ss : List Stmt) : List Func :=
  ss.filterMap fun s =>
    match unlabelled 10 s with
    | .func f => some f
    | _ => none

/-- Names that `let`, `const` and `class` declare directly; the flag marks constants. -/
def lexical (ss : List Stmt) : List (String × Bool) :=
  ss.flatMap fun s =>
    match stripped s with
    | .declare .let ps => (ofPatterns ps).map (·, false)
    | .declare .const ps => (ofPatterns ps).map (·, true)
    | .class c => c.info.name.toList.map (·, false)
    | _ => []

/-- A list without repetitions. -/
def distinct (xs : List String) : List String :=
  (xs.foldl (fun acc x => if acc.contains x then acc else x :: acc) []).reverse

/-- The first name that occurs a second time; functions may repeat each other where `lenient`. -/
def repeated? (lenient : Bool) : List (String × Bool) → List (String × Bool) → Option String
  | _, [] => none
  | seen, (n, isFunction) :: rest =>
    match seen.lookup n with
    | some before => if lenient && before && isFunction then repeated? lenient seen rest else some n
    | none => repeated? lenient ((n, isFunction) :: seen) rest

/-- The names that a block declares for itself; the flag marks functions. -/
def ofBlock (ss : List Stmt) : List (String × Bool) :=
  ss.flatMap fun s =>
    match unlabelled 10 s with
    | .func f => f.info.name.toList.map (·, !f.info.async && !f.info.generator)
    | _ => (lexical [s]).map fun l => (l.1, false)

/-- What is wrong with the names of a block. -/
def blockFault? (strict : Bool) (ss : List Stmt) : Option String :=
  let own := ofBlock ss
  if (repeated? (!strict) [] own).isSome then some "lexical name declared multiple times"
  else if (ss.flatMap (vars depth)).any fun n => own.any (·.1 == n) then
    some "lexical name declared in var declared names"
  else none

/-- What is wrong with the names of the cases of a switch. -/
def casesFault? (strict : Bool) (cases : List Stmt) : Option String :=
  blockFault? strict (cases.flatMap fun
    | .case _ ss => ss
    | _ => [])

/-- What is wrong with the parameter of a handler and the names of its block; a plain parameter may
be declared again by `var`. -/
def handlerFault? (param : Pattern) (ss : List Stmt) : Option String :=
  let names := ofPattern depth param
  let again := (ofBlock ss).map (·.1) ++ (match param with
    | .ident _ => []
    | _ => ss.flatMap (vars depth))
  if names.any again.contains then some "catch parameter identifier declared in catch body" else none

/-- A parameter that a function's body declares again. -/
def redeclared? (ps : List Pattern) (ss : List Stmt) : Option String :=
  let own := lexical ss
  (ofPatterns ps).find? fun n => own.any (·.1 == n)

/-- Whether a list has the same name twice. -/
def hasRepetition (names : List String) : Bool := (repeated? false [] (names.map (·, false))).isSome

end Playpen.Script.Names
