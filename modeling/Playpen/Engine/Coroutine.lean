import Playpen.Engine.Promise

/-!
# Generators

A generator is a function that has been suspended.  Requests to an asynchronous generator wait in
line until it is suspended again.
-/

namespace Playpen.Engine

open M

namespace Coroutine

def notGenerator : M α := typeError "generator method called on incompatible type"

/-- Goes on with a generator. -/
def send (v : Value) (how : Resumption) (argument : Value) : M Value := do
  match v with
  | .object r =>
    match ← Heap.kindOf r with
    | .generator state =>
      match state with
      | .running => typeError "Generator should not be running"
      | .done => finished how
      | .start s =>
        match how with
        | .next => go r s
        | _ =>
          Heap.setKind r (.generator .done)
          finished how
      | .suspended s => go r s
    | _ => notGenerator
  | _ => notGenerator
where
  finished : Resumption → M Value
    | .next => Iter.result .undefined true
    | .throw => throwValue argument
    | .return => Iter.result argument true
  go (r : Ref) (s : Suspended) : M Value := do
    Heap.setKind r (.generator .running)
    resume s how argument

/-! ## Asynchronous generators -/

def stateOf (g : Ref) : M (GeneratorState × List AsyncRequest) := do
  match ← Heap.kindOf g with
  | .asyncGenerator state requests => return (state, requests)
  | _ => return (.done, [])

def setState (g : Ref) (s : GeneratorState) : M Unit := Heap.modifyObj g fun o =>
  match o.kind with
  | .asyncGenerator _ requests => { o with kind := .asyncGenerator s requests }
  | _ => o

/-- Answers the first request. -/
def answer (g : Ref) (outcome : Except Value Value) (done : Bool) : M Unit := do
  let (state, requests) ← stateOf g
  match requests with
  | [] => pure ()
  | r :: rest =>
    Heap.setKind g (.asyncGenerator state rest)
    match outcome with
    | .ok v => discard (call r.capability.resolve .undefined #[← Iter.result v done])
    | .error e => discard (call r.capability.reject .undefined #[e])

/-- Goes on with the requests as long as the generator does not run. -/
def drain (g : Ref) : Nat → M Unit
  | 0 => pure ()
  | n + 1 => do
    let (state, requests) ← stateOf g
    match requests with
    | [] => pure ()
    | r :: _ =>
      match state with
      | .running => pure ()
      | .suspended s =>
        setState g .running
        discard (resume s r.how r.value)
        drain g n
      | .start s =>
        match r.how with
        | .next =>
          setState g .running
          discard (resume s r.how r.value)
          drain g n
        | _ =>
          setState g .done
          drain g n
      | .done =>
        match r.how with
        | .next =>
          answer g (.ok .undefined) true
          drain g n
        | .throw =>
          answer g (.error r.value) true
          drain g n
        | .return =>
          setState g .running
          match ← catching (Promise.await r.value (.generatorReturn g false) (.generatorReturn g true)) with
          | .ok () => pure ()
          | .error e =>
            setState g .done
            answer g (.error e) true
            drain g n

/-- More requests than any generator gets. -/
def bound : Nat := 1000000000

/-- What a returning generator waited for is there. -/
def returned (g : Ref) (v : Value) (throws : Bool) : M Unit := do
  setState g .done
  answer g (if throws then .error v else .ok v) true
  drain g bound

/-- Asks an asynchronous generator; gives a promise. -/
def request (v : Value) (how : Resumption) (argument : Value) : M Value := do
  let k ← Promise.plainCapability
  match v with
  | .object g =>
    match ← Heap.kindOf g with
    | .asyncGenerator state requests =>
      Heap.setKind g (.asyncGenerator state (requests ++ [⟨how, argument, k⟩]))
      drain g bound
    | _ => refuse k
  | _ => refuse k
  return k.promise
where
  refuse (k : Capability) : M Unit := do
    let e ← makeError .type "generator method called on incompatible type"
    discard (call k.reject .undefined #[e])

end Coroutine

end Playpen.Engine
